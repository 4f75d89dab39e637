import Perfidious.LowLevel.ProfileSnapshot
import Perfidious.LowLevel.Between

/-! The low-level snapshots of the current process and thread (`windows/functions.c`), and how they
compare with a sampler that gets the same native answers. -/
namespace Perfidious.Windows
open Library

/-- The properties of a result object, in the order in which they are set. -/
abbrev Properties := List (String × ℤ)

/-- The times that `GetProcessTimes` and `GetThreadTimes` fill in and the extension reads. -/
structure NativeTimes where
  creationTime : FileTime
  kernelTime : FileTime
  userTime : FileTime

/-- The counters of `PROCESS_MEMORY_COUNTERS_EX`. -/
structure MemoryCounters where
  pageFaultCount : UInt32
  peakWorkingSetSize : UInt64
  workingSetSize : UInt64
  quotaPeakPagedPoolUsage : UInt64
  quotaPagedPoolUsage : UInt64
  quotaPeakNonPagedPoolUsage : UInt64
  quotaNonPagedPoolUsage : UInt64
  pagefileUsage : UInt64
  peakPagefileUsage : UInt64
  privateUsage : UInt64

/-- The checked conversions of all values, before any property is set. -/
def convertFields : List (String × UInt64) → Except Error Properties
  | [] => .ok []
  | (name,value)::fields =>
    match uint64ToZendLong value with
    | .error e => .error e
    | .ok result =>
      match convertFields fields with
      | .error e => .error e
      | .ok properties => .ok ((name,result)::properties)

/-- A native query whose answer becomes the properties of an object. -/
def querySnapshot {α : Type} (operation : String) (fields : α → List (String × UInt64)) (r : Reply α) :
    Except Error Properties :=
  if !r.success then .error (windowsThrowError operation r.lastError) else convertFields (fields r.value)

def timesFields (times : NativeTimes) : List (String × UInt64) :=
  [("creationTimeFiletime",filetimeToUint64 times.creationTime),
    ("kernelTime100ns",filetimeToUint64 times.kernelTime),
    ("userTime100ns",filetimeToUint64 times.userTime)]

def memoryFields (memory : MemoryCounters) : List (String × UInt64) :=
  [("pageFaultCount",memory.pageFaultCount.toUInt64),("peakWorkingSetSize",memory.peakWorkingSetSize),
    ("workingSetSize",memory.workingSetSize),("quotaPeakPagedPoolUsage",memory.quotaPeakPagedPoolUsage),
    ("quotaPagedPoolUsage",memory.quotaPagedPoolUsage),
    ("quotaPeakNonPagedPoolUsage",memory.quotaPeakNonPagedPoolUsage),
    ("quotaNonPagedPoolUsage",memory.quotaNonPagedPoolUsage),("pagefileUsage",memory.pagefileUsage),
    ("peakPagefileUsage",memory.peakPagefileUsage),("privateUsage",memory.privateUsage)]

/-- `Perfidious\Windows\get_current_process_times`. -/
def getCurrentProcessTimes : Reply NativeTimes → Except Error Properties :=
  querySnapshot "GetProcessTimes" timesFields

/-- `Perfidious\Windows\get_current_thread_times`. -/
def getCurrentThreadTimes : Reply NativeTimes → Except Error Properties :=
  querySnapshot "GetThreadTimes" timesFields

/-- The low-level function that reads the times of a sampler's scope. -/
def getCurrentTimes : ScopeId → Reply NativeTimes → Except Error Properties
  | .currentProcess => getCurrentProcessTimes
  | .currentThread => getCurrentThreadTimes

/-- `Perfidious\Windows\get_current_process_memory_info`. -/
def getCurrentProcessMemoryInfo : Reply MemoryCounters → Except Error Properties :=
  querySnapshot "GetProcessMemoryInfo" memoryFields

/-- A native query of a cycle time. -/
def queryCycleTime (operation : String) (r : Reply UInt64) : Except Error ℤ :=
  if !r.success then .error (windowsThrowError operation r.lastError) else uint64ToZendLong r.value

/-- `Perfidious\Windows\query_current_process_cycle_time`. -/
def queryCurrentProcessCycleTime : Reply UInt64 → Except Error ℤ := queryCycleTime "QueryProcessCycleTime"

/-- `Perfidious\Windows\query_current_thread_cycle_time`. -/
def queryCurrentThreadCycleTime : Reply UInt64 → Except Error ℤ := queryCycleTime "QueryThreadCycleTime"

/-- A native value that is no PHP integer. -/
def beyondLong (field : String × UInt64) : Bool := zendLongMax < field.2.toNat

/-- An object has all its properties, or there is none and the error names the first value that is no
PHP integer. -/
theorem convertFields_eq (fields : List (String × UInt64)) :
    convertFields fields =
      match fields.find? beyondLong with
      | some field => .error (counterTooLarge field.2)
      | none => .ok (fields.map fun field => (field.1,(field.2.toNat : ℤ))) := by
  induction fields with
  | nil => rfl
  | cons field fields ih =>
    obtain ⟨name,value⟩ := field
    unfold convertFields
    obtain ⟨hle,hok⟩ | ⟨hlt,herror⟩ := uint64ToZendLong_cases value
    · have hfits : beyondLong (name,value) = false := decide_eq_false (not_lt.mpr hle)
      rw [hok, ih, List.find?_cons, hfits]
      cases fields.find? beyondLong with
      | some field => rfl
      | none => rfl
    · have hbeyond : beyondLong (name,value) = true := decide_eq_true hlt
      rw [herror, List.find?_cons, hbeyond]

/-- CPU time that a sampler can express in nanoseconds is a PHP integer in units of 100 ns. -/
theorem times_fit {r : Replies} (h : sourceTime r < 2^64) :
    (filetimeToUint64 r.times.value.1).toNat ≤ zendLongMax ∧
    (filetimeToUint64 r.times.value.2).toNat ≤ zendLongMax := by
  unfold sourceTime at h
  unfold zendLongMax
  omega

/-- A published counter of page faults stands at the native count, modulo `2^32`. -/
theorem widen_mod {c c' : WideCounter} (h : c.Aligned) {count : UInt32} (hw : widen c count = some c') :
    c'.value.toNat % 2^32 = count.toNat := by
  have hprevious : c'.previous = count := by
    unfold widen at hw
    split_ifs at hw <;> cases hw <;> rfl
  obtain ⟨haligned,-⟩ := widen_eq_some h hw
  have hlt := count.toNat_lt
  obtain ⟨k,hk⟩ := haligned
  rw [WideCounter.Aligned.toNat_value ⟨k,hk⟩]
  unfold WideCounter.toWide Wide.value
  rw [hprevious]
  dsimp only
  omega

/-- The native queries of a metric that was read have succeeded. -/
theorem read_queries {s : PlatformSampler} {r : Replies}
    (hok : (platformSamplerRead s r).2.succeeded = true) :
    (requests s.metrics MetricId.cpuTime.mask = true → r.times.success = true) ∧
    (requests s.metrics MetricId.pageFaults.mask = true → r.memory.success = true) ∧
    (requests s.metrics MetricId.cpuCycles.mask = true → s.scope = .currentProcess →
      r.processCycles.success = true) := by
  have hcase := readCase s r
  generalize platformSamplerRead s r = out at hcase hok
  cases hcase with
  | @done timed c faulted w switched sn reached passed times observed widened cycled =>
    refine ⟨fun hreq => ?_,fun hreq => ?_,fun hreq hscope => ?_⟩
    · unfold readCpuTime at times
      rw [if_pos hreq] at times
      by_contra hfail
      rw [Bool.not_eq_true] at hfail
      simp [hfail] at times
    · obtain ⟨-,hmemory,-⟩ | ⟨hnot,-⟩ := readPageFaults_ok observed
      · exact hmemory
      · rw [hreq] at hnot
        cases hnot
    · unfold readCpuCycles at cycled
      rw [if_pos hreq, hscope] at cycled
      by_contra hfail
      rw [Bool.not_eq_true] at hfail
      simp [hfail] at cycled
  | _ => cases hok

/-- The platform sampler of a sampler that has been read any number of times. -/
def readSampler (metrics : UInt32) (scope : ScopeId) (threadId : UInt32) (rs : List Replies) :
    PlatformSampler :=
  final platformSamplerRead (opened metrics scope threadId) rs

theorem readSampler_kept (metrics : UInt32) (scope : ScopeId) (threadId : UInt32) (rs : List Replies) :
    Sound (readSampler metrics scope threadId rs) ∧
    (readSampler metrics scope threadId rs).metrics = metrics ∧
    (readSampler metrics scope threadId rs).scope = scope := by
  apply final_invariant_all platformSamplerRead
    (I := fun s => Sound s ∧ s.metrics = metrics ∧ s.scope = scope)
  · intro s r h
    obtain ⟨hmetrics,hscope⟩ := read_kept s r
    exact ⟨read_sound h.1 r,hmetrics.trans h.2.1,hscope.trans h.2.2⟩
  · exact ⟨opened_sound metrics scope threadId,rfl,rfl⟩

theorem published_faults {s : PlatformSampler} (hs : Sound s) {r : Replies} {x : Snapshot}
    (hx : (platformSamplerRead s r).2.published = some x)
    (hreq : requests s.metrics MetricId.pageFaults.mask = true) :
    (x .pageFaults).toNat % 2^32 = r.memory.value.toNat := by
  obtain ⟨hok,rfl⟩ := ReadOutcome.published_eq_some_iff.mp hx
  obtain ⟨-,-,-,he⟩ | ⟨-,-,c,hw,-,hvalue⟩ | ⟨-,-,-,hnone⟩ := read_pageFaults s r
  · simp [ReadOutcome.succeeded,he] at hok
  · rw [hvalue hok]
    exact widen_mod hs.1 hw
  · rw [hnone hok] at hreq
    cases hreq

theorem pageFaults_fit (count : UInt32) : beyondLong ("pageFaultCount",count.toUInt64) = false := by
  have hlt := count.toNat_lt
  have hle : count.toNat ≤ zendLongMax := by
    unfold zendLongMax
    omega
  refine decide_eq_false (not_lt.mpr ?_)
  rw [UInt32.toNat_toUInt64]
  exact hle

theorem convert_fits {value : UInt64} (hle : value.toNat ≤ zendLongMax) :
    uint64ToZendLong value = .ok value.toNat := by
  obtain ⟨-,hok⟩ | ⟨hlt,-⟩ := uint64ToZendLong_cases value
  · exact hok
  · exact absurd hle (not_le.mpr hlt)

/-- Of times that fit, only the creation time may be too large. -/
theorem convert_times (creation : UInt64) {kernel user : UInt64} (hkernel : kernel.toNat ≤ zendLongMax)
    (huser : user.toNat ≤ zendLongMax) :
    convertFields [("creationTimeFiletime",creation),("kernelTime100ns",kernel),("userTime100ns",user)] =
      if zendLongMax < creation.toNat then .error (counterTooLarge creation)
      else .ok [("creationTimeFiletime",creation.toNat),("kernelTime100ns",kernel.toNat),
        ("userTime100ns",user.toNat)] := by
  obtain ⟨hle,hok⟩ | ⟨hlt,herror⟩ := uint64ToZendLong_cases creation
  · rw [if_neg (not_lt.mpr hle)]
    simp only [convertFields, hok, convert_fits hkernel, convert_fits huser]
  · rw [if_pos hlt]
    simp only [convertFields, herror]

/-- Times whose sum a sampler can express in nanoseconds. -/
theorem times_agree {r : Replies} (hsuccess : r.times.success = true) (hlt : sourceTime r < 2^64)
    (scope : ScopeId) (creation : FileTime) :
    getCurrentTimes scope { r.times with value := ⟨creation,r.times.value.1,r.times.value.2⟩ } =
      if zendLongMax < (filetimeToUint64 creation).toNat then
        .error (counterTooLarge (filetimeToUint64 creation))
      else .ok [("creationTimeFiletime",(filetimeToUint64 creation).toNat),
        ("kernelTime100ns",(filetimeToUint64 r.times.value.1).toNat),
        ("userTime100ns",(filetimeToUint64 r.times.value.2).toNat)] := by
  obtain ⟨hkernel,huser⟩ := times_fit hlt
  rw [← convert_times _ hkernel huser]
  cases scope with
  | currentProcess | currentThread =>
    simp only [getCurrentTimes, getCurrentProcessTimes, getCurrentThreadTimes, querySnapshot, hsuccess,
      timesFields, Bool.not_true, Bool.false_eq_true, if_false]

theorem info_agree {r : Reply MemoryCounters} (hsuccess : r.success = true) :
    match (memoryFields r.value).tail.find? beyondLong with
    | some field => getCurrentProcessMemoryInfo r = .error (counterTooLarge field.2)
    | none => ∃ sizes, getCurrentProcessMemoryInfo r =
        .ok (("pageFaultCount",(r.value.pageFaultCount.toNat : ℤ))::sizes) := by
  have hfind : (memoryFields r.value).find? beyondLong = (memoryFields r.value).tail.find? beyondLong := by
    rw [memoryFields, List.find?_cons, pageFaults_fit]
    rfl
  unfold getCurrentProcessMemoryInfo querySnapshot
  rw [hsuccess, convertFields_eq, hfind]
  split
  next field hfield => rfl
  next hnone => exact ⟨_,congrArg Except.ok (by rw [memoryFields, List.map_cons, UInt32.toNat_toUInt64])⟩

theorem cycles_agree {r : Reply UInt64} (hsuccess : r.success = true) :
    queryCurrentProcessCycleTime r =
      if zendLongMax < r.value.toNat then .error (counterTooLarge r.value) else .ok r.value.toNat := by
  unfold queryCurrentProcessCycleTime queryCycleTime
  rw [hsuccess]
  obtain ⟨hle,hok⟩ | ⟨hlt,herror⟩ := uint64ToZendLong_cases r.value
  · rw [if_neg (not_lt.mpr hle), ← hok]
    rfl
  · rw [if_pos hlt, ← herror]
    rfl

/-- The sampler and the low-level snapshots agree. Whatever a sampler has read before, when a read
succeeds, then the low-level functions that get the same native answers return times that add up to the
CPU time read, the page faults read less whole periods of `2^32`, and for a process the cycles read; they
only throw for a creation time, a memory size or a cycle count that is no PHP integer. -/
theorem snapshots_agree (metrics : UInt32) (scope : ScopeId) (threadId : UInt32) (rs : List Replies)
    (r : Replies) {x : Snapshot}
    (hx : (platformSamplerRead (readSampler metrics scope threadId rs) r).2.published = some x) :
    (requests metrics MetricId.cpuTime.mask = true → ∀ creation,
      let times := getCurrentTimes scope
        { r.times with value := ⟨creation,r.times.value.1,r.times.value.2⟩ }
      if zendLongMax < (filetimeToUint64 creation).toNat then
        times = .error (counterTooLarge (filetimeToUint64 creation))
      else ∃ kernel user : ℕ, (x .cpuTime).toNat = (kernel + user)*100 ∧
        times = .ok [("creationTimeFiletime",(filetimeToUint64 creation).toNat),
          ("kernelTime100ns",kernel),("userTime100ns",user)]) ∧
    (requests metrics MetricId.pageFaults.mask = true → ∀ memory : MemoryCounters,
      memory.pageFaultCount = r.memory.value →
      let info := getCurrentProcessMemoryInfo { r.memory with value := memory }
      match (memoryFields memory).tail.find? beyondLong with
      | some field => info = .error (counterTooLarge field.2)
      | none => ∃ sizes, info = .ok (("pageFaultCount",((x .pageFaults).toNat % 2^32 : ℕ))::sizes)) ∧
    (requests metrics MetricId.cpuCycles.mask = true → scope = .currentProcess →
      queryCurrentProcessCycleTime r.processCycles =
        if zendLongMax < (x .cpuCycles).toNat then .error (counterTooLarge (x .cpuCycles))
        else .ok (x .cpuCycles).toNat) := by
  obtain ⟨hsound,hmetrics,hscope⟩ := readSampler_kept metrics scope threadId rs
  have hok := (ReadOutcome.published_eq_some_iff.mp hx).1
  obtain ⟨htimes,hmemory,hcycles⟩ := read_queries hok
  obtain ⟨htime,hcycle⟩ := published_source hsound hx
  rw [hmetrics] at htimes hmemory hcycles htime hcycle
  refine ⟨fun hreq creation => ?_,fun hreq memory hcount => ?_,fun hreq hprocess => ?_⟩
  · have hlt : sourceTime r < 2^64 := by
      rw [← htime hreq]
      exact (x .cpuTime).toNat_lt
    have htimes := times_agree (htimes hreq) hlt scope creation
    dsimp only at htimes ⊢
    rw [htimes]
    by_cases hlarge : zendLongMax < (filetimeToUint64 creation).toNat
    · rw [if_pos hlarge, if_pos hlarge]
    · rw [if_neg hlarge, if_neg hlarge]
      exact ⟨_,_,htime hreq,rfl⟩
  · have hfaults := published_faults hsound hx (by rw [hmetrics]; exact hreq)
    have hinfo := info_agree (r := { r.memory with value := memory }) (hmemory hreq)
    rw [hfaults, ← hcount]
    exact hinfo
  · have hprocess := hscope.trans hprocess
    have hvalue : r.processCycles.value = x .cpuCycles := by
      apply UInt64.toNat_inj.mp
      rw [hcycle hreq, sourceCycles, hprocess]
    rw [← hvalue]
    exact cycles_agree (hcycles hreq hprocess)

/-- The answers to a process that has faulted the given number of times. -/
def faultReplies (count : UInt32) : Replies :=
  { (plainCall 0 0 7).replies with memory := ⟨true,0,count⟩ }

def faultMemory (count : UInt32) : MemoryCounters := ⟨count,9,8,7,6,5,4,3,2,1⟩

theorem snapshots_agree_wrap :
    ∃ x, (platformSamplerRead (readSampler MetricId.pageFaults.mask .currentProcess 0
        [faultReplies 4294967290]) (faultReplies 10)).2.published = some x ∧
      (x .pageFaults).toNat = 4294967306 ∧
      ∃ sizes, getCurrentProcessMemoryInfo ⟨true,0,faultMemory 10⟩ = .ok (("pageFaultCount",10)::sizes) := by
  have hpublished : (platformSamplerRead (readSampler MetricId.pageFaults.mask .currentProcess 0
      [faultReplies 4294967290]) (faultReplies 10)).2.published.map (· .pageFaults) =
        some 4294967306 := by decide
  obtain ⟨x,hx,hvalue⟩ := Option.map_eq_some_iff.mp hpublished
  have hinfo := (snapshots_agree MetricId.pageFaults.mask .currentProcess 0 [faultReplies 4294967290]
    (faultReplies 10) hx).2.1 (by decide) (faultMemory 10) rfl
  rw [hvalue] at hinfo
  exact ⟨x,hx,by rw [hvalue]; rfl,hinfo⟩

end Perfidious.Windows
