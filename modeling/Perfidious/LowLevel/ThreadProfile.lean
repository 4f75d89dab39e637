import Mathlib.Data.List.FinRange
import Perfidious.Sampler.WindowsRun
import Perfidious.Sampler.Monotone

/-! The low-level profile of the current thread (`windows/functions.c`), and how it compares with the
sampler that reads the same native cycle counter. -/
namespace Perfidious.Windows
open Library

/-- Indices below `MAX_HW_COUNTERS`. -/
abbrev CounterIndex := Fin 16

/-- `HARDWARE_COUNTER_DATA`. -/
structure HwCounter where
  type : ℤ
  value : UInt64

/-- `PERFORMANCE_DATA`. -/
structure ProfilingData extends PerformanceData where
  waitReasonBitMap : UInt64
  retryCount : UInt32
  hwCountersCount : UInt8
  hwCounters : CounterIndex → HwCounter

/-- What `perfidious_windows_thread_profile_read` returns and stores. -/
structure ProfileReply where
  error : UInt32
  data : ProfilingData

/-- What `perfidious_windows_thread_profile_enable` returns and stores. -/
structure EnableReply where
  error : UInt32
  handle : ℕ

/-- `struct perfidious_windows_thread_profile_obj`. -/
structure ThreadProfileObj where
  handle : Option ℕ
  hardwareCounterMask : UInt64
  cycleTimeOrigin : UInt64
  hardwareCounterOrigins : CounterIndex → UInt64

structure HardwareCounterSnapshot where
  index : ℤ
  type : ℤ
  value : ℤ

structure ThreadProfileSnapshot where
  contextSwitchCount : ℤ
  waitReasonBitmapHex : String
  cycleCount : ℤ
  readRetryCount : ℤ
  hardwareCounterCount : ℤ
  hardwareCounters : List (CounterIndex × HardwareCounterSnapshot)

def ERROR_WMI_ALREADY_ENABLED : UInt32 := 4206

def counterTooLarge (value : UInt64) : Error := ⟨.overflowException,0,
  [.text "Windows counter value ",.text (hex16 value),
    .text " is too large to represent as a PHP integer"]⟩

def profileClosed : Error := ⟨.closedException,0,[.text "Thread profile is closed"]⟩

def tooManyCounters : Error := ⟨.ioException,0,[.text "Windows returned too many hardware counters"]⟩

def maskOutOfRange : Error := ⟨.valueError,0,
  [.text "Perfidious\\Windows\\enable_current_thread_profiling(): Argument #1 ($hardwareCounterMask) ",
    .text "must be between 0 and ",.number 0xffff]⟩

/-- The exception of a failed `EnableThreadProfiling`. -/
def enableError (error : UInt32) : Error :=
  if error = ERROR_WMI_ALREADY_ENABLED then
    { windowsThrowError "EnableThreadProfiling" error with exceptionCe := .resourceBusyException }
  else windowsThrowError "EnableThreadProfiling" error

/-- `perfidious_windows_uint64_to_zend_long`. -/
def uint64ToZendLong (value : UInt64) : Except Error ℤ :=
  if value.toNat > zendLongMax then .error (counterTooLarge value) else .ok value.toNat

/-- `(mask & (((DWORD64) 1) << i)) != 0`. -/
def selected (mask : UInt64) (i : CounterIndex) : Bool := mask &&& 1 <<< i.val.toUInt64 != 0

/-- The properties of the object that `ThreadProfile::read` returns. -/
def snapshotOf (data : ProfilingData) (cycleTime : ℤ)
    (hardwareCounters : List (CounterIndex × HardwareCounterSnapshot)) : ThreadProfileSnapshot where
  contextSwitchCount := data.contextSwitchCount.toNat
  waitReasonBitmapHex := hex16 data.waitReasonBitMap
  cycleCount := cycleTime
  readRetryCount := data.retryCount.toNat
  hardwareCounterCount := data.hwCountersCount.toNat
  hardwareCounters

@[simp] theorem snapshotOf_hardwareCounters (data : ProfilingData) (cycleTime : ℤ)
    (hardwareCounters : List (CounterIndex × HardwareCounterSnapshot)) :
    (snapshotOf data cycleTime hardwareCounters).hardwareCounters = hardwareCounters := rfl

namespace ThreadProfileObj

/-- The first loop of `ThreadProfile::read` over the hardware counters. -/
def counterValues (obj : ThreadProfileObj) (data : ProfilingData) :
    List CounterIndex → (CounterIndex → ℤ) → Except Error (CounterIndex → ℤ)
  | [],values => .ok values
  | i::is,values =>
    if selected obj.hardwareCounterMask i then
      match uint64ToZendLong ((data.hwCounters i).value - obj.hardwareCounterOrigins i) with
      | .error e => .error e
      | .ok value => counterValues obj data is (Function.update values i value)
    else counterValues obj data is values

/-- `ThreadProfile::read` over what `hardware_counter_values`, which it does not initialise, holds
before it. -/
def readOver (obj : ThreadProfileObj) (hardwareCounterValues : CounterIndex → ℤ) (r : ProfileReply) :
    Except Error ThreadProfileSnapshot :=
  match obj.handle with
  | none => .error profileClosed
  | some _ =>
    if r.error ≠ 0 then .error (windowsThrowError "ReadThreadProfilingData" r.error)
    else if 16 < r.data.hwCountersCount then .error tooManyCounters
    else
      match uint64ToZendLong (r.data.cycleTime - obj.cycleTimeOrigin) with
      | .error e => .error e
      | .ok cycleTime =>
        match obj.counterValues r.data (List.finRange 16) hardwareCounterValues with
        | .error e => .error e
        | .ok values => .ok <| snapshotOf r.data cycleTime <|
            ((List.finRange 16).filter (selected obj.hardwareCounterMask)).map
              fun i => (i,⟨i.val,(r.data.hwCounters i).type,values i⟩)

/-- `ThreadProfile::read`, which writes the values that it reports (`readOver_eq_read`). -/
def read (obj : ThreadProfileObj) (r : ProfileReply) : Except Error ThreadProfileSnapshot :=
  obj.readOver (fun _ => 0) r

/-- `ThreadProfile::close`, with what `perfidious_windows_thread_profile_disable` returns. -/
def close (obj : ThreadProfileObj) (error : UInt32) : ThreadProfileObj × Except Error Unit :=
  match obj.handle with
  | none => (obj,.ok ())
  | some _ =>
    if error ≠ 0 then (obj,.error (windowsThrowError "DisableThreadProfiling" error))
    else ({ obj with handle := none },.ok ())

end ThreadProfileObj

/-- `enable_current_thread_profiling`. -/
def enableCurrentThreadProfiling (hardwareCounters : ℤ) (enabled : EnableReply)
    (initial : ProfileReply) : Except Error ThreadProfileObj :=
  if hardwareCounters < 0 ∨ 0xffff < hardwareCounters then .error maskOutOfRange
  else if enabled.error ≠ 0 then .error (enableError enabled.error)
  else if initial.error ≠ 0 then .error (windowsThrowError "ReadThreadProfilingData" initial.error)
  else
    let mask := hardwareCounters.toNat.toUInt64
    .ok ⟨some enabled.handle,mask,initial.data.cycleTime,
      fun i => if selected mask i then (initial.data.hwCounters i).value else 0⟩

theorem uint64ToZendLong_eq_ok {value : UInt64} (h : value.toNat ≤ zendLongMax) :
    uint64ToZendLong value = .ok value.toNat := if_neg (not_lt.mpr h)

namespace ThreadProfileObj

/-- The counter loop completes when every selected counter is a PHP integer. -/
theorem counterValues_total {obj : ThreadProfileObj} {data : ProfilingData}
    (h : ∀ i, selected obj.hardwareCounterMask i = true →
      ((data.hwCounters i).value - obj.hardwareCounterOrigins i).toNat ≤ zendLongMax)
    (is : List CounterIndex) (values : CounterIndex → ℤ) :
    ∃ values', obj.counterValues data is values = .ok values' := by
  induction is generalizing values with
  | nil => exact ⟨values,rfl⟩
  | cons i is ih =>
    unfold counterValues
    by_cases hi : selected obj.hardwareCounterMask i = true
    · rw [if_pos hi, uint64ToZendLong_eq_ok (h i hi)]
      exact ih _
    · rw [if_neg hi]
      exact ih _

/-- A read whose counters are all PHP integers reports the cycles since the origin, modulo `2^64`. -/
theorem read_cycles {obj : ThreadProfileObj} {r : ProfileReply} (hopen : obj.handle ≠ none)
    (hr : r.error = 0) (hcount : r.data.hwCountersCount ≤ 16)
    (hcounters : ∀ i, selected obj.hardwareCounterMask i = true →
      ((r.data.hwCounters i).value - obj.hardwareCounterOrigins i).toNat ≤ zendLongMax)
    (hcycles : (r.data.cycleTime - obj.cycleTimeOrigin).toNat ≤ zendLongMax) :
    ∃ snapshot, obj.read r = .ok snapshot ∧
      snapshot.cycleCount = (r.data.cycleTime - obj.cycleTimeOrigin).toNat := by
  obtain ⟨handle,hhandle⟩ := Option.ne_none_iff_exists'.mp hopen
  obtain ⟨values,hvalues⟩ := counterValues_total hcounters (List.finRange 16) (fun _ => 0)
  unfold read readOver
  simp only [hhandle]
  rw [if_neg (not_not_intro hr), if_neg (UInt8.not_lt.mpr hcount), uint64ToZendLong_eq_ok hcycles]
  simp only [hvalues]
  exact ⟨_,rfl,rfl⟩

end ThreadProfileObj

theorem enableCurrentThreadProfiling_ok {hardwareCounters : ℤ} {enabled : EnableReply}
    {initial : ProfileReply} {obj : ThreadProfileObj}
    (h : enableCurrentThreadProfiling hardwareCounters enabled initial = .ok obj) :
    obj.handle ≠ none ∧ obj.cycleTimeOrigin = initial.data.cycleTime := by
  unfold enableCurrentThreadProfiling at h
  split_ifs at h
  cases h
  exact ⟨Option.some_ne_none _,rfl⟩

/-- A thread profile that was enabled at the cycle count `o` and is read at `c`. The native calls of
the read succeed, and the hardware counters that were asked for, if any, are PHP integers. -/
structure ProfileCycles (o c : UInt64) where
  hardwareCounters : ℤ
  enabled : EnableReply
  initial : ProfileReply
  reply : ProfileReply
  obj : ThreadProfileObj
  opened : enableCurrentThreadProfiling hardwareCounters enabled initial = .ok obj
  origin : initial.data.cycleTime = o
  current : reply.data.cycleTime = c
  readable : reply.error = 0
  count : reply.data.hwCountersCount ≤ 16
  counters : ∀ i, selected obj.hardwareCounterMask i = true →
    ((reply.data.hwCounters i).value - obj.hardwareCounterOrigins i).toNat ≤ zendLongMax

def ProfileCycles.read {o c : UInt64} (x : ProfileCycles o c) : Except Error ThreadProfileSnapshot :=
  x.obj.read x.reply

/-- A current-thread sampler with the metric `CpuCycles` that was opened at the cycle count `o` and,
after any other calls, is read at `c`. The native calls of the read succeed, the clock did not go back,
and its other metrics, if any, did not go back either and are PHP integers. -/
structure SamplerCycles (o c : UInt64) where
  metrics : UInt32
  metricOrder : List MetricId
  threadId : UInt32
  identity : ℕ
  openReplies : Replies
  openNow : UInt64
  ops : List (SamplerOp Replies)
  replies : Replies
  now : UInt64
  obj : SamplerObj PlatformSampler
  sampler : PlatformSampler
  snapshot : Snapshot
  requested : requests metrics MetricId.cpuCycles.mask = true
  opened : samplerOpen platformSamplerRead (opened metrics .currentThread threadId) identity metrics
    metricOrder openReplies openNow = .ok obj
  unclosed : (final (SamplerObj.step platformSamplerRead) obj ops).sampler = some sampler
  origin : openReplies.profile.cycleTime = o
  current : replies.profile.cycleTime = c
  published : (platformSamplerRead sampler replies).2.published = some snapshot
  clock : openNow ≤ now
  others : ∀ m, m ≠ .cpuCycles → requests metrics m.mask = true →
    obj.origin m ≤ snapshot m ∧ (snapshot m - obj.origin m).toNat ≤ zendLongMax

/-- `Sampler::read` in the end. -/
def SamplerCycles.read {o c : UInt64} (x : SamplerCycles o c) : Except Error SampleObj :=
  ((final (SamplerObj.step platformSamplerRead) x.obj x.ops).read platformSamplerRead
    x.replies x.now).2

/-- A successful read of a thread sampler publishes the native cycle count. -/
theorem published_cycles {s : PlatformSampler} (hs : Sound s) (hscope : s.scope = .currentThread)
    (hreq : requests s.metrics MetricId.cpuCycles.mask = true) {r : Replies} {x : Snapshot}
    (h : (platformSamplerRead s r).2.published = some x) : x .cpuCycles = r.profile.cycleTime := by
  obtain ⟨hok,hx⟩ := ReadOutcome.published_eq_some_iff.mp h
  have hlevels := congrFun (read_published hs hok) .cpuCycles
  rw [hx, levels, (read_kept s r).1, if_pos hreq] at hlevels
  change (x .cpuCycles).toNat = sourceCycles _ r at hlevels
  unfold sourceCycles at hlevels
  rw [(read_kept s r).2, hscope] at hlevels
  exact UInt64.toNat_inj.mp hlevels

/-- Both readings of a thread sampler as far as its cycles go. -/
theorem SamplerCycles.read_eq {o c : UInt64} (x : SamplerCycles o c) :
    ∃ obj : SamplerObj PlatformSampler, obj.origin .cpuCycles = o ∧ x.snapshot .cpuCycles = c ∧
      requests obj.metrics MetricId.cpuCycles.mask = true ∧
      (∀ m, m ≠ .cpuCycles → requests obj.metrics m.mask = true →
        ∃ value, obj.difference x.snapshot m = .ok value) ∧
      x.read = (collect obj.metrics (obj.difference x.snapshot) MetricId.all (fun _ => 0)).map
        fun values => ⟨obj.identity,values,x.now - obj.timeOriginNs,obj.metrics⟩ := by
  obtain ⟨hfirst,hobj⟩ := samplerOpen_ok x.opened
  have hsound := opened_sound x.metrics .currentThread x.threadId
  have horigin : x.obj.origin .cpuCycles = o :=
    (published_cycles hsound rfl x.requested hfirst).trans x.origin
  have hmetrics : x.obj.metrics = x.metrics := by rw [hobj]
  have htime : x.obj.timeOriginNs = x.openNow := by rw [hobj]
  have hopened : ∀ s, x.obj.sampler = some s →
      Sound s ∧ s.scope = .currentThread ∧ s.metrics = x.metrics := by
    intro s hs
    rw [hobj] at hs
    cases hs
    exact ⟨read_sound hsound _,(read_kept _ _).2,(read_kept _ _).1⟩
  -- What the calls in between keep of the backend's sampler.
  obtain ⟨sampler,hfinal,hkept⟩ := SamplerObj.final_kept
    (J := fun s : PlatformSampler => Sound s ∧ s.scope = .currentThread ∧ s.metrics = x.metrics)
    (fun s r hs => ⟨read_sound hs.1 r,(read_kept s r).2.trans hs.2.1,(read_kept s r).1.trans hs.2.2⟩)
    hopened x.ops
  have hsampler := x.unclosed
  rw [hfinal] at hsampler
  obtain ⟨hs,hscope,hm⟩ := hkept x.sampler hsampler
  refine ⟨{ x.obj with sampler },horigin,?_,?_,?_,?_⟩
  · exact (published_cycles hs hscope (hm ▸ x.requested) x.published).trans x.current
  · change requests x.obj.metrics _ = true
    rw [hmetrics]
    exact x.requested
  · intro m hne hreq
    obtain ⟨hle,hfits⟩ := x.others m hne (hmetrics ▸ hreq)
    exact ⟨_,SamplerObj.difference_eq_ok hle hfits⟩
  · unfold read
    rw [hfinal]
    exact SamplerObj.read_native_ok hsampler x.published (htime ▸ x.clock)

/-- The sampler reports the difference of its cycle counts if it is a PHP integer, and takes a smaller
count for one that went back. -/
theorem SamplerCycles.read_cases {o c : UInt64} (x : SamplerCycles o c) :
    (o ≤ c → (c - o).toNat ≤ zendLongMax →
      ∃ sample, x.read = .ok sample ∧ sample.value .cpuCycles = .ok (c - o).toNat) ∧
    (c < o → x.read = .error (counterBackwards .cpuCycles)) := by
  obtain ⟨obj,horigin,hcurrent,hreq,hothers,hread⟩ := x.read_eq
  rw [hread]
  constructor
  · intro hle hfits
    have hcycles : obj.difference x.snapshot .cpuCycles = .ok (c - o) := by
      have hok := @SamplerObj.difference_eq_ok _ obj x.snapshot .cpuCycles
      rw [horigin, hcurrent] at hok
      exact hok hle hfits
    obtain ⟨values,hvalues⟩ : ∃ values,
        collect obj.metrics (obj.difference x.snapshot) MetricId.all (fun _ => 0) = .ok values := by
      apply collect_total
      intro m hm
      by_cases hne : m = .cpuCycles
      · exact ⟨_,hne ▸ hcycles⟩
      · exact hothers m hne hm
    have hvalue := (collect_ok MetricId.nodup_all hvalues .cpuCycles).1 ⟨MetricId.mem_all _,hreq⟩
    have heq : values .cpuCycles = c - o := Except.ok.inj (hvalue.symm.trans hcycles)
    refine ⟨_,by rw [hvalues]; rfl,?_⟩
    change sampleValue obj.metrics values .cpuCycles = _
    rw [sampleValue, if_pos hreq, heq, uint64ToLong_eq_ok hfits]
  · intro hback
    have hcycles : obj.difference x.snapshot .cpuCycles = .error (counterBackwards .cpuCycles) := by
      unfold SamplerObj.difference
      rw [horigin, hcurrent, if_pos hback]
    cases hc : collect obj.metrics (obj.difference x.snapshot) MetricId.all (fun _ => 0) with
    | ok values =>
      have hvalue := (collect_ok MetricId.nodup_all hc .cpuCycles).1 ⟨MetricId.mem_all _,hreq⟩
      cases hvalue.symm.trans hcycles
    | error e =>
      obtain ⟨m,hm,hd⟩ := collect_error hc
      by_cases hne : m = .cpuCycles
      · rw [hne] at hd
        cases Except.error.inj (hd.symm.trans hcycles)
        rfl
      · obtain ⟨value,hv⟩ := hothers m hne hm
        cases hv.symm.trans hd

/-- A thread profile reports the cycles since it was enabled, whatever its origin. -/
theorem ProfileCycles.read_cycles {o c : UInt64} (x : ProfileCycles o c)
    (hfits : (c - o).toNat ≤ zendLongMax) :
    ∃ snapshot, x.read = .ok snapshot ∧ snapshot.cycleCount = (c - o).toNat := by
  obtain ⟨hopen,horigin⟩ := enableCurrentThreadProfiling_ok x.opened
  rw [x.origin] at horigin
  have hread := ThreadProfileObj.read_cycles hopen x.readable x.count x.counters
  rw [horigin, x.current] at hread
  exact hread hfits

/-- A count that advanced by `d` since the origin, modulo `2^64`. -/
theorem toNat_advance_sub (o : UInt64) {d : ℕ} (hd : d < 2^63) :
    (o + UInt64.ofNat d - o).toNat = d := by
  rw [UInt64.add_comm, UInt64.add_sub_cancel]
  exact UInt64.toNat_ofNat_of_lt' (hd.trans (by decide))

theorem advance_lt_iff (o : UInt64) {d : ℕ} (hd : d < 2^63) :
    o + UInt64.ofNat d < o ↔ 2^64 ≤ o.toNat + d := by
  have ho := o.toNat_lt
  rw [UInt64.lt_iff_toNat_lt, UInt64.toNat_add, UInt64.toNat_ofNat_of_lt' (hd.trans (by decide))]
  omega

/-- The sampler and the profile agree on the cycles that passed exactly when the native count did not
wrap since profiling started. When it did, the profile still reports them and the sampler throws. -/
theorem cycle_paths_agree_iff (o : UInt64) (d : ℕ) (hd : d < 2^63)
    (x : SamplerCycles o (o + UInt64.ofNat d)) (y : ProfileCycles o (o + UInt64.ofNat d)) :
    ((∃ sample, x.read = .ok sample ∧ sample.value .cpuCycles = .ok d) ∧
      ∃ snapshot, y.read = .ok snapshot ∧ snapshot.cycleCount = d) ↔ o.toNat + d < 2^64 := by
  have hfits : (o + UInt64.ofNat d - o).toNat ≤ zendLongMax := by
    rw [toNat_advance_sub o hd]
    exact Nat.le_pred_of_lt hd
  have hprofile := y.read_cycles hfits
  have hsampler := x.read_cases
  rw [toNat_advance_sub o hd] at hprofile hsampler
  constructor
  · rintro ⟨⟨sample,hsample,-⟩,-⟩
    by_contra hwrap
    rw [hsampler.2 ((advance_lt_iff o hd).mpr (not_lt.mp hwrap))] at hsample
    cases hsample
  · intro hno
    refine ⟨hsampler.1 ?_ (Nat.le_pred_of_lt hd),hprofile⟩
    apply UInt64.not_lt.mp
    intro hback
    have := (advance_lt_iff o hd).mp hback
    omega

/-- Replies to a thread sampler, all native calls succeeding. -/
def cycleReplies (cycles : UInt64) : Replies where
  currentThreadId := 1
  waitResult := waitTimeout
  waitError := 0
  profileError := 0
  profile := ⟨0,cycles⟩
  times := ⟨true,0,⟨⟨0,0⟩,⟨0,0⟩⟩⟩
  memory := ⟨true,0,0⟩
  processCycles := ⟨true,0,0⟩

def profileReply (cycles : UInt64) : ProfileReply :=
  ⟨0,⟨⟨0,cycles⟩,0,0,0,fun _ => ⟨0,0⟩⟩⟩

/-- A sampler with no other metric, read twice. -/
def plainSamplerCycles (o c : UInt64) : SamplerCycles o c where
  metrics := MetricId.cpuCycles.mask
  metricOrder := [.cpuCycles]
  threadId := 1
  identity := 0
  openReplies := cycleReplies o
  openNow := 0
  ops := []
  replies := cycleReplies c
  now := 1
  obj := ⟨some (opened MetricId.cpuCycles.mask .currentThread 1),0,
    Function.update (fun _ => 0) .cpuCycles o,0,MetricId.cpuCycles.mask,[.cpuCycles]⟩
  sampler := opened MetricId.cpuCycles.mask .currentThread 1
  snapshot := Function.update (fun _ => 0) .cpuCycles c
  requested := by decide
  opened := rfl
  unclosed := rfl
  origin := rfl
  current := rfl
  published := rfl
  clock := by decide
  others := by
    intro m hne hreq
    cases m with
    | cpuCycles => exact absurd rfl hne
    | cpuTime | pageFaults | contextSwitches | instructions => exact absurd hreq (by decide)

/-- A profile without hardware counters, read once. -/
def plainProfileCycles (o c : UInt64) : ProfileCycles o c where
  hardwareCounters := 0
  enabled := ⟨0,0⟩
  initial := profileReply o
  reply := profileReply c
  obj := ⟨some 0,0,o,fun i => if selected 0 i then 0 else 0⟩
  opened := rfl
  origin := rfl
  current := rfl
  readable := rfl
  count := show (0 : UInt8) ≤ 16 by decide
  counters := by
    intro i hi
    have hnone : ∀ i, selected 0 i = false := by decide
    rw [hnone i] at hi
    cases hi

theorem cycle_paths_agree_plain :
    (∃ sample, (plainSamplerCycles 7 (7 + UInt64.ofNat 5)).read = .ok sample ∧
      sample.value .cpuCycles = .ok 5) ∧
    ∃ snapshot, (plainProfileCycles 7 (7 + UInt64.ofNat 5)).read = .ok snapshot ∧
      snapshot.cycleCount = 5 :=
  (cycle_paths_agree_iff 7 5 (by decide) (plainSamplerCycles 7 _) (plainProfileCycles 7 _)).mpr
    (by decide)

/-- One cycle after the largest origin, the profile reports one cycle and the sampler throws. -/
theorem cycle_paths_differ :
    uint64Max + UInt64.ofNat 1 = 0 ∧
    (∃ snapshot, (plainProfileCycles uint64Max 0).read = .ok snapshot ∧ snapshot.cycleCount = 1) ∧
    (plainSamplerCycles uint64Max 0).read = .error (counterBackwards .cpuCycles) ∧
    ¬ ((∃ sample, (plainSamplerCycles uint64Max 0).read = .ok sample ∧
        sample.value .cpuCycles = .ok 1) ∧
      ∃ snapshot, (plainProfileCycles uint64Max 0).read = .ok snapshot ∧ snapshot.cycleCount = 1) := by
  have hsampler : (plainSamplerCycles uint64Max 0).read = .error (counterBackwards .cpuCycles) :=
    (plainSamplerCycles uint64Max 0).read_cases.2 (by decide)
  refine ⟨by decide,(plainProfileCycles uint64Max 0).read_cycles (by decide),hsampler,?_⟩
  rintro ⟨⟨sample,hsample,-⟩,-⟩
  rw [hsampler] at hsample
  cases hsample

end Perfidious.Windows
