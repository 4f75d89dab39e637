import Perfidious.Sampler.Darwin

/-! Mach ticks and CPU time on Darwin: the low-level resource usage of the process
(`darwin/functions.c`), and the time that the sampler makes of the same native readings. -/
namespace Perfidious.Darwin
open Library

/-- `Perfidious\Darwin\ProcessResourceUsage`. -/
structure ProcessResourceUsage where
  userTimeNs : ℤ
  systemTimeNs : ℤ
  minorPageFaultCount : ℤ
  majorPageFaultCount : ℤ
  voluntaryContextSwitchCount : ℤ
  involuntaryContextSwitchCount : ℤ
  instructionCount : ℤ
  cycleCount : ℤ
  deriving DecidableEq, Repr

def valueTooLarge (fieldName : String) (value : UInt64) : Error := ⟨.overflowException,0,
  [.text "Darwin ",.text fieldName,.text " value ",.text (hex16 value),
    .text " is too large to represent as a PHP integer"]⟩

/-- `perfidious_darwin_uint64_to_zend_long`. -/
def uint64ToZendLong (fieldName : String) (value : UInt64) : Except Error ℤ :=
  if value.toNat > zendLongMax then .error (valueTooLarge fieldName value) else .ok value.toNat

/-- `perfidious_darwin_get_current_process_resource_usage`. -/
def getCurrentProcessResourceUsage (host : Host) (processUsage : Reply RusageInfo)
    (basicUsage : Reply Rusage) : Except Error ProcessResourceUsage :=
  if processUsage.error ≠ 0 then .error (throwErrno "proc_pid_rusage" processUsage.error)
  else if basicUsage.error ≠ 0 then .error (throwErrno "getrusage" basicUsage.error)
  else do
    let userTimeNs ← machTimeToNs host.timebase processUsage.value.userTime
    let systemTimeNs ← machTimeToNs host.timebase processUsage.value.systemTime
    let userTime ← uint64ToZendLong "user time" userTimeNs
    let systemTime ← uint64ToZendLong "system time" systemTimeNs
    let minflt ← uint64ToZendLong "minor page fault count" basicUsage.value.minflt.toUInt64
    let majflt ← uint64ToZendLong "major page fault count" basicUsage.value.majflt.toUInt64
    let nvcsw ← uint64ToZendLong "voluntary context switch count" basicUsage.value.nvcsw.toUInt64
    let nivcsw ←
      uint64ToZendLong "involuntary context switch count" basicUsage.value.nivcsw.toUInt64
    let instructions ← uint64ToZendLong "instruction count" processUsage.value.instructions
    let cycles ← uint64ToZendLong "cycle count" processUsage.value.cycles
    .ok ⟨userTime,systemTime,minflt,majflt,nvcsw,nivcsw,instructions,cycles⟩

theorem ok_of_bind {α β : Type} {x : Except Error α} {f : α → Except Error β} {b : β}
    (h : x >>= f = .ok b) : ∃ a, x = .ok a ∧ f a = .ok b := by
  cases x with
  | error e => cases h
  | ok a => exact ⟨a,rfl,h⟩

theorem uint64ToZendLong_ok {fieldName : String} {value : UInt64} {long : ℤ}
    (h : uint64ToZendLong fieldName value = .ok long) : long = value.toNat := by
  unfold uint64ToZendLong at h
  split at h <;> cases h
  rfl

/-- The two times of a low-level snapshot. -/
theorem getCurrentProcessResourceUsage_times {host : Host} {processUsage : Reply RusageInfo}
    {basicUsage : Reply Rusage} {usage : ProcessResourceUsage}
    (h : getCurrentProcessResourceUsage host processUsage basicUsage = .ok usage) :
    usage.userTimeNs = ticks host processUsage.value.userTime ∧
      usage.systemTimeNs = ticks host processUsage.value.systemTime := by
  unfold getCurrentProcessResourceUsage at h
  split at h
  · cases h
  split at h
  · cases h
  obtain ⟨user,huser,h⟩ := ok_of_bind h
  obtain ⟨system,hsystem,h⟩ := ok_of_bind h
  obtain ⟨userLong,huserLong,h⟩ := ok_of_bind h
  obtain ⟨systemLong,hsystemLong,h⟩ := ok_of_bind h
  obtain ⟨_,-,h⟩ := ok_of_bind h
  obtain ⟨_,-,h⟩ := ok_of_bind h
  obtain ⟨_,-,h⟩ := ok_of_bind h
  obtain ⟨_,-,h⟩ := ok_of_bind h
  obtain ⟨_,-,h⟩ := ok_of_bind h
  obtain ⟨_,-,h⟩ := ok_of_bind h
  cases h
  constructor
  · rw [uint64ToZendLong_ok huserLong, machTimeToNs_eq_ok huser]
    rfl
  · rw [uint64ToZendLong_ok hsystemLong, machTimeToNs_eq_ok hsystem]
    rfl

/-- The CPU time of the process in nanoseconds. -/
def processTime (host : Host) (usage : RusageInfo) : Except Error UInt64 :=
  if 2^64 ≤ ticks host usage.userTime ∨ 2^64 ≤ ticks host usage.systemTime then
    .error (overflow "Darwin CPU time is too large to scale")
  else if 2^64 ≤ ticks host usage.userTime + ticks host usage.systemTime then
    .error (overflow "Darwin total CPU time overflow")
  else .ok (UInt64.ofNat (ticks host usage.userTime + ticks host usage.systemTime))

theorem storeCpuTime_eq (user system : UInt64) (snapshot : Snapshot) :
    storeCpuTime user system snapshot =
      if 2^64 ≤ user.toNat + system.toNat then .error (overflow "Darwin total CPU time overflow")
      else .ok (Function.update snapshot .cpuTime (user + system)) := by
  have hguard := gt_uint64Max_sub_iff user system
  unfold storeCpuTime
  by_cases h : 2^64 ≤ user.toNat + system.toNat
  · rw [if_pos (hguard.mpr h), if_pos h]
  · rw [if_neg (mt hguard.mp h), if_neg h]

/-- The `getrusage` part of a read leaves the other metrics alone, also when it fails. -/
theorem readProcessCounts_frame (metrics : UInt32) (r : Reply Rusage) (x : Snapshot) {m : MetricId}
    (hfaults : m ≠ .pageFaults) (hswitches : m ≠ .contextSwitches) :
    (readProcessCounts metrics r x).snapshot m = x m := by
  unfold readProcessCounts
  split
  · split
    · rfl
    split
    · rfl
    next faulted hfaulted =>
      have hframe := (storeProcessCount_ok hfaulted).2.2 m hfaults
      split
      · exact hframe
      next switched hswitched =>
        exact ((storeProcessCount_ok hswitched).2.2 m hswitches).trans hframe
  · rfl

section
variable {host : Host} (hn : host.timebase.numer ≠ 0) (hd : host.timebase.denom ≠ 0)
include hn hd

theorem machTimeToNs_of_lt {value : UInt64} (h : ticks host value < 2^64) :
    machTimeToNs host.timebase value = .ok (UInt64.ofNat (ticks host value)) :=
  (machTimeToNs_eq host.timebase value hn hd).trans (if_pos h)

theorem machTimeToNs_of_le {value : UInt64} (h : 2^64 ≤ ticks host value) :
    machTimeToNs host.timebase value = .error (overflow "Darwin CPU time is too large to scale") :=
  (machTimeToNs_eq host.timebase value hn hd).trans (if_neg (Nat.not_lt.mpr h))

theorem storeProcessTime_eq {metrics : UInt32} (hreq : requests metrics MetricId.cpuTime.mask = true)
    (usage : RusageInfo) (snapshot : Snapshot) :
    storeProcessTime host metrics usage snapshot =
      (processTime host usage).map (Function.update snapshot .cpuTime) := by
  rw [storeProcessTime, if_pos hreq, processTime]
  by_cases huser : 2^64 ≤ ticks host usage.userTime
  · rw [machTimeToNs_of_le hn hd huser, if_pos (.inl huser)]
    rfl
  rw [machTimeToNs_of_lt hn hd (Nat.lt_of_not_le huser)]
  by_cases hsystem : 2^64 ≤ ticks host usage.systemTime
  · rw [machTimeToNs_of_le hn hd hsystem, if_pos (.inr hsystem)]
    rfl
  rw [machTimeToNs_of_lt hn hd (Nat.lt_of_not_le hsystem), if_neg (not_or.mpr ⟨huser,hsystem⟩)]
  have hu : (UInt64.ofNat (ticks host usage.userTime)).toNat = ticks host usage.userTime :=
    UInt64.toNat_ofNat_of_lt' (Nat.lt_of_not_le huser)
  have hs : (UInt64.ofNat (ticks host usage.systemTime)).toNat = ticks host usage.systemTime :=
    UInt64.toNat_ofNat_of_lt' (Nat.lt_of_not_le hsystem)
  dsimp only
  rw [storeCpuTime_eq, hu, hs, UInt64.ofNat_add]
  split <;> rfl

theorem readProcessTimes_eq {metrics : UInt32} (hreq : requests metrics MetricId.cpuTime.mask = true)
    {r : Reply RusageInfo} (hreply : r.error = 0) (snapshot : Snapshot) :
    readProcessTimes host metrics r snapshot = (processTime host r.value).map fun time =>
      storeProcessCycles metrics r.value (Function.update snapshot .cpuTime time) := by
  rw [readProcessTimes, requests_or, hreq, Bool.true_or, if_pos rfl, readProcessUsage,
    if_neg (not_not_intro hreply)]
  dsimp only
  rw [storeProcessTime_eq hn hd hreq]
  cases processTime host r.value <;> rfl

/-- The read of a process sampler that asks for the CPU time: where the time overflows it fails and
stores nothing, and otherwise the time is stored and only `getrusage` decides how the read ends. -/
def TimedRead (host : Host) (s : PlatformSampler) (r : Replies) : Prop :=
  match processTime host r.processUsage.value with
  | .error e => (platformSamplerRead host s r).2 = ⟨.error e,fun _ => 0⟩
  | .ok time => (platformSamplerRead host s r).2.snapshot .cpuTime = time ∧
      ∃ timed, (platformSamplerRead host s r).2 = readProcessCounts s.metrics r.rusage timed

theorem timedRead {s : PlatformSampler} {r : Replies} (hscope : s.scope = .currentProcess)
    (hreq : requests s.metrics MetricId.cpuTime.mask = true) (hreply : r.processUsage.error = 0) :
    TimedRead host s r := by
  have htimes := readProcessTimes_eq hn hd hreq hreply fun _ => 0
  unfold TimedRead platformSamplerRead
  dsimp only
  rw [hscope]
  dsimp only
  rw [htimes]
  cases processTime host r.processUsage.value with
  | error e => rfl
  | ok time =>
    refine ⟨?_,_,rfl⟩
    dsimp only [Except.map]
    rw [readProcessCounts_frame _ _ _ (by decide) (by decide), storeProcessCycles]
    split
    · rw [Function.update_of_ne (by decide), Function.update_self]
    · rw [Function.update_self]

end

/-- The conversion of one tick value: exact, in agreement with 128-bit scaling, and computed without a
wrap. -/
structure ExactTicks (host : Host) (value : UInt64) : Prop where
  converted : machTimeToNs host.timebase value =
    if ticks host value < 2^64 then .ok (UInt64.ofNat (ticks host value))
    else .error (overflow "Darwin CPU time is too large to scale")
  wide : (machTimeToNs host.timebase value).toOption =
    scaleUint64 true value host.timebase.numer.toUInt64 host.timebase.denom.toUInt64
  remainder : (value%host.timebase.denom.toUInt64*host.timebase.numer.toUInt64).toNat =
    (value%host.timebase.denom.toUInt64).toNat*host.timebase.numer.toNat
  quotient : ¬ value/host.timebase.denom.toUInt64 > uint64Max/host.timebase.numer.toUInt64 →
    (host.timebase.whole value).toNat =
      (value/host.timebase.denom.toUInt64).toNat*host.timebase.numer.toNat
  sum : ¬ host.timebase.whole value > uint64Max - host.timebase.fraction value →
    (host.timebase.whole value + host.timebase.fraction value).toNat =
      (host.timebase.whole value).toNat + (host.timebase.fraction value).toNat

theorem ticks_mono (host : Host) {v w : UInt64} (h : v ≤ w) : ticks host v ≤ ticks host w :=
  Nat.div_le_div_right (Nat.mul_le_mul_right _ (UInt64.le_iff_toNat_le.mp h))

section
variable {host : Host} (hn : host.timebase.numer ≠ 0) (hd : host.timebase.denom ≠ 0)
include hn hd

theorem exactTicks (value : UInt64) : ExactTicks host value := by
  have hconverted := machTimeToNs_eq host.timebase value hn hd
  have hscales : ScalesExactly (machTimeToNs host.timebase value).toOption value
      host.timebase.numer.toUInt64 host.timebase.denom.toUInt64 := by
    intro result
    rw [hconverted, UInt32.toNat_toUInt64, UInt32.toNat_toUInt64]
    split <;> rfl
  constructor
  · exact hconverted
  · exact hscales.unique scaleUint64Wide_exact
  · rw [toNat_remainder_mul host.timebase value hd, UInt64.toNat_mod, UInt32.toNat_toUInt64]
  · intro h
    rw [quotient_gt_iff host.timebase value hn, Nat.not_le] at h
    rw [toNat_whole host.timebase value h, UInt64.toNat_div, UInt32.toNat_toUInt64]
  · intro h
    rw [gt_iff_lt, gt_uint64Max_sub_iff, Nat.not_le] at h
    exact toNat_add_of_lt h

theorem machTimeToNs_mono {v w y : UInt64} (h : v ≤ w)
    (hw : machTimeToNs host.timebase w = .ok y) :
    ∃ x, machTimeToNs host.timebase v = .ok x ∧ x ≤ y := by
  have hy : y.toNat = ticks host w := machTimeToNs_eq_ok hw
  have hticks := ticks_mono host h
  have hlt : ticks host v < 2^64 := by
    have := y.toNat_lt
    omega
  refine ⟨_,machTimeToNs_of_lt hn hd hlt,?_⟩
  rw [UInt64.le_iff_toNat_le, UInt64.toNat_ofNat_of_lt' hlt, hy]
  exact hticks

end

/-- Mach ticks on a valid timebase. Every tick value is converted exactly or refused because the result
leaves 64 bits; a process sampler publishes the sum of the two converted times; and where a sampler and
the low-level snapshot both succeed on the same native reading, they agree. -/
theorem mach_ticks_exact (host : Host) (hn : host.timebase.numer ≠ 0) (hd : host.timebase.denom ≠ 0) :
    (∀ value, ExactTicks host value) ∧
    (∀ v w y, v ≤ w → machTimeToNs host.timebase w = .ok y →
      ∃ x, machTimeToNs host.timebase v = .ok x ∧ x ≤ y) ∧
    ∀ (s : PlatformSampler) (r : Replies), s.scope = .currentProcess →
      requests s.metrics MetricId.cpuTime.mask = true →
      (r.processUsage.error = 0 → TimedRead host s r) ∧
      ∀ (basicUsage : Reply Rusage) (usage : ProcessResourceUsage),
        (platformSamplerRead host s r).2.succeeded = true →
        getCurrentProcessResourceUsage host r.processUsage basicUsage = .ok usage →
        (((platformSamplerRead host s r).2.snapshot .cpuTime).toNat : ℤ) =
          usage.userTimeNs + usage.systemTimeNs := by
  refine ⟨exactTicks hn hd,?_,?_⟩
  · intro v w y h hw
    exact machTimeToNs_mono hn hd h hw
  intro s r hscope hreq
  refine ⟨timedRead hn hd hscope hreq,?_⟩
  intro basicUsage usage hread husage
  obtain ⟨huser,hsystem⟩ := getCurrentProcessResourceUsage_times husage
  have hpublished := (read_published host s r).2 hread
  have htime : ((platformSamplerRead host s r).2.snapshot .cpuTime).toNat =
      ticks host r.processUsage.value.userTime + ticks host r.processUsage.value.systemTime := by
    have := congrFun hpublished .cpuTime
    rw [published, hscope] at this
    dsimp only at this
    rwa [processValue, if_pos hreq] at this
  rw [htime, huser, hsystem]
  exact Nat.cast_add _ _

/-- A timebase of 125/3 ns for a tick. -/
def ratioHost : Host := ⟨⟨125,3⟩,false⟩

def cpuTimeSampler : PlatformSampler := ⟨MetricId.cpuTime.mask,.currentProcess,0⟩

def ratioReplies : Replies where
  threadId := ⟨0,0⟩
  selfcounts := ⟨0,⟨0,0,0,0⟩⟩
  threadInfo := ⟨0,(⟨0,0⟩,⟨0,0⟩)⟩
  processUsage := ⟨0,⟨18000000,6000000,34,12⟩⟩
  rusage := ⟨0,⟨1,2,3,4⟩⟩

theorem mach_ticks_exact_ratio :
    (((platformSamplerRead ratioHost cpuTimeSampler ratioReplies).2.snapshot .cpuTime).toNat : ℤ) =
      750000000 + 250000000 := by
  obtain ⟨-,-,h⟩ := mach_ticks_exact ratioHost (by decide) (by decide)
  exact (h cpuTimeSampler ratioReplies rfl (by decide)).2 ratioReplies.rusage
    ⟨750000000,250000000,1,2,3,4,34,12⟩ (by decide) rfl

end Perfidious.Darwin
