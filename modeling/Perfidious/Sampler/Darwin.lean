import Mathlib.Logic.Function.Basic
import Perfidious.CounterMath
import Perfidious.Sampler.Metric
import Perfidious.Library.Run

/-! The Darwin sampler backend (`darwin/sampler.c`) and the native readers it shares with the
low-level API (`darwin/functions.c`). A read keeps no state between calls. -/
namespace Perfidious.Darwin
open Library

def ENOTSUP : Errno := 45
def ENOSYS : Errno := 78

/-- `mach_timebase_info_data_t`. -/
structure Timebase where
  numer : UInt32
  denom : UInt32
  deriving DecidableEq, Repr

/-- The file-scope variables set at module startup: `perfidious_darwin_timebase`, and whether the
`thread_selfcounts` symbol was found. -/
structure Host where
  timebase : Timebase
  selfcounts : Bool

/-- `struct perfidious_darwin_thread_resource_usage`. -/
structure ThreadResourceUsage where
  userTimeNs : UInt64
  systemTimeNs : UInt64
  instructions : UInt64
  cycles : UInt64
  deriving DecidableEq, Repr

/-- `struct perfidious_darwin_thread_time_cpi`. -/
structure ThreadTimeCpi where
  instructions : UInt64
  cycles : UInt64
  userTimeMach : UInt64
  systemTimeMach : UInt64

/-- `time_value_t`. -/
structure TimeValue where
  seconds : Int32
  microseconds : Int32

/-- The fields of `struct rusage_info_v4` that this extension reads. -/
structure RusageInfo where
  userTime : UInt64
  systemTime : UInt64
  instructions : UInt64
  cycles : UInt64

/-- The fields of `struct rusage` that this extension reads. -/
structure Rusage where
  minflt : Int64
  majflt : Int64
  nvcsw : Int64
  nivcsw : Int64

/-- A native call: its error value, zero for success, and the data it fills in. -/
structure Reply (α : Type) where
  error : Errno
  value : α

/-- Everything Darwin answers during one call of `perfidious_platform_sampler_read`. -/
structure Replies where
  threadId : Reply UInt64
  selfcounts : Reply ThreadTimeCpi
  threadInfo : Reply (TimeValue × TimeValue)
  processUsage : Reply RusageInfo
  rusage : Reply Rusage

/-- `struct perfidious_platform_sampler`. -/
structure PlatformSampler where
  metrics : UInt32
  scope : ScopeId
  threadId : UInt64

def io (text : String) : Error := ⟨.ioException,0,[.text text]⟩
def overflow (text : String) : Error := ⟨.overflowException,0,[.text text]⟩

/-- `perfidious_darwin_throw_errno`. -/
def throwErrno (functionName : String) (error : Errno) : Error where
  exceptionCe := .ioException
  code := error
  message := [.text functionName,.text " failed: ",.strerror error]

/-- `perfidious_darwin_throw_mach`. -/
def throwMach (functionName : String) (error : ℕ) : Error where
  exceptionCe := .ioException
  code := error
  message := [.text functionName,.text " failed with Mach error ",.number error]

/-- The inline error of `sampler.c`, which also prints the error number. -/
def samplerErrno (functionName : String) (error : Errno) : Error where
  exceptionCe := .ioException
  code := error
  message := [.text functionName,.text " failed: [",.number error,.text "] ",.strerror error]

def wrongThread : Error := ⟨.wrongThreadException,0,
  [.text "Darwin current-thread sampler must be read from the thread that opened it"]⟩

/-- `perfidious_darwin_mach_time_to_ns`. -/
def machTimeToNs (timebase : Timebase) (value : UInt64) : Except Error UInt64 :=
  if timebase.numer = 0 ∨ timebase.denom = 0 then
    .error (io "mach_timebase_info returned an invalid ratio")
  else
    let quotient := value/timebase.denom.toUInt64
    let remainder := value%timebase.denom.toUInt64
    if quotient > uint64Max/timebase.numer.toUInt64 then
      .error (overflow "Darwin CPU time is too large to scale")
    else
      let whole := quotient*timebase.numer.toUInt64
      let fraction := remainder*timebase.numer.toUInt64/timebase.denom.toUInt64
      if whole > uint64Max - fraction then .error (overflow "Darwin CPU time is too large to scale")
      else .ok (whole + fraction)

/-- `perfidious_darwin_time_value_to_ns`. -/
def timeValueToNs (value : TimeValue) : Except Error UInt64 :=
  if value.seconds < 0 ∨ value.microseconds < 0 ∨ value.microseconds ≥ 1000000 then
    .error (io "thread_info returned an invalid CPU time")
  else
    let seconds := UInt64.ofNat value.seconds.toInt.toNat
    let microseconds := UInt64.ofNat value.microseconds.toInt.toNat
    if seconds > (uint64Max - microseconds*1000)/1000000000 then
      .error (overflow "Darwin thread CPU time is too large to scale")
    else .ok (seconds*1000000000 + microseconds*1000)

/-- `perfidious_darwin_get_current_thread_id`. -/
def getCurrentThreadId (r : Reply UInt64) : Except Error UInt64 :=
  if r.error ≠ 0 then .error (throwErrno "pthread_threadid_np" r.error) else .ok r.value

/-- `perfidious_darwin_read_current_thread_resource_usage`. -/
def readCurrentThreadResourceUsage (host : Host) (r : Replies) :
    Except Error ThreadResourceUsage :=
  let basic : Except Error ThreadResourceUsage :=
    if r.threadInfo.error ≠ 0 then .error (throwMach "thread_info" r.threadInfo.error)
    else
      match timeValueToNs r.threadInfo.value.1 with
      | .error e => .error e
      | .ok user =>
      match timeValueToNs r.threadInfo.value.2 with
      | .error e => .error e
      | .ok system => .ok ⟨user,system,0,0⟩
  if host.selfcounts then
    if r.selfcounts.error = 0 then
      match machTimeToNs host.timebase r.selfcounts.value.userTimeMach with
      | .error e => .error e
      | .ok user =>
      match machTimeToNs host.timebase r.selfcounts.value.systemTimeMach with
      | .error e => .error e
      | .ok system => .ok ⟨user,system,r.selfcounts.value.instructions,r.selfcounts.value.cycles⟩
    else if r.selfcounts.error ≠ ENOTSUP ∧ r.selfcounts.error ≠ ENOSYS then
      .error (throwErrno "thread_selfcounts" r.selfcounts.error)
    else basic
  else basic

/-- `perfidious_darwin_store_cpu_time`. -/
def storeCpuTime (userTimeNs systemTimeNs : UInt64) (snapshot : Snapshot) : Except Error Snapshot :=
  if userTimeNs > uint64Max - systemTimeNs then .error (overflow "Darwin total CPU time overflow")
  else .ok (Function.update snapshot .cpuTime (userTimeNs + systemTimeNs))

/-- `perfidious_darwin_read_process_usage`. -/
def readProcessUsage (r : Reply RusageInfo) : Except Error RusageInfo :=
  if r.error ≠ 0 then .error (samplerErrno "proc_pid_rusage" r.error) else .ok r.value

/-- The checked sum of two `long` counts of `struct rusage`. -/
def sumCounts (negative overflowed : Error) (a b : Int64) : Except Error UInt64 :=
  if a < 0 ∨ b < 0 then .error negative
  else if a.toUInt64 > uint64Max - b.toUInt64 then .error overflowed
  else .ok (a.toUInt64 + b.toUInt64)

/-- The page-fault branch: minor plus major faults. -/
def pageFaultCount (usage : Rusage) : Except Error UInt64 :=
  sumCounts (io "getrusage returned a negative page-fault count")
    (overflow "Darwin page-fault count overflow") usage.minflt usage.majflt

/-- The context-switch branch: voluntary plus involuntary switches. -/
def contextSwitchCount (usage : Rusage) : Except Error UInt64 :=
  sumCounts (io "getrusage returned a negative context-switch count")
    (overflow "Darwin context-switch count overflow") usage.nvcsw usage.nivcsw

/-- The branch of a read for `PERFIDIOUS_SCOPE_CURRENT_THREAD`. -/
def readThread (host : Host) (sampler : PlatformSampler) (r : Replies) (snapshot : Snapshot) :
    Except Error Snapshot :=
  match getCurrentThreadId r.threadId with
  | .error e => .error e
  | .ok threadId =>
  if threadId ≠ sampler.threadId then .error wrongThread
  else
    match readCurrentThreadResourceUsage host r with
    | .error e => .error e
    | .ok usage => storeCpuTime usage.userTimeNs usage.systemTimeNs snapshot

/-- The CPU time of the process, in the sampler's own copy of `proc_pid_rusage`. -/
def storeProcessTime (host : Host) (metrics : UInt32) (usage : RusageInfo) (snapshot : Snapshot) :
    Except Error Snapshot :=
  if requests metrics MetricId.cpuTime.mask then
    match machTimeToNs host.timebase usage.userTime with
    | .error e => .error e
    | .ok user =>
    match machTimeToNs host.timebase usage.systemTime with
    | .error e => .error e
    | .ok system => storeCpuTime user system snapshot
  else .ok snapshot

def storeProcessCycles (metrics : UInt32) (usage : RusageInfo) (snapshot : Snapshot) : Snapshot :=
  if requests metrics MetricId.cpuCycles.mask then Function.update snapshot .cpuCycles usage.cycles
  else snapshot

/-- The part of a process read that calls `proc_pid_rusage`. -/
def readProcessTimes (host : Host) (metrics : UInt32) (r : Reply RusageInfo) (snapshot : Snapshot) :
    Except Error Snapshot :=
  if requests metrics (MetricId.cpuTime.mask ||| MetricId.cpuCycles.mask) then
    match readProcessUsage r with
    | .error e => .error e
    | .ok usage =>
    match storeProcessTime host metrics usage snapshot with
    | .error e => .error e
    | .ok timed => .ok (storeProcessCycles metrics usage timed)
  else .ok snapshot

def storeProcessCount (metrics : UInt32) (metric : MetricId) (count : Except Error UInt64)
    (snapshot : Snapshot) : Except Error Snapshot :=
  if requests metrics metric.mask then
    match count with
    | .error e => .error e
    | .ok count => .ok (Function.update snapshot metric count)
  else .ok snapshot

/-- The part of a process read that calls `getrusage`; it can fail when the page faults are already
stored. -/
def readProcessCounts (metrics : UInt32) (r : Reply Rusage) (snapshot : Snapshot) : ReadOutcome :=
  if requests metrics (MetricId.pageFaults.mask ||| MetricId.contextSwitches.mask) then
    if r.error ≠ 0 then ⟨.error (samplerErrno "getrusage" r.error),snapshot⟩
    else
      match storeProcessCount metrics .pageFaults (pageFaultCount r.value) snapshot with
      | .error e => ⟨.error e,snapshot⟩
      | .ok faulted =>
        match storeProcessCount metrics .contextSwitches (contextSwitchCount r.value) faulted with
        | .error e => ⟨.error e,faulted⟩
        | .ok switched => ⟨.ok (),switched⟩
  else ⟨.ok (),snapshot⟩

/-- `perfidious_platform_sampler_read`. -/
def platformSamplerRead (host : Host) (sampler : PlatformSampler) (r : Replies) :
    PlatformSampler × ReadOutcome :=
  let zeroed : Snapshot := fun _ => 0
  match sampler.scope with
  | .currentThread =>
    match readThread host sampler r zeroed with
    | .error e => (sampler,⟨.error e,zeroed⟩)
    | .ok snapshot => (sampler,⟨.ok (),snapshot⟩)
  | .currentProcess =>
    match readProcessTimes host sampler.metrics r.processUsage zeroed with
    | .error e => (sampler,⟨.error e,zeroed⟩)
    | .ok timed => (sampler,readProcessCounts sampler.metrics r.rusage timed)

/-- `whole` in `perfidious_darwin_mach_time_to_ns`. -/
def Timebase.whole (timebase : Timebase) (value : UInt64) : UInt64 :=
  value/timebase.denom.toUInt64*timebase.numer.toUInt64

/-- `fraction` there. -/
def Timebase.fraction (timebase : Timebase) (value : UInt64) : UInt64 :=
  value%timebase.denom.toUInt64*timebase.numer.toUInt64/timebase.denom.toUInt64

section
variable (timebase : Timebase) (value : UInt64)

/-- The product of a remainder and the numerator stays below the product of two 32-bit numbers. -/
theorem toNat_remainder_mul (hd : timebase.denom ≠ 0) :
    (value%timebase.denom.toUInt64*timebase.numer.toUInt64).toNat =
      value.toNat%timebase.denom.toNat*timebase.numer.toNat := by
  have hpos : 0 < timebase.denom.toNat := Nat.pos_of_ne_zero fun h => hd (UInt32.toNat_inj.mp h)
  have hn32 : timebase.numer.toNat < 2^32 := timebase.numer.toNat_lt
  have hd32 : timebase.denom.toNat < 2^32 := timebase.denom.toNat_lt
  have hmod : value.toNat%timebase.denom.toNat < timebase.denom.toNat := Nat.mod_lt _ hpos
  have hlt : value.toNat%timebase.denom.toNat*timebase.numer.toNat < 2^64 := by
    calc value.toNat%timebase.denom.toNat*timebase.numer.toNat < 2^32*2^32 :=
          Nat.mul_lt_mul'' (by omega) hn32
      _ = 2^64 := rfl
  rw [toNat_mul_of_lt (by rwa [UInt64.toNat_mod, UInt32.toNat_toUInt64, UInt32.toNat_toUInt64]),
    UInt64.toNat_mod, UInt32.toNat_toUInt64, UInt32.toNat_toUInt64]

theorem toNat_fraction (hd : timebase.denom ≠ 0) :
    (timebase.fraction value).toNat =
      scaled (value.toNat%timebase.denom.toNat) timebase.numer.toNat timebase.denom.toNat := by
  rw [Timebase.fraction, UInt64.toNat_div, toNat_remainder_mul timebase value hd, UInt32.toNat_toUInt64, scaled]

/-- The first guard of the conversion. -/
theorem quotient_gt_iff (hn : timebase.numer ≠ 0) :
    value/timebase.denom.toUInt64 > uint64Max/timebase.numer.toUInt64 ↔
      2^64 ≤ value.toNat/timebase.denom.toNat*timebase.numer.toNat := by
  have hnumer : timebase.numer.toUInt64 ≠ 0 := by
    intro h
    apply hn
    apply UInt32.toNat_inj.mp
    rw [← UInt32.toNat_toUInt64, h]
    rfl
  rw [gt_iff_lt, gt_uint64Max_div_iff _ hnumer, UInt64.toNat_div, UInt32.toNat_toUInt64,
    UInt32.toNat_toUInt64]

theorem toNat_whole
    (h : value.toNat/timebase.denom.toNat*timebase.numer.toNat < 2^64) :
    (timebase.whole value).toNat = value.toNat/timebase.denom.toNat*timebase.numer.toNat := by
  rw [Timebase.whole, toNat_mul_of_lt (by rwa [UInt64.toNat_div, UInt32.toNat_toUInt64,
    UInt32.toNat_toUInt64]), UInt64.toNat_div, UInt32.toNat_toUInt64, UInt32.toNat_toUInt64]

/-- With a valid timebase the conversion is that of the whole numbers, rounded down, and fails exactly
where the result leaves 64 bits: the quotient and the remainder are scaled apart, and neither the
products nor their sum wrap. -/
theorem machTimeToNs_eq (hn : timebase.numer ≠ 0) (hd : timebase.denom ≠ 0) :
    machTimeToNs timebase value =
      if scaled value.toNat timebase.numer.toNat timebase.denom.toNat < 2^64 then
        .ok (UInt64.ofNat (scaled value.toNat timebase.numer.toNat timebase.denom.toNat))
      else .error (overflow "Darwin CPU time is too large to scale") := by
  have hpos : 0 < timebase.denom.toNat := Nat.pos_of_ne_zero fun h => hd (UInt32.toNat_inj.mp h)
  have hsplit := scaled_split value.toNat timebase.numer.toNat hpos
  have hfraction := toNat_fraction timebase value hd
  rw [machTimeToNs, if_neg (not_or.mpr ⟨hn,hd⟩)]
  by_cases hquotient : 2^64 ≤ value.toNat/timebase.denom.toNat*timebase.numer.toNat
  · rw [if_pos ((quotient_gt_iff timebase value hn).mpr hquotient), if_neg (by omega)]
  have hwhole := toNat_whole timebase value (Nat.lt_of_not_le hquotient)
  rw [if_neg (mt (quotient_gt_iff timebase value hn).mp hquotient)]
  change (if timebase.whole value > uint64Max - timebase.fraction value then _
    else Except.ok (timebase.whole value + timebase.fraction value)) = _
  have hguard := gt_uint64Max_sub_iff (timebase.whole value) (timebase.fraction value)
  rw [hwhole, hfraction, ← hsplit] at hguard
  by_cases hfits : scaled value.toNat timebase.numer.toNat timebase.denom.toNat < 2^64
  · rw [if_neg (mt hguard.mp (Nat.not_le.mpr hfits)), if_pos hfits, hsplit, ← hwhole, ← hfraction,
      UInt64.ofNat_add, UInt64.ofNat_toNat, UInt64.ofNat_toNat]
  · rw [if_pos (hguard.mpr (Nat.le_of_not_lt hfits)), if_neg hfits]

end

/-- An accepted tick value is converted exactly, rounded down. -/
theorem machTimeToNs_eq_ok {timebase : Timebase} {value ns : UInt64}
    (h : machTimeToNs timebase value = .ok ns) :
    ns.toNat = value.toNat*timebase.numer.toNat/timebase.denom.toNat := by
  by_cases hratio : timebase.numer = 0 ∨ timebase.denom = 0
  · rw [machTimeToNs, if_pos hratio] at h
    cases h
  · rw [not_or] at hratio
    rw [machTimeToNs_eq timebase value hratio.1 hratio.2] at h
    split at h
    next hfits =>
      cases h
      exact UInt64.toNat_ofNat_of_lt' hfits
    · cases h

/-- The time value in microseconds. -/
def TimeValue.total (value : TimeValue) : ℤ := value.seconds.toInt*1000000 + value.microseconds.toInt

theorem timeValueToNs_eq_ok {value : TimeValue} {ns : UInt64} (h : timeValueToNs value = .ok ns) :
    (ns.toNat : ℤ) = value.total*1000 := by
  unfold timeValueToNs at h
  split at h
  · cases h
  next hrange =>
  dsimp only at h
  split at h
  · cases h
  next hlarge =>
  obtain ⟨hs,hm,hm'⟩ : 0 ≤ value.seconds.toInt ∧ 0 ≤ value.microseconds.toInt ∧
      value.microseconds.toInt < 1000000 := by
    simpa [Int32.lt_iff_toInt_lt,Int32.le_iff_toInt_le] using hrange
  have hs31 : value.seconds.toInt < 2^31 := value.seconds.toInt_lt
  unfold TimeValue.total
  generalize value.seconds.toInt = s at *
  generalize value.microseconds.toInt = m at *
  have hs' : (UInt64.ofNat s.toNat).toNat = s.toNat := UInt64.toNat_ofNat_of_lt' (show _ < 2^64 by omega)
  have hm'' : (UInt64.ofNat m.toNat).toNat = m.toNat := UInt64.toNat_ofNat_of_lt' (show _ < 2^64 by omega)
  have hsec : (UInt64.ofNat s.toNat*1000000000).toNat = s.toNat*1000000000 := by
    rw [UInt64.toNat_mul, hs']
    exact Nat.mod_eq_of_lt (by change _*1000000000 < _; omega)
  have hmic : (UInt64.ofNat m.toNat*1000).toNat = m.toNat*1000 := by
    rw [UInt64.toNat_mul, hm'']
    exact Nat.mod_eq_of_lt (by change _*1000 < _; omega)
  rw [← Except.ok.inj h, toNat_add_of_lt (by omega), hsec, hmic]
  omega

theorem sumCounts_eq_ok {negative overflowed : Error} {a b : Int64} {sum : UInt64}
    (h : sumCounts negative overflowed a b = .ok sum) : (sum.toNat : ℤ) = a.toInt + b.toInt := by
  unfold sumCounts at h
  split_ifs at h with hneg hover
  obtain ⟨ha,hb⟩ : 0 ≤ a ∧ 0 ≤ b := by simpa using hneg
  have ha' := Int64.toNat_toUInt64_of_le ha
  have hb' := Int64.toNat_toUInt64_of_le hb
  rw [gt_iff_lt, gt_uint64Max_sub_iff] at hover
  rw [← Except.ok.inj h, toNat_add_of_lt (by omega), ha', hb']
  simp only [Int64.toNatClampNeg]
  rw [Int64.le_iff_toInt_le] at ha hb
  simp at ha hb
  omega

/-- Whether `thread_selfcounts` answers for the current thread, or else `thread_info`. -/
def usesSelfcounts (host : Host) (r : Replies) : Bool := host.selfcounts && r.selfcounts.error == 0

def ticks (host : Host) (value : UInt64) : ℕ :=
  value.toNat*host.timebase.numer.toNat/host.timebase.denom.toNat

/-- What a successful read of a thread sampler publishes. -/
def threadValue (host : Host) (r : Replies) : MetricId → ℕ
  | .cpuTime =>
    if usesSelfcounts host r then
      ticks host r.selfcounts.value.userTimeMach + ticks host r.selfcounts.value.systemTimeMach
    else ((r.threadInfo.value.1.total + r.threadInfo.value.2.total)*1000).toNat
  | _ => 0

/-- What a successful read of a process sampler publishes. -/
def processValue (host : Host) (metrics : UInt32) (r : Replies) (m : MetricId) : ℕ :=
  if requests metrics m.mask then
    match m with
    | .cpuTime => ticks host r.processUsage.value.userTime + ticks host r.processUsage.value.systemTime
    | .pageFaults => (r.rusage.value.minflt.toInt + r.rusage.value.majflt.toInt).toNat
    | .contextSwitches => (r.rusage.value.nvcsw.toInt + r.rusage.value.nivcsw.toInt).toNat
    | .cpuCycles => r.processUsage.value.cycles.toNat
    | .instructions => 0
  else 0

theorem storeCpuTime_ok {user system : UInt64} {x y : Snapshot}
    (h : storeCpuTime user system x = .ok y) :
    (y .cpuTime).toNat = user.toNat + system.toNat ∧ ∀ m, m ≠ .cpuTime → y m = x m := by
  unfold storeCpuTime at h
  split_ifs at h with hover
  rw [gt_iff_lt, gt_uint64Max_sub_iff] at hover
  cases h
  rw [Function.update_self, toNat_add_of_lt (by omega)]
  exact ⟨rfl,fun m hm => Function.update_of_ne hm _ _⟩

theorem readCurrentThreadResourceUsage_ok {host : Host} {r : Replies} {usage : ThreadResourceUsage}
    (h : readCurrentThreadResourceUsage host r = .ok usage) :
    usage.userTimeNs.toNat + usage.systemTimeNs.toNat = threadValue host r .cpuTime := by
  unfold readCurrentThreadResourceUsage at h
  unfold threadValue usesSelfcounts
  dsimp only at h
  have hbasic : (if r.threadInfo.error ≠ 0 then .error (throwMach "thread_info" r.threadInfo.error)
      else
        match timeValueToNs r.threadInfo.value.1 with
        | .error e => .error e
        | .ok user =>
        match timeValueToNs r.threadInfo.value.2 with
        | .error e => .error e
        | .ok system => .ok ⟨user,system,0,0⟩ : Except Error ThreadResourceUsage) = .ok usage →
      usage.userTimeNs.toNat + usage.systemTimeNs.toNat =
        ((r.threadInfo.value.1.total + r.threadInfo.value.2.total)*1000).toNat := by
    intro hb
    split at hb
    · cases hb
    split at hb
    · cases hb
    next user hu =>
    split at hb
    · cases hb
    next system hs =>
    cases hb
    have := timeValueToNs_eq_ok hu
    have := timeValueToNs_eq_ok hs
    dsimp only
    omega
  split at h
  next hself =>
    split at h
    next herr =>
      split at h
      · cases h
      next user hu =>
      split at h
      · cases h
      next system hs =>
      cases h
      simp [hself,herr,ticks,machTimeToNs_eq_ok hu,machTimeToNs_eq_ok hs]
    next herr =>
      split at h
      · cases h
      · simpa [herr] using hbasic h
  next hself => simpa [hself] using hbasic h

theorem readThread_ok {host : Host} {s : PlatformSampler} {r : Replies} {x : Snapshot}
    (h : readThread host s r (fun _ => 0) = .ok x) : x.toNat = threadValue host r := by
  unfold readThread at h
  split at h
  · cases h
  split at h
  · cases h
  split at h
  · cases h
  next usage hu =>
  obtain ⟨htime,hrest⟩ := storeCpuTime_ok h
  funext m
  cases m with
  | cpuTime => exact htime.trans (readCurrentThreadResourceUsage_ok hu)
  | _ => rw [Snapshot.toNat, hrest _ (by decide)]; rfl

theorem readProcessUsage_ok {r : Reply RusageInfo} {usage : RusageInfo}
    (h : readProcessUsage r = .ok usage) : usage = r.value := by
  unfold readProcessUsage at h
  split_ifs at h
  exact (Except.ok.inj h).symm

theorem storeProcessTime_ok {host : Host} {metrics : UInt32} {usage : RusageInfo} {x y : Snapshot}
    (h : storeProcessTime host metrics usage x = .ok y) :
    (y .cpuTime).toNat = (if requests metrics MetricId.cpuTime.mask then
      ticks host usage.userTime + ticks host usage.systemTime else (x .cpuTime).toNat) ∧
    ∀ m, m ≠ .cpuTime → y m = x m := by
  unfold storeProcessTime at h
  split at h
  next hreq =>
    rw [if_pos hreq]
    split at h
    · cases h
    next user huser =>
    split at h
    · cases h
    next system hsystem =>
    obtain ⟨hsum,hrest⟩ := storeCpuTime_ok h
    rw [machTimeToNs_eq_ok huser, machTimeToNs_eq_ok hsystem] at hsum
    exact ⟨hsum,hrest⟩
  next hreq =>
    cases h
    rw [if_neg hreq]
    exact ⟨rfl,fun _ _ => rfl⟩

theorem storeProcessCount_ok {metrics : UInt32} {metric : MetricId} {count : Except Error UInt64}
    {x y : Snapshot} (h : storeProcessCount metrics metric count x = .ok y) :
    (requests metrics metric.mask = true → count = .ok (y metric)) ∧
    (¬ requests metrics metric.mask = true → y metric = x metric) ∧ ∀ m, m ≠ metric → y m = x m := by
  unfold storeProcessCount at h
  split at h
  next hreq =>
    split at h
    · cases h
    next c =>
      cases h
      exact ⟨fun _ => by rw [Function.update_self],fun hn => absurd hreq hn,
        fun m hm => Function.update_of_ne hm _ _⟩
  next hreq =>
    cases h
    exact ⟨fun hn => absurd hn hreq,fun _ => rfl,fun _ _ => rfl⟩

theorem readProcessTimes_ok {host : Host} {metrics : UInt32} {r : Replies} {y : Snapshot}
    (h : readProcessTimes host metrics r.processUsage (fun _ => 0) = .ok y) :
    (y .cpuTime).toNat = processValue host metrics r .cpuTime ∧
    (y .cpuCycles).toNat = processValue host metrics r .cpuCycles ∧
    ∀ m, m ≠ .cpuTime → m ≠ .cpuCycles → y m = 0 := by
  unfold readProcessTimes at h
  rw [requests_or] at h
  split at h
  next hreq =>
    split at h
    · cases h
    next usage hu =>
    split at h
    · cases h
    next timed ht =>
    obtain ⟨htime,hrest⟩ := storeProcessTime_ok ht
    rw [readProcessUsage_ok hu] at htime h
    cases h
    unfold processValue storeProcessCycles
    split
    next hcycles =>
      refine ⟨?_,by simp,fun m hm hm' => ?_⟩
      · rw [Function.update_of_ne (by decide), htime]
        rfl
      · rw [Function.update_of_ne hm', hrest m hm]
    next hcycles =>
      refine ⟨htime,?_,fun m hm hm' => hrest m hm⟩
      rw [hrest _ (by decide)]
      rfl
  next hreq =>
    simp only [Bool.or_eq_true, not_or] at hreq
    cases h
    refine ⟨?_,?_,fun _ _ _ => rfl⟩
    · rw [processValue, if_neg hreq.1]
      rfl
    · rw [processValue, if_neg hreq.2]
      rfl

theorem readProcessCounts_ok (host : Host) {metrics : UInt32} {r : Replies} {x y : Snapshot}
    (h : readProcessCounts metrics r.rusage x = ⟨.ok (),y⟩) (hf : x .pageFaults = 0)
    (hs : x .contextSwitches = 0) :
    (y .pageFaults).toNat = processValue host metrics r .pageFaults ∧
    (y .contextSwitches).toNat = processValue host metrics r .contextSwitches ∧
    ∀ m, m ≠ .pageFaults → m ≠ .contextSwitches → y m = x m := by
  unfold readProcessCounts at h
  rw [requests_or] at h
  split at h
  next hreq =>
    split at h
    · cases h
    split at h
    · cases h
    next faulted hfaulted =>
    split at h
    · cases h
    next switched hswitched =>
    cases h
    obtain ⟨hin,hout,hrest⟩ := storeProcessCount_ok hfaulted
    obtain ⟨hin',hout',hrest'⟩ := storeProcessCount_ok hswitched
    refine ⟨?_,?_,fun m hm hm' => (hrest' m hm').trans (hrest m hm)⟩
    · rw [hrest' _ (by decide), processValue]
      split
      next hq => have := sumCounts_eq_ok (hin hq); omega
      next hq => rw [hout hq, hf]; rfl
    · rw [processValue]
      split
      next hq => have := sumCounts_eq_ok (hin' hq); omega
      next hq => rw [hout' hq, hrest _ (by decide), hs]; rfl
  next hreq =>
    simp only [Bool.or_eq_true, not_or] at hreq
    cases h
    refine ⟨?_,?_,fun _ _ _ => rfl⟩
    · rw [processValue, if_neg hreq.1, hf]
      rfl
    · rw [processValue, if_neg hreq.2, hs]
      rfl

/-- The counters a successful read publishes. -/
def published (host : Host) (s : PlatformSampler) (r : Replies) : MetricId → ℕ :=
  match s.scope with
  | .currentThread => threadValue host r
  | .currentProcess => processValue host s.metrics r

/-- A read keeps no state, and on success publishes a function of the replies. -/
theorem read_published (host : Host) (s : PlatformSampler) (r : Replies) :
    (platformSamplerRead host s r).1 = s ∧
    ((platformSamplerRead host s r).2.succeeded = true →
      (platformSamplerRead host s r).2.snapshot.toNat = published host s r) := by
  unfold platformSamplerRead published
  dsimp only
  cases hscope : s.scope with
  | currentThread =>
    dsimp only
    split
    · simp
    next x hx => exact ⟨rfl,fun _ => readThread_ok hx⟩
  | currentProcess =>
    dsimp only
    split
    · simp
    next timed ht =>
    refine ⟨rfl,fun hok => ?_⟩
    obtain ⟨htime,hcycles,hrest⟩ := readProcessTimes_ok ht
    obtain ⟨hfaults,hswitches,hrest'⟩ := readProcessCounts_ok host (ReadOutcome.eq_of_succeeded hok)
      (hrest _ (by decide) (by decide)) (hrest _ (by decide) (by decide))
    funext m
    cases m with
    | cpuTime => exact (congrArg _ (hrest' _ (by decide) (by decide))).trans htime
    | cpuCycles => exact (congrArg _ (hrest' _ (by decide) (by decide))).trans hcycles
    | pageFaults => exact hfaults
    | contextSwitches => exact hswitches
    | instructions =>
      have h := (hrest' .instructions (by decide) (by decide)).trans
        (hrest _ (by decide) (by decide))
      simp [Snapshot.toNat,processValue,h]

end Perfidious.Darwin
