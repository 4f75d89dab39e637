import Perfidious.LowLevel.ResourceUsage

/-! The low-level resource usage on Darwin (`darwin/functions.c`), and how it compares with a sampler
that gets the same native answers. -/
namespace Perfidious.Darwin
open Library

/-- `Perfidious\Darwin\ThreadResourceUsage`. -/
structure ThreadResourceUsageObj where
  userTimeNs : ℤ
  systemTimeNs : ℤ
  instructionCount : ℤ
  cycleCount : ℤ
  deriving DecidableEq, Repr

/-- `perfidious_darwin_get_current_thread_resource_usage`. -/
def getCurrentThreadResourceUsage (host : Host) (r : Replies) : Except Error ThreadResourceUsageObj := do
  let usage ← readCurrentThreadResourceUsage host r
  let userTime ← uint64ToZendLong "thread user time" usage.userTimeNs
  let systemTime ← uint64ToZendLong "thread system time" usage.systemTimeNs
  let instructions ← uint64ToZendLong "thread instruction count" usage.instructions
  let cycles ← uint64ToZendLong "thread cycle count" usage.cycles
  .ok ⟨userTime,systemTime,instructions,cycles⟩

/-- An exception for a value that is no PHP integer. -/
def TooLarge (fields : List (String × UInt64)) (e : Error) : Prop :=
  ∃ field ∈ fields, zendLongMax < field.2.toNat ∧ e = valueTooLarge field.1 field.2

def threadFields (usage : ThreadResourceUsage) : List (String × UInt64) :=
  [("thread user time",usage.userTimeNs),("thread system time",usage.systemTimeNs),
    ("thread instruction count",usage.instructions),("thread cycle count",usage.cycles)]

def processFields (host : Host) (usage : RusageInfo) (basic : Rusage) : List (String × UInt64) :=
  [("user time",UInt64.ofNat (ticks host usage.userTime)),
    ("system time",UInt64.ofNat (ticks host usage.systemTime)),
    ("minor page fault count",basic.minflt.toUInt64),("major page fault count",basic.majflt.toUInt64),
    ("voluntary context switch count",basic.nvcsw.toUInt64),
    ("involuntary context switch count",basic.nivcsw.toUInt64),
    ("instruction count",usage.instructions),("cycle count",usage.cycles)]

theorem error_of_bind {α β : Type} {x : Except Error α} {f : α → Except Error β} {e : Error}
    (h : x >>= f = .error e) : x = .error e ∨ ∃ a, x = .ok a ∧ f a = .error e := by
  cases x with
  | error e' =>
    cases h
    exact .inl rfl
  | ok a => exact .inr ⟨a,rfl,h⟩

/-- One conversion in a row: the row fails here, or goes on. -/
theorem TooLarge.of_bind {α : Type} {fields : List (String × UInt64)} {name : String} {value : UInt64}
    {f : ℤ → Except Error α} {e : Error} (hfield : (name,value) ∈ fields)
    (hrest : ∀ long, f long = .error e → TooLarge fields e)
    (h : uint64ToZendLong name value >>= f = .error e) : TooLarge fields e := by
  obtain herror | ⟨long,-,hlong⟩ := error_of_bind h
  · unfold uint64ToZendLong at herror
    split at herror
    next hlarge =>
      cases herror
      exact ⟨(name,value),hfield,hlarge,rfl⟩
    · cases herror
  · exact hrest long hlong

theorem uint64ToZendLong_fits {name : String} {value : UInt64} {long : ℤ}
    (h : uint64ToZendLong name value = .ok long) : value.toNat ≤ zendLongMax := by
  unfold uint64ToZendLong at h
  split at h
  · cases h
  next hfits => exact not_lt.mp hfits

/-- The count that a native count of a PHP integer's size is. -/
theorem toInt_of_fits {count : Int64} (h : count.toUInt64.toNat ≤ zendLongMax) :
    count.toInt = count.toUInt64.toNat := by
  have hcond := BitVec.toInt_eq_toNat_cond count.toBitVec
  have hbits : count.toUInt64.toNat = count.toBitVec.toNat := rfl
  have hint : count.toInt = count.toBitVec.toInt := rfl
  rw [hbits] at h ⊢
  unfold zendLongMax at h
  rw [hint, hcond, if_pos (by omega)]

theorem getCurrentThreadResourceUsage_cases {host : Host} {r : Replies} {usage : ThreadResourceUsage}
    (h : readCurrentThreadResourceUsage host r = .ok usage) :
    getCurrentThreadResourceUsage host r =
        .ok ⟨usage.userTimeNs.toNat,usage.systemTimeNs.toNat,usage.instructions.toNat,usage.cycles.toNat⟩ ∨
      ∃ e, getCurrentThreadResourceUsage host r = .error e ∧ TooLarge (threadFields usage) e := by
  generalize hresult : getCurrentThreadResourceUsage host r = result
  unfold getCurrentThreadResourceUsage at hresult
  rw [h] at hresult
  change (uint64ToZendLong "thread user time" usage.userTimeNs >>= _) = _ at hresult
  cases result with
  | ok obj =>
    obtain ⟨user,huser,hresult⟩ := ok_of_bind hresult
    obtain ⟨system,hsystem,hresult⟩ := ok_of_bind hresult
    obtain ⟨instructions,hinstructions,hresult⟩ := ok_of_bind hresult
    obtain ⟨cycles,hcycles,hresult⟩ := ok_of_bind hresult
    cases hresult
    rw [uint64ToZendLong_ok huser, uint64ToZendLong_ok hsystem, uint64ToZendLong_ok hinstructions,
      uint64ToZendLong_ok hcycles]
    exact .inl rfl
  | error e =>
    refine .inr ⟨e,rfl,?_⟩
    revert hresult
    refine TooLarge.of_bind (by simp [threadFields]) fun _ => ?_
    refine TooLarge.of_bind (by simp [threadFields]) fun _ => ?_
    refine TooLarge.of_bind (by simp [threadFields]) fun _ => ?_
    refine TooLarge.of_bind (by simp [threadFields]) fun _ hresult => ?_
    cases hresult

section
variable {host : Host} {processUsage : Reply RusageInfo} {basicUsage : Reply Rusage}

/-- The counts of a low-level snapshot of the process. -/
theorem getCurrentProcessResourceUsage_counts {usage : ProcessResourceUsage}
    (h : getCurrentProcessResourceUsage host processUsage basicUsage = .ok usage) :
    (usage.minorPageFaultCount + usage.majorPageFaultCount =
        (basicUsage.value.minflt.toInt + basicUsage.value.majflt.toInt).toNat) ∧
      (usage.voluntaryContextSwitchCount + usage.involuntaryContextSwitchCount =
        (basicUsage.value.nvcsw.toInt + basicUsage.value.nivcsw.toInt).toNat) ∧
      usage.cycleCount = processUsage.value.cycles.toNat := by
  have hsum : ∀ {name name' : String} {count count' : Int64} {long long' : ℤ},
      uint64ToZendLong name count.toUInt64 = .ok long →
      uint64ToZendLong name' count'.toUInt64 = .ok long' →
      long + long' = (count.toInt + count'.toInt).toNat := by
    intro name name' count count' long long' hlong hlong'
    have hcount := toInt_of_fits (uint64ToZendLong_fits hlong)
    have hcount' := toInt_of_fits (uint64ToZendLong_fits hlong')
    rw [uint64ToZendLong_ok hlong, uint64ToZendLong_ok hlong', hcount, hcount']
    omega
  unfold getCurrentProcessResourceUsage at h
  split at h
  · cases h
  split at h
  · cases h
  obtain ⟨_,-,h⟩ := ok_of_bind h
  obtain ⟨_,-,h⟩ := ok_of_bind h
  obtain ⟨_,-,h⟩ := ok_of_bind h
  obtain ⟨_,-,h⟩ := ok_of_bind h
  obtain ⟨minflt,hminflt,h⟩ := ok_of_bind h
  obtain ⟨majflt,hmajflt,h⟩ := ok_of_bind h
  obtain ⟨nvcsw,hnvcsw,h⟩ := ok_of_bind h
  obtain ⟨nivcsw,hnivcsw,h⟩ := ok_of_bind h
  obtain ⟨_,-,h⟩ := ok_of_bind h
  obtain ⟨cycles,hcycles,h⟩ := ok_of_bind h
  cases h
  exact ⟨hsum hminflt hmajflt,hsum hnvcsw hnivcsw,uint64ToZendLong_ok hcycles⟩

/-- Where the native calls succeed and the times can be converted, a low-level snapshot of the process
only fails on a value that is no PHP integer. -/
theorem getCurrentProcessResourceUsage_error (hprocess : processUsage.error = 0)
    (hbasic : basicUsage.error = 0) {user system : UInt64}
    (huser : machTimeToNs host.timebase processUsage.value.userTime = .ok user)
    (hsystem : machTimeToNs host.timebase processUsage.value.systemTime = .ok system) {e : Error}
    (h : getCurrentProcessResourceUsage host processUsage basicUsage = .error e) :
    TooLarge (processFields host processUsage.value basicUsage.value) e := by
  have huserTicks : user = UInt64.ofNat (ticks host processUsage.value.userTime) := by
    rw [ticks, ← machTimeToNs_eq_ok huser, UInt64.ofNat_toNat]
  have hsystemTicks : system = UInt64.ofNat (ticks host processUsage.value.systemTime) := by
    rw [ticks, ← machTimeToNs_eq_ok hsystem, UInt64.ofNat_toNat]
  unfold getCurrentProcessResourceUsage at h
  rw [if_neg (not_not.mpr hprocess), if_neg (not_not.mpr hbasic), huser, hsystem] at h
  change (uint64ToZendLong "user time" user >>= _) = _ at h
  revert h
  refine TooLarge.of_bind (by simp [processFields,huserTicks]) fun _ => ?_
  refine TooLarge.of_bind (by simp [processFields,hsystemTicks]) fun _ => ?_
  refine TooLarge.of_bind (by simp [processFields]) fun _ => ?_
  refine TooLarge.of_bind (by simp [processFields]) fun _ => ?_
  refine TooLarge.of_bind (by simp [processFields]) fun _ => ?_
  refine TooLarge.of_bind (by simp [processFields]) fun _ => ?_
  refine TooLarge.of_bind (by simp [processFields]) fun _ => ?_
  refine TooLarge.of_bind (by simp [processFields]) fun _ h => ?_
  cases h

end

/-- The usage that a thread read has found, and the CPU time that it has stored. -/
theorem readThread_usage {host : Host} {s : PlatformSampler} {r : Replies} {x y : Snapshot}
    (h : readThread host s r x = .ok y) :
    ∃ usage, readCurrentThreadResourceUsage host r = .ok usage ∧
      (y .cpuTime).toNat = usage.userTimeNs.toNat + usage.systemTimeNs.toNat := by
  unfold readThread at h
  split at h
  · cases h
  split at h
  · cases h
  split at h
  · cases h
  next usage husage => exact ⟨usage,husage,(storeCpuTime_ok h).1⟩

/-- The native calls and conversions of the time that a process read has made. -/
theorem readProcessTimes_calls {host : Host} {metrics : UInt32} {r : Reply RusageInfo} {x y : Snapshot}
    (h : readProcessTimes host metrics r x = .ok y)
    (hreq : requests metrics MetricId.cpuTime.mask = true) :
    r.error = 0 ∧ ∃ user system, machTimeToNs host.timebase r.value.userTime = .ok user ∧
      machTimeToNs host.timebase r.value.systemTime = .ok system := by
  unfold readProcessTimes at h
  rw [requests_or, hreq, Bool.true_or, if_pos rfl] at h
  split at h
  · cases h
  next usage husage =>
  have herror : r.error = 0 := by
    unfold readProcessUsage at husage
    by_contra herror
    rw [if_pos herror] at husage
    cases husage
  split at h
  · cases h
  next timed htimed =>
  rw [readProcessUsage_ok husage, storeProcessTime, if_pos hreq] at htimed
  split at htimed
  · cases htimed
  next user huser =>
  split at htimed
  · cases htimed
  next system hsystem => exact ⟨herror,user,system,huser,hsystem⟩

theorem readProcessCounts_call {metrics : UInt32} {r : Reply Rusage} {x : Snapshot}
    (h : (readProcessCounts metrics r x).succeeded = true)
    (hreq : requests metrics (MetricId.pageFaults.mask ||| MetricId.contextSwitches.mask) = true) :
    r.error = 0 := by
  by_contra herror
  unfold readProcessCounts at h
  rw [if_pos hreq, if_pos herror] at h
  cases h

/-- The sampler and the low-level snapshots agree. When a read succeeds, then the low-level function of
its scope that gets the same native answers returns, of the metrics that the read asked for, times that
add up to the CPU time read, and for a process faults and switches that add up to those read and the
cycles read. For a thread it only throws for a value that is no PHP integer; for a process so it does if
the read asked for the CPU time and called `getrusage`, for page faults or context switches. A read
without the CPU time does not need the timebase, which the low-level function may find invalid. -/
theorem resource_usage_agrees (host : Host) (s : PlatformSampler) (r : Replies) {x : Snapshot}
    (hx : (platformSamplerRead host s r).2.published = some x) :
    (s.scope = .currentThread → ∃ usage, readCurrentThreadResourceUsage host r = .ok usage ∧
      (x .cpuTime).toNat = usage.userTimeNs.toNat + usage.systemTimeNs.toNat ∧
      (getCurrentThreadResourceUsage host r = .ok ⟨usage.userTimeNs.toNat,usage.systemTimeNs.toNat,
          usage.instructions.toNat,usage.cycles.toNat⟩ ∨
        ∃ e, getCurrentThreadResourceUsage host r = .error e ∧ TooLarge (threadFields usage) e)) ∧
    (s.scope = .currentProcess →
      (∀ usage, getCurrentProcessResourceUsage host r.processUsage r.rusage = .ok usage →
        (requests s.metrics MetricId.cpuTime.mask = true →
          ((x .cpuTime).toNat : ℤ) = usage.userTimeNs + usage.systemTimeNs) ∧
        (requests s.metrics MetricId.pageFaults.mask = true →
          ((x .pageFaults).toNat : ℤ) = usage.minorPageFaultCount + usage.majorPageFaultCount) ∧
        (requests s.metrics MetricId.contextSwitches.mask = true → ((x .contextSwitches).toNat : ℤ) =
          usage.voluntaryContextSwitchCount + usage.involuntaryContextSwitchCount) ∧
        (requests s.metrics MetricId.cpuCycles.mask = true →
          ((x .cpuCycles).toNat : ℤ) = usage.cycleCount)) ∧
      (requests s.metrics MetricId.cpuTime.mask = true →
        requests s.metrics (MetricId.pageFaults.mask ||| MetricId.contextSwitches.mask) = true →
        ∀ e, getCurrentProcessResourceUsage host r.processUsage r.rusage = .error e →
          TooLarge (processFields host r.processUsage.value r.rusage.value) e)) := by
  obtain ⟨hok,rfl⟩ := ReadOutcome.published_eq_some_iff.mp hx
  have hpublished := (read_published host s r).2 hok
  constructor
  · intro hscope
    unfold platformSamplerRead at hok ⊢
    rw [hscope] at hok ⊢
    dsimp only at hok ⊢
    cases hread : readThread host s r fun _ => 0 with
    | error e =>
      rw [hread] at hok
      cases hok
    | ok snapshot =>
      rw [hread] at hok
      obtain ⟨usage,husage,htime⟩ := readThread_usage hread
      exact ⟨usage,husage,htime,getCurrentThreadResourceUsage_cases husage⟩
  · intro hscope
    have hvalue : ∀ m, ((platformSamplerRead host s r).2.snapshot m).toNat =
        processValue host s.metrics r m := by
      intro m
      have := congrFun hpublished m
      rw [published, hscope] at this
      exact this
    constructor
    · intro usage husage
      obtain ⟨huser,hsystem⟩ := getCurrentProcessResourceUsage_times husage
      obtain ⟨hfaults,hswitches,hcycles⟩ := getCurrentProcessResourceUsage_counts husage
      refine ⟨fun hreq => ?_,fun hreq => ?_,fun hreq => ?_,fun hreq => ?_⟩
      · rw [hvalue, processValue, if_pos hreq, huser, hsystem]
        exact Nat.cast_add _ _
      · rw [hvalue, processValue, if_pos hreq, hfaults]
      · rw [hvalue, processValue, if_pos hreq, hswitches]
      · rw [hvalue, processValue, if_pos hreq, hcycles]
    · intro htime hcounts e he
      unfold platformSamplerRead at hok
      rw [hscope] at hok
      dsimp only at hok
      cases hread : readProcessTimes host s.metrics r.processUsage fun _ => 0 with
      | error e =>
        rw [hread] at hok
        cases hok
      | ok timed =>
        rw [hread] at hok
        obtain ⟨hprocess,user,system,huser,hsystem⟩ := readProcessTimes_calls hread htime
        exact getCurrentProcessResourceUsage_error hprocess (readProcessCounts_call hok hcounts) huser
          hsystem he

/-- A process whose cycle count is no PHP integer. -/
def manyCycles : Replies :=
  { ratioReplies with processUsage := ⟨0,⟨18000000,6000000,34,9223372036854775808⟩⟩ }

def allMetrics : PlatformSampler :=
  ⟨15,.currentProcess,0⟩

theorem resource_usage_agrees_many :
    ∃ e, getCurrentProcessResourceUsage ratioHost manyCycles.processUsage manyCycles.rusage = .error e ∧
      TooLarge (processFields ratioHost manyCycles.processUsage.value manyCycles.rusage.value) e := by
  have hpublished : (platformSamplerRead ratioHost allMetrics manyCycles).2.published =
      some (platformSamplerRead ratioHost allMetrics manyCycles).2.snapshot :=
    ReadOutcome.published_eq_some_iff.mpr ⟨by decide,rfl⟩
  have herror : (getCurrentProcessResourceUsage ratioHost manyCycles.processUsage
      manyCycles.rusage).toOption = none := by decide
  cases he : getCurrentProcessResourceUsage ratioHost manyCycles.processUsage manyCycles.rusage with
  | ok usage =>
    rw [he] at herror
    cases herror
  | error e =>
    exact ⟨e,rfl,((resource_usage_agrees ratioHost allMetrics manyCycles hpublished).2 rfl).2 (by decide)
      (by decide) e he⟩

end Perfidious.Darwin
