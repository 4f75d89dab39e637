import Perfidious.Sampler.Linux
import Perfidious.Sampler.Darwin
import Perfidious.Sampler.WindowsRun
import Perfidious.Sampler.Monotone

/-! No backend lets a cumulative metric go backwards, and what follows for samplers and samples. -/
namespace Perfidious
open Library

/-- The exceptions by which `Sampler::read` reports a counter or the clock moving backwards. -/
def MovedBackwards (e : Error) : Prop := e = clockBackwards ∨ ∃ m, e = counterBackwards m

theorem Snapshot.below_iff {x y : Snapshot} : x.Below y ↔ x.toNat ≤ y.toNat :=
  forall_congr' fun _ => UInt64.le_iff_toNat_le

/-- Snapshots that a rising mark separates follow one another upwards. -/
theorem snapshots_below {σ ρ : Type} {step : σ → ρ → σ × ReadOutcome} {I : σ → Prop}
    {P : σ → ρ → Prop} (mark : σ → WithBot (MetricId → ℕ))
    (hinv : ∀ s r, I s → P s r → I (step s r).1)
    (hmark : ∀ s r, I s → P s r → mark s ≤ mark (step s r).1)
    (hvalue : ∀ s r, I s → P s r → (step s r).2.succeeded = true →
      mark s ≤ ((step s r).2.snapshot.toNat : WithBot (MetricId → ℕ)) ∧
      ((step s r).2.snapshot.toNat : WithBot (MetricId → ℕ)) ≤ mark (step s r).1)
    {s : σ} {calls : List ρ} (hs : I s) (hp : Along step P s calls) :
    ((outputs step s calls).filterMap ReadOutcome.published).Pairwise Snapshot.Below := by
  have h := (outputs_pairwise step mark (fun o => o.published.map Snapshot.toNat) hinv hmark
    (fun s r v hI hP hv => ?_) hs hp).1
  · rw [← List.map_filterMap, List.pairwise_map] at h
    exact h.imp Snapshot.below_iff.mpr
  · obtain ⟨x,hx,rfl⟩ := Option.map_eq_some_iff.mp hv
    obtain ⟨hok,rfl⟩ := ReadOutcome.published_eq_some_iff.mp hx
    exact hvalue s r hI hP hok

namespace Linux

def totals (s : PlatformSampler) (m : MetricId) : ℕ := (s.counters m).total.toNat

theorem Accepted.total_le {int128 : Bool} {c : Counter} {r : RawRead} {scaled : UInt64}
    (h : Accepted int128 c r scaled) : c.total ≤ c.total + scaled := by
  have := h.fits
  have := toNat_le_uint64Max c.total
  rw [UInt64.le_iff_toNat_le, toNat_add_of_lt]
  · omega
  · by_contra hn
    have := (gt_uint64Max_sub_iff scaled c.total).mpr (by omega)
    grind

/-- A read never lowers a total, and a successful one publishes the totals. -/
theorem read_totals (int128 : Bool) (s : PlatformSampler) (snapshot : Snapshot) (r : Replies) :
    totals s ≤ totals (platformSamplerRead int128 s snapshot r).1 ∧
    ((platformSamplerRead int128 s snapshot r).2.succeeded = true →
      (platformSamplerRead int128 s snapshot r).2.snapshot.toNat =
        totals (platformSamplerRead int128 s snapshot r).1) := by
  rcases platformSamplerRead_cases int128 s snapshot r with ⟨e,he⟩ | ⟨-,s',hloop,he⟩
  · simp [he]
  · rw [he]
    refine ⟨fun m => ?_,fun _ => rfl⟩
    have hturn := (readCounters_ok MetricId.nodup_all hloop).1 m (MetricId.mem_all m)
    unfold totals
    by_cases hf : (s.counters m).fd < 0
    · rw [readCounter, if_pos hf] at hturn
      rw [Except.ok.inj hturn]
    · obtain ⟨scaled,ha,hc⟩ := (readCounter_requested (by omega)).mp hturn
      rw [hc]
      exact UInt64.le_iff_toNat_le.mp ha.total_le

theorem published_below (int128 : Bool) (s : PlatformSampler) (calls : List (Snapshot × Replies)) :
    ((outputs (readStep int128) s calls).filterMap ReadOutcome.published).Pairwise
      Snapshot.Below := by
  refine snapshots_below (I := fun _ => True) (fun s => (totals s : WithBot (MetricId → ℕ)))
    (fun _ _ _ _ => trivial) ?_ ?_ trivial (along_true _ _ _)
  · intro s call _ _
    exact WithBot.coe_le_coe.mpr (read_totals int128 s call.1 call.2).1
  · intro s call _ _ hok
    obtain ⟨hle,heq⟩ := read_totals int128 s call.1 call.2
    exact ⟨WithBot.coe_le_coe.mpr (hle.trans (heq hok).ge),WithBot.coe_le_coe.mpr (heq hok).le⟩

theorem Refusal.not_movedBackwards {m : MetricId} {r : RawRead} {e : Error} (h : Refusal m r e) :
    ¬ MovedBackwards e := by
  cases h <;> simp [MovedBackwards,samplerError,counterOverflow,clockBackwards,counterBackwards]

theorem read_error {int128 : Bool} {s : PlatformSampler} {snapshot : Snapshot} {r : Replies}
    {e : Error} (h : (platformSamplerRead int128 s snapshot r).2.result = .error e) :
    ¬ MovedBackwards e := by
  rcases read_refused h with rfl | ⟨_,m,_,-,-,-,hrefusal⟩
  · simp [MovedBackwards,wrongThread,clockBackwards,counterBackwards]
  · exact hrefusal.not_movedBackwards

end Linux

namespace Darwin

/-- The native counters behind the requested metrics stand no lower in the second call, and the
same native source answered both times. -/
def NoLater (host : Host) (s : PlatformSampler) (r r' : Replies) : Prop :=
  match s.scope with
  | .currentThread =>
    usesSelfcounts host r = usesSelfcounts host r' ∧
    if usesSelfcounts host r then
      r.selfcounts.value.userTimeMach ≤ r'.selfcounts.value.userTimeMach ∧
      r.selfcounts.value.systemTimeMach ≤ r'.selfcounts.value.systemTimeMach
    else
      r.threadInfo.value.1.total ≤ r'.threadInfo.value.1.total ∧
      r.threadInfo.value.2.total ≤ r'.threadInfo.value.2.total
  | .currentProcess =>
    (requests s.metrics MetricId.cpuTime.mask = true →
      r.processUsage.value.userTime ≤ r'.processUsage.value.userTime ∧
      r.processUsage.value.systemTime ≤ r'.processUsage.value.systemTime) ∧
    (requests s.metrics MetricId.cpuCycles.mask = true →
      r.processUsage.value.cycles ≤ r'.processUsage.value.cycles) ∧
    (requests s.metrics MetricId.pageFaults.mask = true →
      r.rusage.value.minflt ≤ r'.rusage.value.minflt ∧ r.rusage.value.majflt ≤ r'.rusage.value.majflt) ∧
    (requests s.metrics MetricId.contextSwitches.mask = true →
      r.rusage.value.nvcsw ≤ r'.rusage.value.nvcsw ∧ r.rusage.value.nivcsw ≤ r'.rusage.value.nivcsw)

theorem ticks_le (host : Host) {a b : UInt64} (h : a ≤ b) : ticks host a ≤ ticks host b :=
  Nat.div_le_div_right (Nat.mul_le_mul_right _ (UInt64.le_iff_toNat_le.mp h))

/-- Rounding each field down separately keeps the published sums in the order of the sources. -/
theorem published_le {host : Host} {s : PlatformSampler} {r r' : Replies}
    (h : NoLater host s r r') : published host s r ≤ published host s r' := by
  intro m
  unfold NoLater at h
  unfold published
  cases hscope : s.scope with
  | currentThread =>
    simp only [hscope] at h
    obtain ⟨hsame,hle⟩ := h
    cases m with
    | cpuTime =>
      unfold threadValue
      rw [← hsame]
      split at hle
      next hself =>
        rw [if_pos hself, if_pos hself]
        exact Nat.add_le_add (ticks_le host hle.1) (ticks_le host hle.2)
      next hself =>
        rw [if_neg hself, if_neg hself]
        exact Int.toNat_le_toNat (by omega)
    | _ => exact le_rfl
  | currentProcess =>
    simp only [hscope, Int64.le_iff_toInt_le] at h
    obtain ⟨htime,hcycles,hfaults,hswitches⟩ := h
    unfold processValue
    dsimp only
    by_cases hreq : requests s.metrics m.mask = true
    · rw [if_pos hreq, if_pos hreq]
      cases m with
      | cpuTime => exact Nat.add_le_add (ticks_le host (htime hreq).1) (ticks_le host (htime hreq).2)
      | cpuCycles => exact UInt64.le_iff_toNat_le.mp (hcycles hreq)
      | pageFaults =>
        have := hfaults hreq
        dsimp only
        omega
      | contextSwitches =>
        have := hswitches hreq
        dsimp only
        omega
      | instructions => exact le_rfl
    · rw [if_neg hreq, if_neg hreq]

/-- The latest successful replies as a mark. -/
def level (host : Host) (x : PlatformSampler × Option Replies) : WithBot (MetricId → ℕ) :=
  match x.2 with
  | none => ⊥
  | some r => (published host x.1 r : MetricId → ℕ)

theorem published_below (host : Host) (s : PlatformSampler) {calls : List Replies}
    (h : Rising (platformSamplerRead host) ReadOutcome.succeeded (NoLater host s) s calls) :
    ((outputs (platformSamplerRead host) s calls).filterMap ReadOutcome.published).Pairwise
      Snapshot.Below := by
  rw [← outputs_remembering (platformSamplerRead host) ReadOutcome.succeeded s none]
  have hvalue : ∀ (x : PlatformSampler × Option Replies) (r : Replies), x.1 = s →
      ((platformSamplerRead host x.1 r).2.succeeded = true → ∀ j ∈ x.2, NoLater host s j r) →
      (platformSamplerRead host x.1 r).2.succeeded = true →
      level host x ≤ ((platformSamplerRead host x.1 r).2.snapshot.toNat : WithBot (MetricId → ℕ)) := by
    rintro ⟨t,last⟩ r rfl hp hok
    rw [(read_published host t r).2 hok]
    cases last with
    | none => exact bot_le
    | some j => exact WithBot.coe_le_coe.mpr (published_le (hp hok j rfl))
  refine snapshots_below (I := fun x => x.1 = s) (level host) ?_ ?_ ?_ rfl h
  · intro x r hx _
    exact (read_published host x.1 r).1.trans hx
  · intro x r hx hp
    cases hok : (platformSamplerRead host x.1 r).2.succeeded with
    | true =>
      apply (hvalue x r hx hp hok).trans
      simp [level,remembering,hok,(read_published host x.1 r).1,(read_published host x.1 r).2 hok]
    | false => simp [level,remembering,hok,(read_published host x.1 r).1]
  · intro x r hx hp hok
    refine ⟨hvalue x r hx hp hok,?_⟩
    change (platformSamplerRead host x.1 r).2.succeeded = true at hok
    simp [level,remembering,hok,(read_published host x.1 r).1,(read_published host x.1 r).2 hok]

theorem machTimeToNs_error {timebase : Timebase} {value : UInt64} {e : Error}
    (h : machTimeToNs timebase value = .error e) : ¬ MovedBackwards e := by
  unfold machTimeToNs at h
  dsimp only at h
  split_ifs at h <;> cases h <;>
    simp [MovedBackwards,io,overflow,clockBackwards,counterBackwards]

theorem timeValueToNs_error {value : TimeValue} {e : Error}
    (h : timeValueToNs value = .error e) : ¬ MovedBackwards e := by
  unfold timeValueToNs at h
  dsimp only at h
  split_ifs at h <;> cases h <;>
    simp [MovedBackwards,io,overflow,clockBackwards,counterBackwards]

theorem storeCpuTime_error {user system : UInt64} {x : Snapshot} {e : Error}
    (h : storeCpuTime user system x = .error e) : ¬ MovedBackwards e := by
  unfold storeCpuTime at h
  split_ifs at h
  cases h
  simp [MovedBackwards,overflow,clockBackwards,counterBackwards]

theorem readCurrentThreadResourceUsage_error {host : Host} {r : Replies} {e : Error}
    (h : readCurrentThreadResourceUsage host r = .error e) : ¬ MovedBackwards e := by
  unfold readCurrentThreadResourceUsage at h
  dsimp only at h
  split_ifs at h
  · split at h
    next he => cases h; exact machTimeToNs_error he
    split at h
    next he => cases h; exact machTimeToNs_error he
    · cases h
  all_goals
    first
    | (cases h; simp [MovedBackwards,throwErrno,throwMach,clockBackwards,counterBackwards])
    | (split at h
       next he => cases h; exact timeValueToNs_error he
       split at h
       next he => cases h; exact timeValueToNs_error he
       · cases h)

theorem readThread_error {host : Host} {s : PlatformSampler} {r : Replies} {x : Snapshot} {e : Error}
    (h : readThread host s r x = .error e) : ¬ MovedBackwards e := by
  unfold readThread at h
  split at h
  next he =>
    cases h
    unfold getCurrentThreadId at he
    split_ifs at he
    cases he
    simp [MovedBackwards,throwErrno,clockBackwards,counterBackwards]
  split at h
  · cases h
    simp [MovedBackwards,wrongThread,clockBackwards,counterBackwards]
  split at h
  next he =>
    cases h
    exact readCurrentThreadResourceUsage_error he
  · exact storeCpuTime_error h

theorem readProcessTimes_error {host : Host} {metrics : UInt32} {r : Reply RusageInfo} {x : Snapshot}
    {e : Error} (h : readProcessTimes host metrics r x = .error e) : ¬ MovedBackwards e := by
  unfold readProcessTimes at h
  split at h
  · split at h
    next he =>
      cases h
      unfold readProcessUsage at he
      split_ifs at he
      cases he
      simp [MovedBackwards,samplerErrno,clockBackwards,counterBackwards]
    split at h
    next he =>
      cases h
      unfold storeProcessTime at he
      split at he
      · split at he
        next he => cases he; exact machTimeToNs_error (by assumption)
        split at he
        next he => cases he; exact machTimeToNs_error (by assumption)
        · exact storeCpuTime_error he
      · cases he
    · cases h
  · cases h

theorem storeProcessCount_error {metrics : UInt32} {metric : MetricId} {negative overflowed : String}
    {a b : Int64} {x : Snapshot} {e : Error}
    (h : storeProcessCount metrics metric (sumCounts (io negative) (overflow overflowed) a b) x =
      .error e) (hn : negative ≠ "Monotonic clock moved backwards") : ¬ MovedBackwards e := by
  unfold storeProcessCount at h
  split at h
  · split at h
    next he =>
      cases h
      unfold sumCounts at he
      split_ifs at he <;> cases he <;>
        simp [MovedBackwards,io,overflow,clockBackwards,counterBackwards,hn]
    · cases h
  · cases h

theorem readProcessCounts_error {metrics : UInt32} {r : Reply Rusage} {x : Snapshot} {e : Error}
    (h : (readProcessCounts metrics r x).result = .error e) : ¬ MovedBackwards e := by
  unfold readProcessCounts at h
  split at h
  · split at h
    · cases h
      simp [MovedBackwards,samplerErrno,clockBackwards,counterBackwards]
    split at h
    next he =>
      cases h
      exact storeProcessCount_error he (by decide)
    split at h
    next he =>
      cases h
      exact storeProcessCount_error he (by decide)
    · cases h
  · cases h

theorem read_error {host : Host} {s : PlatformSampler} {r : Replies} {e : Error}
    (h : (platformSamplerRead host s r).2.result = .error e) : ¬ MovedBackwards e := by
  unfold platformSamplerRead at h
  dsimp only at h
  split at h
  · split at h
    next he =>
      cases h
      exact readThread_error he
    · cases h
  · split at h
    next he =>
      cases h
      exact readProcessTimes_error he
    · exact readProcessCounts_error h

end Darwin

namespace Windows

/-- The FILETIMEs and cycle counts behind the requested metrics stand no lower in the second call;
the 32-bit counts are arbitrary. -/
def NoLater (s : PlatformSampler) (r r' : Replies) : Prop :=
  (requests s.metrics MetricId.cpuTime.mask = true →
    filetimeToUint64 r.times.value.1 ≤ filetimeToUint64 r'.times.value.1 ∧
    filetimeToUint64 r.times.value.2 ≤ filetimeToUint64 r'.times.value.2) ∧
  (requests s.metrics MetricId.cpuCycles.mask = true → sourceCycles s r ≤ sourceCycles s r')

theorem NoLater.refl (s : PlatformSampler) (r : Replies) : NoLater s r r :=
  ⟨fun _ => ⟨UInt64.le_refl _,UInt64.le_refl _⟩,fun _ => le_rfl⟩

/-- No read lowers a level. -/
theorem levels_le {s : PlatformSampler} (hs : Sound s) (r : Replies) {j k : Replies}
    (h : NoLater s j k) : levels s j ≤ levels (platformSamplerRead s r).1 k := by
  intro m
  obtain ⟨hmetrics,hscope⟩ := read_kept s r
  unfold levels
  rw [hmetrics]
  by_cases hreq : requests s.metrics m.mask = true
  · rw [if_pos hreq, if_pos hreq]
    cases m with
    | cpuTime =>
      obtain ⟨hk,hu⟩ := h.1 hreq
      exact Nat.mul_le_mul_right _
        (Nat.add_le_add (UInt64.le_iff_toNat_le.mp hk) (UInt64.le_iff_toNat_le.mp hu))
    | cpuCycles =>
      have hc := h.2 hreq
      unfold sourceCycles at hc ⊢
      rwa [hscope]
    | pageFaults =>
      rcases read_pageFaults s r with ⟨-,-,he,-⟩ | ⟨-,-,c,hw,hc,-⟩ | ⟨-,-,hc,-⟩
      · rw [he]
      · rw [hc]; exact widen_value_le hs.1 hw
      · rw [hc]
    | contextSwitches =>
      rcases read_contextSwitches s r with ⟨-,-,hc,-⟩ | ⟨-,-,-,hc⟩ | ⟨-,-,⟨-,hw,-⟩ | ⟨-,hc⟩⟩
      · rw [hc]
      · rw [hc]
      · exact widen_value_le hs.2 hw
      · rw [hc]
    | instructions => exact le_rfl
  · rw [if_neg hreq, if_neg hreq]

/-- The levels as a mark, once a read has succeeded. -/
def level (x : PlatformSampler × Option Replies) : WithBot (MetricId → ℕ) :=
  match x.2 with
  | none => ⊥
  | some r => (levels x.1 r : MetricId → ℕ)

theorem published_below {s : PlatformSampler} (hs : Sound s) {calls : List Replies}
    (h : Rising platformSamplerRead ReadOutcome.succeeded (NoLater s) s calls) :
    ((outputs platformSamplerRead s calls).filterMap ReadOutcome.published).Pairwise
      Snapshot.Below := by
  rw [← outputs_remembering platformSamplerRead ReadOutcome.succeeded s none]
  have hnext : ∀ (x : PlatformSampler × Option Replies) (r : Replies),
      Sound x.1 ∧ x.1.metrics = s.metrics ∧ x.1.scope = s.scope →
      ((platformSamplerRead x.1 r).2.succeeded = true → ∀ j ∈ x.2, NoLater s j r) →
      (platformSamplerRead x.1 r).2.succeeded = true →
      level x ≤ (levels (platformSamplerRead x.1 r).1 r : MetricId → ℕ) := by
    rintro ⟨t,last⟩ r ⟨ht,hmetrics,hscope⟩ hp hok
    cases last with
    | none => exact bot_le
    | some j =>
      have hj : NoLater t j r := by
        simpa [NoLater,sourceCycles,show t.metrics = s.metrics from hmetrics,
          show t.scope = s.scope from hscope] using hp hok j rfl
      exact WithBot.coe_le_coe.mpr (levels_le ht r hj)
  refine snapshots_below (I := fun x => Sound x.1 ∧ x.1.metrics = s.metrics ∧ x.1.scope = s.scope)
    level ?_ ?_ ?_ ⟨hs,rfl,rfl⟩ h
  · rintro x r ⟨hx,hmetrics,hscope⟩ -
    obtain ⟨hm,hc⟩ := read_kept x.1 r
    exact ⟨read_sound hx r,hm.trans hmetrics,hc.trans hscope⟩
  · rintro ⟨t,last⟩ r hx hp
    cases hok : (platformSamplerRead t r).2.succeeded with
    | true =>
      apply (hnext _ r hx hp hok).trans
      simp [level,remembering,hok]
    | false =>
      cases last with
      | none => exact bot_le
      | some j => simpa [level,remembering,hok] using levels_le hx.1 r (.refl t j)
  · rintro x r hx hp hok
    change (platformSamplerRead x.1 r).2.succeeded = true at hok
    have hpub := read_published hx.1 hok
    refine ⟨?_,?_⟩
    · change _ ≤ ((platformSamplerRead x.1 r).2.snapshot.toNat : WithBot (MetricId → ℕ))
      rw [hpub]
      exact hnext x r hx hp hok
    · simp [level,remembering,hok,hpub]

theorem readPageFaults_not_backwards {s : PlatformSampler} {r : Replies} {x : Snapshot} {e : Error}
    (h : readPageFaults s r x = .error e) : ¬ MovedBackwards e := by
  unfold readPageFaults at h
  split at h
  · split at h
    · cases h
      simp [MovedBackwards,windowsThrowError,clockBackwards,counterBackwards]
    split at h
    · cases h
      simp [MovedBackwards,pageFaultOverflow,overflow,clockBackwards,counterBackwards]
    · cases h
  · cases h

theorem read_error {s : PlatformSampler} {r : Replies} {e : Error}
    (h : (platformSamplerRead s r).2.result = .error e) : ¬ MovedBackwards e := by
  unfold platformSamplerRead at h
  dsimp only at h
  split at h
  next he =>
    cases h
    unfold checkThread at he
    split_ifs at he <;> cases he <;>
      simp [MovedBackwards,wrongThread,windowsThrowError,clockBackwards,counterBackwards]
  split at h
  next he =>
    cases h
    unfold readCpuTime at he
    dsimp only at he
    split_ifs at he <;> cases he <;>
      simp [MovedBackwards,overflow,windowsThrowError,clockBackwards,counterBackwards]
  split at h
  next he =>
    cases h
    exact readPageFaults_not_backwards he
  split at h
  next he =>
    cases h
    rw [(readContextSwitches_error he).2.2]
    simp [MovedBackwards,contextSwitchOverflow,overflow,clockBackwards,counterBackwards]
  split at h
  next he =>
    cases h
    unfold readCpuCycles at he
    cases hs : s.scope <;> simp only [hs] at he <;> split_ifs at he
    cases he
    simp [MovedBackwards,windowsThrowError,clockBackwards,counterBackwards]
  · cases h

end Windows

/-- The snapshots of successive successful reads are componentwise nondecreasing, for any calls
whose successful native readings are related by `NoLater`. A sampler opened by the first of the calls, read
by the others under a nondecreasing clock, then never reports a counter or the clock moving
backwards; a later sample never throws an `IOException` when compared with an earlier one; and all
values held by samples and deltas are PHP integers. -/
def NeverBackwards {σ ρ : Type} (read : σ → ρ → σ × ReadOutcome) (NoLater : ρ → ρ → Prop) (s : σ) : Prop :=
  ∀ calls, Rising read ReadOutcome.succeeded NoLater s calls →
    ((outputs read s calls).filterMap ReadOutcome.published).Pairwise (fun x y => ∀ m, x m ≤ y m) ∧
    ∀ (identity : ℕ) (metrics : UInt32) (metricOrder : List MetricId) (r₀ : ρ) (now₀ : UInt64)
      (obj : SamplerObj σ) (ops : List (SamplerOp ρ)),
      samplerOpen read s identity metrics metricOrder r₀ now₀ = .ok obj →
      calls = r₀ :: nativeReads ops → (now₀ :: clocks ops).Pairwise (· ≤ ·) →
      (∀ e, .error e ∈ outputs (SamplerObj.step read) obj ops →
        e ≠ clockBackwards ∧ ∀ m, e ≠ counterBackwards m) ∧
      (obj.samples read ops).Pairwise (fun earlier later =>
        ∀ e, later.since earlier = .error e → e.exceptionCe ≠ .ioException) ∧
      (∀ sample ∈ obj.samples read ops, ∀ m,
        (sample.values m).toNat ≤ zendLongMax ∧ sample.value m ≠ .error valueTooLarge) ∧
      ∀ sample ∈ obj.samples read ops, ∀ other ∈ obj.samples read ops, ∀ delta,
        sample.since other = .ok delta → ∀ m,
          (delta.values m).toNat ≤ zendLongMax ∧ delta.value m ≠ .error valueTooLarge

/-- The sampler layer over a backend whose snapshots never decrease. -/
theorem neverBackwards_of_below {σ ρ : Type} {read : σ → ρ → σ × ReadOutcome}
    {NoLater : ρ → ρ → Prop} {s : σ}
    (herror : ∀ s r e, (read s r).2.result = .error e → ¬ MovedBackwards e)
    (hbelow : ∀ calls, Rising read ReadOutcome.succeeded NoLater s calls →
      ((outputs read s calls).filterMap ReadOutcome.published).Pairwise Snapshot.Below) :
    NeverBackwards read NoLater s := by
  intro calls hrising
  refine ⟨hbelow calls hrising,?_⟩
  rintro identity metrics metricOrder r₀ now₀ obj ops hopen rfl hclock
  have hsnap := hbelow _ hrising
  obtain ⟨hfrom,hclocks⟩ := List.pairwise_cons.mp hclock
  obtain ⟨hpub,hobj⟩ := samplerOpen_ok hopen
  have hstart : obj.sampler = some (read s r₀).1 := by rw [hobj]
  have htime : obj.timeOriginNs = now₀ := by rw [hobj]
  simp only [outputs_cons, List.filterMap_cons, hpub, List.pairwise_cons] at hsnap
  have hvalues : ∀ sample ∈ obj.samples read ops, ∀ m, (sample.values m).toNat ≤ zendLongMax := by
    intro sample hsample m
    obtain ⟨_,-,_,-,htaken⟩ := SamplerObj.mem_samples hstart hsample
    exact htaken.values_le m
  refine ⟨fun e he => ?_,?_,fun sample hsample m => ?_,fun sample hsample other _ delta hd m => ?_⟩
  · have hcases := SamplerObj.outputs_no_backwards hstart hsnap.1
      (fun now hnow => htime ▸ hfrom now hnow) he
    refine not_or.mp ?_ |>.imp_right not_exists.mp
    rcases hcases with rfl | ⟨m,rfl⟩ | ⟨o,ho,hr⟩
    · simp [samplerClosed,clockBackwards,counterBackwards]
    · simp [counterTooLarge,clockBackwards,counterBackwards]
    · obtain ⟨s',r,rfl⟩ := outputs_mem read ho
      exact herror s' r e hr
  · apply (SamplerObj.samples_ordered hstart hsnap.2 hclocks).imp
    rintro earlier later ⟨x,y,hxy,t,u,htu,hx,hy⟩ e he
    rw [hx.since_error hy hxy htu he]
    decide
  · exact ⟨hvalues sample hsample m,sampleValue_ne_overflow (hvalues sample hsample m)⟩
  · have hle := ((SampleObj.since_ok hd).2 m).trans (hvalues sample hsample m)
    exact ⟨hle,sampleValue_ne_overflow hle⟩

/-- No backend lets a cumulative metric go backwards: on Linux whatever readings it accepts, on
Darwin and Windows as long as the native sources are nondecreasing. -/
theorem never_backwards :
    (∀ (int128 : Bool) (s : Linux.PlatformSampler),
      NeverBackwards (Linux.readStep int128) (fun _ _ => True) s) ∧
    (∀ (host : Darwin.Host) (s : Darwin.PlatformSampler),
      NeverBackwards (Darwin.platformSamplerRead host) (Darwin.NoLater host s) s) ∧
    ∀ (metrics : UInt32) (scope : ScopeId) (threadId : UInt32),
      NeverBackwards Windows.platformSamplerRead
        (Windows.NoLater (Windows.opened metrics scope threadId))
        (Windows.opened metrics scope threadId) := by
  refine ⟨fun int128 s => ?_,fun host s => ?_,fun metrics scope threadId => ?_⟩
  · exact neverBackwards_of_below (fun _ _ _ h => Linux.read_error h)
      fun calls _ => Linux.published_below int128 s calls
  · exact neverBackwards_of_below (fun _ _ _ h => Darwin.read_error h)
      fun _ h => Darwin.published_below host s h
  · exact neverBackwards_of_below (fun _ _ _ h => Windows.read_error h)
      fun _ h => Windows.published_below (Windows.opened_sound metrics scope threadId) h

/-- A process read at the given tick counts, all native calls succeeding. -/
def Darwin.plainReplies (user system : UInt64) : Darwin.Replies where
  threadId := ⟨0,1⟩
  selfcounts := ⟨0,⟨0,0,0,0⟩⟩
  threadInfo := ⟨0,⟨0,0⟩,⟨0,0⟩⟩
  processUsage := ⟨0,⟨user,system,0,0⟩⟩
  rusage := ⟨0,⟨0,0,0,0⟩⟩

/-- Three reads of process CPU time, the middle one failing. -/
def Darwin.plainCalls : List Darwin.Replies :=
  [plainReplies 4 5,{ plainReplies 0 0 with processUsage := ⟨ EIO,⟨0,0,0,0⟩⟩ },plainReplies 6 5]

theorem never_backwards_ticks :
    let outcomes := outputs (Darwin.platformSamplerRead ⟨⟨125,3⟩,true⟩) ⟨1,.currentProcess,0⟩
      Darwin.plainCalls
    (outcomes.filterMap ReadOutcome.published).Pairwise (fun x y => ∀ m, x m ≤ y m) ∧
      outcomes.map (fun o => o.published.map (· .cpuTime)) = [some 374,none,some 458] := by
  refine ⟨(never_backwards.2.1 ⟨⟨125,3⟩,true⟩ ⟨1,.currentProcess,0⟩ Darwin.plainCalls
    ⟨?_,?_,?_,trivial⟩).1,by decide⟩
  · intro _ j hj
    cases hj
  · intro hok
    cases hok
  · rintro - j hj
    cases hj
    refine ⟨fun _ => ⟨?_,?_⟩,fun h => absurd h ?_,fun h => absurd h ?_,fun h => absurd h ?_⟩ <;> decide

end Perfidious
