import Perfidious.Sampler.Windows

/-! Runs of Windows sampler reads: the widened counters follow the true counts. -/
namespace Perfidious.Windows
open Library

namespace WideCounter

/-- Completed wraps are whole periods. -/
def Aligned (c : WideCounter) : Prop := 2^32 ∣ c.base.toNat

def toWide (c : WideCounter) : Wide := ⟨c.base.toNat,c.previous.toNat⟩

/-- A whole number of periods below 2^64 leaves room for any 32-bit count. -/
theorem Aligned.base_add_lt {c : WideCounter} (h : c.Aligned) (count : UInt32) :
    c.base.toNat + count.toNat < 2^64 := by
  obtain ⟨k,hk⟩ := h
  have hb := c.base.toNat_lt
  have hc := count.toNat_lt
  omega

theorem Aligned.toNat_value {c : WideCounter} (h : c.Aligned) : c.value.toNat = c.toWide.value := by
  have hlt := h.base_add_lt c.previous
  unfold value toWide Wide.value
  rw [toNat_add_of_lt (by simpa using hlt)]
  simp

end WideCounter

/-- The wrap check refuses exactly the wrap whose value would leave 64 bits. -/
theorem widen_eq_none_iff {c : WideCounter} (h : c.Aligned) (count : UInt32) :
    widen c count = none ↔
      count < c.previous ∧ 2^64 ≤ c.base.toNat + 2^32 + count.toNat := by
  obtain ⟨k,hk⟩ := h
  have hb := c.base.toNat_lt
  have hc := count.toNat_lt
  have hlimit : (uint64Max - wrapPeriod).toNat = 2^64-1-2^32 := rfl
  simp only [widen, gt_iff_lt, UInt64.lt_iff_toNat_lt, hlimit]
  split_ifs <;> simp_all <;> omega

/-- An accepted observation refines the unbounded widening. -/
theorem widen_eq_some {c c' : WideCounter} {count : UInt32} (h : c.Aligned)
    (hw : widen c count = some c') :
    c'.Aligned ∧ c'.toWide = c.toWide.observe (2^32) count.toNat := by
  unfold widen at hw
  split_ifs at hw with hlt hover
  · have hsum : (c.base + wrapPeriod).toNat = c.base.toNat + 2^32 := by
      have hlimit : (uint64Max - wrapPeriod).toNat = 2^64-1-2^32 := rfl
      rw [gt_iff_lt, UInt64.lt_iff_toNat_lt, hlimit] at hover
      exact toNat_add_of_lt (b := wrapPeriod) (show c.base.toNat + 2^32 < 2^64 by omega)
    rw [← Option.some.inj hw]
    constructor
    · rw [WideCounter.Aligned, hsum]
      exact (Nat.dvd_add_right h).mpr (Nat.dvd_refl _)
    · have hlt' : count.toNat < c.previous.toNat := hlt
      simp [WideCounter.toWide,Wide.observe,hsum,hlt']
  · rw [← Option.some.inj hw]
    have hlt' : ¬ count.toNat < c.previous.toNat := hlt
    exact ⟨h,by simp [WideCounter.toWide,Wide.observe,hlt']⟩

/-- What one observation makes of a counter: the count is remembered, and the base moves on by a period
if the count has fallen. -/
structure WideCounter.Observed (c c' : WideCounter) (count : UInt32) : Prop where
  previous : c'.previous = count
  base : c'.base.toNat = c.base.toNat + if count < c.previous then 2^32 else 0

theorem widen_observed {c c' : WideCounter} {count : UInt32} (h : c.Aligned)
    (hw : widen c count = some c') : c.Observed c' count := by
  have hwide := (widen_eq_some h hw).2
  have hbase : c'.base.toNat = (c.toWide.observe (2^32) count.toNat).base := congrArg Wide.base hwide
  refine ⟨UInt32.toNat_inj.mp (congrArg Wide.previous hwide),?_⟩
  by_cases hlt : count < c.previous
  · rw [if_pos hlt]
    exact hbase.trans (if_pos (show count.toNat < c.toWide.previous from hlt))
  · rw [if_neg hlt]
    exact hbase.trans (if_neg (show ¬ count.toNat < c.toWide.previous from hlt))

/-- The read gets past the thread checks, the profile query and the CPU times. -/
def reachesPageFaults (s : PlatformSampler) (r : Replies) : Bool :=
  (checkThread s r).isOk && (readCpuTime s r (fun _ => 0)).isOk

/-- `GetProcessMemoryInfo` is called and succeeds. -/
def queriesMemory (s : PlatformSampler) (r : Replies) : Bool :=
  reachesPageFaults s r && requests s.metrics MetricId.pageFaults.mask && r.memory.success

/-- The read gets as far as the context-switch count of the thread profile. -/
def reachesSwitches (s : PlatformSampler) (r : Replies) : Bool :=
  reachesPageFaults s r && (readPageFaults s r (fun _ => 0)).isOk &&
    requests s.metrics MetricId.contextSwitches.mask

theorem checkThread_error {s : PlatformSampler} {r : Replies} {e : Error}
    (h : checkThread s r = .error e) : e ≠ pageFaultOverflow ∧ e ≠ contextSwitchOverflow := by
  unfold checkThread at h
  split_ifs at h <;> cases h <;> constructor <;>
    simp [wrongThread,windowsThrowError,pageFaultOverflow,contextSwitchOverflow,overflow]

theorem readCpuTime_error {s : PlatformSampler} {r : Replies} {sn : Snapshot} {e : Error}
    (h : readCpuTime s r sn = .error e) : e ≠ pageFaultOverflow ∧ e ≠ contextSwitchOverflow := by
  unfold readCpuTime at h
  dsimp only at h
  split_ifs at h <;> cases h <;> constructor <;>
    simp [windowsThrowError,pageFaultOverflow,contextSwitchOverflow,overflow]

theorem readCpuCycles_error {s : PlatformSampler} {r : Replies} {sn : Snapshot} {e : Error}
    (h : readCpuCycles s r sn = .error e) : e ≠ pageFaultOverflow ∧ e ≠ contextSwitchOverflow := by
  unfold readCpuCycles at h
  cases hs : s.scope <;> simp only [hs] at h <;> split_ifs at h
  cases h
  constructor <;> simp [windowsThrowError,pageFaultOverflow,contextSwitchOverflow,overflow]

/-- Inversion of a read, by the stage at which it ends. -/
inductive ReadCase (s : PlatformSampler) (r : Replies) : PlatformSampler × ReadOutcome → Prop
  | early {e sn} (reached : reachesPageFaults s r = false)
      (other : e ≠ pageFaultOverflow ∧ e ≠ contextSwitchOverflow) : ReadCase s r (s,⟨.error e,sn⟩)
  | faults {e timed} (reached : reachesPageFaults s r = true)
      (failed : readPageFaults s r timed = .error e) : ReadCase s r (s,⟨.error e,timed⟩)
  | switches {e timed c faulted} (reached : reachesPageFaults s r = true)
      (observed : readPageFaults s r timed = .ok (c,faulted))
      (failed : readContextSwitches s r faulted = .error e) :
      ReadCase s r ({ s with pageFaults := c },⟨.error e,faulted⟩)
  | cycles {e timed c faulted w switched} (reached : reachesPageFaults s r = true)
      (observed : readPageFaults s r timed = .ok (c,faulted))
      (widened : readContextSwitches s r faulted = .ok (w,switched))
      (other : e ≠ pageFaultOverflow ∧ e ≠ contextSwitchOverflow) :
      ReadCase s r ({ s with pageFaults := c },⟨.error e,switched⟩)
  | done {timed c faulted w switched sn} (reached : reachesPageFaults s r = true)
      (passed : checkThread s r = .ok ()) (times : readCpuTime s r (fun _ => 0) = .ok timed)
      (observed : readPageFaults s r timed = .ok (c,faulted))
      (widened : readContextSwitches s r faulted = .ok (w,switched))
      (cycled : readCpuCycles s r switched = .ok sn) :
      ReadCase s r ({ s with pageFaults := c, contextSwitches := w },⟨.ok (),sn⟩)

theorem readCase (s : PlatformSampler) (r : Replies) : ReadCase s r (platformSamplerRead s r) := by
  unfold platformSamplerRead
  dsimp only
  split
  next e he => exact .early (by simp [reachesPageFaults,he]) (checkThread_error he)
  next u hu =>
  split
  next e he =>
    exact .early (by simp [reachesPageFaults,he]) (readCpuTime_error he)
  next timed ht =>
  have hreach : reachesPageFaults s r = true := by
    simp [reachesPageFaults,hu,ht]
  split
  next e he => exact .faults hreach he
  next c faulted hf =>
  split
  next e he => exact .switches hreach hf he
  next w switched hw =>
  split
  next e he => exact .cycles hreach hf hw (readCpuCycles_error he)
  next sn hsn => exact .done hreach hu ht hf hw hsn

theorem readPageFaults_ok {s : PlatformSampler} {r : Replies} {sn sn' : Snapshot} {c : WideCounter}
    (h : readPageFaults s r sn = .ok (c,sn')) :
    requests s.metrics MetricId.pageFaults.mask = true ∧ r.memory.success = true ∧
      widen s.pageFaults r.memory.value = some c ∧ sn' .pageFaults = c.value ∨
    requests s.metrics MetricId.pageFaults.mask = false ∧ c = s.pageFaults := by
  unfold readPageFaults at h
  cases hq : requests s.metrics MetricId.pageFaults.mask <;>
    simp only [hq, if_true, Bool.false_eq_true, if_false] at h
  · cases h
    exact .inr ⟨rfl,rfl⟩
  · cases hm : r.memory.success <;>
      simp only [hm, Bool.not_true, Bool.not_false, Bool.false_eq_true, if_true, if_false] at h
    · contradiction
    · split at h
      · contradiction
      next c' hc =>
        cases h
        exact .inl ⟨rfl,rfl,hc,by simp⟩

theorem readPageFaults_error {s : PlatformSampler} {r : Replies} {sn : Snapshot} {e : Error}
    (h : readPageFaults s r sn = .error e) :
    requests s.metrics MetricId.pageFaults.mask = true ∧
    (r.memory.success = true ∧ widen s.pageFaults r.memory.value = none ∧ e = pageFaultOverflow ∨
      r.memory.success = false ∧ e ≠ pageFaultOverflow ∧ e ≠ contextSwitchOverflow) := by
  unfold readPageFaults at h
  cases hq : requests s.metrics MetricId.pageFaults.mask <;>
    simp only [hq, if_true, Bool.false_eq_true, if_false] at h
  · contradiction
  · cases hm : r.memory.success <;>
      simp only [hm, Bool.not_true, Bool.not_false, Bool.false_eq_true, if_true, if_false] at h
    · cases h
      exact ⟨rfl,.inr ⟨rfl,by simp [windowsThrowError,pageFaultOverflow,overflow],
        by simp [windowsThrowError,contextSwitchOverflow,overflow]⟩⟩
    · split at h
      next hc =>
        cases h
        exact ⟨rfl,.inl ⟨rfl,hc,rfl⟩⟩
      · contradiction

theorem readContextSwitches_ok {s : PlatformSampler} {r : Replies} {sn sn' : Snapshot}
    {w : WideCounter} (h : readContextSwitches s r sn = .ok (w,sn')) :
    sn' .pageFaults = sn .pageFaults ∧
    (requests s.metrics MetricId.contextSwitches.mask = true ∧
      widen s.contextSwitches r.profile.contextSwitchCount = some w ∧
      sn' .contextSwitches = w.value ∨
    requests s.metrics MetricId.contextSwitches.mask = false ∧ w = s.contextSwitches) := by
  unfold readContextSwitches at h
  cases hq : requests s.metrics MetricId.contextSwitches.mask <;>
    simp only [hq, if_true, Bool.false_eq_true, if_false] at h
  · cases h
    exact ⟨rfl,.inr ⟨rfl,rfl⟩⟩
  · split at h
    · contradiction
    next w' hw =>
      cases h
      exact ⟨by simp,.inl ⟨rfl,hw,by simp⟩⟩

theorem readContextSwitches_error {s : PlatformSampler} {r : Replies} {sn : Snapshot} {e : Error}
    (h : readContextSwitches s r sn = .error e) :
    requests s.metrics MetricId.contextSwitches.mask = true ∧
    widen s.contextSwitches r.profile.contextSwitchCount = none ∧ e = contextSwitchOverflow := by
  unfold readContextSwitches at h
  split at h
  next hq =>
    split at h
    next hw =>
      cases h
      exact ⟨hq,hw,rfl⟩
    · contradiction
  · contradiction

theorem readCpuCycles_ok {s : PlatformSampler} {r : Replies} {sn sn' : Snapshot}
    (h : readCpuCycles s r sn = .ok sn') :
    sn' .pageFaults = sn .pageFaults ∧ sn' .contextSwitches = sn .contextSwitches := by
  unfold readCpuCycles at h
  cases hs : s.scope <;> simp only [hs] at h <;> split_ifs at h <;> cases h <;> simp

theorem pageFaultOverflow_ne : pageFaultOverflow ≠ contextSwitchOverflow := by decide

/-- What a read does to the page-fault state, and when it reports a page-fault overflow. -/
theorem read_pageFaults (s : PlatformSampler) (r : Replies) :
    let o := platformSamplerRead s r
    (queriesMemory s r = true ∧ widen s.pageFaults r.memory.value = none ∧
      o.1 = s ∧ o.2.result = .error pageFaultOverflow) ∨
    (queriesMemory s r = true ∧ o.2.result ≠ .error pageFaultOverflow ∧
      ∃ c, widen s.pageFaults r.memory.value = some c ∧ o.1.pageFaults = c ∧
        (o.2.succeeded = true → o.2.snapshot .pageFaults = c.value)) ∨
    (queriesMemory s r = false ∧ o.2.result ≠ .error pageFaultOverflow ∧
      o.1.pageFaults = s.pageFaults ∧
      (o.2.succeeded = true → requests s.metrics MetricId.pageFaults.mask = false)) := by
  intro o
  have hcase := readCase s r
  generalize ho : platformSamplerRead s r = out at hcase
  have ho' : o = out := ho
  rw [ho']
  cases hcase with
  | early reached other =>
    exact .inr (.inr ⟨by simp [queriesMemory,reached],by simp [other.1],rfl,by simp⟩)
  | faults reached failed =>
    obtain ⟨hq,⟨hm,hw,rfl⟩ | ⟨hm,hne,-⟩⟩ := readPageFaults_error failed
    · exact .inl ⟨by simp [queriesMemory,reached,hq,hm],hw,rfl,rfl⟩
    · exact .inr (.inr ⟨by simp [queriesMemory,hm],by simp [hne],rfl,by simp⟩)
  | switches reached observed failed =>
    obtain ⟨-,-,rfl⟩ := readContextSwitches_error failed
    rcases readPageFaults_ok observed with ⟨hq,hm,hw,-⟩ | ⟨hq,rfl⟩
    · exact .inr (.inl ⟨by simp [queriesMemory,reached,hq,hm],by simp [pageFaultOverflow_ne.symm],
        _,hw,rfl,by simp⟩)
    · exact .inr (.inr ⟨by simp [queriesMemory,hq],by simp [pageFaultOverflow_ne.symm],rfl,by simp⟩)
  | cycles reached observed widened other =>
    rcases readPageFaults_ok observed with ⟨hq,hm,hw,-⟩ | ⟨hq,rfl⟩
    · exact .inr (.inl ⟨by simp [queriesMemory,reached,hq,hm],by simp [other.1],_,hw,rfl,by simp⟩)
    · exact .inr (.inr ⟨by simp [queriesMemory,hq],by simp [other.1],rfl,by simp⟩)
  | done reached passed times observed widened cycled =>
    rcases readPageFaults_ok observed with ⟨hq,hm,hw,hv⟩ | ⟨hq,rfl⟩
    · refine .inr (.inl ⟨by simp [queriesMemory,reached,hq,hm],by simp,_,hw,rfl,fun _ => ?_⟩)
      exact (readCpuCycles_ok cycled).1.trans ((readContextSwitches_ok widened).1.trans hv)
    · exact .inr (.inr ⟨by simp [queriesMemory,hq],by simp,rfl,fun _ => hq⟩)

/-- What a read does to the context-switch state, and when it reports a context-switch overflow. -/
theorem read_contextSwitches (s : PlatformSampler) (r : Replies) :
    let o := platformSamplerRead s r
    (reachesSwitches s r = true ∧ widen s.contextSwitches r.profile.contextSwitchCount = none ∧
      o.1.contextSwitches = s.contextSwitches ∧ o.2.result = .error contextSwitchOverflow) ∨
    (¬ (reachesSwitches s r = true ∧ widen s.contextSwitches r.profile.contextSwitchCount = none) ∧
      o.2.succeeded = false ∧ o.2.result ≠ .error contextSwitchOverflow ∧
      o.1.contextSwitches = s.contextSwitches) ∨
    (¬ (reachesSwitches s r = true ∧ widen s.contextSwitches r.profile.contextSwitchCount = none) ∧
      o.2.succeeded = true ∧
      (requests s.metrics MetricId.contextSwitches.mask = true ∧
        widen s.contextSwitches r.profile.contextSwitchCount = some o.1.contextSwitches ∧
        o.2.snapshot .contextSwitches = o.1.contextSwitches.value ∨
      requests s.metrics MetricId.contextSwitches.mask = false ∧
        o.1.contextSwitches = s.contextSwitches)) := by
  intro o
  have hcase := readCase s r
  generalize ho : platformSamplerRead s r = out at hcase
  have ho' : o = out := ho
  rw [ho']
  have hok : ∀ sn sn' : Snapshot, (readPageFaults s r sn).isOk = (readPageFaults s r sn').isOk := by
    intro sn sn'
    unfold readPageFaults
    split_ifs <;> first | rfl | (split <;> rfl)
  cases hcase with
  | early reached other =>
    exact .inr (.inl ⟨by simp [reachesSwitches,reached],rfl,by simp [other.2],rfl⟩)
  | @faults e timed reached failed =>
    have hstop : reachesSwitches s r = false := by
      have := hok (fun _ => 0) timed
      rw [failed] at this
      simp [reachesSwitches,this]
    refine .inr (.inl ⟨by simp [hstop],rfl,?_,rfl⟩)
    obtain ⟨-,⟨-,-,rfl⟩ | ⟨-,-,hne⟩⟩ := readPageFaults_error failed
    · simp [pageFaultOverflow_ne]
    · simp [hne]
  | @switches e timed c faulted reached observed failed =>
    obtain ⟨hq,hw,rfl⟩ := readContextSwitches_error failed
    have := hok (fun _ => 0) timed
    rw [observed] at this
    exact .inl ⟨by simp [reachesSwitches,reached,hq,this],hw,rfl,rfl⟩
  | cycles reached observed widened other =>
    refine .inr (.inl ⟨?_,rfl,by simp [other.2],rfl⟩)
    rcases (readContextSwitches_ok widened).2 with ⟨-,hw,-⟩ | ⟨hq,-⟩
    · simp [hw]
    · simp [reachesSwitches,hq]
  | done reached passed times observed widened cycled =>
    rcases (readContextSwitches_ok widened).2 with ⟨hq,hw,hv⟩ | ⟨hq,rfl⟩
    · exact .inr (.inr ⟨by simp [hw],rfl,.inl ⟨hq,hw,(readCpuCycles_ok cycled).2.trans hv⟩⟩)
    · exact .inr (.inr ⟨by simp [reachesSwitches,hq],rfl,.inr ⟨hq,rfl⟩⟩)

/-- A page-fault overflow is reported exactly for a wrap that would leave 64 bits. -/
theorem pageFaultOverflow_iff {s : PlatformSampler} (hs : s.pageFaults.Aligned) (r : Replies) :
    (platformSamplerRead s r).2.result = .error pageFaultOverflow ↔
      queriesMemory s r = true ∧ r.memory.value < s.pageFaults.previous ∧
        2^64 ≤ s.pageFaults.base.toNat + 2^32 + r.memory.value.toNat := by
  rw [← widen_eq_none_iff hs]
  rcases read_pageFaults s r with ⟨hq,hw,-,he⟩ | ⟨-,hne,c,hw,-⟩ | ⟨hq,hne,-⟩
  · simp [hq,hw,he]
  · simp [hw,hne]
  · simp [hq,hne]

/-- A context-switch overflow is reported exactly for a wrap that would leave 64 bits. -/
theorem contextSwitchOverflow_iff {s : PlatformSampler} (hs : s.contextSwitches.Aligned)
    (r : Replies) :
    (platformSamplerRead s r).2.result = .error contextSwitchOverflow ↔
      reachesSwitches s r = true ∧ r.profile.contextSwitchCount < s.contextSwitches.previous ∧
        2^64 ≤ s.contextSwitches.base.toNat + 2^32 + r.profile.contextSwitchCount.toNat := by
  rw [← widen_eq_none_iff hs]
  rcases read_contextSwitches s r with ⟨hq,hw,-,he⟩ | ⟨hn,-,hne,-⟩ | ⟨hn,hok,-⟩
  · simp [hq,hw,he]
  · exact ⟨fun h => absurd h hne,fun h => absurd h hn⟩
  · refine ⟨fun h => ?_,fun h => absurd h hn⟩
    simp [ReadOutcome.succeeded,h] at hok

/-- Both widened counters hold whole periods. -/
def Sound (s : PlatformSampler) : Prop := s.pageFaults.Aligned ∧ s.contextSwitches.Aligned

theorem read_sound {s : PlatformSampler} (h : Sound s) (r : Replies) :
    Sound (platformSamplerRead s r).1 := by
  constructor
  · rcases read_pageFaults s r with ⟨-,-,hs,-⟩ | ⟨-,-,c,hw,hc,-⟩ | ⟨-,-,hc,-⟩
    · rw [hs]; exact h.1
    · rw [hc]; exact (widen_eq_some h.1 hw).1
    · rw [hc]; exact h.1
  · rcases read_contextSwitches s r with ⟨-,-,hc,-⟩ | ⟨-,-,-,hc⟩ | ⟨-,-,⟨-,hw,-⟩ | ⟨-,hc⟩⟩
    · rw [hc]; exact h.2
    · rw [hc]; exact h.2
    · exact (widen_eq_some h.2 hw).1
    · rw [hc]; exact h.2

/-- CPU time in nanoseconds and CPU cycles, as the native sources stand. -/
def sourceTime (r : Replies) : ℕ :=
  ((filetimeToUint64 r.times.value.1).toNat + (filetimeToUint64 r.times.value.2).toNat)*100

def sourceCycles (s : PlatformSampler) (r : Replies) : ℕ :=
  match s.scope with
  | .currentProcess => r.processCycles.value.toNat
  | .currentThread => r.profile.cycleTime.toNat

theorem readCpuTime_ok {s : PlatformSampler} {r : Replies} {x y : Snapshot}
    (h : readCpuTime s r x = .ok y) :
    (requests s.metrics MetricId.cpuTime.mask = true → (y .cpuTime).toNat = sourceTime r) ∧
    (¬ requests s.metrics MetricId.cpuTime.mask = true → y .cpuTime = x .cpuTime) ∧
    ∀ m, m ≠ .cpuTime → y m = x m := by
  unfold readCpuTime at h
  split at h
  next hreq =>
    dsimp only at h
    split at h
    · cases h
    split at h
    · cases h
    next hsum =>
    split at h
    · cases h
    next hscale =>
    cases h
    rw [gt_iff_lt, gt_uint64Max_sub_iff] at hsum
    refine ⟨fun _ => ?_,fun hn => absurd hreq hn,fun m hm => Function.update_of_ne hm _ _⟩
    have htotal := toNat_add_of_lt (not_le.mp hsum)
    simp only [gt_iff_lt, UInt64.lt_iff_toNat_lt, UInt64.toNat_div, toNat_uint64Max, htotal] at hscale
    rw [Function.update_self, UInt64.toNat_mul, htotal, sourceTime]
    apply Nat.mod_eq_of_lt
    change _*100 < _
    change ¬ _/100 < _ at hscale
    omega
  next hreq =>
    cases h
    exact ⟨fun hn => absurd hn hreq,fun _ => rfl,fun _ _ => rfl⟩

/-- Everything that a read asks for is there: the thread of the sampler runs it, the native calls that
the metrics need succeed, and the CPU time fits into 64 bits. -/
structure Answered (s : PlatformSampler) (r : Replies) : Prop where
  thread : s.scope = .currentThread → s.threadId = r.currentThreadId ∧ r.waitResult = waitTimeout
  profile : s.scope = .currentThread → requests s.metrics threadProfileMetrics = true →
    r.profileError = 0
  times : requests s.metrics MetricId.cpuTime.mask = true →
    r.times.success = true ∧ sourceTime r < 2^64
  memory : requests s.metrics MetricId.pageFaults.mask = true → r.memory.success = true
  cycles : requests s.metrics MetricId.cpuCycles.mask = true → s.scope = .currentProcess →
    r.processCycles.success = true

section Stages
variable (s : PlatformSampler) (r : Replies) (sn : Snapshot)

theorem checkThread_isOk_iff : (checkThread s r).isOk = true ↔ (s.scope = .currentThread →
    (s.threadId = r.currentThreadId ∧ r.waitResult = waitTimeout) ∧
      (requests s.metrics threadProfileMetrics = true → r.profileError = 0)) := by
  have hne : waitTimeout ≠ waitFailed := by decide
  unfold checkThread
  split_ifs with hscope hid hfailed hwait hprofile
  · simp [hscope,hid]
  · simp [hscope,hfailed,hne.symm]
  · simp [hscope,hwait]
  · simp [hscope,hprofile]
  · simp only [isOk_ok, true_iff]
    exact fun _ => ⟨⟨not_not.mp hid,not_not.mp hwait⟩,fun hreq => not_not.mp fun h => hprofile ⟨hreq,h⟩⟩
  · simp [hscope]

theorem readCpuTime_isOk_iff : (readCpuTime s r sn).isOk = true ↔
    (requests s.metrics MetricId.cpuTime.mask = true → r.times.success = true ∧ sourceTime r < 2^64) := by
  unfold readCpuTime
  dsimp only
  split_ifs with hreq hfailed hsum hscale
  · simp [hreq,Bool.eq_false_iff.mpr (by simpa using hfailed)]
  · rw [gt_iff_lt, gt_uint64Max_sub_iff] at hsum
    simp only [isOk_error, Bool.false_eq_true, hreq, true_implies, false_iff]
    unfold sourceTime
    omega
  · rw [gt_iff_lt, gt_uint64Max_sub_iff] at hsum
    have htotal := toNat_add_of_lt (not_le.mp hsum)
    simp only [gt_iff_lt, UInt64.lt_iff_toNat_lt, UInt64.toNat_div, toNat_uint64Max, htotal] at hscale
    change (2^64-1)/100 < _ at hscale
    simp only [isOk_error, Bool.false_eq_true, hreq, true_implies, false_iff]
    unfold sourceTime
    omega
  · rw [gt_iff_lt, gt_uint64Max_sub_iff] at hsum
    have htotal := toNat_add_of_lt (not_le.mp hsum)
    simp only [gt_iff_lt, UInt64.lt_iff_toNat_lt, UInt64.toNat_div, toNat_uint64Max, htotal] at hscale
    change ¬ (2^64-1)/100 < _ at hscale
    have hsuccess : r.times.success = true := by simpa using hfailed
    simp only [isOk_ok, true_iff]
    refine fun _ => ⟨hsuccess,?_⟩
    unfold sourceTime
    omega
  · simp [hreq]

theorem readPageFaults_isOk_iff : (readPageFaults s r sn).isOk = true ↔
    (requests s.metrics MetricId.pageFaults.mask = true →
      r.memory.success = true ∧ widen s.pageFaults r.memory.value ≠ none) := by
  unfold readPageFaults
  split_ifs with hreq hfailed
  · simp [hreq,Bool.eq_false_iff.mpr (by simpa using hfailed)]
  · cases hw : widen s.pageFaults r.memory.value with
    | none => simp [hreq]
    | some c => simpa [hreq] using hfailed
  · simp [hreq]

theorem readContextSwitches_isOk_iff : (readContextSwitches s r sn).isOk = true ↔
    (requests s.metrics MetricId.contextSwitches.mask = true →
      widen s.contextSwitches r.profile.contextSwitchCount ≠ none) := by
  unfold readContextSwitches
  split_ifs with hreq
  · cases widen s.contextSwitches r.profile.contextSwitchCount with
    | none => simp [hreq]
    | some c => simp
  · simp [hreq]

theorem readCpuCycles_isOk_iff : (readCpuCycles s r sn).isOk = true ↔
    (requests s.metrics MetricId.cpuCycles.mask = true → s.scope = .currentProcess →
      r.processCycles.success = true) := by
  unfold readCpuCycles
  by_cases hreq : requests s.metrics MetricId.cpuCycles.mask = true
  · cases s.scope with
    | currentProcess => cases hsuccess : r.processCycles.success <;> simp [hreq]
    | currentThread => simp [hreq]
  · simp [hreq]

end Stages

/-- A read succeeds exactly if every stage does. -/
theorem read_succeeded_iff (s : PlatformSampler) (r : Replies) :
    (platformSamplerRead s r).2.succeeded = true ↔ Answered s r ∧
      (requests s.metrics MetricId.pageFaults.mask = true →
        widen s.pageFaults r.memory.value ≠ none) ∧
      (requests s.metrics MetricId.contextSwitches.mask = true →
        widen s.contextSwitches r.profile.contextSwitchCount ≠ none) := by
  have hthread := checkThread_isOk_iff s r
  have htimes := readCpuTime_isOk_iff s r fun _ => 0
  unfold platformSamplerRead
  dsimp only
  cases hcheck : checkThread s r with
  | error e =>
    rw [hcheck] at hthread
    refine ⟨(by cases ·),fun ⟨h,_⟩ => ?_⟩
    cases hthread.mpr fun hscope => ⟨h.thread hscope,h.profile hscope⟩
  | ok u =>
  cases htimed : readCpuTime s r fun _ => 0 with
  | error e =>
    rw [htimed] at htimes
    refine ⟨(by cases ·),fun ⟨h,_⟩ => ?_⟩
    cases htimes.mpr h.times
  | ok timed =>
  have hfaults := readPageFaults_isOk_iff s r timed
  dsimp only
  cases hfaulted : readPageFaults s r timed with
  | error e =>
    rw [hfaulted] at hfaults
    refine ⟨(by cases ·),fun ⟨h,hfault,_⟩ => ?_⟩
    cases hfaults.mpr fun hreq => ⟨h.memory hreq,hfault hreq⟩
  | ok fault =>
  obtain ⟨c,faulted⟩ := fault
  have hswitches := readContextSwitches_isOk_iff { s with pageFaults := c } r faulted
  dsimp only
  cases hswitched : readContextSwitches { s with pageFaults := c } r faulted with
  | error e =>
    rw [hswitched] at hswitches
    refine ⟨(by cases ·),fun ⟨_,_,hswitch⟩ => ?_⟩
    cases hswitches.mpr hswitch
  | ok switch =>
  obtain ⟨w,switched⟩ := switch
  have hcycles := readCpuCycles_isOk_iff { s with pageFaults := c } r switched
  dsimp only
  cases hcycled : readCpuCycles { s with pageFaults := c } r switched with
  | error e =>
    rw [hcycled] at hcycles
    refine ⟨(by cases ·),fun ⟨h,_⟩ => ?_⟩
    cases hcycles.mpr h.cycles
  | ok sn =>
    rw [hcheck] at hthread
    rw [htimed] at htimes
    rw [hfaulted] at hfaults
    rw [hswitched] at hswitches
    rw [hcycled] at hcycles
    refine ⟨fun _ => ⟨⟨fun hs => (hthread.mp rfl hs).1,fun hs => (hthread.mp rfl hs).2,htimes.mp rfl,
      fun hreq => (hfaults.mp rfl hreq).1,hcycles.mp rfl⟩,fun hreq => (hfaults.mp rfl hreq).2,
      hswitches.mp rfl⟩,fun _ => rfl⟩

theorem readCpuCycles_published {s : PlatformSampler} {r : Replies} {x y : Snapshot}
    (h : readCpuCycles s r x = .ok y) :
    (requests s.metrics MetricId.cpuCycles.mask = true → (y .cpuCycles).toNat = sourceCycles s r) ∧
    (¬ requests s.metrics MetricId.cpuCycles.mask = true → y .cpuCycles = x .cpuCycles) ∧
    ∀ m, m ≠ .cpuCycles → y m = x m := by
  unfold readCpuCycles at h
  unfold sourceCycles
  split at h
  next hreq =>
    split at h
    next hscope =>
      split at h
      · cases h
      · cases h
        simpa [hscope] using ⟨fun hn => by simp [hn] at hreq,fun m hm => by simp [hm]⟩
    next hscope =>
      cases h
      simpa [hscope] using ⟨fun hn => by simp [hn] at hreq,fun m hm => by simp [hm]⟩
  next hreq =>
    cases h
    exact ⟨fun hn => absurd hn hreq,fun _ => rfl,fun _ _ => rfl⟩

/-- A 32-bit counter stage writes its own metric only, and only if it was requested. -/
theorem readPageFaults_frame {s : PlatformSampler} {r : Replies} {x y : Snapshot} {c : WideCounter}
    (h : readPageFaults s r x = .ok (c,y)) :
    (¬ requests s.metrics MetricId.pageFaults.mask = true → y = x) ∧
    ∀ m, m ≠ .pageFaults → y m = x m := by
  unfold readPageFaults at h
  split at h
  next hreq =>
    split at h
    · cases h
    split at h
    · cases h
    · cases h
      exact ⟨fun hn => absurd hreq hn,fun m hm => Function.update_of_ne hm _ _⟩
  next hreq =>
    cases h
    exact ⟨fun _ => rfl,fun _ _ => rfl⟩

theorem readContextSwitches_frame {s : PlatformSampler} {r : Replies} {x y : Snapshot}
    {c : WideCounter} (h : readContextSwitches s r x = .ok (c,y)) :
    (¬ requests s.metrics MetricId.contextSwitches.mask = true → y = x) ∧
    ∀ m, m ≠ .contextSwitches → y m = x m := by
  unfold readContextSwitches at h
  split at h
  next hreq =>
    split at h
    · cases h
    · cases h
      exact ⟨fun hn => absurd hreq hn,fun m hm => Function.update_of_ne hm _ _⟩
  next hreq =>
    cases h
    exact ⟨fun _ => rfl,fun _ _ => rfl⟩

/-- What the counters stand at after a read whose latest successful replies are `r`. -/
def levels (s : PlatformSampler) (r : Replies) (m : MetricId) : ℕ :=
  if requests s.metrics m.mask then
    match m with
    | .cpuTime => sourceTime r
    | .pageFaults => s.pageFaults.toWide.value
    | .contextSwitches => s.contextSwitches.toWide.value
    | .cpuCycles => sourceCycles s r
    | .instructions => 0
  else 0

/-- A successful read publishes the levels. -/
theorem read_published {s : PlatformSampler} (hs : Sound s) {r : Replies}
    (hok : (platformSamplerRead s r).2.succeeded = true) :
    (platformSamplerRead s r).2.snapshot.toNat = levels (platformSamplerRead s r).1 r := by
  have hsound := read_sound hs r
  have hcase := readCase s r
  generalize platformSamplerRead s r = out at *
  cases hcase with
  | @done timed c faulted w switched sn reached passed times observed widened cycled =>
    obtain ⟨htime,htime',htimeFrame⟩ := readCpuTime_ok times
    obtain ⟨hfault',hfaultFrame⟩ := readPageFaults_frame observed
    obtain ⟨hswitch',hswitchFrame⟩ := readContextSwitches_frame widened
    obtain ⟨hcycle,hcycle',hcycleFrame⟩ := readCpuCycles_published cycled
    funext m
    unfold Snapshot.toNat levels
    dsimp only
    cases m with
    | cpuTime =>
      rw [hcycleFrame _ (by decide), hswitchFrame _ (by decide), hfaultFrame _ (by decide)]
      split
      next hq => exact htime hq
      next hq => rw [htime' hq]; rfl
    | pageFaults =>
      rw [hcycleFrame _ (by decide), hswitchFrame _ (by decide)]
      rcases readPageFaults_ok observed with ⟨hq,-,-,hv⟩ | ⟨hq,-⟩
      · rw [if_pos hq, hv]
        exact hsound.1.toNat_value
      · rw [if_neg (by simp [hq]), hfault' (by simp [hq]), htimeFrame _ (by decide)]
        rfl
    | contextSwitches =>
      rw [hcycleFrame _ (by decide)]
      rcases (readContextSwitches_ok widened).2 with ⟨hq,-,hv⟩ | ⟨hq,-⟩
      · rw [if_pos hq, hv]
        exact hsound.2.toNat_value
      · rw [if_neg (by simp [hq]), hswitch' (by simp [hq]), hfaultFrame _ (by decide),
          htimeFrame _ (by decide)]
        rfl
    | cpuCycles =>
      split
      next hq => exact hcycle hq
      next hq =>
        rw [hcycle' hq, hswitchFrame _ (by decide), hfaultFrame _ (by decide),
          htimeFrame _ (by decide)]
        rfl
    | instructions =>
      rw [hcycleFrame _ (by decide), hswitchFrame _ (by decide), hfaultFrame _ (by decide),
        htimeFrame _ (by decide)]
      split <;> rfl
  | _ => cases hok

theorem widen_value_le {c c' : WideCounter} {count : UInt32} (h : c.Aligned)
    (hw : widen c count = some c') : c.toWide.value ≤ c'.toWide.value := by
  rw [(widen_eq_some h hw).2]
  exact Wide.value_le_observe (le_of_lt c.previous.toNat_lt) _

theorem read_kept (s : PlatformSampler) (r : Replies) :
    (platformSamplerRead s r).1.metrics = s.metrics ∧
    (platformSamplerRead s r).1.scope = s.scope := by
  have hcase := readCase s r
  generalize platformSamplerRead s r = out at hcase
  cases hcase <;> exact ⟨rfl,rfl⟩

/-- One call of a run, with the true counts of which the native ones are the low 32 bits. -/
structure Call where
  replies : Replies
  faults : ℕ
  switches : ℕ
  faults_mod : replies.memory.value.toNat = faults % 2^32
  switches_mod : replies.profile.contextSwitchCount.toNat = switches % 2^32

def readStep (s : PlatformSampler) (call : Call) : PlatformSampler × ReadOutcome :=
  platformSamplerRead s call.replies

/-- A sampler as `perfidious_platform_sampler_open` leaves it. -/
def opened (metrics : UInt32) (scope : ScopeId) (threadId : UInt32) : PlatformSampler :=
  ⟨metrics,scope,threadId,⟨0,0⟩,⟨0,0⟩⟩

theorem opened_sound (metrics : UInt32) (scope : ScopeId) (threadId : UInt32) :
    Sound (opened metrics scope threadId) := by
  constructor <;> exact ⟨0,rfl⟩

/-- One widened counter under observation: where its state is, which reads observe it, and the
true count a call brings. -/
structure Watch where
  metric : MetricId
  counter : PlatformSampler → WideCounter
  seen : PlatformSampler → Replies → Bool
  count : Call → ℕ

/-- A read together with the true count at the latest observation. The output pairs the true count
with the published value of a successful read. -/
def Watch.step (w : Watch) (σ : PlatformSampler × Option ℕ) (call : Call) :
    (PlatformSampler × Option ℕ) × Option Tracked :=
  let o := platformSamplerRead σ.1 call.replies
  ((o.1,if w.seen σ.1 call.replies then some (w.count call) else σ.2),
    if o.2.succeeded && requests σ.1.metrics w.metric.mask then
      some ⟨w.count call,(o.2.snapshot w.metric).toNat⟩ else none)

/-- Fewer than 2^32 events since the latest observation, and no counter overflow reported. -/
def Watch.Slow (w : Watch) (σ : PlatformSampler × Option ℕ) (call : Call) : Prop :=
  (w.seen σ.1 call.replies = true → ∀ a ∈ σ.2, a ≤ w.count call ∧ w.count call < a+2^32) ∧
  (platformSamplerRead σ.1 call.replies).2.result ≠ .error pageFaultOverflow ∧
  (platformSamplerRead σ.1 call.replies).2.result ≠ .error contextSwitchOverflow

/-- What a counter owes to its watch: an observation widens it and publishes the result, any other
read leaves it alone and publishes nothing. -/
structure Watch.Lawful (w : Watch) : Prop where
  aligned : ∀ s, Sound s → (w.counter s).Aligned
  observes : ∀ s (call : Call), w.seen s call.replies = true →
    (platformSamplerRead s call.replies).2.result ≠ .error pageFaultOverflow →
    (platformSamplerRead s call.replies).2.result ≠ .error contextSwitchOverflow →
    ∃ count, count.toNat = w.count call % 2^32 ∧
      widen (w.counter s) count = some (w.counter (platformSamplerRead s call.replies).1) ∧
      ((platformSamplerRead s call.replies).2.succeeded = true →
        (platformSamplerRead s call.replies).2.snapshot w.metric =
          (w.counter (platformSamplerRead s call.replies).1).value)
  ignores : ∀ s (call : Call), w.seen s call.replies = false →
    w.counter (platformSamplerRead s call.replies).1 = w.counter s ∧
    ¬ ((platformSamplerRead s call.replies).2.succeeded = true ∧
      requests s.metrics w.metric.mask = true)

/-- The latest observation as a pair of true count and widened value. -/
def Watch.mark (w : Watch) (σ : PlatformSampler × Option ℕ) : WithBot Tracked :=
  match σ.2 with
  | none => ⊥
  | some a => ((⟨a,(w.counter σ.1).toWide.value⟩ : Tracked) : WithBot Tracked)

/-- The widened counter remembers the low bits of the latest true count. -/
def Watch.Inv (w : Watch) (σ : PlatformSampler × Option ℕ) : Prop :=
  Sound σ.1 ∧ ∀ a ∈ σ.2, (w.counter σ.1).toWide.previous = a % 2^32

/-- Observing a slow call moves the mark up to the new pair. -/
theorem Watch.step_seen {w : Watch} (hw : w.Lawful) {σ : PlatformSampler × Option ℕ} {call : Call}
    (hinv : w.Inv σ) (hslow : w.Slow σ call) (hseen : w.seen σ.1 call.replies = true) :
    let s' := (platformSamplerRead σ.1 call.replies).1
    (w.counter s').toWide.previous = w.count call % 2^32 ∧
    w.mark σ ≤ ((⟨w.count call,(w.counter s').toWide.value⟩ : Tracked) : WithBot Tracked) := by
  obtain ⟨count,hcount,hwiden,-⟩ := hw.observes σ.1 call hseen hslow.2.1 hslow.2.2
  have hwide := (widen_eq_some (hw.aligned _ hinv.1) hwiden).2
  rw [hcount] at hwide
  refine ⟨by rw [hwide]; rfl,?_⟩
  unfold Watch.mark
  cases hlast : σ.2 with
  | none => exact bot_le
  | some a =>
    obtain ⟨hle,hlt⟩ := hslow.1 hseen a hlast
    rw [WithBot.coe_le_coe, Tracked.le_def]
    refine ⟨hle,?_⟩
    dsimp only
    rw [hwide, Wide.observe_value (hinv.2 a hlast) hle hlt]

/-- Along a slow run the published values of a lawful counter differ by the true counts. -/
theorem Watch.outputs_tracked {w : Watch} (hw : w.Lawful) {s : PlatformSampler} (hs : Sound s)
    {calls : List Call} (hslow : Along w.step w.Slow (s,none) calls) :
    ((outputs w.step (s,none) calls).filterMap id).Pairwise (· ≤ ·) := by
  refine (outputs_pairwise w.step (I := w.Inv) w.mark id ?_ ?_ ?_ ⟨hs,by simp⟩ hslow).1
  · intro σ call hinv hcall
    refine ⟨read_sound hinv.1 _,?_⟩
    intro a ha
    cases hseen : w.seen σ.1 call.replies with
    | true =>
      simp only [Watch.step, hseen, if_true, Option.mem_def, Option.some.injEq] at ha
      exact ha ▸ (w.step_seen hw hinv hcall hseen).1
    | false =>
      simp only [Watch.step, hseen, Bool.false_eq_true, if_false] at ha ⊢
      rw [(hw.ignores σ.1 call hseen).1]
      exact hinv.2 a ha
  · intro σ call hinv hcall
    cases hseen : w.seen σ.1 call.replies with
    | true =>
      have h := (w.step_seen hw hinv hcall hseen).2
      simpa [Watch.step,hseen,Watch.mark] using h
    | false =>
      have h := (hw.ignores σ.1 call hseen).1
      simp [Watch.step,hseen,Watch.mark,h]
  · intro σ call v hinv hcall hv
    have hout : (platformSamplerRead σ.1 call.replies).2.succeeded = true ∧
        requests σ.1.metrics w.metric.mask = true := by
      by_contra hn
      simp [Watch.step,hn] at hv
    simp only [Watch.step, hout, Bool.and_self, if_true, id_eq, Option.some.injEq] at hv
    cases hseen : w.seen σ.1 call.replies with
    | true =>
      obtain ⟨-,-,-,hpub⟩ := hw.observes σ.1 call hseen hcall.2.1 hcall.2.2
      have hsound := hw.aligned _ (read_sound hinv.1 call.replies)
      rw [← hv, hpub hout.1, hsound.toNat_value]
      exact ⟨(w.step_seen hw hinv hcall hseen).2,by simp [Watch.step,hseen,Watch.mark]⟩
    | false => exact absurd hout (hw.ignores σ.1 call hseen).2

/-- Page faults are observed by every successful `GetProcessMemoryInfo`, even when the read fails
afterwards. -/
def faultWatch : Watch := ⟨.pageFaults,PlatformSampler.pageFaults,queriesMemory,Call.faults⟩

/-- Context switches are observed by the successful reads only. -/
def switchWatch : Watch where
  metric := .contextSwitches
  counter := PlatformSampler.contextSwitches
  seen s r := (platformSamplerRead s r).2.succeeded &&
    requests s.metrics MetricId.contextSwitches.mask
  count := Call.switches

theorem faultWatch_lawful : faultWatch.Lawful where
  aligned _ hs := hs.1
  observes s call hseen hne _ := by
    rcases read_pageFaults s call.replies with ⟨-,-,-,he⟩ | ⟨-,-,c,hw,hc,hpub⟩ | ⟨hq,-⟩
    · exact absurd he hne
    · exact ⟨_,call.faults_mod,hw.trans (by rw [← hc]; rfl),fun h => (hpub h).trans (by rw [← hc]; rfl)⟩
    · exact absurd (hq.symm.trans hseen) (by simp)
  ignores s call hseen := by
    rcases read_pageFaults s call.replies with ⟨hq,-⟩ | ⟨hq,-⟩ | ⟨-,-,hc,hreq⟩
    · exact absurd (hq.symm.trans hseen) (by simp)
    · exact absurd (hq.symm.trans hseen) (by simp)
    · refine ⟨hc,fun h => ?_⟩
      rw [show requests s.metrics MetricId.pageFaults.mask = true from h.2] at hreq
      exact absurd (hreq h.1) (by simp)

theorem switchWatch_lawful : switchWatch.Lawful where
  aligned _ hs := hs.2
  observes s call hseen _ hne := by
    obtain ⟨hok,hreq⟩ := (Bool.and_eq_true _ _).mp hseen
    rcases read_contextSwitches s call.replies with ⟨-,-,-,he⟩ | ⟨-,hf,-⟩ | ⟨-,-,⟨-,hw,hv⟩ | ⟨hr,-⟩⟩
    · exact absurd he hne
    · exact absurd (hf.symm.trans hok) (by simp)
    · exact ⟨_,call.switches_mod,hw,fun _ => hv⟩
    · exact absurd (hr.symm.trans hreq) (by simp)
  ignores s call hseen := by
    refine ⟨?_,fun h => ?_⟩
    · rcases read_contextSwitches s call.replies with ⟨-,-,hc,-⟩ | ⟨-,-,-,hc⟩ | ⟨-,hok,⟨hreq,-⟩ | ⟨-,hc⟩⟩
      · exact hc
      · exact hc
      · exact absurd hseen (by simp [switchWatch,hok,hreq])
      · exact hc
    · exact absurd hseen (by simpa [switchWatch] using h)

section Exact
variable {s : PlatformSampler} (hs : Sound s) (r : Replies)

/-- A read to which everything is answered succeeds, unless it reports a counter overflow. -/
theorem read_succeeds_iff : (platformSamplerRead s r).2.succeeded = true ↔ Answered s r ∧
    (platformSamplerRead s r).2.result ≠ .error pageFaultOverflow ∧
    (platformSamplerRead s r).2.result ≠ .error contextSwitchOverflow := by
  constructor
  · intro hok
    have hnot : ∀ e, (platformSamplerRead s r).2.result ≠ .error e := by
      intro e he
      simp [ReadOutcome.succeeded,he] at hok
    exact ⟨((read_succeeded_iff s r).mp hok).1,hnot _,hnot _⟩
  · rintro ⟨hanswered,hfault,hswitch⟩
    have hreach : reachesPageFaults s r = true := by
      rw [reachesPageFaults, (checkThread_isOk_iff s r).mpr fun h => ⟨hanswered.thread h,hanswered.profile h⟩,
        (readCpuTime_isOk_iff s r _).mpr hanswered.times]
      rfl
    have hfaults : requests s.metrics MetricId.pageFaults.mask = true →
        widen s.pageFaults r.memory.value ≠ none := by
      intro hreq
      rcases read_pageFaults s r with ⟨-,-,-,he⟩ | ⟨-,-,c,hw,-⟩ | ⟨hq,-⟩
      · exact absurd he hfault
      · simp [hw]
      · simp [queriesMemory,hreach,hreq,hanswered.memory hreq] at hq
    refine (read_succeeded_iff s r).mpr ⟨hanswered,hfaults,fun hreq => ?_⟩
    have hswitches : reachesSwitches s r = true := by
      rw [reachesSwitches, hreach, hreq,
        (readPageFaults_isOk_iff s r _).mpr fun h => ⟨hanswered.memory h,hfaults h⟩]
      rfl
    rcases read_contextSwitches s r with ⟨-,-,-,he⟩ | ⟨hn,-⟩ | ⟨hn,-⟩
    · exact absurd he hswitch
    · exact fun hw => hn ⟨hswitches,hw⟩
    · exact fun hw => hn ⟨hswitches,hw⟩

include hs in
/-- An accepted page-fault count is kept, also by a read that fails later. -/
theorem read_pageFaults_observed (hq : queriesMemory s r = true)
    (hne : (platformSamplerRead s r).2.result ≠ .error pageFaultOverflow) :
    s.pageFaults.Observed (platformSamplerRead s r).1.pageFaults r.memory.value ∧
    ((platformSamplerRead s r).2.succeeded = true →
      ((platformSamplerRead s r).2.snapshot .pageFaults).toNat =
        (platformSamplerRead s r).1.pageFaults.base.toNat + r.memory.value.toNat) := by
  rcases read_pageFaults s r with ⟨-,-,-,he⟩ | ⟨-,-,c,hw,hc,hpub⟩ | ⟨hn,-⟩
  · exact absurd he hne
  · have hobserved := widen_observed hs.1 hw
    rw [hc]
    refine ⟨hobserved,fun hok => ?_⟩
    rw [hpub hok, (widen_eq_some hs.1 hw).1.toNat_value, ← hobserved.previous]
    rfl
  · exact absurd hq (by simp [hn])

include hs in
theorem read_contextSwitches_observed (hok : (platformSamplerRead s r).2.succeeded = true)
    (hreq : requests s.metrics MetricId.contextSwitches.mask = true) :
    s.contextSwitches.Observed (platformSamplerRead s r).1.contextSwitches
        r.profile.contextSwitchCount ∧
    ((platformSamplerRead s r).2.snapshot .contextSwitches).toNat =
      (platformSamplerRead s r).1.contextSwitches.base.toNat + r.profile.contextSwitchCount.toNat := by
  rcases read_contextSwitches s r with ⟨-,-,-,he⟩ | ⟨-,hn,-⟩ | ⟨-,-,⟨-,hw,hv⟩ | ⟨hr,-⟩⟩
  · simp [ReadOutcome.succeeded,he] at hok
  · simp [hn] at hok
  · have hobserved := widen_observed hs.2 hw
    refine ⟨hobserved,?_⟩
    rw [hv, (widen_eq_some hs.2 hw).1.toNat_value, ← hobserved.previous]
    rfl
  · simp [hr] at hreq

end Exact

theorem final_sound (metrics : UInt32) (scope : ScopeId) (threadId : UInt32) (calls : List Call) :
    Sound (final readStep (opened metrics scope threadId) calls) :=
  final_invariant_all readStep (I := Sound) (fun _ call h => read_sound h call.replies) calls
    (opened_sound metrics scope threadId)

/-- The 32-bit counters are widened without loss or double counting. Along a run without a counter
overflow in which fewer than 2^32 events pass between observations, any two published values differ
by the true count. In every reachable state the bases are whole periods that leave room for any
count, and an overflow is reported exactly for a wrap that would leave 64 bits, without changing
the state of that counter. Any other read to which everything is answered succeeds; it observes the
counts, and publishes base and count together. -/
theorem widening_exact (metrics : UInt32) (scope : ScopeId) (threadId : UInt32)
    (calls : List Call) :
    let s₀ := opened metrics scope threadId
    let s := final readStep s₀ calls
    (Along faultWatch.step faultWatch.Slow (s₀,none) calls →
      ((outputs faultWatch.step (s₀,none) calls).filterMap id).Pairwise
        (fun x y => x.count ≤ y.count ∧ y.value = x.value + (y.count-x.count))) ∧
    (Along switchWatch.step switchWatch.Slow (s₀,none) calls →
      ((outputs switchWatch.step (s₀,none) calls).filterMap id).Pairwise
        (fun x y => x.count ≤ y.count ∧ y.value = x.value + (y.count-x.count))) ∧
    2^32 ∣ s.pageFaults.base.toNat ∧ 2^32 ∣ s.contextSwitches.base.toNat ∧
    (∀ count : UInt32, s.pageFaults.base.toNat + count.toNat < 2^64 ∧
      s.contextSwitches.base.toNat + count.toNat < 2^64) ∧
    ∀ r : Replies,
      let o := platformSamplerRead s r
      (o.2.result = .error pageFaultOverflow ↔ queriesMemory s r = true ∧
        r.memory.value < s.pageFaults.previous ∧
        2^64 ≤ s.pageFaults.base.toNat + 2^32 + r.memory.value.toNat) ∧
      (o.2.result = .error contextSwitchOverflow ↔ reachesSwitches s r = true ∧
        r.profile.contextSwitchCount < s.contextSwitches.previous ∧
        2^64 ≤ s.contextSwitches.base.toNat + 2^32 + r.profile.contextSwitchCount.toNat) ∧
      (o.2.result = .error pageFaultOverflow → o.1.pageFaults = s.pageFaults) ∧
      (o.2.result = .error contextSwitchOverflow → o.1.contextSwitches = s.contextSwitches) ∧
      (o.2.succeeded = true ↔ Answered s r ∧ o.2.result ≠ .error pageFaultOverflow ∧
        o.2.result ≠ .error contextSwitchOverflow) ∧
      (queriesMemory s r = true → o.2.result ≠ .error pageFaultOverflow →
        s.pageFaults.Observed o.1.pageFaults r.memory.value) ∧
      (o.2.succeeded = true →
        (requests metrics MetricId.pageFaults.mask = true →
          s.pageFaults.Observed o.1.pageFaults r.memory.value ∧
          (o.2.snapshot .pageFaults).toNat = o.1.pageFaults.base.toNat + r.memory.value.toNat) ∧
        (requests metrics MetricId.contextSwitches.mask = true →
          s.contextSwitches.Observed o.1.contextSwitches r.profile.contextSwitchCount ∧
          (o.2.snapshot .contextSwitches).toNat =
            o.1.contextSwitches.base.toNat + r.profile.contextSwitchCount.toNat)) := by
  intro s₀ s
  have hs : Sound s := final_sound metrics scope threadId calls
  have h₀ : Sound s₀ := opened_sound metrics scope threadId
  have hmetrics : s.metrics = metrics := final_invariant_all readStep (I := fun s => s.metrics = metrics)
    (fun s call h => (read_kept s call.replies).1.trans h) calls rfl
  refine ⟨fun h => faultWatch.outputs_tracked faultWatch_lawful h₀ h,
    fun h => switchWatch.outputs_tracked switchWatch_lawful h₀ h,hs.1,hs.2,
    fun count => ⟨hs.1.base_add_lt count,hs.2.base_add_lt count⟩,fun r => ⟨pageFaultOverflow_iff hs.1 r,
    contextSwitchOverflow_iff hs.2 r,fun he => ?_,fun he => ?_,read_succeeds_iff r,
    fun hq hne => (read_pageFaults_observed hs r hq hne).1,fun hok => ⟨fun hreq => ?_,fun hreq => ?_⟩⟩⟩
  · rcases read_pageFaults s r with ⟨-,-,hc,-⟩ | ⟨-,hne,-⟩ | ⟨-,hne,-⟩
    · rw [hc]
    · exact absurd he hne
    · exact absurd he hne
  · rcases read_contextSwitches s r with ⟨-,-,hc,-⟩ | ⟨-,-,hne,-⟩ | ⟨-,hok,-⟩
    · exact hc
    · exact absurd he hne
    · simp [ReadOutcome.succeeded,he] at hok
  · have hreq' : requests s.metrics MetricId.pageFaults.mask = true := by rwa [hmetrics]
    rcases read_pageFaults s r with ⟨-,-,-,he⟩ | ⟨hq,hne,-⟩ | ⟨-,-,-,hnone⟩
    · simp [ReadOutcome.succeeded,he] at hok
    · obtain ⟨hobserved,hpub⟩ := read_pageFaults_observed hs r hq hne
      exact ⟨hobserved,hpub hok⟩
    · exact absurd hreq' (by simp [hnone hok])
  · exact read_contextSwitches_observed hs r hok (by rwa [hmetrics])

/-- A call in which every native query succeeds. -/
def plainCall (faults switches : ℕ) (thread : UInt32) : Call where
  replies :=
    { currentThreadId := thread, waitResult := waitTimeout, waitError := 0, profileError := 0
      profile := ⟨UInt32.ofNat switches,0⟩, times := ⟨true,0,⟨0,0⟩,⟨0,0⟩⟩
      memory := ⟨true,0,UInt32.ofNat faults⟩, processCycles := ⟨true,0,0⟩ }
  faults := faults
  switches := switches
  faults_mod := UInt32.toNat_ofNat'
  switches_mod := UInt32.toNat_ofNat'

def faultCalls : List Call :=
  [plainCall 4294967290 0 0,plainCall 4294967299 0 0,plainCall 4294967300 0 0]

def switchCalls : List Call :=
  [plainCall 0 4294967290 7,plainCall 0 4294967299 7,plainCall 0 4294967300 7]

/-- Three reads around a wrap of each counter. -/
theorem widening_exact_wrap :
    ((outputs faultWatch.step (opened 2 .currentProcess 0,none) faultCalls).filterMap id).Pairwise
        (fun x y => x.count ≤ y.count ∧ y.value = x.value + (y.count-x.count)) ∧
    (outputs faultWatch.step (opened 2 .currentProcess 0,none) faultCalls).map (·.map Tracked.value) =
      [some 4294967290,some 4294967299,some 4294967300] ∧
    ((outputs switchWatch.step (opened 4 .currentThread 7,none) switchCalls).filterMap id).Pairwise
        (fun x y => x.count ≤ y.count ∧ y.value = x.value + (y.count-x.count)) ∧
    (outputs switchWatch.step (opened 4 .currentThread 7,none) switchCalls).map (·.map Tracked.value) =
      [some 4294967290,some 4294967299,some 4294967300] := by
  refine ⟨?_,by decide,?_,by decide⟩
  · refine (widening_exact 2 .currentProcess 0 _).1 ⟨⟨?_,?_,?_⟩,⟨?_,?_,?_⟩,⟨?_,?_,?_⟩,trivial⟩ <;> decide
  · refine (widening_exact 4 .currentThread 7 _).2.1 ⟨⟨?_,?_,?_⟩,⟨?_,?_,?_⟩,⟨?_,?_,?_⟩,trivial⟩ <;> decide

end Perfidious.Windows
