import Perfidious.Sampler.Deltas

/-! Samples passed to `Sample::since` in the wrong order: the later of two samples is recognised by its
clock value alone. -/
namespace Perfidious
open Library

/-- The call throws a `ValueError`. -/
def ThrowsValueError {α : Type} (result : Except Error α) : Prop :=
  ∃ e, result = .error e ∧ e.exceptionCe = .valueError

/-- `Sample::since` throws a `ValueError` for another sampler and for a smaller time, and for nothing
else. -/
theorem SampleObj.throwsValueError_since_iff (sample earlier : SampleObj) :
    ThrowsValueError (sample.since earlier) ↔
      sample.identity ≠ earlier.identity ∨ sample.timeNs < earlier.timeNs := by
  constructor
  · rintro ⟨e,he,hce⟩
    obtain ⟨hid,-⟩ | ⟨htime,-⟩ | rfl | ⟨m,rfl⟩ := since_error he
    · exact .inl hid
    · exact .inr htime
    · exact absurd hce (by decide)
    · exact absurd hce (by cases m <;> decide)
  · intro h
    by_cases hid : sample.identity = earlier.identity
    · have htime := h.resolve_left (not_not_intro hid)
      refine ⟨newerSample,?_,rfl⟩
      unfold since
      rw [if_neg (not_not_intro hid), if_pos htime]
    · refine ⟨differentSampler,?_,rfl⟩
      unfold since
      rw [if_pos hid]

namespace SamplerObj
variable {σ ρ : Type} {platformSamplerRead : σ → ρ → σ × ReadOutcome}

/-- The samples of one sampler have the order of their clock values. -/
theorem Taken.timeNs_lt_iff {obj : SamplerObj σ} {x y : Snapshot} {t u : UInt64} {a b : SampleObj}
    (hx : obj.Taken x t a) (hy : obj.Taken y u b) : a.timeNs < b.timeNs ↔ t < u := by
  obtain ⟨-,-,hxo,hxt,-⟩ := hx
  obtain ⟨-,-,hyo,hyt,-⟩ := hy
  rw [hxt, hyt, UInt64.lt_iff_toNat_lt, UInt64.lt_iff_toNat_lt, UInt64.toNat_sub_of_le _ _ hxo,
    UInt64.toNat_sub_of_le _ _ hyo]
  have hxo := UInt64.le_iff_toNat_le.mp hxo
  omega

theorem Taken.throwsValueError_since_iff {obj : SamplerObj σ} {x y : Snapshot} {t u : UInt64}
    {a b : SampleObj} (hx : obj.Taken x t a) (hy : obj.Taken y u b) :
    ThrowsValueError (a.since b) ↔ t < u := by
  rw [SampleObj.throwsValueError_since_iff, hx.timeNs_lt_iff hy]
  exact or_iff_right (not_not_intro (hx.1.trans hy.1.symm))

end SamplerObj

/-- Of two samples of a sampler, the earlier one rejects the later one exactly when the clock advanced
between their reads; the later one accepts the earlier one in any case. -/
theorem reversed_rejected_iff {σ ρ : Type} (platformSamplerRead : σ → ρ → σ × ReadOutcome)
    (obj : SamplerObj σ) (s : σ) (hs : obj.sampler = some s) (ops : List (SamplerOp ρ))
    (hclock : (clocks ops).Pairwise (· ≤ ·)) {t u : UInt64} {e l : SampleObj}
    (hel : [(t,e),(u,l)].Sublist (obj.timedSamples platformSamplerRead ops)) :
    (ThrowsValueError (e.since l) ∧ ¬ThrowsValueError (l.since e) ↔ t < u) ∧
    ¬ThrowsValueError (l.since e) := by
  have htu : t ≤ u := by
    have hsub := (hel.map Prod.fst).trans (SamplerObj.timedSamples_clocks hs ops)
    exact (List.pairwise_cons.mp (hclock.sublist hsub)).1 u (by simp)
  obtain ⟨x,-,-,he⟩ := SamplerObj.mem_timedSamples hs (hel.subset (by simp) : (t,e) ∈ _)
  obtain ⟨y,-,-,hl⟩ := SamplerObj.mem_timedSamples hs (hel.subset (by simp) : (u,l) ∈ _)
  have hforward : ¬ThrowsValueError (l.since e) := by
    rw [hl.throwsValueError_since_iff he]
    exact UInt64.not_lt.mpr htu
  rw [he.throwsValueError_since_iff hl]
  exact ⟨and_iff_left hforward,hforward⟩

/-- Two reads whose clock values are `t` and `u`, while the native counters go from 5 to `count`. -/
def twoReads (t u count : UInt64) : List (SamplerOp (Except Error Snapshot)) :=
  [.read (.ok fun _ => 5) t,.read (.ok fun _ => count) u]

theorem reversed_rejected_iff_plain :
    ∃ e l, plainSampler.timedSamples plainRead (twoReads 10 11 7) = [(10,e),(11,l)] ∧
      ThrowsValueError (e.since l) ∧ ¬ThrowsValueError (l.since e) := by
  refine ⟨_,_,rfl,?_⟩
  exact (reversed_rejected_iff plainRead plainSampler () rfl (twoReads 10 11 7) (by decide)
    (.refl _)).1.mpr (by decide)

/-- Two reads within one tick of the clock. The later sample is taken for an earlier one whose counter
moved backwards, or, if nothing was counted in between, for one that no time separates from the other. -/
theorem reversed_accepted :
    (∀ count : UInt64, count = 5 ∨ count = 7 →
      ((outputs plainRead () (nativeReads (twoReads 10 10 count))).filterMap
        ReadOutcome.published).Pairwise (fun x y => ∀ m, x m ≤ y m) ∧
      (clocks (twoReads 10 10 count)).Pairwise (· ≤ ·)) ∧
    (∃ e l, plainSampler.timedSamples plainRead (twoReads 10 10 7) = [(10,e),(10,l)] ∧
      e.since l = .error (sampleBackwards .cpuTime) ∧ ¬ThrowsValueError (e.since l)) ∧
    ∃ e l delta, plainSampler.timedSamples plainRead (twoReads 10 10 5) = [(10,e),(10,l)] ∧
      e.since l = .ok delta ∧ delta.elapsedTimeNs = 0 ∧ ¬ThrowsValueError (e.since l) := by
  refine ⟨?_,⟨_,_,rfl,rfl,?_⟩,⟨_,_,_,rfl,rfl,rfl,?_⟩⟩
  · intro count hcount
    have hsnapshots : (outputs plainRead () (nativeReads (twoReads 10 10 count))).filterMap
        ReadOutcome.published = [fun _ => 5,fun _ => count] := rfl
    rw [hsnapshots]
    obtain rfl | rfl := hcount
    · simp [clocks,twoReads]
    · simp [clocks,twoReads]
  · rintro ⟨e,he,hce⟩
    cases he
    cases hce
  · rintro ⟨e,he,-⟩
    cases he

end Perfidious
