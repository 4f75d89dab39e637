import Perfidious.Word
import Perfidious.Library.Scaling

/-! Checked integer scaling shared by the Linux counter consumers (`linux/counter_math.h`). -/
namespace Perfidious
open Library

/-- The branch of `perfidious_scale_uint64` with 128-bit intermediates. -/
def scaleUint64Wide (value multiplier divisor : UInt64) : Option UInt64 :=
  let scaled : BitVec 128 :=
    value.toBitVec.setWidth 128 * multiplier.toBitVec.setWidth 128 / divisor.toBitVec.setWidth 128
  if scaled > uint64Max.toBitVec.setWidth 128 then none
  else some (UInt64.ofBitVec (scaled.setWidth 64))

/-- The branch for compilers without a 128-bit integer type. -/
def scaleUint64Narrow (value multiplier divisor : UInt64) : Option UInt64 :=
  if value ≠ 0 ∧ multiplier > uint64Max/value then none
  else some (value*multiplier/divisor)

/-- `perfidious_scale_uint64`; `int128` says whether the build defines `__SIZEOF_INT128__`, and
`none` is the return value `false`. -/
def scaleUint64 (int128 : Bool) (value multiplier divisor : UInt64) : Option UInt64 :=
  if int128 then scaleUint64Wide value multiplier divisor
  else scaleUint64Narrow value multiplier divisor

theorem toNat_wide_quotient (v m d : UInt64) :
    (v.toBitVec.setWidth 128 * m.toBitVec.setWidth 128 / d.toBitVec.setWidth 128).toNat =
      scaled v.toNat m.toNat d.toNat := by
  have hv := v.toNat_lt
  have hm := m.toNat_lt
  have hd := d.toNat_lt
  have hp : v.toNat*m.toNat < 2^128 := by
    calc v.toNat*m.toNat < 2^64*2^64 := Nat.mul_lt_mul'' hv hm
      _ = 2^128 := rfl
  simp only [BitVec.toNat_udiv, BitVec.toNat_mul, BitVec.toNat_setWidth, UInt64.toNat_toBitVec,
    scaled]
  rw [Nat.mod_eq_of_lt (by omega : v.toNat < 2^128), Nat.mod_eq_of_lt (by omega : m.toNat < 2^128),
    Nat.mod_eq_of_lt (by omega : d.toNat < 2^128), Nat.mod_eq_of_lt hp]

/-- The 128-bit branch refuses exactly the quotients that leave 64 bits. -/
theorem scaleUint64Wide_eq_none_iff (v m d : UInt64) :
    scaleUint64Wide v m d = none ↔ 2^64 ≤ scaled v.toNat m.toNat d.toNat := by
  simp only [scaleUint64Wide, gt_iff_lt, BitVec.lt_def, toNat_wide_quotient]
  simp only [BitVec.toNat_setWidth, UInt64.toNat_toBitVec, toNat_uint64Max]
  split_ifs with h <;> simp <;> omega

/-- The 128-bit branch returns exactly the rounded-down quotient. -/
theorem scaleUint64Wide_eq_some {v m d r : UInt64} (h : scaleUint64Wide v m d = some r) :
    r.toNat = scaled v.toNat m.toNat d.toNat := by
  simp only [scaleUint64Wide, gt_iff_lt, BitVec.lt_def, toNat_wide_quotient] at h
  simp only [BitVec.toNat_setWidth, UInt64.toNat_toBitVec, toNat_uint64Max] at h
  split_ifs at h with hlt
  have hr := Option.some.inj h
  rw [← hr, UInt64.toNat_ofBitVec, BitVec.toNat_setWidth, toNat_wide_quotient]
  exact Nat.mod_eq_of_lt (by omega)

section
variable {v m d : UInt64}

/-- The narrow branch refuses exactly the products that leave 64 bits, whatever the divisor. -/
theorem scaleUint64Narrow_eq_none_iff :
    scaleUint64Narrow v m d = none ↔ 2^64 ≤ v.toNat*m.toNat := by
  unfold scaleUint64Narrow
  by_cases hv : v = 0
  · simp [hv]
  · rw [Nat.mul_comm, ← gt_uint64Max_div_iff m hv]
    simp [hv]

/-- What it returns is not affected by a wrap. -/
theorem scaleUint64Narrow_eq_some {r : UInt64} (h : scaleUint64Narrow v m d = some r) :
    r.toNat = scaled v.toNat m.toNat d.toNat := by
  have hfits : v.toNat*m.toNat < 2^64 := by
    apply Nat.lt_of_not_le
    intro hwraps
    rw [scaleUint64Narrow_eq_none_iff.mpr hwraps] at h
    cases h
  unfold scaleUint64Narrow at h
  split at h
  · cases h
  · cases h
    rw [UInt64.toNat_div, toNat_mul_of_lt hfits, scaled]

/-- The return value and `*result`, which is written on success only. -/
def withResult (outcome : Option UInt64) (result : UInt64) : Bool × UInt64 :=
  match outcome with
  | some scaled => (true,scaled)
  | none => (false,result)

/-- A scaling that returns the rounded-down quotient wherever it fits into 64 bits. -/
def ScalesExactly (outcome : Option UInt64) (v m d : UInt64) : Prop :=
  ∀ result, withResult outcome result =
    if scaled v.toNat m.toNat d.toNat < 2^64 then
      (true,UInt64.ofNat (scaled v.toNat m.toNat d.toNat))
    else (false,result)

theorem scalesExactly_of {outcome : Option UInt64}
    (hnone : outcome = none ↔ 2^64 ≤ scaled v.toNat m.toNat d.toNat)
    (hsome : ∀ r, outcome = some r → r.toNat = scaled v.toNat m.toNat d.toNat) :
    ScalesExactly outcome v m d := by
  intro result
  cases outcome with
  | none => rw [if_neg (Nat.not_lt.mpr (hnone.mp rfl)), withResult]
  | some r =>
    have hr := hsome r rfl
    rw [← hr, if_pos r.toNat_lt, withResult, UInt64.ofNat_toNat]

theorem scaleUint64Wide_exact : ScalesExactly (scaleUint64Wide v m d) v m d :=
  scalesExactly_of (scaleUint64Wide_eq_none_iff v m d) fun _ h => scaleUint64Wide_eq_some h

theorem scaleUint64Narrow_exact_iff :
    ScalesExactly (scaleUint64Narrow v m d) v m d ↔
      (2^64 ≤ v.toNat*m.toNat → 2^64 ≤ scaled v.toNat m.toNat d.toNat) := by
  constructor
  · intro h hwraps
    apply Nat.le_of_not_lt
    intro hfits
    have := h 0
    rw [scaleUint64Narrow_eq_none_iff.mpr hwraps, if_pos hfits] at this
    cases this
  · intro h
    apply scalesExactly_of
    · rw [scaleUint64Narrow_eq_none_iff]
      refine ⟨h,?_⟩
      intro hquotient
      exact hquotient.trans (Nat.div_le_self _ _)
    · intro r hr
      exact scaleUint64Narrow_eq_some hr

end

theorem ScalesExactly.unique {v m d : UInt64} {outcome outcome' : Option UInt64}
    (h : ScalesExactly outcome v m d) (h' : ScalesExactly outcome' v m d) : outcome = outcome' := by
  have hsame : withResult outcome 0 = withResult outcome' 0 := (h 0).trans (h' 0).symm
  cases outcome with
  | none =>
    cases outcome' with
    | none => rfl
    | some r' => cases hsame
  | some r =>
    cases outcome' with
    | none => cases hsame
    | some r' => exact congrArg some (congrArg Prod.snd hsame)

/-- Both branches scale exactly, and agree, on the inputs whose product fits into 64 bits or whose
quotient does not. -/
theorem scale_branches_exact_iff (v m d : UInt64) (hd : d ≠ 0) :
    ((∀ int128, ScalesExactly (scaleUint64 int128 v m d) v m d) ↔
      v.toNat*m.toNat < 2^64 ∨ 2^64*d.toNat ≤ v.toNat*m.toNat) ∧
    (scaleUint64 false v m d = scaleUint64 true v m d ↔
      v.toNat*m.toNat < 2^64 ∨ 2^64*d.toNat ≤ v.toNat*m.toNat) := by
  have hpos : 0 < d.toNat := Nat.pos_of_ne_zero fun h => hd (UInt64.toNat_inj.mp h)
  have hwide : ScalesExactly (scaleUint64 true v m d) v m d := scaleUint64Wide_exact
  have hnarrow : ScalesExactly (scaleUint64 false v m d) v m d ↔
      v.toNat*m.toNat < 2^64 ∨ 2^64*d.toNat ≤ v.toNat*m.toNat := by
    refine scaleUint64Narrow_exact_iff.trans ?_
    rw [scaled, Nat.le_div_iff_mul_le hpos]
    omega
  constructor
  · rw [← hnarrow]
    constructor
    · intro h
      exact h false
    · intro h int128
      cases int128 with
      | true => exact hwide
      | false => exact h
  · rw [← hnarrow]
    constructor
    · intro h
      rwa [h]
    · intro h
      exact h.unique hwide

theorem scale_branches_exact_iff_refused :
    (∀ int128, ScalesExactly (scaleUint64 int128 uint64Max 2 1) uint64Max 2 1) ∧
      scaleUint64 false uint64Max 2 1 = scaleUint64 true uint64Max 2 1 := by
  obtain ⟨hexact,hagree⟩ := scale_branches_exact_iff uint64Max 2 1 (by decide)
  have hoverflows : 2^64*(1 : UInt64).toNat ≤ uint64Max.toNat*(2 : UInt64).toNat := by decide
  exact ⟨hexact.mpr (.inr hoverflows),hagree.mpr (.inr hoverflows)⟩

/-- A product past 64 bits is refused although its quotient fits. -/
theorem scale_branches_differ :
    ¬ ∀ v m d : UInt64, d ≠ 0 → ∀ int128, ScalesExactly (scaleUint64 int128 v m d) v m d := by
  intro h
  have := h uint64Max 2 2 (by decide) false 0
  exact absurd this (by decide)

example : scaleUint64 true 100 3 2 = some 150 := by decide
example : scaleUint64 true uint64Max 2 1 = none := by decide

end Perfidious
