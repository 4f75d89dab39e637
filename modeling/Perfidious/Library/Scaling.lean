import Mathlib.Algebra.Order.Floor.Semiring
import Mathlib.Data.Nat.Cast.Order.Field

/-! Scaling a count by the ratio of two intervals, rounded down. -/
namespace Perfidious.Library

/-- `⌊count * enabled / running⌋`, the estimate of a multiplexed counter over an interval. -/
def scaled (count enabled running : ℕ) : ℕ := count*enabled/running

@[simp] theorem scaled_zero_running (count enabled : ℕ) : scaled count enabled 0 = 0 :=
  Nat.div_zero _

/-- An interval that ran for no longer than it was enabled is never scaled down. -/
theorem le_scaled {count enabled running : ℕ} (hr : 0 < running) (he : running ≤ enabled) :
    count ≤ scaled count enabled running := by
  rw [scaled, Nat.le_div_iff_mul_le hr]
  exact Nat.mul_le_mul_left count he

/-- A share of an interval is at most the whole. -/
theorem scaled_le (whole : ℕ) {part enabled : ℕ} (h : part ≤ enabled) :
    scaled part whole enabled ≤ whole := by
  rcases Nat.eq_zero_or_pos enabled with rfl | he
  · simp
  · rw [scaled, Nat.div_le_iff_le_mul_add_pred he]
    have := Nat.mul_le_mul_right whole h
    omega

/-- An interval that ran throughout keeps its count. -/
theorem scaled_self (count : ℕ) {running : ℕ} (hr : 0 < running) :
    scaled count running running = count :=
  Nat.mul_div_cancel count hr

/-- Scaling the quotient and the remainder apart loses nothing. -/
theorem scaled_split (count enabled : ℕ) {running : ℕ} (hr : 0 < running) :
    scaled count enabled running = count/running*enabled + scaled (count%running) enabled running := by
  have hsplit : count*enabled = running*(count/running*enabled) + count%running*enabled := by
    calc count*enabled = (running*(count/running) + count%running)*enabled := by
          rw [Nat.div_add_mod]
      _ = running*(count/running*enabled) + count%running*enabled := by
          rw [Nat.add_mul, Nat.mul_assoc]
  rw [scaled, hsplit, Nat.mul_add_div hr, scaled]

section
variable {K : Type*} [Field K] [LinearOrder K] [IsStrictOrderedRing K]

/-- Rounding down loses less than one. -/
theorem scaled_le_div (count enabled running : ℕ) :
    (scaled count enabled running : K) ≤ count*enabled/running := by
  rw [← Nat.cast_mul]
  exact Nat.cast_div_le

theorem div_lt_scaled_add_one (count enabled running : ℕ) :
    (count*enabled/running : K) < scaled count enabled running + 1 := by
  rcases Nat.eq_zero_or_pos running with rfl | hr
  · simp
  · rw [div_lt_iff₀ (Nat.cast_pos.mpr hr)]
    have h : count*enabled < (scaled count enabled running + 1)*running :=
      Nat.mul_comm running _ ▸ Nat.lt_mul_div_succ (count*enabled) hr
    exact_mod_cast h

end

end Perfidious.Library
