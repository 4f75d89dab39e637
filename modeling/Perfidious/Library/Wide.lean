import Mathlib.Order.WithBot
import Mathlib.Data.Nat.Init

/-! Widening a counter that is observed modulo `M`: every observation below the previous one is
taken for one wrap. -/
namespace Perfidious.Library

/-- The widened counter: completed wraps and the last observation. -/
structure Wide where
  base : ℕ
  previous : ℕ

namespace Wide

def value (w : Wide) : ℕ := w.base + w.previous

def observe (M : ℕ) (w : Wide) (count : ℕ) : Wide :=
  ⟨if count < w.previous then w.base + M else w.base,count⟩

/-- The widened value never decreases, whatever is observed. -/
theorem value_le_observe {M : ℕ} {w : Wide} (h : w.previous ≤ M) (count : ℕ) :
    w.value ≤ (w.observe M count).value := by
  unfold observe value
  split_ifs <;> dsimp only <;> omega

/-- With less than one period between two observations the widened value follows the true count. -/
theorem observe_value {M : ℕ} {w : Wide} {a b : ℕ} (hw : w.previous = a%M) (hab : a ≤ b)
    (hb : b < a+M) : (w.observe M (b%M)).value = w.value + (b-a) := by
  have hM : 0 < M := by omega
  have hr := Nat.mod_lt a hM
  obtain ⟨d,rfl⟩ := Nat.exists_eq_add_of_le hab
  have hmod : (a+d)%M = (a%M+d)%M := (Nat.mod_add_mod a M d).symm
  unfold observe value
  rw [hmod, hw]
  by_cases hwrap : a%M+d < M
  · rw [Nat.mod_eq_of_lt hwrap, if_neg (by omega)]
    dsimp only
    omega
  · have hsub : (a%M+d)%M = a%M+d-M := by
      rw [Nat.mod_eq_sub_mod (by omega), Nat.mod_eq_of_lt (by omega)]
    rw [hsub, if_pos (by omega)]
    dsimp only
    omega

end Wide

/-- A true count together with the widened value that stands for it. -/
structure Tracked where
  count : ℕ
  value : ℕ

/-- A later pair is above an earlier one when both components grew by the same amount. -/
instance : Preorder Tracked where
  le x y := x.count ≤ y.count ∧ y.value = x.value + (y.count-x.count)
  le_refl x := by simp
  le_trans x y z := by
    rintro ⟨hxy,hv⟩ ⟨hyz,hw⟩
    exact ⟨hxy.trans hyz, by omega⟩

theorem Tracked.le_def {x y : Tracked} :
    x ≤ y ↔ x.count ≤ y.count ∧ y.value = x.value + (y.count-x.count) := Iff.rfl

end Perfidious.Library
