import Mathlib.Data.List.Basic
import Mathlib.Logic.Function.Basic

/-! Arrays that a loop fills from the front: the cells of a memory below a counter. -/
namespace Perfidious.Library

variable {α : Type*}

/-- The first `n` cells of a memory. -/
def filled (memory : ℕ → α) (n : ℕ) : List α := (List.range n).map memory

@[simp] theorem filled_zero (memory : ℕ → α) : filled memory 0 = [] := rfl

@[simp] theorem length_filled (memory : ℕ → α) (n : ℕ) : (filled memory n).length = n := by
  simp [filled]

theorem filled_succ (memory : ℕ → α) (n : ℕ) : filled memory (n+1) = filled memory n ++ [memory n] := by
  rw [filled, List.range_succ, List.map_append, List.map_singleton]
  rfl

/-- A store at or above the counter leaves the filled part alone. -/
theorem filled_update_of_le (memory : ℕ → α) {n i : ℕ} (h : n ≤ i) (a : α) :
    filled (Function.update memory i a) n = filled memory n := by
  apply List.map_congr_left
  intro j hj
  have hne : j ≠ i := Nat.ne_of_lt (Nat.lt_of_lt_of_le (List.mem_range.mp hj) h)
  exact Function.update_of_ne hne a memory

/-- A store at the counter extends the filled part. -/
theorem filled_push (memory : ℕ → α) (n : ℕ) (a : α) :
    filled (Function.update memory n a) (n+1) = filled memory n ++ [a] := by
  rw [filled_succ, filled_update_of_le memory (Nat.le_refl n), Function.update_self]

end Perfidious.Library
