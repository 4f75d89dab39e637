import Mathlib.Algebra.BigOperators.Group.List.Basic
import Mathlib.Algebra.Order.Ring.Defs
import Mathlib.Tactic.Linarith

/-! Sums over the steps of a sequence, from each member to the next one. -/
namespace Perfidious.Library
variable {α β γ G : Type*}

/-- `g x y` for each member `x` and the next member `y`. -/
def steps (g : α → α → β) (a : α) (rest : List α) : List β := List.zipWith g (a::rest) rest

@[simp] theorem steps_nil (g : α → α → β) (a : α) : steps g a [] = [] := rfl

@[simp] theorem steps_cons (g : α → α → β) (a b : α) (rest : List α) :
    steps g a (b::rest) = g a b::steps g b rest := rfl

theorem map_steps (f : β → γ) (g : α → α → β) (a : α) (rest : List α) :
    (steps g a rest).map f = steps (fun x y => f (g x y)) a rest := by
  simp [steps,List.map_zipWith]

/-- Two functions that agree on related neighbours agree on the steps of a chain. -/
theorem steps_congr {R : α → α → Prop} {g h : α → α → β} (hgh : ∀ {x y}, R x y → g x y = h x y)
    {a : α} {rest : List α} (hrest : (a::rest).IsChain R) : steps g a rest = steps h a rest := by
  induction rest generalizing a with
  | nil => rfl
  | cons b rest ih =>
    obtain ⟨hab,hrest⟩ := List.isChain_cons_cons.mp hrest
    rw [steps_cons, steps_cons, hgh hab, ih hrest]

/-- The differences along a sequence sum to the difference of its ends. -/
theorem sum_steps_sub [AddCommGroup G] (f : α → G) (a : α) (rest : List α) :
    (steps (fun x y => f y - f x) a rest).sum = f (rest.getLastD a) - f a := by
  induction rest generalizing a with
  | nil => simp
  | cons b rest ih =>
    rw [steps_cons, List.sum_cons, ih, List.getLastD_cons]
    exact sub_add_sub_cancel' (f b) (f a) (f (rest.getLastD b))

section
variable {K : Type*} [CommRing K] [LinearOrder K] [IsStrictOrderedRing K]

theorem sum_steps_le {R : α → α → Prop} {g h : α → α → K} (hgh : ∀ {x y}, R x y → g x y ≤ h x y)
    {a : α} {rest : List α} (hrest : (a::rest).IsChain R) :
    (steps g a rest).sum ≤ (steps h a rest).sum := by
  induction rest generalizing a with
  | nil => exact le_refl _
  | cons b rest ih =>
    obtain ⟨hab,hrest⟩ := List.isChain_cons_cons.mp hrest
    rw [steps_cons, steps_cons, List.sum_cons, List.sum_cons]
    exact add_le_add (hgh hab) (ih hrest)

/-- Errors below one at every step sum to less than the number of steps. -/
theorem sum_steps_lt {g h : α → α → K} (hgh : ∀ x y, h x y < g x y + 1) (a : α) {rest : List α}
    (hrest : rest ≠ []) : (steps h a rest).sum < (steps g a rest).sum + rest.length := by
  induction rest generalizing a with
  | nil => exact absurd rfl hrest
  | cons b rest ih =>
    rw [steps_cons, steps_cons, List.sum_cons, List.sum_cons, List.length_cons, Nat.cast_add,
      Nat.cast_one]
    have hab := hgh a b
    by_cases hnil : rest = []
    · subst hnil
      simpa using hab
    · have hbs := ih b hnil
      linarith

end

/-- The last member comes after all others. -/
theorem getLastD_related {R : α → α → Prop} {a : α} {rest : List α} (hrefl : R a a)
    (h : (a::rest).Pairwise R) : R a (rest.getLastD a) := by
  cases rest with
  | nil => exact hrefl
  | cons b rest =>
    apply List.rel_of_pairwise_cons h
    rw [List.getLastD_cons]
    exact List.getLastD_mem_cons

end Perfidious.Library
