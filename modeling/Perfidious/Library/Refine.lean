import Perfidious.Library.Run

/-! Refinement of a specification by a deterministic machine. The specification says to which states a
step with a given input and output may lead; a forward simulation turns steps into runs. -/
namespace Perfidious.Library

variable {σ α ι ο : Type*}

/-- A run that a specification allows, with its inputs and their outputs. -/
inductive Allows (spec : α → ι → ο → α → Prop) : α → List ι → List ο → α → Prop
  | nil (a : α) : Allows spec a [] [] a
  | cons {a b c : α} {i : ι} {o : ο} {is : List ι} {os : List ο} (first : spec a i o b)
      (rest : Allows spec b is os c) : Allows spec a (i::is) (o::os) c

/-- The machine does what the specification allows: `R` is a forward simulation. -/
def Refines (step : σ → ι → σ × ο) (spec : α → ι → ο → α → Prop) (R : σ → α → Prop) : Prop :=
  ∀ s a i, R s a → ∃ b, spec a i (step s i).2 b ∧ R (step s i).1 b

variable {step : σ → ι → σ × ο} {spec : α → ι → ο → α → Prop} {R : σ → α → Prop}

/-- Every run of the machine is allowed. -/
theorem Refines.run (h : Refines step spec R) {s : σ} {a : α} (hs : R s a) (is : List ι) :
    ∃ b, Allows spec a is (outputs step s is) b ∧ R (final step s is) b := by
  induction is generalizing s a with
  | nil => exact ⟨a,.nil a,hs⟩
  | cons i is ih =>
    obtain ⟨b,hfirst,hb⟩ := h s a i hs
    obtain ⟨c,hrest,hc⟩ := ih hb
    exact ⟨c,.cons hfirst hrest,hc⟩

/-- Where the outputs leave the specification no choice, it goes on like a function. -/
theorem Allows.eq_foldl {settled : ο → Prop} {next : α → ι → α}
    (hnext : ∀ a i o b, spec a i o b → settled o → b = next a i) {a b : α} {is : List ι}
    {os : List ο} (h : Allows spec a is os b) (hos : ∀ o ∈ os, settled o) :
    b = is.foldl next a := by
  induction h with
  | nil a => rfl
  | cons first rest ih =>
    obtain ⟨ho,hos⟩ := List.forall_mem_cons.mp hos
    rw [List.foldl_cons, ← hnext _ _ _ _ first ho]
    exact ih hos

/-- What the allowed steps with inputs in `P` do, added up along a run. -/
theorem Allows.accumulate (P : ι → Prop) (rel : List ι → α → α → Prop) (hnil : ∀ a, rel [] a a)
    (hcons : ∀ a i o b is c, spec a i o b → P i → rel is b c → rel (i::is) a c) {a b : α}
    {is : List ι} {os : List ο} (h : Allows spec a is os b) (his : ∀ i ∈ is, P i) : rel is a b := by
  induction h with
  | nil a => exact hnil a
  | cons first rest ih =>
    obtain ⟨hi,his⟩ := List.forall_mem_cons.mp his
    exact hcons _ _ _ _ _ _ first hi (ih his)

end Perfidious.Library
