import Perfidious.Library.Run

/-! A component of a machine that is a machine of its own. The inputs of the whole that reach the
component drive it, and the others pass it by. -/
namespace Perfidious.Library

variable {σ τ ι κ ο ω : Type*}

/-- The inputs that reach a component along a run, each with what was seen of it in the state after
the step. Whether an input reaches the component may depend on the state. -/
def reached (step : σ → ι → σ × ο) (reaches : σ → ι → Option κ) (seen : σ → ο → ω) :
    σ → List ι → List (κ × ω)
  | _,[] => []
  | s,i::is =>
    match reaches s i with
    | none => reached step reaches seen (step s i).1 is
    | some k => (k,seen (step s i).1 (step s i).2) :: reached step reaches seen (step s i).1 is

/-- `part` is a component: under the invariant `I` and the condition `P` on the inputs, the states of
the whole that hold a state of `part` are left alone or moved as `part` moves. -/
structure Component (step : σ → ι → σ × ο) (reaches : σ → ι → Option κ) (seen : σ → ο → ω)
    (part : τ → κ → τ × ω) (I : σ → Prop) (P : σ → ι → Prop) (holds : σ → τ → Prop) : Prop where
  keeps : ∀ {s i}, I s → P s i → I (step s i).1
  passes : ∀ {s i t}, I s → P s i → holds s t → reaches s i = none → holds (step s i).1 t
  moves : ∀ {s i t k}, I s → P s i → holds s t → reaches s i = some k →
    holds (step s i).1 (part t k).1 ∧ seen (step s i).1 (step s i).2 = (part t k).2

variable {step : σ → ι → σ × ο} {reaches : σ → ι → Option κ} {seen : σ → ο → ω}
variable {part : τ → κ → τ × ω} {I : σ → Prop} {P : σ → ι → Prop} {holds : σ → τ → Prop}

theorem reached_cons_none {s : σ} {i : ι} (h : reaches s i = none) (is : List ι) :
    reached step reaches seen s (i::is) = reached step reaches seen (step s i).1 is := by
  simp only [reached,h]

theorem reached_cons_some {s : σ} {i : ι} {k : κ} (h : reaches s i = some k) (is : List ι) :
    reached step reaches seen s (i::is) =
      (k,seen (step s i).1 (step s i).2) :: reached step reaches seen (step s i).1 is := by
  simp only [reached,h]

/-- If the inputs that reach the component can be told without the state, they are those of the run. -/
theorem reached_inputs (reaches : ι → Option κ) (s : σ) (is : List ι) :
    (reached step (fun _ => reaches) seen s is).map Prod.fst = is.filterMap reaches := by
  induction is generalizing s with
  | nil => rfl
  | cons i is ih =>
    cases hr : reaches i with
    | none =>
      rw [@reached_cons_none _ _ _ _ _ step (fun _ => reaches) _ s i hr, List.filterMap_cons_none hr]
      exact ih _
    | some k =>
      rw [@reached_cons_some _ _ _ _ _ step (fun _ => reaches) _ s i k hr, List.filterMap_cons_some hr,
        List.map_cons]
      exact congrArg _ (ih _)

/-- The component rule. What is seen of a component along any run of the whole is what it gives on its
own, and the whole ends up holding the state in which it ends on its own. -/
theorem Component.run (h : Component step reaches seen part I P holds) {s : σ} {t : τ} {is : List ι}
    (hs : I s) (hp : Along step P s is) (ht : holds s t) :
    (reached step reaches seen s is).map Prod.snd =
      outputs part t ((reached step reaches seen s is).map Prod.fst) ∧
    holds (final step s is) (final part t ((reached step reaches seen s is).map Prod.fst)) := by
  induction is generalizing s t with
  | nil => exact ⟨rfl,ht⟩
  | cons i is ih =>
    obtain ⟨hi,his⟩ := hp
    cases hr : reaches s i with
    | none =>
      rw [reached_cons_none hr]
      exact ih (h.keeps hs hi) his (h.passes hs hi ht hr)
    | some k =>
      obtain ⟨hholds,hseen⟩ := h.moves hs hi ht hr
      obtain ⟨houts,hfinal⟩ := ih (h.keeps hs hi) his hholds
      rw [reached_cons_some hr]
      exact ⟨List.cons_eq_cons.mpr ⟨hseen,houts⟩,hfinal⟩

end Perfidious.Library
