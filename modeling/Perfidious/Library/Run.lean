import Mathlib.Data.List.Basic
import Mathlib.Order.WithBot

/-! Runs of a deterministic machine `step : σ → ι → σ × ο`, and the rules by which a fact about
one step becomes a fact about a whole run. -/
namespace Perfidious.Library

variable {σ σ' ι κ ο ο' : Type*}

/-- The state after feeding a list of inputs to the machine. -/
def final (step : σ → ι → σ × ο) : σ → List ι → σ
  | s,[] => s
  | s,i::is => final step (step s i).1 is

/-- The outputs along a run, one for each input. -/
def outputs (step : σ → ι → σ × ο) : σ → List ι → List ο
  | _,[] => []
  | s,i::is => (step s i).2 :: outputs step (step s i).1 is

/-- A condition on every step of a run, read at the state in which the step starts. -/
def Along (step : σ → ι → σ × ο) (P : σ → ι → Prop) : σ → List ι → Prop
  | _,[] => True
  | s,i::is => P s i ∧ Along step P (step s i).1 is

variable (step : σ → ι → σ × ο)

@[simp] theorem final_nil (s : σ) : final step s [] = s := rfl
@[simp] theorem final_cons (s : σ) (i : ι) (is : List ι) :
    final step s (i::is) = final step (step s i).1 is := rfl
@[simp] theorem outputs_nil (s : σ) : outputs step s [] = [] := rfl
@[simp] theorem outputs_cons (s : σ) (i : ι) (is : List ι) :
    outputs step s (i::is) = (step s i).2 :: outputs step (step s i).1 is := rfl
@[simp] theorem along_nil (P : σ → ι → Prop) (s : σ) : Along step P s [] := trivial
@[simp] theorem along_cons (P : σ → ι → Prop) (s : σ) (i : ι) (is : List ι) :
    Along step P s (i::is) ↔ P s i ∧ Along step P (step s i).1 is := Iff.rfl

theorem final_append (s : σ) (is js : List ι) :
    final step s (is++js) = final step (final step s is) js := by
  induction is generalizing s with
  | nil => rfl
  | cons i is ih => simpa using ih (step s i).1

theorem outputs_append (s : σ) (is js : List ι) :
    outputs step s (is++js) = outputs step s is ++ outputs step (final step s is) js := by
  induction is generalizing s with
  | nil => rfl
  | cons i is ih => simpa using ih (step s i).1

theorem outputs_mem {s : σ} {is : List ι} {o : ο} (h : o ∈ outputs step s is) :
    ∃ t i, (step t i).2 = o := by
  induction is generalizing s with
  | nil => cases h
  | cons i is ih =>
    rcases List.mem_cons.mp h with rfl | h
    · exact ⟨s,i,rfl⟩
    · exact ih h

/-- The invariant rule under a condition on the steps. -/
theorem final_invariant {P : σ → ι → Prop} {I : σ → Prop}
    (hstep : ∀ s i, I s → P s i → I (step s i).1) {s : σ} {is : List ι}
    (hs : I s) (hp : Along step P s is) : I (final step s is) := by
  induction is generalizing s with
  | nil => exact hs
  | cons i is ih => exact ih (hstep s i hs hp.1) hp.2

/-- A property of every step that follows from an invariant. -/
theorem along_of_invariant {P Q : σ → ι → Prop} {I : σ → Prop}
    (hstep : ∀ s i, I s → P s i → I (step s i).1) (hq : ∀ s i, I s → P s i → Q s i)
    {s : σ} {is : List ι} (hs : I s) (hp : Along step P s is) : Along step Q s is := by
  induction is generalizing s with
  | nil => trivial
  | cons i is ih => exact ⟨hq s i hs hp.1, ih (hstep s i hs hp.1) hp.2⟩

theorem along_true (s : σ) (is : List ι) : Along step (fun _ _ => True) s is := by
  induction is generalizing s with
  | nil => trivial
  | cons i is ih => exact ⟨trivial, ih _⟩

/-- A condition that every input meets by itself. -/
theorem along_of_forall {P : ι → Prop} {is : List ι} (h : ∀ i ∈ is, P i) (s : σ) :
    Along step (fun _ => P) s is := by
  induction is generalizing s with
  | nil => trivial
  | cons i is ih =>
    obtain ⟨hi,his⟩ := List.forall_mem_cons.mp h
    exact ⟨hi,ih his _⟩

/-- The invariant rule for runs without any condition on the inputs. -/
theorem final_invariant_all {I : σ → Prop} (hstep : ∀ s i, I s → I (step s i).1)
    {s : σ} (is : List ι) (hs : I s) : I (final step s is) :=
  final_invariant step (fun s i h _ => hstep s i h) hs (along_true step s is)

/-- The conservation rule for a machine with a store. If no step lets out more than it had in store
or took in, in the same order, then neither does a run. -/
theorem outputs_sublist {α : Type*} {I : σ → Prop} (store : σ → List α) (taken given : ο → List α)
    (hinv : ∀ s i, I s → I (step s i).1)
    (hstep : ∀ s i, I s →
      (given (step s i).2 ++ store (step s i).1).Sublist (store s ++ taken (step s i).2))
    {s : σ} (hs : I s) (is : List ι) :
    ((outputs step s is).flatMap given).Sublist (store s ++ (outputs step s is).flatMap taken) := by
  induction is generalizing s with
  | nil => simp
  | cons i is ih =>
    have hrest := (ih (hinv s i hs)).append_left (given (step s i).2)
    have hfirst := (hstep s i hs).append_right ((outputs step (step s i).1 is).flatMap taken)
    simp only [outputs_cons, List.flatMap_cons]
    simp only [List.append_assoc] at hrest hfirst
    exact hrest.trans hfirst

/-- Two machines fed related inputs from related states give related outputs. -/
theorem outputs_forall₂ (step' : σ' → κ → σ' × ο') {R : σ → σ' → Prop} {J : ι → κ → Prop}
    {Q : ο → ο' → Prop}
    (hstep : ∀ s t i j, R s t → J i j → R (step s i).1 (step' t j).1 ∧ Q (step s i).2 (step' t j).2)
    {s : σ} {t : σ'} {is : List ι} {js : List κ} (hs : R s t) (hi : List.Forall₂ J is js) :
    List.Forall₂ Q (outputs step s is) (outputs step' t js) := by
  induction hi generalizing s t with
  | nil => exact .nil
  | cons hij _ ih =>
    obtain ⟨hr,hq⟩ := hstep _ _ _ _ hs hij
    exact .cons hq (ih hr)

/-- The states of two machines stay related under related inputs. -/
theorem final_related (step' : σ' → κ → σ' × ο') {R : σ → σ' → Prop} {J : ι → κ → Prop}
    (hstep : ∀ s t i j, R s t → J i j → R (step s i).1 (step' t j).1)
    {s : σ} {t : σ'} {is : List ι} {js : List κ} (hs : R s t) (hi : List.Forall₂ J is js) :
    R (final step s is) (final step' t js) := by
  induction hi generalizing s t with
  | nil => exact hs
  | cons hij _ ih => exact ih (hstep _ _ _ _ hs hij)

/-- The inputs of a run whose outputs satisfy `keep`. -/
def kept (keep : ο → Bool) : σ → List ι → List ι
  | _,[] => []
  | s,i::is => if keep (step s i).2 then i :: kept keep (step s i).1 is
      else kept keep (step s i).1 is

/-- If the dropped steps leave the state alone, dropping them changes neither the final state
nor the outputs that were kept. -/
theorem run_kept {keep : ο → Bool} {s : σ} {is : List ι}
    (hsilent : ∀ s i, keep (step s i).2 = false → (step s i).1 = s) :
    final step s (kept step keep s is) = final step s is ∧
    outputs step s (kept step keep s is) = (outputs step s is).filter keep := by
  induction is generalizing s with
  | nil => simp [kept]
  | cons i is ih =>
    cases hk : keep (step s i).2 with
    | true => simpa [kept,hk] using ih (s := (step s i).1)
    | false =>
      have hs := hsilent s i hk
      have h := ih (s := s)
      simp only [kept,hk,outputs_cons,final_cons,List.filter_cons,hs]
      simpa using h

/-- The machine together with the last input whose output satisfies `keep`. -/
def remembering (keep : ο → Bool) (x : σ × Option ι) (i : ι) : (σ × Option ι) × ο :=
  (((step x.1 i).1,if keep (step x.1 i).2 then some i else x.2),(step x.1 i).2)

theorem outputs_remembering (keep : ο → Bool) (s : σ) (last : Option ι) (is : List ι) :
    outputs (remembering step keep) (s,last) is = outputs step s is := by
  induction is generalizing s last with
  | nil => rfl
  | cons i is ih => exact congrArg _ (ih (step s i).1 _)

/-- Every kept input is related to the kept one before it. -/
def Rising (keep : ο → Bool) (R : ι → ι → Prop) (s : σ) (is : List ι) : Prop :=
  Along (remembering step keep) (fun x i => keep (step x.1 i).2 = true → ∀ j ∈ x.2, R j i) (s,none) is

/-- A mark that never decreases and that separates earlier from later outputs orders them. The
mark is `⊥` as long as there is nothing to compare with. -/
theorem outputs_pairwise {α : Type*} [Preorder α] {I : σ → Prop} {P : σ → ι → Prop}
    (mark : σ → WithBot α) (value : ο → Option α)
    (hinv : ∀ s i, I s → P s i → I (step s i).1)
    (hmark : ∀ s i, I s → P s i → mark s ≤ mark (step s i).1)
    (hvalue : ∀ s i v, I s → P s i → value (step s i).2 = some v →
      mark s ≤ (v : WithBot α) ∧ (v : WithBot α) ≤ mark (step s i).1)
    {s : σ} {is : List ι} (hs : I s) (hp : Along step P s is) :
    ((outputs step s is).filterMap value).Pairwise (· ≤ ·) ∧
    ∀ v ∈ (outputs step s is).filterMap value, mark s ≤ (v : WithBot α) := by
  induction is generalizing s with
  | nil => simp
  | cons i is ih =>
    obtain ⟨hpair,hlow⟩ := ih (hinv s i hs hp.1) hp.2
    have hm := hmark s i hs hp.1
    cases hv : value (step s i).2 with
    | none =>
      simp only [outputs_cons,List.filterMap_cons,hv]
      exact ⟨hpair, fun v h => hm.trans (hlow v h)⟩
    | some w =>
      obtain ⟨hsw,hws⟩ := hvalue s i w hs hp.1 hv
      simp only [outputs_cons,List.filterMap_cons,hv,List.pairwise_cons,List.mem_cons]
      refine ⟨⟨fun v h => WithBot.coe_le_coe.mp (hws.trans (hlow v h)), hpair⟩, ?_⟩
      rintro v (rfl | h)
      · exact hsw
      · exact hm.trans (hlow v h)

end Perfidious.Library
