import Mathlib.Data.List.Basic
import Mathlib.Data.List.Induction

/-! Association lists with one entry for each key, in order of first insertion. -/
namespace Perfidious.Library

variable {κ α : Type*} [DecidableEq κ]

/-- Store a value under a key; an existing key keeps its place. -/
def update (entries : List (κ × α)) (key : κ) (value : α) : List (κ × α) :=
  if entries.any (·.1 = key) then
    entries.map fun entry => if entry.1 = key then (entry.1,value) else entry
  else entries ++ [(key,value)]

/-- An update replaces what was stored under its key and nothing else. -/
theorem mem_update {entries : List (κ × α)} {key k : κ} {value v : α} :
    (k,v) ∈ update entries key value ↔ (k = key ∧ v = value) ∨ (k ≠ key ∧ (k,v) ∈ entries) := by
  unfold update
  split
  next hany =>
    simp only [List.any_eq_true, decide_eq_true_eq, Prod.exists] at hany
    obtain ⟨k',v',hmem,hk⟩ := hany
    subst hk
    rw [List.mem_map]
    constructor
    · rintro ⟨⟨a,b⟩,hab,heq⟩
      by_cases ha : a = k'
      · rw [if_pos ha] at heq
        cases heq
        exact .inl ⟨ha,rfl⟩
      · rw [if_neg ha] at heq
        cases heq
        exact .inr ⟨ha,hab⟩
    · rintro (⟨rfl,rfl⟩ | ⟨hne,hkv⟩)
      · exact ⟨(k,v'),hmem,by simp⟩
      · exact ⟨(k,v),hkv,by simp [hne]⟩
  next hany =>
    simp only [Bool.not_eq_true, List.any_eq_false, decide_eq_true_eq] at hany
    simp only [List.mem_append, List.mem_singleton, Prod.mk.injEq]
    constructor
    · rintro (hkv | h)
      · exact .inr ⟨hany _ hkv,hkv⟩
      · exact .inl h
    · rintro (h | ⟨-,hkv⟩)
      · exact .inr h
      · exact .inl hkv

/-- Updates in a row store, for each key, the last of its values. -/
theorem mem_foldl_update {l entries : List (κ × α)} {k : κ} {v : α} :
    (k,v) ∈ l.foldl (fun a e => update a e.1 e.2) entries ↔
      (∃ i : ℕ, l[i]? = some (k,v) ∧ ∀ j, i < j → ∀ e, l[j]? = some e → e.1 ≠ k) ∨
      ((∀ e ∈ l, e.1 ≠ k) ∧ (k,v) ∈ entries) := by
  induction l generalizing entries with
  | nil => simp
  | cons e l ih =>
    rw [List.foldl_cons, ih, mem_update]
    constructor
    · rintro (⟨i,hi,hlast⟩ | ⟨hl,⟨rfl,rfl⟩ | ⟨hne,hkv⟩⟩)
      · refine .inl ⟨i+1,hi,fun j hj e' he' => ?_⟩
        obtain ⟨j,rfl⟩ : ∃ j', j = j'+1 := ⟨j-1,by omega⟩
        exact hlast j (by omega) e' he'
      · refine .inl ⟨0,rfl,fun j hj e' he' => ?_⟩
        obtain ⟨j,rfl⟩ : ∃ j', j = j'+1 := ⟨j-1,by omega⟩
        exact hl e' (List.mem_of_getElem? he')
      · refine .inr ⟨?_,hkv⟩
        intro e' he'
        rcases List.mem_cons.mp he' with rfl | he'
        · exact fun h => hne h.symm
        · exact hl e' he'
    · rintro (⟨i,hi,hlast⟩ | ⟨hl,hkv⟩)
      · cases i with
        | zero =>
          simp only [List.getElem?_cons_zero, Option.some.injEq] at hi
          refine .inr ⟨fun e' he' => ?_,.inl (by simp [hi])⟩
          obtain ⟨j,hj⟩ := List.mem_iff_getElem?.mp he'
          exact hlast (j+1) (by omega) e' hj
        | succ i => exact .inl ⟨i,hi,fun j hj e' he' => hlast (j+1) (by omega) e' he'⟩
      · refine .inr ⟨fun e' he' => hl e' (List.mem_cons_of_mem _ he'),.inr ⟨?_,hkv⟩⟩
        exact fun h => hl e List.mem_cons_self h.symm

theorem map_fst_update (entries : List (κ × α)) (key : κ) (value : α) :
    (update entries key value).map Prod.fst =
      if key ∈ entries.map Prod.fst then entries.map Prod.fst else entries.map Prod.fst ++ [key] := by
  have hany : (entries.any (·.1 = key)) = true ↔ key ∈ entries.map Prod.fst := by
    simp [List.any_eq_true]
  unfold update
  by_cases h : key ∈ entries.map Prod.fst
  · rw [if_pos (hany.mpr h), if_pos h, List.map_map]
    apply List.map_congr_left
    intro entry _
    by_cases hkey : entry.1 = key <;> simp [hkey]
  · rw [if_neg (mt hany.mp h), if_neg h, List.map_append]
    rfl

theorem eraseDups_concat (l : List κ) (a : κ) :
    (l++[a]).eraseDups = if a ∈ l then l.eraseDups else l.eraseDups ++ [a] := by
  rw [List.eraseDups_append]
  by_cases h : a ∈ l
  · simp [h,List.removeAll]
  · simp [h,List.removeAll,List.eraseDups_cons]

/-- Updates in a row store each key once, where it first occurred. -/
theorem map_fst_foldl_update (l : List (κ × α)) :
    (l.foldl (fun a e => update a e.1 e.2) []).map Prod.fst = (l.map Prod.fst).eraseDups := by
  induction l using List.reverseRecOn with
  | nil => rfl
  | append_singleton l e ih =>
    rw [List.foldl_append, List.foldl_cons, List.foldl_nil, map_fst_update, ih, List.map_append,
      List.map_singleton, eraseDups_concat]
    simp only [List.mem_eraseDups]

theorem eraseDups_map {β : Type*} [DecidableEq β] {f : κ → β} (hf : Function.Injective f)
    (l : List κ) : (l.map f).eraseDups = l.eraseDups.map f := by
  induction l using List.reverseRecOn with
  | nil => rfl
  | append_singleton l a ih =>
    have hmem : f a ∈ l.map f ↔ a ∈ l := List.mem_map_of_injective hf
    rw [List.map_append, List.map_singleton, eraseDups_concat, eraseDups_concat, ih]
    by_cases h : a ∈ l
    · rw [if_pos (hmem.mpr h), if_pos h]
    · rw [if_neg (mt hmem.mp h), if_neg h, List.map_append, List.map_singleton]

end Perfidious.Library
