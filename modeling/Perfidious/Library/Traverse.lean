import Mathlib.Data.List.Forall2

/-! Loops that follow a successor function up to a stop value, and gather what a fallible body returns. -/
namespace Perfidious.Library

variable {ι ε α : Type*}

/-- `is` are the values from `i` on, up to `j`, and none of them is the stop value. -/
inductive Path (next : ι → ι) (stop : ι) : ι → List ι → ι → Prop
  | nil (i : ι) : Path next stop i [] i
  | cons {i j : ι} {is : List ι} : i ≠ stop → Path next stop (next i) is j → Path next stop i (i::is) j

/-- The body returns `as` for `is`, one for each. -/
def Returns (body : ι → Except ε α) (is : List ι) (as : List α) : Prop :=
  List.Forall₂ (fun i a => body i = .ok a) is as

theorem Returns.mem {body : ι → Except ε α} {is : List ι} {as : List α} (h : Returns body is as)
    {a : α} (ha : a ∈ as) : ∃ i ∈ is, body i = .ok a := by
  induction h with
  | nil => cases ha
  | cons hi _ ih =>
    rcases List.mem_cons.mp ha with rfl | ha
    · exact ⟨_,by simp,hi⟩
    · obtain ⟨j,hj,hja⟩ := ih ha
      exact ⟨j,by simp [hj],hja⟩

/-- What the body returns is filed under what it was returned for. -/
theorem Returns.map_eq {body : ι → Except ε α} {key : α → ι} (hkey : ∀ i a, body i = .ok a → key a = i)
    {is : List ι} {as : List α} (h : Returns body is as) : as.map key = is := by
  induction h with
  | nil => rfl
  | cons hi _ ih => rw [List.map_cons, hkey _ _ hi, ih]

namespace Path
variable {next : ι → ι} {stop : ι}

/-- There is one way from a value to the stop value. -/
theorem unique {i : ι} {is js : List ι} (hi : Path next stop i is stop) (hj : Path next stop i js stop) :
    is = js := by
  induction is generalizing i js with
  | nil =>
    cases hi
    cases hj with
    | nil => rfl
    | cons hne _ => exact absurd rfl hne
  | cons k is ih =>
    cases hi with
    | cons hne hi =>
      cases hj with
      | nil => exact absurd rfl hne
      | cons _ hj => rw [ih hi hj]

theorem rest {i j k : ι} {is : List ι} (h : Path next stop i is j) (hk : k ∈ is) :
    ∃ js, Path next stop k js j ∧ js.length ≤ is.length := by
  induction h with
  | nil => cases hk
  | cons hne h ih =>
    rcases List.mem_cons.mp hk with rfl | hk
    · exact ⟨_,.cons hne h,Nat.le_refl _⟩
    · obtain ⟨js,hjs,hle⟩ := ih hk
      exact ⟨js,hjs,by simp; omega⟩

/-- A chain that reaches the stop value has no value twice. -/
theorem nodup {i : ι} {is : List ι} (h : Path next stop i is stop) : is.Nodup := by
  induction is generalizing i with
  | nil => exact List.nodup_nil
  | cons k is ih =>
    cases h with
    | cons hne h =>
      refine List.nodup_cons.mpr ⟨fun hmem => ?_,ih h⟩
      obtain ⟨js,hjs,hle⟩ := h.rest hmem
      have hsame := congrArg List.length (hjs.unique (.cons hne h))
      rw [List.length_cons] at hsame
      omega

end Path

variable [DecidableEq ι]

/-- The loop, with what was gathered so far; `none` if it has not returned within `fuel` rounds. -/
def gather (next : ι → ι) (stop : ι) (body : ι → Except ε α) :
    ℕ → ι → List α → Option (Except ε (List α))
  | 0,_,_ => none
  | fuel+1,i,acc =>
    if i = stop then some (.ok acc)
    else
      match body i with
      | .error e => some (.error e)
      | .ok a => gather next stop body fuel (next i) (acc ++ [a])

variable {next : ι → ι} {stop : ι} {body : ι → Except ε α}

theorem gather_stop (fuel : ℕ) (acc : List α) : gather next stop body (fuel+1) stop acc = some (.ok acc) :=
  if_pos rfl

theorem gather_ok {i : ι} (hi : i ≠ stop) {a : α} (ha : body i = .ok a) (fuel : ℕ) (acc : List α) :
    gather next stop body (fuel+1) i acc = gather next stop body fuel (next i) (acc ++ [a]) := by
  rw [gather, if_neg hi, ha]

theorem gather_error {i : ι} (hi : i ≠ stop) {e : ε} (he : body i = .error e) (fuel : ℕ) (acc : List α) :
    gather next stop body (fuel+1) i acc = some (.error e) := by
  rw [gather, if_neg hi, he]

/-- Along a path the loop gathers what the body returns. -/
theorem gather_path {i j : ι} {is : List ι} (hpath : Path next stop i is j) {as : List α}
    (has : Returns body is as) (fuel : ℕ) (acc : List α) :
    gather next stop body (is.length + fuel) i acc = gather next stop body fuel j (acc ++ as) := by
  induction hpath generalizing as acc with
  | nil i =>
    cases has
    simp
  | cons hi _ ih =>
    cases has with
    | cons ha has =>
      rw [List.length_cons, Nat.add_right_comm, gather_ok hi ha, ih has]
      simp

/-- How a loop that returned came to return. -/
theorem gather_cases {fuel : ℕ} {i : ι} {acc : List α} {r : Except ε (List α)}
    (h : gather next stop body fuel i acc = some r) :
    ∃ is j as, Path next stop i is j ∧ Returns body is as ∧
      ((j = stop ∧ r = .ok (acc ++ as)) ∨ (j ≠ stop ∧ ∃ e, body j = .error e ∧ r = .error e)) := by
  induction fuel generalizing i acc with
  | zero => cases h
  | succ fuel ih =>
    by_cases hi : i = stop
    · subst hi
      rw [gather_stop] at h
      cases h
      exact ⟨[],i,[],.nil i,.nil,.inl ⟨rfl,by simp⟩⟩
    cases hbody : body i with
    | error e =>
      rw [gather_error hi hbody] at h
      cases h
      exact ⟨[],i,[],.nil i,.nil,.inr ⟨hi,e,hbody,rfl⟩⟩
    | ok a =>
      rw [gather_ok hi hbody] at h
      obtain ⟨is,j,as,hpath,has,hend⟩ := ih h
      refine ⟨i::is,j,a::as,.cons hi hpath,.cons hbody has,?_⟩
      simpa using hend

/-- The loop returns a list exactly if the chain ends and the body returns all along it. -/
theorem gather_eq_ok_iff {i : ι} {acc res : List α} :
    (∃ fuel, gather next stop body fuel i acc = some (.ok res)) ↔
      ∃ is as, Path next stop i is stop ∧ Returns body is as ∧ res = acc ++ as := by
  constructor
  · rintro ⟨fuel,h⟩
    obtain ⟨is,j,as,hpath,has,⟨rfl,hres⟩ | ⟨-,e,-,hres⟩⟩ := gather_cases h
    · exact ⟨is,as,hpath,has,Except.ok.inj hres⟩
    · cases hres
  · rintro ⟨is,as,hpath,has,rfl⟩
    exact ⟨is.length + 1,(gather_path hpath has 1 acc).trans (gather_stop 0 _)⟩

/-- The loop fails exactly with the first error that the body meets on the way. -/
theorem gather_eq_error_iff {i : ι} {acc : List α} {e : ε} :
    (∃ fuel, gather next stop body fuel i acc = some (.error e)) ↔
      ∃ is j as, Path next stop i is j ∧ Returns body is as ∧ j ≠ stop ∧ body j = .error e := by
  constructor
  · rintro ⟨fuel,h⟩
    obtain ⟨is,j,as,hpath,has,⟨-,hres⟩ | ⟨hj,e',he,hres⟩⟩ := gather_cases h
    · cases hres
    · cases hres
      exact ⟨is,j,as,hpath,has,hj,he⟩
  · rintro ⟨is,j,as,hpath,has,hj,he⟩
    exact ⟨is.length + 1,(gather_path hpath has 1 acc).trans (gather_error hj he 0 _)⟩

/-- More rounds do not change what the loop returned. -/
theorem gather_mono {fuel : ℕ} {i : ι} {acc : List α} {r : Except ε (List α)}
    (h : gather next stop body fuel i acc = some r) (more : ℕ) :
    gather next stop body (fuel + more) i acc = some r := by
  induction fuel generalizing i acc with
  | zero => cases h
  | succ fuel ih =>
    rw [Nat.add_right_comm]
    by_cases hi : i = stop
    · subst hi
      rw [gather_stop] at h ⊢
      exact h
    cases hbody : body i with
    | error e =>
      rw [gather_error hi hbody] at h ⊢
      exact h
    | ok a =>
      rw [gather_ok hi hbody] at h ⊢
      exact ih h

theorem gather_unique {fuel fuel' : ℕ} {i : ι} {acc : List α} {r r' : Except ε (List α)}
    (h : gather next stop body fuel i acc = some r) (h' : gather next stop body fuel' i acc = some r') :
    r = r' := by
  have hr := gather_mono h fuel'
  rw [Nat.add_comm, gather_mono h' fuel] at hr
  exact (Option.some.inj hr).symm

end Perfidious.Library
