import Mathlib.Data.Finmap
import Mathlib.Order.Lattice.Nat

/-! Finite tables over natural numbers: memory by address, descriptors by number, objects by handle.
A free key is chosen by the environment, which may hand out a key again after it was taken back. -/
namespace Perfidious.Library

abbrev Table (α : Type*) := Finmap fun _ : ℕ => α

/-- A way to choose a key that is not in use. -/
structure Fresh where
  pick : Finset ℕ → ℕ
  pick_notMem : ∀ used, pick used ∉ used

/-- The first key above all those in use. -/
def Fresh.next : Fresh where
  pick used := used.sup (·+1)
  pick_notMem used h := by
    have hle : used.sup (·+1) + 1 ≤ used.sup (·+1) := Finset.le_sup (f := (·+1)) h
    omega

namespace Table
variable {α : Type*}

theorem lookup_pick (f : Fresh) (t : Table α) : t.lookup (f.pick t.keys) = none := by
  apply Finmap.lookup_eq_none.mpr
  intro h
  exact f.pick_notMem t.keys (Finmap.mem_keys.mpr h)

/-- What is stored after an insertion: the new entry, or an old one under another key. -/
theorem of_lookup_insert {t : Table α} {k j : ℕ} {a x : α} (h : (t.insert k a).lookup j = some x) :
    (j = k ∧ x = a) ∨ (j ≠ k ∧ t.lookup j = some x) := by
  by_cases hj : j = k
  · rw [hj, Finmap.lookup_insert] at h
    exact .inl ⟨hj,(Option.some.inj h).symm⟩
  · rw [Finmap.lookup_insert_of_ne _ hj] at h
    exact .inr ⟨hj,h⟩

/-- What is stored after an erasure was stored before, under another key. -/
theorem of_lookup_erase {t : Table α} {k j : ℕ} {x : α} (h : (t.erase k).lookup j = some x) :
    j ≠ k ∧ t.lookup j = some x := by
  by_cases hj : j = k
  · rw [hj, Finmap.lookup_erase] at h
    cases h
  · rw [Finmap.lookup_erase_ne hj] at h
    exact ⟨hj,h⟩

theorem keys_eq {β : Type*} {t : Table α} {u : Table β}
    (h : ∀ k, (t.lookup k).isSome = (u.lookup k).isSome) : t.keys = u.keys := by
  ext k
  rw [Finmap.mem_keys, Finmap.mem_keys, ← Finmap.lookup_isSome, ← Finmap.lookup_isSome, h k]

theorem erase_insert {t : Table α} {k : ℕ} (hk : t.lookup k = none) (a : α) :
    (t.insert k a).erase k = t := by
  apply Finmap.ext_lookup
  intro j
  by_cases hj : j = k
  · rw [hj, Finmap.lookup_erase, hk]
  · rw [Finmap.lookup_erase_ne hj, Finmap.lookup_insert_of_ne _ hj]

theorem insert_erase {t : Table α} {k : ℕ} {a : α} (hk : t.lookup k = some a) :
    (t.erase k).insert k a = t := by
  apply Finmap.ext_lookup
  intro j
  by_cases hj : j = k
  · rw [hj, Finmap.lookup_insert, hk]
  · rw [Finmap.lookup_insert_of_ne _ hj, Finmap.lookup_erase_ne hj]

/-- The number of entries with a property. -/
def count (p : α → Bool) (t : Table α) : ℕ := t.entries.countP fun e => p e.2 = true

@[simp] theorem count_empty (p : α → Bool) : count p (∅ : Table α) = 0 := rfl

theorem count_insert {p : α → Bool} {t : Table α} {k : ℕ} (hk : t.lookup k = none) (a : α) :
    count p (t.insert k a) = count p t + if p a then 1 else 0 := by
  rw [count, Finmap.entries_insert_of_notMem (Finmap.lookup_eq_none.mp hk), Multiset.countP_cons]
  rfl

theorem count_erase {p : α → Bool} {t : Table α} {k : ℕ} {a : α} (hk : t.lookup k = some a) :
    count p (t.erase k) + (if p a then 1 else 0) = count p t := by
  rw [← count_insert (Finmap.lookup_erase k t), insert_erase hk]

/-- Replacing an entry changes the count by that entry only. -/
theorem count_replace {p : α → Bool} {t : Table α} {k : ℕ} {a b : α} (hk : t.lookup k = some a)
    (hp : p a = p b) : count p (t.insert k b) = count p t := by
  have herase : (t.erase k).insert k b = t.insert k b := by
    apply Finmap.ext_lookup
    intro j
    by_cases hj : j = k
    · rw [hj, Finmap.lookup_insert, Finmap.lookup_insert]
    · rw [Finmap.lookup_insert_of_ne _ hj, Finmap.lookup_insert_of_ne _ hj, Finmap.lookup_erase_ne hj]
  rw [← herase, count_insert (Finmap.lookup_erase k t), ← hp, count_erase hk]

theorem count_le (p : α → Bool) (t : Table α) : count p t ≤ t.keys.card := by
  have hcard : t.keys.card = t.entries.card := Multiset.card_map Sigma.fst t.entries
  rw [hcard]
  exact Multiset.countP_le_card _ _

theorem count_pos {p : α → Bool} {t : Table α} :
    0 < count p t ↔ ∃ k a, t.lookup k = some a ∧ p a = true := by
  rw [count, Multiset.countP_pos]
  constructor
  · rintro ⟨⟨k,a⟩,he,hp⟩
    exact ⟨k,a,Finmap.lookup_eq_some_iff.mpr he,hp⟩
  · rintro ⟨k,a,hk,hp⟩
    exact ⟨⟨k,a⟩,Finmap.lookup_eq_some_iff.mp hk,hp⟩

end Table

end Perfidious.Library
