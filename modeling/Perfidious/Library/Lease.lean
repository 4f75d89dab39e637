import Mathlib.Logic.Function.Basic
import Perfidious.Library.Table

/-! Numbers on lease from a table, such as descriptors. A number is handed out while it is not in
use, stays with one holder, and comes back to be handed out again. -/
namespace Perfidious.Library

/-- The table, and how often each number was handed out and taken back. -/
structure Leases (α : Type*) where
  table : Table α
  taken : ℕ → ℕ
  returned : ℕ → ℕ

namespace Leases
variable {α κ : Type*}

def take (f : Fresh) (a : α) (l : Leases α) : Leases α × ℕ :=
  let n := f.pick l.table.keys
  ({ l with table := l.table.insert n a, taken := Function.update l.taken n (l.taken n + 1) },n)

def giveBack (n : ℕ) (l : Leases α) : Leases α :=
  { l with table := l.table.erase n, returned := Function.update l.returned n (l.returned n + 1) }

/-- Beyond the entries of `base` the table has one entry for each number that is held, no number has
two holders, and all others came back as often as they were handed out. -/
structure Held (base : Table α) (entry : κ → α) (holds : κ → Option ℕ) (l : Leases α) : Prop where
  present : ∀ {k n}, holds k = some n → l.table.lookup n = some (entry k)
  unique : ∀ {k j n}, holds k = some n → holds j = some n → k = j
  fresh : ∀ {k n}, holds k = some n → base.lookup n = none
  outstanding : ∀ {k n}, holds k = some n → l.taken n = l.returned n + 1
  rest : ∀ {n}, (∀ k, holds k ≠ some n) → l.table.lookup n = base.lookup n
  settled : ∀ {n}, (∀ k, holds k ≠ some n) → l.taken n = l.returned n

variable {base : Table α} {entry : κ → α} {holds : κ → Option ℕ} {l l' : Leases α}

/-- Who holds what determines the table. -/
theorem Held.table_eq (h : l.Held base entry holds) (h' : l'.Held base entry holds) :
    l.table = l'.table := by
  apply Finmap.ext_lookup
  intro n
  by_cases hn : ∃ k, holds k = some n
  · obtain ⟨k,hk⟩ := hn
    rw [h.present hk, h'.present hk]
  · rw [h.rest fun k hk => hn ⟨k,hk⟩, h'.rest fun k hk => hn ⟨k,hk⟩]

theorem Held.held_of_present (h : l.Held base entry holds) {n : ℕ} (hb : base.lookup n = none)
    {a : α} (hn : l.table.lookup n = some a) : ∃ k, holds k = some n ∧ entry k = a := by
  by_contra hno
  by_cases hk : ∃ k, holds k = some n
  · obtain ⟨k,hk⟩ := hk
    exact hno ⟨k,hk,Option.some.inj ((h.present hk).symm.trans hn)⟩
  · rw [h.rest fun k hk' => hk ⟨k,hk'⟩, hb] at hn
    cases hn

/-- A number that is given back at once leaves no trace but the two counts. -/
theorem Held.take_giveBack (h : l.Held base entry holds) (f : Fresh) (a : α) :
    ((l.take f a).1.giveBack (l.take f a).2).Held base entry holds := by
  generalize hn : (l.take f a).2 = n
  have hfree : l.table.lookup n = none := by
    rw [← hn]
    exact Table.lookup_pick f l.table
  have htable : ((l.take f a).1.giveBack n).table = l.table := by
    rw [← hn]
    exact Table.erase_insert (Table.lookup_pick f l.table) a
  have hcounts : ∀ m, ∃ d, ((l.take f a).1.giveBack n).taken m = l.taken m + d ∧
      ((l.take f a).1.giveBack n).returned m = l.returned m + d := by
    intro m
    have htaken : ((l.take f a).1.giveBack n).taken = Function.update l.taken n (l.taken n + 1) := by
      rw [← hn]; rfl
    have hreturned : ((l.take f a).1.giveBack n).returned =
      Function.update l.returned n (l.returned n + 1) := rfl
    by_cases hm : m = n
    · exact ⟨1,by rw [htaken, hm, Function.update_self],by rw [hreturned, hm, Function.update_self]⟩
    · exact ⟨0,by rw [htaken, Function.update_of_ne hm]; rfl,
        by rw [hreturned, Function.update_of_ne hm]; rfl⟩
  refine ⟨?_,h.unique,h.fresh,?_,?_,?_⟩
  · intro k m hk
    rw [htable]
    exact h.present hk
  · intro k m hk
    obtain ⟨d,ht,hr⟩ := hcounts m
    have := h.outstanding hk
    omega
  · intro m hm
    rw [htable]
    exact h.rest hm
  · intro m hm
    obtain ⟨d,ht,hr⟩ := hcounts m
    have := h.settled hm
    omega

variable [DecidableEq κ]

/-- A holder with empty hands takes a number. -/
theorem Held.take (h : l.Held base entry holds) (f : Fresh) {k : κ} (hk : holds k = none) :
    (l.take f (entry k)).1.Held base entry (Function.update holds k (some (l.take f (entry k)).2)) := by
  generalize hn : (l.take f (entry k)).2 = n
  have hfree : l.table.lookup n = none := by
    rw [← hn]
    exact Table.lookup_pick f l.table
  have hunheld : ∀ j, holds j ≠ some n := by
    intro j hj
    rw [h.present hj] at hfree
    cases hfree
  have htable : (l.take f (entry k)).1.table = l.table.insert n (entry k) := by rw [← hn]; rfl
  have htaken : (l.take f (entry k)).1.taken = Function.update l.taken n (l.taken n + 1) := by
    rw [← hn]; rfl
  have hreturned : (l.take f (entry k)).1.returned = l.returned := rfl
  have hold : ∀ {j m}, Function.update holds k (some n) j = some m →
      j = k ∧ m = n ∨ j ≠ k ∧ m ≠ n ∧ holds j = some m := by
    intro j m hj
    by_cases hjk : j = k
    · subst hjk
      rw [Function.update_self] at hj
      exact .inl ⟨rfl,(Option.some.inj hj).symm⟩
    · rw [Function.update_of_ne hjk] at hj
      exact .inr ⟨hjk,fun hmn => hunheld j (hmn ▸ hj),hj⟩
  have hnot : ∀ {m}, (∀ j, Function.update holds k (some n) j ≠ some m) →
      m ≠ n ∧ ∀ j, holds j ≠ some m := by
    intro m hm
    refine ⟨fun hmn => hm k (by rw [Function.update_self, hmn]),fun j hj => hm j ?_⟩
    have hjk : j ≠ k := by
      rintro rfl
      rw [hk] at hj
      cases hj
    rw [Function.update_of_ne hjk, hj]
  refine ⟨?_,?_,?_,?_,?_,?_⟩
  · intro j m hj
    rw [htable]
    rcases hold hj with ⟨rfl,rfl⟩ | ⟨-,hmn,hj⟩
    · exact Finmap.lookup_insert _
    · rw [Finmap.lookup_insert_of_ne _ hmn]
      exact h.present hj
  · intro i j m hi hj
    rcases hold hi with ⟨rfl,rfl⟩ | ⟨-,hmn,hi⟩ <;> rcases hold hj with ⟨rfl,hm⟩ | ⟨-,hmn',hj⟩
    · rfl
    · exact absurd rfl hmn'
    · exact absurd hm hmn
    · exact h.unique hi hj
  · intro j m hj
    rcases hold hj with ⟨-,rfl⟩ | ⟨-,-,hj⟩
    · rw [← h.rest hunheld, hfree]
    · exact h.fresh hj
  · intro j m hj
    rw [htaken, hreturned]
    rcases hold hj with ⟨-,rfl⟩ | ⟨-,hmn,hj⟩
    · rw [Function.update_self, h.settled hunheld]
    · rw [Function.update_of_ne hmn]
      exact h.outstanding hj
  · intro m hm
    obtain ⟨hmn,hm⟩ := hnot hm
    rw [htable, Finmap.lookup_insert_of_ne _ hmn]
    exact h.rest hm
  · intro m hm
    obtain ⟨hmn,hm⟩ := hnot hm
    rw [htaken, hreturned, Function.update_of_ne hmn]
    exact h.settled hm

/-- A holder gives its number back. -/
theorem Held.giveBack (h : l.Held base entry holds) {k : κ} {n : ℕ} (hk : holds k = some n) :
    (l.giveBack n).Held base entry (Function.update holds k none) := by
  have hold : ∀ {j m}, Function.update holds k none j = some m → m ≠ n ∧ holds j = some m := by
    intro j m hj
    have hjk : j ≠ k := by
      rintro rfl
      rw [Function.update_self] at hj
      cases hj
    rw [Function.update_of_ne hjk] at hj
    exact ⟨fun hmn => hjk (h.unique hj (hmn ▸ hk)),hj⟩
  have hnot : ∀ {m}, m ≠ n → (∀ j, Function.update holds k none j ≠ some m) →
      ∀ j, holds j ≠ some m := by
    intro m hmn hm j hj
    have hjk : j ≠ k := by
      rintro rfl
      exact hmn (Option.some.inj (hj.symm.trans hk))
    exact hm j (by rw [Function.update_of_ne hjk, hj])
  refine ⟨?_,?_,?_,?_,?_,?_⟩
  · intro j m hj
    obtain ⟨hmn,hj⟩ := hold hj
    exact (Finmap.lookup_erase_ne hmn).trans (h.present hj)
  · intro i j m hi hj
    exact h.unique (hold hi).2 (hold hj).2
  · intro j m hj
    exact h.fresh (hold hj).2
  · intro j m hj
    obtain ⟨hmn,hj⟩ := hold hj
    change l.taken m = Function.update l.returned n _ m + 1
    rw [Function.update_of_ne hmn]
    exact h.outstanding hj
  · intro m hm
    by_cases hmn : m = n
    · rw [hmn, h.fresh hk]
      exact Finmap.lookup_erase ..
    · exact (Finmap.lookup_erase_ne hmn).trans (h.rest (hnot hmn hm))
  · intro m hm
    change l.taken m = Function.update l.returned n _ m
    by_cases hmn : m = n
    · rw [hmn, Function.update_self, h.outstanding hk]
    · rw [Function.update_of_ne hmn]
      exact h.settled (hnot hmn hm)

/-- A number passes from one holder to another for whom it stands for the same entry. -/
theorem Held.move (h : l.Held base entry holds) {k k' : κ} {n : ℕ} (hk : holds k = some n)
    (hk' : holds k' = none) (hentry : entry k' = entry k) :
    l.Held base entry (Function.update (Function.update holds k none) k' (some n)) := by
  have hne : k ≠ k' := by
    rintro rfl
    cases hk.symm.trans hk'
  have hold : ∀ {j m}, Function.update (Function.update holds k none) k' (some n) j = some m →
      j = k' ∧ m = n ∨ j ≠ k ∧ j ≠ k' ∧ holds j = some m := by
    intro j m hj
    by_cases hjk' : j = k'
    · subst hjk'
      rw [Function.update_self] at hj
      exact .inl ⟨rfl,(Option.some.inj hj).symm⟩
    by_cases hjk : j = k
    · subst hjk
      rw [Function.update_of_ne hjk', Function.update_self] at hj
      cases hj
    · rw [Function.update_of_ne hjk', Function.update_of_ne hjk] at hj
      exact .inr ⟨hjk,hjk',hj⟩
  have hnot : ∀ {m}, (∀ j, Function.update (Function.update holds k none) k' (some n) j ≠ some m) →
      ∀ j, holds j ≠ some m := by
    intro m hm j hj
    by_cases hjk : j = k
    · subst hjk
      cases hk.symm.trans hj
      exact hm k' (Function.update_self ..)
    · have hjk' : j ≠ k' := by
        rintro rfl
        cases hk'.symm.trans hj
      exact hm j (by rw [Function.update_of_ne hjk', Function.update_of_ne hjk, hj])
  refine ⟨?_,?_,?_,?_,fun hm => h.rest (hnot hm),fun hm => h.settled (hnot hm)⟩
  · intro j m hj
    rcases hold hj with ⟨rfl,rfl⟩ | ⟨-,-,hj⟩
    · rw [hentry]
      exact h.present hk
    · exact h.present hj
  · intro i j m hi hj
    rcases hold hi with ⟨hik,him⟩ | ⟨hik,-,hi'⟩ <;> rcases hold hj with ⟨hjk,hjm⟩ | ⟨hjk,-,hj'⟩
    · rw [hik, hjk]
    · exact absurd (h.unique hj' (him ▸ hk)) hjk
    · exact absurd (h.unique hi' (hjm ▸ hk)) hik
    · exact h.unique hi' hj'
  · intro j m hj
    rcases hold hj with ⟨-,rfl⟩ | ⟨-,-,hj⟩
    · exact h.fresh hk
    · exact h.fresh hj
  · intro j m hj
    rcases hold hj with ⟨-,rfl⟩ | ⟨-,-,hj⟩
    · exact h.outstanding hk
    · exact h.outstanding hj

end Leases

end Perfidious.Library
