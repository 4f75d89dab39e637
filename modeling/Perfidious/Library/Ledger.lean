import Mathlib.Logic.Function.Basic
import Mathlib.Data.Nat.Notation
import Mathlib.Tactic.ByContra

/-! Resources with one owner each. An owner acquires a resource that did not exist before and
releases it once; a ledger records who holds what and how often each resource was closed. -/
namespace Perfidious.Library

variable {κ : Type*}

@[ext] structure Ledger (κ : Type*) where
  holds : κ → Option ℕ
  live : ℕ → Bool
  closes : ℕ → ℕ
  next : ℕ

namespace Ledger

/-- Every live resource has exactly one owner and was never closed, a dead one was closed at most
once, and from `next` on there is nothing. -/
structure Sound (l : Ledger κ) : Prop where
  live_of_holds : ∀ {k d}, l.holds k = some d → l.live d = true
  unique : ∀ {k k' d}, l.holds k = some d → l.holds k' = some d → k = k'
  held : ∀ {d}, l.live d = true → ∃ k, l.holds k = some d
  closes_of_live : ∀ {d}, l.live d = true → l.closes d = 0
  closes_le : ∀ d, l.closes d ≤ 1
  beyond : ∀ {d}, l.next ≤ d → l.live d = false ∧ l.closes d = 0

variable {l : Ledger κ}

theorem Sound.lt_next (h : l.Sound) {d : ℕ} (hd : l.live d = true) : d < l.next := by
  by_contra hn
  have := (h.beyond (Nat.not_lt.mp hn)).1
  simp [hd] at this

/-- Resources that other ledgers take do not matter here. -/
theorem Sound.advance (h : l.Sound) {n : ℕ} (hn : l.next ≤ n) : ({ l with next := n } : Ledger κ).Sound where
  live_of_holds := h.live_of_holds
  unique := h.unique
  held := h.held
  closes_of_live := h.closes_of_live
  closes_le := h.closes_le
  beyond := fun hd => h.beyond (Nat.le_trans hn hd)

variable [DecidableEq κ]

/-- The owner takes a new resource. -/
def acquire (k : κ) (l : Ledger κ) : Ledger κ where
  holds := Function.update l.holds k (some l.next)
  live := Function.update l.live l.next true
  closes := l.closes
  next := l.next+1

/-- The owner closes what it holds, if anything. -/
def release (k : κ) (l : Ledger κ) : Ledger κ :=
  match l.holds k with
  | none => l
  | some d =>
    { l with
      holds := Function.update l.holds k none
      live := Function.update l.live d false
      closes := Function.update l.closes d (l.closes d + 1) }

theorem acquire_holds_of_ne {k j : κ} (hj : j ≠ k) : (l.acquire k).holds j = l.holds j :=
  Function.update_of_ne hj _ _

theorem acquire_live_of_ne (k : κ) {d : ℕ} (hd : d ≠ l.next) : (l.acquire k).live d = l.live d :=
  Function.update_of_ne hd _ _

/-- Acquiring through an owner that holds nothing. -/
theorem Sound.acquire (h : l.Sound) {k : κ} (hk : l.holds k = none) : (l.acquire k).Sound := by
  have hself : (l.acquire k).holds k = some l.next := Function.update_self ..
  have hnext : (l.acquire k).live l.next = true := Function.update_self ..
  have hold : ∀ {j d}, j ≠ k → (l.acquire k).holds j = some d → l.holds j = some d ∧ d ≠ l.next := by
    intro j d hj hd
    rw [acquire_holds_of_ne hj] at hd
    exact ⟨hd,Nat.ne_of_lt (h.lt_next (h.live_of_holds hd))⟩
  refine ⟨?_,?_,?_,?_,h.closes_le,?_⟩
  · intro j d hd
    by_cases hj : j = k
    · subst hj
      cases hself.symm.trans hd
      exact hnext
    · obtain ⟨hd,hne⟩ := hold hj hd
      rw [acquire_live_of_ne k hne]
      exact h.live_of_holds hd
  · intro i j d hi hj
    by_cases hik : i = k <;> by_cases hjk : j = k
    · rw [hik, hjk]
    · subst hik
      cases hself.symm.trans hi
      exact absurd rfl (hold hjk hj).2
    · subst hjk
      cases hself.symm.trans hj
      exact absurd rfl (hold hik hi).2
    · exact h.unique (hold hik hi).1 (hold hjk hj).1
  · intro d hd
    by_cases hn : d = l.next
    · exact ⟨k,hn ▸ hself⟩
    · rw [acquire_live_of_ne k hn] at hd
      obtain ⟨j,hj⟩ := h.held hd
      have hjk : j ≠ k := by
        rintro rfl
        simp [hk] at hj
      exact ⟨j,by rw [acquire_holds_of_ne hjk, hj]⟩
  · intro d hd
    by_cases hn : d = l.next
    · exact (h.beyond (Nat.le_of_eq hn.symm)).2
    · rw [acquire_live_of_ne k hn] at hd
      exact h.closes_of_live hd
  · intro d hd
    have hlt : l.next < d := hd
    rw [acquire_live_of_ne k (Nat.ne_of_gt hlt)]
    exact h.beyond (Nat.le_of_lt hlt)

theorem release_of_none {k : κ} (hk : l.holds k = none) : l.release k = l := by
  simp [release,hk]

theorem release_of_some {k : κ} {d : ℕ} (hk : l.holds k = some d) :
    l.release k = { l with
      holds := Function.update l.holds k none
      live := Function.update l.live d false
      closes := Function.update l.closes d (l.closes d + 1) } := by
  simp [release,hk]

@[simp] theorem release_next (k : κ) : (l.release k).next = l.next := by
  unfold release
  split <;> rfl

@[simp] theorem release_holds_self (k : κ) : (l.release k).holds k = none := by
  unfold release
  split
  · assumption
  · exact Function.update_self ..

theorem release_holds_of_ne {k j : κ} (hj : j ≠ k) : (l.release k).holds j = l.holds j := by
  unfold release
  split
  · rfl
  · exact Function.update_of_ne hj _ _

/-- Only what the owner holds is closed. -/
theorem release_closes_of_ne {k : κ} {d : ℕ} (hd : l.holds k ≠ some d) :
    (l.release k).closes d = l.closes d := by
  unfold release
  split
  · rfl
  next e he =>
    have hde : d ≠ e := by
      rintro rfl
      exact hd he
    exact Function.update_of_ne hde _ _

/-- What the owner held is closed once and for all. -/
theorem Sound.release_closes (h : l.Sound) {k : κ} {d : ℕ} (hk : l.holds k = some d) :
    (l.release k).closes d = 1 ∧ (l.release k).live d = false := by
  rw [release_of_some hk]
  simp [h.closes_of_live (h.live_of_holds hk)]

theorem Sound.release (h : l.Sound) (k : κ) : (l.release k).Sound := by
  cases hk : l.holds k with
  | none => rwa [release_of_none hk]
  | some d =>
    have hother : ∀ {j e}, (l.release k).holds j = some e → j ≠ k ∧ l.holds j = some e ∧ e ≠ d := by
      intro j e he
      have hj : j ≠ k := by
        rintro rfl
        simp at he
      rw [release_holds_of_ne hj] at he
      exact ⟨hj,he,fun hed => hj (h.unique (hed ▸ he) hk)⟩
    have hlive : ∀ {e}, e ≠ d → (l.release k).live e = l.live e ∧ (l.release k).closes e = l.closes e := by
      intro e he
      rw [release_of_some hk]
      exact ⟨Function.update_of_ne he _ _,Function.update_of_ne he _ _⟩
    have hd := h.release_closes hk
    have hdead : ∀ {e}, (l.release k).live e = true → e ≠ d := by
      rintro e he rfl
      simp [hd.2] at he
    refine ⟨?_,?_,?_,?_,?_,?_⟩
    · intro j e he
      obtain ⟨-,he,hed⟩ := hother he
      rw [(hlive hed).1]
      exact h.live_of_holds he
    · intro i j e hi hj
      exact h.unique (hother hi).2.1 (hother hj).2.1
    · intro e he
      have hed := hdead he
      rw [(hlive hed).1] at he
      obtain ⟨j,hj⟩ := h.held he
      have hjk : j ≠ k := by
        rintro rfl
        exact hed (Option.some.inj (hj.symm.trans hk))
      exact ⟨j,by rw [release_holds_of_ne hjk, hj]⟩
    · intro e he
      have hed := hdead he
      rw [(hlive hed).1] at he
      rw [(hlive hed).2]
      exact h.closes_of_live he
    · intro e
      by_cases hed : e = d
      · exact Nat.le_of_eq (hed ▸ hd.1)
      · rw [(hlive hed).2]
        exact h.closes_le e
    · intro e he
      rw [release_next] at he
      have hed : e ≠ d := Nat.ne_of_gt (Nat.lt_of_lt_of_le (h.lt_next (h.live_of_holds hk)) he)
      rw [(hlive hed).1, (hlive hed).2]
      exact h.beyond he

/-- A sequence of releases, and of acquisitions through owners that hold nothing. -/
inductive Trades (l : Ledger κ) : Ledger κ → Prop
  | refl : Trades l l
  | acquire {l' : Ledger κ} (k : κ) : Trades l l' → l'.holds k = none → Trades l (l'.acquire k)
  | release {l' : Ledger κ} (k : κ) : Trades l l' → Trades l (l'.release k)

theorem Trades.sound {l' : Ledger κ} (h : Trades l l') (hl : l.Sound) : l'.Sound := by
  induction h with
  | refl => exact hl
  | acquire k _ hk ih => exact ih.acquire hk
  | release k _ ih => exact ih.release k

theorem Trades.next_le {l' : Ledger κ} (h : Trades l l') : l.next ≤ l'.next := by
  induction h with
  | refl => exact Nat.le_refl _
  | acquire k _ _ ih => exact Nat.le_succ_of_le ih
  | release k _ ih => rwa [release_next]

/-- What was closed stays closed. -/
theorem Trades.closes_mono {l' : Ledger κ} (h : Trades l l') (d : ℕ) : l.closes d ≤ l'.closes d := by
  induction h with
  | refl => exact Nat.le_refl _
  | acquire k _ _ ih => exact ih
  | @release l' k _ ih =>
    cases hk : l'.holds k with
    | none => rwa [release_of_none hk]
    | some e =>
      rw [release_of_some hk]
      dsimp only
      by_cases he : d = e
      · subst he
        rw [Function.update_self]
        exact Nat.le_succ_of_le ih
      · rwa [Function.update_of_ne he]

/-- A resource stays with its owner until it is closed, and then it stays closed. -/
theorem Trades.settled {l' : Ledger κ} (h : Trades l l') (hl : l.Sound) {k : κ} {d : ℕ}
    (hd : l.holds k = some d ∨ l.closes d = 1) : l'.holds k = some d ∨ l'.closes d = 1 := by
  induction h with
  | refl => exact hd
  | acquire j _ hj ih =>
    rcases ih with hd | hd
    · left
      rwa [acquire_holds_of_ne]
      rintro rfl
      simp [hj] at hd
    · exact .inr hd
  | @release l' j hll' ih =>
    have hl' := hll'.sound hl
    by_cases hj : l'.holds j = some d
    · exact .inr (hl'.release_closes hj).1
    rcases ih with hd | hd
    · left
      rwa [release_holds_of_ne]
      rintro rfl
      exact hj hd
    · exact .inr (by rwa [release_closes_of_ne hj])

end Ledger

end Perfidious.Library
