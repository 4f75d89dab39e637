import Perfidious.Sampler.Objects

/-! The identity blocks that tell the samples of different samplers apart: reference counting, and
addresses that the allocator hands out again. -/
namespace Perfidious
open Library

namespace ObjectStore
variable {κ σ ρ : Type}

def refersTo {α : Type} (identity : α → ℕ) (address : ℕ) (x : Live α) : Bool :=
  identity x.object = address

/-- The number of live objects that point to an identity. -/
def pointers (s : ObjectStore κ σ) (address : ℕ) : ℕ :=
  s.samplers.count (refersTo SamplerObj.identity address) +
    s.samples.count (refersTo SampleObj.identity address)

/-- One pointer to `address`. -/
def one (address a : ℕ) : ℕ := if address = a then 1 else 0

@[simp] theorem one_self (a : ℕ) : one a a = 1 := if_pos rfl

theorem one_of_ne {a b : ℕ} (h : b ≠ a) : one a b = 0 := if_neg (Ne.symm h)

/-- Every block counts its pointers, of which `extra` belong to objects that are being built or
destroyed, and a block without pointers is free. -/
structure Balanced (extra : ℕ → ℕ) (s : ObjectStore κ σ) : Prop where
  refcount : ∀ {a n}, s.identities.lookup a = some n → n.toNat = s.pointers a + extra a ∧ n ≠ 0
  freed : ∀ {a}, s.identities.lookup a = none → s.pointers a + extra a = 0
  intact : s.misused = false

variable {extra extra' : ℕ → ℕ} {s t : ObjectStore κ σ}

/-- Objects may come and go as long as each pointer stays accounted for. -/
theorem Balanced.moved (h : s.Balanced extra) (hid : t.identities = s.identities)
    (hm : t.misused = s.misused) (hw : ∀ a, t.pointers a + extra' a = s.pointers a + extra a) :
    t.Balanced extra' := by
  refine ⟨?_,?_,hm.trans h.intact⟩
  · intro a n ha
    rw [hw]
    exact h.refcount (hid ▸ ha)
  · intro a ha
    rw [hw]
    exact h.freed (hid ▸ ha)

/-- A block is stored with the count of its pointers. -/
theorem Balanced.store (h : s.Balanced extra) {a : ℕ} {n : UInt32} (hn : n ≠ 0)
    (hcount : n.toNat = s.pointers a + extra' a) (hrest : ∀ b, b ≠ a → extra' b = extra b) :
    ({ s with identities := s.identities.insert a n } : ObjectStore κ σ).Balanced extra' := by
  refine ⟨?_,?_,h.intact⟩
  · intro b m hb
    change m.toNat = s.pointers b + _ ∧ _
    cases Table.of_lookup_insert hb with
    | inl hnew =>
      rw [hnew.1, hnew.2]
      exact ⟨hcount,hn⟩
    | inr hold =>
      rw [hrest b hold.1]
      exact h.refcount hold.2
  · intro b hb
    change s.pointers b + _ = 0
    by_cases hba : b = a
    · subst hba
      rw [Finmap.lookup_insert] at hb
      cases hb
    · rw [Finmap.lookup_insert_of_ne _ hba] at hb
      rw [hrest b hba]
      exact h.freed hb

/-- A block without pointers is freed. -/
theorem Balanced.free (h : s.Balanced extra) {a : ℕ} (hzero : s.pointers a + extra' a = 0)
    (hrest : ∀ b, b ≠ a → extra' b = extra b) :
    ({ s with identities := s.identities.erase a } : ObjectStore κ σ).Balanced extra' := by
  refine ⟨?_,?_,h.intact⟩
  · intro b m hb
    change m.toNat = s.pointers b + _ ∧ _
    obtain ⟨hba,hb⟩ := Table.of_lookup_erase hb
    rw [hrest b hba]
    exact h.refcount hb
  · intro b hb
    change s.pointers b + _ = 0
    by_cases hba : b = a
    · exact hba ▸ hzero
    · rw [Finmap.lookup_erase_ne hba] at hb
      rw [hrest b hba]
      exact h.freed hb

theorem Balanced.allocate (h : s.Balanced extra) {a : ℕ} (ha : s.identities.lookup a = none) :
    ({ s with identities := s.identities.insert a 1 } : ObjectStore κ σ).Balanced
      (fun b => extra b + one a b) := by
  apply h.store
  · decide
  · have hzero := h.freed ha
    have hone : (1 : UInt32).toNat = 1 := rfl
    rw [one_self]
    omega
  · intro b hb
    rw [one_of_ne hb, Nat.add_zero]

theorem Balanced.retain (h : s.Balanced extra) {a : ℕ} (ha : s.identities.lookup a ≠ none)
    (hlt : s.pointers a + extra a + 1 < 2^32) :
    (s.identityRetain a).Balanced (fun b => extra b + one a b) := by
  obtain ⟨n,hn⟩ := Option.ne_none_iff_exists'.mp ha
  obtain ⟨hcount,-⟩ := h.refcount hn
  have hnext : (n+1).toNat = n.toNat + 1 := by
    rw [UInt32.toNat_add]
    apply Nat.mod_eq_of_lt
    rw [hcount]
    exact hlt
  simp only [identityRetain, hn]
  apply h.store
  · intro hzero
    rw [hzero] at hnext
    exact absurd hnext (by simp)
  · rw [one_self]
    omega
  · intro b hb
    rw [one_of_ne hb, Nat.add_zero]

/-- Dropping a pointer frees the block exactly when it was the last one. -/
theorem Balanced.release {a : ℕ} (h : s.Balanced fun b => extra b + one a b) :
    (s.identityRelease a).Balanced extra := by
  have hrest : ∀ b, b ≠ a → extra b = extra b + one a b := by
    intro b hb
    rw [one_of_ne hb, Nat.add_zero]
  unfold identityRelease
  split
  next ha =>
    have hzero := h.freed ha
    rw [one_self] at hzero
    omega
  next n ha =>
    obtain ⟨hcount,-⟩ := h.refcount ha
    rw [one_self] at hcount
    have hpos : 1 ≤ n := by
      have hone : (1 : UInt32).toNat = 1 := rfl
      rw [UInt32.le_iff_toNat_le]
      omega
    have hprev : (n-1).toNat = n.toNat - 1 := UInt32.toNat_sub_of_le _ _ hpos
    split
    next hlast =>
      apply h.free _ hrest
      have hz : (n-1).toNat = 0 := by rw [hlast]; rfl
      omega
    next hmore => exact h.store hmore (by omega) hrest

/-- A live object with this identity goes back to this opening. -/
def Names (s : ObjectStore κ σ) (a i : ℕ) : Prop :=
  (∃ h x, s.samplers.lookup h = some x ∧ x.object.identity = a ∧ x.opening = i) ∨
  ∃ h x, s.samples.lookup h = some x ∧ x.object.identity = a ∧ x.opening = i

/-- Identities and openings correspond to each other, and an opening belongs to one sampler. -/
structure Distinct (s : ObjectStore κ σ) : Prop where
  bounded : ∀ {a i}, s.Names a i → i < s.openings
  same : ∀ {a b i j}, s.Names a i → s.Names b j → (a = b ↔ i = j)
  single : ∀ {h k x y}, s.samplers.lookup h = some x → s.samplers.lookup k = some y →
    x.opening = y.opening → h = k

/-- What holds between two calls. -/
structure Sound (s : ObjectStore κ σ) : Prop where
  balanced : s.Balanced fun _ => 0
  distinct : s.Distinct

theorem Names.pointers_pos {a i : ℕ} (h : s.Names a i) : 0 < s.pointers a := by
  cases h with
  | inl h =>
    obtain ⟨k,x,hk,ha,-⟩ := h
    have hpos : 0 < s.samplers.count (refersTo SamplerObj.identity a) :=
      Table.count_pos.mpr ⟨k,x,hk,decide_eq_true ha⟩
    exact Nat.add_pos_left hpos _
  | inr h =>
    obtain ⟨k,x,hk,ha,-⟩ := h
    have hpos : 0 < s.samples.count (refersTo SampleObj.identity a) :=
      Table.count_pos.mpr ⟨k,x,hk,decide_eq_true ha⟩
    exact Nat.add_pos_right _ hpos

/-- A block that a live object points to is not free. -/
theorem Names.allocated {a i : ℕ} (h : s.Names a i) (hs : s.Balanced extra) :
    s.identities.lookup a ≠ none := by
  intro ha
  have hpos := h.pointers_pos
  have hzero := hs.freed ha
  omega

/-- Samplers may lose what is behind them but keep their name; other objects may only go. -/
theorem Distinct.fewer (h : s.Distinct) (hopen : t.openings = s.openings)
    (hsampler : ∀ {k x}, t.samplers.lookup k = some x → ∃ y, s.samplers.lookup k = some y ∧
      y.object.identity = x.object.identity ∧ y.opening = x.opening)
    (hsample : ∀ {k x}, t.samples.lookup k = some x → s.Names x.object.identity x.opening) :
    t.Distinct := by
  have hnames : ∀ {a i}, t.Names a i → s.Names a i := by
    intro a i ht
    cases ht with
    | inl ht =>
      obtain ⟨k,x,hk,rfl,rfl⟩ := ht
      obtain ⟨y,hy,ha,hi⟩ := hsampler hk
      exact .inl ⟨k,y,hy,ha,hi⟩
    | inr ht =>
      obtain ⟨k,x,hk,rfl,rfl⟩ := ht
      exact hsample hk
  refine ⟨?_,?_,?_⟩
  · intro a i ht
    rw [hopen]
    exact h.bounded (hnames ht)
  · intro a b i j hi hj
    exact h.same (hnames hi) (hnames hj)
  · intro k j x y hx hy hxy
    obtain ⟨x',hx',-,hxi⟩ := hsampler hx
    obtain ⟨y',hy',-,hyi⟩ := hsampler hy
    exact h.single hx' hy' (hxi.trans (hxy.trans hyi.symm))

/-- Nothing but the native state, the blocks and the flag has changed. -/
theorem Distinct.of_tables (h : s.Distinct) (hopen : t.openings = s.openings)
    (hsamplers : t.samplers = s.samplers) (hsamples : t.samples = s.samples) : t.Distinct := by
  apply h.fewer hopen
  · intro k x hx
    exact ⟨x,hsamplers ▸ hx,rfl,rfl⟩
  · intro k x hx
    exact .inr ⟨k,x,hsamples ▸ hx,rfl,rfl⟩

theorem pointers_le (s : ObjectStore κ σ) (a : ℕ) : s.pointers a ≤ s.liveObjects :=
  Nat.add_le_add (Table.count_le _ _) (Table.count_le _ _)

variable (P : Platform κ σ ρ)

/-- The part of `perfidious_sampler_obj_free` that concerns the identity. -/
theorem samplerObjFree_eq (obj : SamplerObj σ) (r : ρ) (s : ObjectStore κ σ) :
    ∃ native, s.samplerObjFree P obj r = ({ s with native }).identityRelease obj.identity := by
  unfold samplerObjFree
  cases obj.sampler with
  | none => exact ⟨s.native,rfl⟩
  | some sampler => exact ⟨_,rfl⟩

theorem Balanced.samplerObjFree {obj : SamplerObj σ}
    (h : s.Balanced fun b => extra b + one obj.identity b) (r : ρ) :
    (s.samplerObjFree P obj r).Balanced extra := by
  obtain ⟨native,heq⟩ := samplerObjFree_eq P obj r s
  rw [heq]
  apply Balanced.release
  exact h.moved rfl rfl fun _ => rfl

/-- A sampler that is destroyed before anyone saw it leaves nothing behind. -/
theorem Sound.discard (h : s.Sound) (obj : SamplerObj σ) (ht : t.Balanced (one obj.identity))
    (hopen : t.openings = s.openings) (hsamplers : t.samplers = s.samplers)
    (hsamples : t.samples = s.samples) (r : ρ) : (t.samplerObjFree P obj r).Sound := by
  have hbalanced : (t.samplerObjFree P obj r).Balanced fun _ => 0 :=
    Balanced.samplerObjFree P (ht.moved rfl rfl fun a => by rw [Nat.zero_add]) r
  refine ⟨hbalanced,?_⟩
  obtain ⟨native,heq⟩ := samplerObjFree_eq P obj r t
  rw [heq]
  apply h.distinct.of_tables
  · rw [identityRelease_openings]
    exact hopen
  · rw [identityRelease_samplers]
    exact hsamplers
  · rw [identityRelease_samples]
    exact hsamples

/-- Once a sampler was added, a name is the new one, or an old one that differs from it. -/
theorem Names.of_added {handle address : ℕ} (hs : s.Distinct) (hfree : ∀ i, ¬s.Names address i)
    (hsampler : ∀ {k x}, t.samplers.lookup k = some x →
      (k = handle ∧ x.object.identity = address ∧ x.opening = s.openings) ∨
      (k ≠ handle ∧ s.samplers.lookup k = some x))
    (hsamples : t.samples = s.samples) {a i : ℕ} (h : t.Names a i) :
    (a = address ∧ i = s.openings) ∨ (a ≠ address ∧ i < s.openings ∧ s.Names a i) := by
  have hold : s.Names a i → a ≠ address ∧ i < s.openings ∧ s.Names a i := by
    intro hn
    refine ⟨?_,hs.bounded hn,hn⟩
    rintro rfl
    exact hfree i hn
  cases h with
  | inl h =>
    obtain ⟨k,x,hk,rfl,rfl⟩ := h
    cases hsampler hk with
    | inl hx => exact .inl hx.2
    | inr hx => exact .inr (hold (.inl ⟨k,x,hx.2,rfl,rfl⟩))
  | inr h =>
    obtain ⟨k,x,hk,rfl,rfl⟩ := h
    exact .inr (hold (.inr ⟨k,x,hsamples ▸ hk,rfl,rfl⟩))

/-- A sampler whose identity nothing points to may be added under the next opening. -/
theorem Distinct.added (h : s.Distinct) {handle address : ℕ} (hfree : ∀ i, ¬s.Names address i)
    (hopen : t.openings = s.openings + 1)
    (hsampler : ∀ {k x}, t.samplers.lookup k = some x →
      (k = handle ∧ x.object.identity = address ∧ x.opening = s.openings) ∨
      (k ≠ handle ∧ s.samplers.lookup k = some x))
    (hsamples : t.samples = s.samples) : t.Distinct := by
  have hnames : ∀ {a i}, t.Names a i →
      (a = address ∧ i = s.openings) ∨ (a ≠ address ∧ i < s.openings ∧ s.Names a i) :=
    fun hn => hn.of_added h hfree hsampler hsamples
  refine ⟨?_,?_,?_⟩
  · intro a i hn
    rw [hopen]
    cases hnames hn with
    | inl ha => exact ha.2 ▸ Nat.lt_succ_self _
    | inr ha => exact Nat.lt_succ_of_lt ha.2.1
  · intro a b i j hi hj
    cases hnames hi with
    | inl ha =>
      cases hnames hj with
      | inl hb => simp [ha.1,ha.2,hb.1,hb.2]
      | inr hb =>
        constructor
        · intro hab
          exact absurd (hab ▸ ha.1) hb.1
        · intro hij
          have := hb.2.1
          have := ha.2
          omega
    | inr ha =>
      cases hnames hj with
      | inl hb =>
        constructor
        · intro hab
          exact absurd (hab ▸ hb.1) ha.1
        · intro hij
          have := ha.2.1
          have := hb.2
          omega
      | inr hb => exact h.same ha.2.2 hb.2.2
  · intro k j x y hx hy hxy
    cases hsampler hx with
    | inl hx =>
      cases hsampler hy with
      | inl hy => rw [hx.1, hy.1]
      | inr hy =>
        have hlt := h.bounded (.inl ⟨j,y,hy.2,rfl,rfl⟩)
        exact absurd (hx.2.2.symm.trans hxy) (Nat.ne_of_gt hlt)
    | inr hx =>
      have hlt := h.bounded (.inl ⟨k,x,hx.2,rfl,rfl⟩)
      cases hsampler hy with
      | inl hy => exact absurd (hxy.trans hy.2.2) (Nat.ne_of_lt hlt)
      | inr hy => exact h.single hx.2 hy.2 hxy

/-- A new sampler with a new block gets a name of its own. -/
theorem Sound.publish (h : s.Sound) (obj : SamplerObj σ) {handle : ℕ}
    (hfree : s.identities.lookup obj.identity = none) (hhandle : s.samplers.lookup handle = none)
    (ht : t.Balanced (one obj.identity)) (hopen : t.openings = s.openings)
    (hsamplers : t.samplers = s.samplers) (hsamples : t.samples = s.samples) (native : κ) :
    ({ t with
      native
      samplers := t.samplers.insert handle ⟨obj,t.openings⟩
      openings := t.openings + 1 } : ObjectStore κ σ).Sound := by
  refine ⟨ht.moved rfl rfl fun a => ?_,?_⟩
  · change Table.count _ (t.samplers.insert handle _) + Table.count _ t.samples + 0 = _
    rw [Table.count_insert (hsamplers ▸ hhandle)]
    simp only [pointers, refersTo, one, decide_eq_true_eq]
    omega
  · have hname : ∀ i, ¬s.Names obj.identity i := fun i hn => hn.allocated h.balanced hfree
    have hsampler : ∀ {k x}, (t.samplers.insert handle ⟨obj,t.openings⟩).lookup k = some x →
        (k = handle ∧ x.object.identity = obj.identity ∧ x.opening = s.openings) ∨
        (k ≠ handle ∧ s.samplers.lookup k = some x) := by
      intro k x hx
      rw [hsamplers, hopen] at hx
      cases Table.of_lookup_insert hx with
      | inl hnew => exact .inl ⟨hnew.1,by rw [hnew.2],by rw [hnew.2]⟩
      | inr hold => exact .inr hold
    exact h.distinct.added hname (congrArg (· + 1) hopen) hsampler hsamples

theorem Sound.openAdmitted (h : s.Sound) {metrics : UInt32} {metricOrder : List MetricId}
    {scope : ScopeId} {r : OpenAnswers ρ} {x : ObjectStore κ σ × ObjectOutcome}
    (hx : OpenCase P metrics metricOrder scope r s
      { s with identities := s.identities.insert (r.identity.pick s.identities.keys) 1 } x) :
    x.1.Sound := by
  have hfree := Table.lookup_pick r.identity s.identities
  have hone : ∀ native a, a = r.identity.pick s.identities.keys → ({ s with
      native
      identities := s.identities.insert (r.identity.pick s.identities.keys) 1 } :
      ObjectStore κ σ).Balanced (one a) := by
    rintro native _ rfl
    exact (h.balanced.allocate hfree).moved rfl rfl fun a => by rw [Nat.zero_add]; rfl
  cases hx with
  | @failed native _ _ obj left named opened =>
    exact h.discard P obj (hone native _ named) rfl rfl rfl _
  | @unread _ _ native _ _ _ obj held named opened read result =>
    exact h.discard P obj (hone native _ named) rfl rfl rfl _
  | opened obj held named requested ordered opened read result =>
    exact h.publish obj (named ▸ hfree) (Table.lookup_pick r.handle s.samplers)
      (hone s.native _ named) rfl rfl rfl _

theorem Sound.openSampler (h : s.Sound) (values : List (Option MetricId)) (scope : Option ScopeId)
    (r : OpenAnswers ρ) : (s.openSampler P values scope r).1.Sound := by
  have hnative : ∀ native, ({ s with native } : ObjectStore κ σ).Sound := fun native =>
    ⟨h.balanced.moved rfl rfl fun _ => rfl,h.distinct.of_tables rfl rfl rfl⟩
  generalize hx : s.openSampler P values scope r = x
  cases hx ▸ s.openSampler_cases P values scope r with
  | rejected => exact h
  | unprobed => exact hnative _
  | unsupported => exact hnative _
  | admitted supported opened => exact (hnative _).openAdmitted P opened

/-- A sampler may lose or change what is behind it, as long as it keeps its identity. -/
theorem Sound.replace (h : s.Sound) (obj' : SamplerObj σ) {handle : ℕ} {obj : SamplerObj σ}
    {opening : ℕ} (hobj : s.samplers.lookup handle = some ⟨obj,opening⟩) (hid : obj'.identity = obj.identity)
    (native : κ) : ({ s with
      native
      samplers := s.samplers.insert handle ⟨obj',opening⟩ } : ObjectStore κ σ).Sound := by
  constructor
  · refine h.balanced.moved rfl rfl fun a => ?_
    change Table.count _ (s.samplers.insert handle _) + _ + 0 = _
    rw [Table.count_replace hobj (by simp [refersTo,hid])]
    rfl
  · refine h.distinct.fewer rfl ?_ ?_
    · intro k x hx
      cases Table.of_lookup_insert hx with
      | inl hnew =>
        rw [hnew.1, hnew.2]
        exact ⟨_,hobj,hid.symm,rfl⟩
      | inr hold => exact ⟨x,hold.2,rfl,rfl⟩
    · intro k x hx
      exact .inr ⟨k,x,hx,rfl,rfl⟩

theorem liveObjects_replace {handle : ℕ} {x y : Live (SamplerObj σ)}
    (hx : s.samplers.lookup handle = some x) (native : κ) :
    ({ s with native, samplers := s.samplers.insert handle y } : ObjectStore κ σ).liveObjects =
      s.liveObjects := by
  have hkeys : (s.samplers.insert handle y).keys = s.samplers.keys := by
    apply Table.keys_eq
    intro k
    by_cases hk : k = handle
    · rw [hk, Finmap.lookup_insert, hx]
      rfl
    · rw [Finmap.lookup_insert_of_ne _ hk]
  change (s.samplers.insert handle y).keys.card + _ = _
  rw [hkeys]
  rfl

/-- A sample is built for a live sampler, and then either destroyed again or handed out. -/
theorem Sound.sampled (h : s.Sound) {handle : ℕ} {x : Live (SamplerObj σ)}
    (hx : s.samplers.lookup handle = some x) (hlive : s.liveObjects + 1 < 2^32) (sample : SampleObj)
    (hid : sample.identity = x.object.identity) :
    ((s.identityRetain sample.identity).sampleObjFree sample).Sound ∧
    ∀ k, s.samples.lookup k = none →
      ({ s.identityRetain sample.identity with
        samples := (s.identityRetain sample.identity).samples.insert k ⟨sample,x.opening⟩ } :
        ObjectStore κ σ).Sound := by
  have hname : s.Names sample.identity x.opening := .inl ⟨handle,x,hx,hid.symm,rfl⟩
  have hretained : (s.identityRetain sample.identity).Balanced fun b => 0 + one sample.identity b := by
    apply h.balanced.retain (hname.allocated h.balanced)
    have := pointers_le s sample.identity
    omega
  refine ⟨⟨hretained.release,?_⟩,?_⟩
  · apply h.distinct.of_tables
    · exact (identityRelease_openings _ _).trans (identityRetain_openings _ _)
    · exact (identityRelease_samplers _ _).trans (identityRetain_samplers _ _)
    · exact (identityRelease_samples _ _).trans (identityRetain_samples _ _)
  · intro k hk
    constructor
    · refine hretained.moved rfl rfl fun a => ?_
      change Table.count _ (s.identityRetain _).samplers +
        Table.count _ ((s.identityRetain _).samples.insert k _) + 0 = _
      rw [Table.count_insert (by rw [identityRetain_samples]; exact hk)]
      simp only [pointers, refersTo, one, decide_eq_true_eq]
      omega
    · refine h.distinct.fewer (identityRetain_openings _ _) ?_ ?_
      · intro j y hy
        rw [identityRetain_samplers] at hy
        exact ⟨y,hy,rfl,rfl⟩
      · intro j y hy
        rw [identityRetain_samples] at hy
        cases Table.of_lookup_insert hy with
        | inl hnew =>
          rw [hnew.2]
          exact hname
        | inr hold => exact .inr ⟨j,y,hold.2,rfl,rfl⟩

theorem Sound.takeSample (h : s.Sound) {handle : ℕ} {obj : SamplerObj σ} {opening : ℕ}
    (hobj : s.samplers.lookup handle = some ⟨obj,opening⟩) {current : Snapshot} {r : ReadAnswers ρ}
    {x : ObjectStore κ σ × ObjectOutcome} (hx : TakeCase obj opening current r s x)
    (hlive : s.liveObjects + x.2.constructed < 2^32) : x.1.Sound := by
  cases hx with
  | clock => exact h
  | dropped sample same => exact (h.sampled hobj hlive sample same).1
  | taken sample same forwards complete rest fresh =>
    apply (h.sampled hobj hlive sample same).2
    rwa [identityRetain_samples] at fresh

theorem Sound.readSampler (h : s.Sound) (handle : ℕ) (r : ReadAnswers ρ)
    (hlive : s.liveObjects + (s.readSampler P handle r).2.constructed < 2^32) :
    (s.readSampler P handle r).1.Sound := by
  generalize hx : s.readSampler P handle r = x at hlive ⊢
  cases hx ▸ s.readSampler_cases P handle r with
  | noObject => exact h
  | closed => exact h
  | @failed obj _ _ native sampler' _ _ found held read result =>
    exact h.replace { obj with sampler := some sampler' } found rfl native
  | @read obj opening _ native sampler' _ _ found held read result taken =>
    have hread := h.replace { obj with sampler := some sampler' } found rfl native
    apply hread.takeSample (Finmap.lookup_insert _) taken
    rwa [liveObjects_replace found native]

theorem Sound.closeSampler (h : s.Sound) (handle : ℕ) (r : ρ) :
    (s.closeSampler P handle r).1.Sound := by
  unfold ObjectStore.closeSampler
  split
  · exact h
  next obj opening hobj =>
    split
    · exact h
    · exact h.replace { obj with sampler := none } hobj rfl _

theorem Sound.destroySampler (h : s.Sound) (handle : ℕ) (r : ρ) :
    (s.destroySampler P handle r).1.Sound := by
  unfold ObjectStore.destroySampler
  split
  · exact h
  next obj opening hobj =>
    have hgone : ({ s with samplers := s.samplers.erase handle } : ObjectStore κ σ).Balanced
        fun b => 0 + one obj.identity b := by
      refine h.balanced.moved rfl rfl fun a => ?_
      change Table.count _ (s.samplers.erase handle) + Table.count _ s.samples + _ = _
      rw [pointers, ← Table.count_erase hobj]
      simp only [refersTo, one, decide_eq_true_eq]
      omega
    refine ⟨Balanced.samplerObjFree P hgone r,?_⟩
    obtain ⟨native,heq⟩ :=
      samplerObjFree_eq P obj r ({ s with samplers := s.samplers.erase handle } : ObjectStore κ σ)
    change (samplerObjFree P obj r _).Distinct
    rw [heq]
    refine h.distinct.fewer (identityRelease_openings _ _) ?_ ?_
    · intro k x hx
      rw [identityRelease_samplers] at hx
      exact ⟨x,(Table.of_lookup_erase hx).2,rfl,rfl⟩
    · intro k x hx
      rw [identityRelease_samples] at hx
      exact .inr ⟨k,x,hx,rfl,rfl⟩

theorem Sound.destroySample (h : s.Sound) (handle : ℕ) : (s.destroySample handle).1.Sound := by
  unfold ObjectStore.destroySample
  split
  · exact h
  next obj opening hobj =>
    have hgone : ({ s with samples := s.samples.erase handle } : ObjectStore κ σ).Balanced
        fun b => 0 + one obj.identity b := by
      refine h.balanced.moved rfl rfl fun a => ?_
      change Table.count _ s.samplers + Table.count _ (s.samples.erase handle) + _ = _
      rw [pointers, ← Table.count_erase hobj]
      simp only [refersTo, one, decide_eq_true_eq]
      omega
    refine ⟨hgone.release,?_⟩
    refine h.distinct.fewer (identityRelease_openings _ _) ?_ ?_
    · intro k x hx
      rw [sampleObjFree, identityRelease_samplers] at hx
      exact ⟨x,hx,rfl,rfl⟩
    · intro k x hx
      rw [sampleObjFree, identityRelease_samples] at hx
      exact .inr ⟨k,x,(Table.of_lookup_erase hx).2,rfl,rfl⟩

/-- Fewer than `2^32` objects are alive at any time during a call. -/
def Few (s : ObjectStore κ σ) (op : ObjectOp ρ) : Prop :=
  s.liveObjects + (s.step P op).2.constructed < 2^32

instance (s : ObjectStore κ σ) (op : ObjectOp ρ) : Decidable (s.Few P op) :=
  inferInstanceAs (Decidable (_ < _))

theorem Sound.step (h : s.Sound) (op : ObjectOp ρ) (hlive : s.Few P op) : (s.step P op).1.Sound := by
  cases op with
  | openSampler values scope r => exact h.openSampler P values scope r
  | readSampler handle r => exact h.readSampler P handle r hlive
  | closeSampler handle r => exact h.closeSampler P handle r
  | destroySampler handle r => exact h.destroySampler P handle r
  | destroySample handle => exact h.destroySample handle

theorem start_sound (native : κ) : (start native : ObjectStore κ σ).Sound := by
  refine ⟨⟨?_,?_,rfl⟩,⟨?_,?_,?_⟩⟩
  · intro a n ha
    cases ha
  · intro a _
    rfl
  · rintro a i (⟨_,_,hx,-⟩ | ⟨_,_,hx,-⟩) <;> cases hx
  · rintro a b i j (⟨_,_,hx,-⟩ | ⟨_,_,hx,-⟩) <;> cases hx
  · intro h k x y hx
    cases hx

theorem final_sound (native : κ) {ops : List (ObjectOp ρ)}
    (hlive : Along (step P) (Few P) (start native) ops) : (final (step P) (start native) ops).Sound :=
  final_invariant (step P) (fun _ op h hop => h.step P op hop) (start_sound native) hlive

/-- A block is in memory as long as anything points to it, and no longer. -/
theorem Balanced.mem_iff (h : s.Balanced fun _ => 0) (a : ℕ) :
    a ∈ s.identities ↔ 0 < s.pointers a := by
  constructor
  · intro ha
    obtain ⟨n,hn⟩ := Finmap.mem_iff.mp ha
    obtain ⟨hcount,hzero⟩ := h.refcount hn
    have hpos : n.toNat ≠ 0 := fun hz => hzero (UInt32.toNat_inj.mp hz)
    omega
  · intro hpos
    by_contra ha
    have hzero := h.freed (Finmap.lookup_eq_none.mpr ha)
    omega

end ObjectStore

/-- `Sample::since` refuses a pair as foreign exactly when the identities differ. -/
theorem SampleObj.since_differentSampler_iff (sample earlier : SampleObj) :
    sample.since earlier = .error differentSampler ↔ sample.identity ≠ earlier.identity := by
  constructor
  · intro h
    rcases since_error h with ⟨hid,-⟩ | ⟨-,he⟩ | he | ⟨m,he⟩
    · exact hid
    · exact absurd he (by decide)
    · exact absurd he (by decide)
    · cases m <;> exact absurd he (by decide)
  · intro hid
    unfold since
    rw [if_pos hid]

namespace ObjectStore
variable {κ σ ρ : Type} (P : Platform κ σ ρ)

/-- A sample goes back to the same opening as the sampler it was read from. -/
theorem readSampler_opening {s : ObjectStore κ σ} {handle k : ℕ} {r : ReadAnswers ρ}
    (h : (s.readSampler P handle r).2.result = .sample k) :
    ∃ x y, s.samplers.lookup handle = some x ∧ (s.readSampler P handle r).1.samples.lookup k = some y ∧
      y.opening = x.opening := by
  generalize hx : s.readSampler P handle r = x at h ⊢
  cases hx ▸ s.readSampler_cases P handle r with
  | noObject => cases h
  | closed => cases h
  | failed => cases h
  | read found held read result taken =>
    cases taken with
    | clock => cases h
    | dropped => cases h
    | taken sample same forwards complete rest fresh =>
      cases h
      exact ⟨_,_,found,Finmap.lookup_insert _,rfl⟩

/-- A new sampler starts a new opening. -/
theorem openSampler_opening {s : ObjectStore κ σ} {values : List (Option MetricId)}
    {scope : Option ScopeId} {r : OpenAnswers ρ} {k : ℕ}
    (h : (s.openSampler P values scope r).2.result = .sampler k) :
    ∃ x, (s.openSampler P values scope r).1.samplers.lookup k = some x ∧ x.opening = s.openings ∧
      (s.openSampler P values scope r).1.openings = s.openings + 1 := by
  generalize hx : s.openSampler P values scope r = x at h ⊢
  cases hx ▸ s.openSampler_cases P values scope r with
  | rejected => cases h
  | unprobed => cases h
  | unsupported => cases h
  | admitted supported opened =>
    cases opened with
    | failed => cases h
    | unread => cases h
    | opened obj =>
      cases h
      exact ⟨_,Finmap.lookup_insert _,rfl,rfl⟩

/-- The identity of a sample says which sampler it was read from: a block counts the objects that
point to it and is freed with the last of them, so that samples compare as belonging together exactly
when they go back to one opening, even when the allocator hands out addresses again. -/
theorem sample_identity_exact (native : κ) (ops : List (ObjectOp ρ))
    (hlive : Along (step P) (Few P) (start native) ops) :
    let s := final (step P) (start native) ops
    (∀ a n, s.identities.lookup a = some n → n.toNat = s.pointers a) ∧
    (∀ a, a ∈ s.identities ↔ 0 < s.pointers a) ∧
    s.misused = false ∧
    (∀ op, s.Few P op → ∀ a ∈ s.identities,
      (a ∉ (s.step P op).1.identities ↔ (s.step P op).1.pointers a = 0)) ∧
    (∀ h k x y, s.samples.lookup h = some x → s.samples.lookup k = some y →
      (x.object.since y.object = .error differentSampler ↔ x.opening ≠ y.opening)) ∧
    (∀ h k x y, s.samplers.lookup h = some x → s.samplers.lookup k = some y →
      x.opening = y.opening → h = k) ∧
    (∀ values scope r k, (s.openSampler P values scope r).2.result = .sampler k →
      ∃ x, (s.openSampler P values scope r).1.samplers.lookup k = some x ∧
        (∀ a i, s.Names a i → i ≠ x.opening)) ∧
    (∀ handle r k, (s.readSampler P handle r).2.result = .sample k →
      ∃ x y, s.samplers.lookup handle = some x ∧
        (s.readSampler P handle r).1.samples.lookup k = some y ∧ y.opening = x.opening) := by
  have hs := final_sound P native hlive
  refine ⟨?_,hs.balanced.mem_iff,hs.balanced.intact,?_,?_,?_,?_,fun _ _ _ => readSampler_opening P⟩
  · intro a n hn
    exact (hs.balanced.refcount hn).1
  · intro op hop a _
    rw [(hs.step P op hop).balanced.mem_iff]
    omega
  · intro h k x y hx hy
    rw [SampleObj.since_differentSampler_iff]
    exact not_congr (hs.distinct.same (.inr ⟨h,x,hx,rfl,rfl⟩) (.inr ⟨k,y,hy,rfl,rfl⟩))
  · intro h k x y hx hy hxy
    exact hs.distinct.single hx hy hxy
  · intro values scope r k hk
    obtain ⟨x,hx,hopening,-⟩ := openSampler_opening P hk
    refine ⟨x,hx,fun a i hi => ?_⟩
    have := hs.distinct.bounded hi
    omega

/-- A backend that can do everything and counts nothing. -/
def plainPlatform : Platform Unit Unit Unit where
  samplerSupportedMetrics metrics _ _ native := (native,.ok metrics)
  samplerOpen _ _ _ _ native := (native,.ok ())
  samplerRead sampler _ _ native := (native,sampler,⟨.ok (),fun _ => 0⟩)
  samplerClose _ _ native := native

def plainOpenAnswers : OpenAnswers Unit := ⟨.next,.next,(),(),(),(),0⟩
def plainReadAnswers : ReadAnswers Unit := ⟨.next,fun _ => 0,(),0⟩

/-- Two samplers one after the other, the second with the address of the first. -/
def plainOps : List (ObjectOp Unit) :=
  [.openSampler [some .cpuTime] none plainOpenAnswers,.readSampler 0 plainReadAnswers,
    .destroySampler 0 (),.destroySample 0,.openSampler [some .cpuTime] none plainOpenAnswers,
    .readSampler 0 plainReadAnswers]

theorem sample_identity_exact_reused :
    Along (step plainPlatform) (Few plainPlatform) (start ()) plainOps ∧
    ∀ a, a ∈ (final (step plainPlatform) (start ()) plainOps).identities ↔
      0 < (final (step plainPlatform) (start ()) plainOps).pointers a := by
  have hlive : Along (step plainPlatform) (Few plainPlatform) (start ()) plainOps :=
    ⟨by decide,by decide,by decide,by decide,by decide,by decide,trivial⟩
  exact ⟨hlive,(sample_identity_exact plainPlatform () plainOps hlive).2.1⟩

end ObjectStore

end Perfidious
