import Perfidious.Library.Telescope
import Perfidious.Sampler.Monotone

/-! Deltas between the samples of one sampler: which ones exist, and how they add up. -/
namespace Perfidious
open Library

namespace SampleObj

/-- What every sample carries: values that are PHP integers, and none for other metrics. -/
structure Sound (sample : SampleObj) : Prop where
  fits : ∀ m, (sample.values m).toNat ≤ zendLongMax
  absent : ∀ m, ¬ requests sample.metrics m.mask = true → sample.values m = 0

/-- An earlier sample of the same sampler. -/
structure Precedes (earlier later : SampleObj) : Prop where
  identity : earlier.identity = later.identity
  metrics : earlier.metrics = later.metrics
  time : earlier.timeNs ≤ later.timeNs
  values : earlier.values.Below later.values

/-- The differences that `Sample::since` stores. -/
def minus (later earlier : SampleObj) : SampleDeltaObj where
  values m := later.values m - earlier.values m
  metrics := later.metrics
  elapsedTimeNs := (later.timeNs - earlier.timeNs).toNat

/-- The time between two samples is a PHP integer. -/
def ElapsedFits (earlier later : SampleObj) : Prop :=
  (later.timeNs - earlier.timeNs).toNat ≤ zendLongMax

variable {a b c : SampleObj}

theorem Precedes.refl (a : SampleObj) : a.Precedes a :=
  ⟨rfl,rfl,UInt64.le_refl _,fun _ => UInt64.le_refl _⟩

theorem Precedes.trans (hab : a.Precedes b) (hbc : b.Precedes c) : a.Precedes c where
  identity := hab.identity.trans hbc.identity
  metrics := hab.metrics.trans hbc.metrics
  time := UInt64.le_trans hab.time hbc.time
  values m := UInt64.le_trans (hab.values m) (hbc.values m)

theorem Precedes.elapsed (h : a.Precedes b) :
    (b.minus a).elapsedTimeNs = (b.timeNs.toNat : ℤ) - a.timeNs.toNat := by
  have htime := UInt64.le_iff_toNat_le.mp h.time
  change ((b.timeNs - a.timeNs).toNat : ℤ) = _
  rw [UInt64.toNat_sub_of_le _ _ h.time]
  omega

theorem Precedes.difference (h : a.Precedes b) (m : MetricId) :
    (((b.minus a).values m).toNat : ℤ) = (b.values m).toNat - (a.values m).toNat := by
  have hvalue := UInt64.le_iff_toNat_le.mp (h.values m)
  change ((b.values m - a.values m).toNat : ℤ) = _
  rw [UInt64.toNat_sub_of_le _ _ (h.values m)]
  omega

/-- A part of a time that is a PHP integer is one, too. -/
theorem ElapsedFits.mono {a' b' : SampleObj} (h : a.ElapsedFits b) (hstart : a.Precedes a')
    (hmiddle : a'.Precedes b') (hend : b'.Precedes b) : a'.ElapsedFits b' := by
  have hab := (hstart.trans hmiddle).trans hend
  unfold ElapsedFits at h ⊢
  rw [UInt64.toNat_sub_of_le _ _ hab.time] at h
  rw [UInt64.toNat_sub_of_le _ _ hmiddle.time]
  have hstart := UInt64.le_iff_toNat_le.mp hstart.time
  have hend := UInt64.le_iff_toNat_le.mp hend.time
  omega

theorem difference_eq (h : a.Precedes b) (m : MetricId) :
    b.difference a m = .ok (b.values m - a.values m) :=
  if_neg (UInt64.not_lt.mpr (h.values m))

/-- `Sample::since` of an earlier sample of the same sampler. -/
theorem since_eq (h : a.Precedes b) (ha : a.Sound) (hb : b.Sound) (ht : a.ElapsedFits b) :
    b.since a = .ok (b.minus a) := by
  obtain ⟨values,hvalues⟩ : ∃ values,
      collect b.metrics (b.difference a) MetricId.all (fun _ => 0) = .ok values :=
    collect_total fun m _ => ⟨_,difference_eq h m⟩
  have hall : values = fun m => b.values m - a.values m := by
    funext m
    obtain ⟨hin,hout⟩ := collect_ok MetricId.nodup_all hvalues m
    by_cases hreq : requests b.metrics m.mask = true
    · have hm := hin ⟨MetricId.mem_all m,hreq⟩
      rw [difference_eq h m] at hm
      exact (Except.ok.inj hm).symm
    · have hreq' : ¬ requests a.metrics m.mask = true := by rwa [h.metrics]
      rw [hout fun hm => hreq hm.2, hb.absent m hreq, ha.absent m hreq']
      rfl
  unfold since
  rw [if_neg (not_not_intro h.identity.symm), if_neg (UInt64.not_lt.mpr h.time),
    uint64ToLong_eq_ok ht]
  simp only [hvalues,hall]
  rfl

/-- Values that are PHP integers can be asked for exactly where they were requested. -/
theorem sampleValue_ok_iff {metrics : UInt32} {values : Snapshot} {m : MetricId}
    (h : (values m).toNat ≤ zendLongMax) :
    (∃ v, sampleValue metrics values m = .ok v) ↔ requests metrics m.mask = true := by
  unfold sampleValue
  split
  next hreq => exact ⟨fun _ => hreq,fun _ => ⟨_,uint64ToLong_eq_ok h⟩⟩
  next hreq =>
    constructor
    · rintro ⟨v,hv⟩
      cases hv
    · intro hyes
      exact absurd hyes hreq

theorem Sound.value (h : a.Sound) {m : MetricId} (hreq : requests a.metrics m.mask = true) :
    a.value m = .ok ((a.values m).toNat : ℤ) := by
  change sampleValue a.metrics a.values m = _
  rw [sampleValue, if_pos hreq, uint64ToLong_eq_ok (h.fits m)]

theorem Precedes.value (h : a.Precedes b) (hb : b.Sound) {m : MetricId}
    (hreq : requests b.metrics m.mask = true) :
    (b.minus a).value m = .ok ((b.values m).toNat - (a.values m).toNat : ℤ) := by
  have hfits : ((b.minus a).values m).toNat ≤ zendLongMax := by
    have hle := UInt64.le_iff_toNat_le.mp (h.values m)
    change (b.values m - a.values m).toNat ≤ _
    rw [UInt64.toNat_sub_of_le _ _ (h.values m)]
    exact (Nat.sub_le _ _).trans (hb.fits m)
  change sampleValue b.metrics (b.minus a).values m = _
  rw [sampleValue, if_pos hreq, uint64ToLong_eq_ok hfits, h.difference m]

/-- `Sample::since` of each sample and the next one. -/
theorem steps_since {rest : List SampleObj} (hrest : (a::rest).Pairwise Precedes)
    (hsound : ∀ x ∈ a::rest, x.Sound) (ht : a.ElapsedFits (rest.getLastD a)) :
    steps (fun x y => y.since x) a rest = (steps (fun x y => y.minus x) a rest).map .ok := by
  induction rest generalizing a with
  | nil => rfl
  | cons b rest ih =>
    obtain ⟨ha,hbs⟩ := List.pairwise_cons.mp hrest
    have hab := ha b List.mem_cons_self
    have hblast : b.Precedes (rest.getLastD b) := getLastD_related (.refl b) hbs
    have hsb := hsound b (List.mem_cons_of_mem _ List.mem_cons_self)
    rw [List.getLastD_cons] at ht
    have hfirst := since_eq hab (hsound a List.mem_cons_self) hsb (ht.mono (.refl a) hab hblast)
    rw [steps_cons, steps_cons, List.map_cons, hfirst]
    congr 1
    apply ih hbs
    · intro x hx
      exact hsound x (List.mem_cons_of_mem _ hx)
    · exact ht.mono hab hblast (.refl _)

/-- The deltas of consecutive samples sum to the delta of the ends. -/
theorem sum_steps_elapsed {rest : List SampleObj} (hrest : (a::rest).Pairwise Precedes) :
    ((steps (fun x y => y.minus x) a rest).map (·.elapsedTimeNs)).sum =
      ((rest.getLastD a).minus a).elapsedTimeNs := by
  have hlast : a.Precedes (rest.getLastD a) := getLastD_related (.refl a) hrest
  rw [map_steps, steps_congr Precedes.elapsed hrest.isChain, hlast.elapsed]
  exact sum_steps_sub (fun x : SampleObj => (x.timeNs.toNat : ℤ)) a rest

theorem sum_steps_values {rest : List SampleObj} (hrest : (a::rest).Pairwise Precedes) (m : MetricId) :
    (steps (fun x y => (((y.minus x).values m).toNat : ℤ)) a rest).sum =
      (((rest.getLastD a).minus a).values m).toNat := by
  have hlast : a.Precedes (rest.getLastD a) := getLastD_related (.refl a) hrest
  rw [steps_congr (fun h => h.difference m) hrest.isChain, hlast.difference m]
  exact sum_steps_sub (fun x : SampleObj => ((x.values m).toNat : ℤ)) a rest

/-- The deltas of consecutive samples can be asked for a metric of the sampler. -/
theorem map_steps_value {rest : List SampleObj} {m : MetricId} (hrest : (a::rest).Pairwise Precedes)
    (hsound : ∀ x ∈ a::rest, x.Sound ∧ requests x.metrics m.mask = true) :
    (steps (fun x y => y.minus x) a rest).map (·.value m) =
      (steps (fun x y => (((y.minus x).values m).toNat : ℤ)) a rest).map .ok := by
  have hordered : (a::rest).Pairwise fun x y =>
      x.Precedes y ∧ y.Sound ∧ requests y.metrics m.mask = true :=
    hrest.imp_of_mem fun _ hy h => ⟨h,hsound _ hy⟩
  rw [map_steps, map_steps]
  apply steps_congr ?_ hordered.isChain
  rintro x y ⟨hxy,hy,hreq⟩
  rw [hxy.value hy hreq, hxy.difference m]

end SampleObj

namespace SamplerObj
variable {σ ρ : Type} {platformSamplerRead : σ → ρ → σ × ReadOutcome}

theorem Taken.sound {obj : SamplerObj σ} {x : Snapshot} {t : UInt64} {sample : SampleObj}
    (h : obj.Taken x t sample) : sample.Sound := by
  refine ⟨h.values_le,?_⟩
  intro m hreq
  obtain ⟨-,hm,-,-,hv⟩ := h
  rw [hm] at hreq
  exact (hv m).2 hreq

theorem Taken.precedes {obj : SamplerObj σ} {x y : Snapshot} {t u : UInt64} {earlier later : SampleObj}
    (hx : obj.Taken x t earlier) (hy : obj.Taken y u later) (hxy : x.Below y) (htu : t ≤ u) :
    earlier.Precedes later := by
  obtain ⟨hxi,hxm,hxo,hxt,hxv⟩ := hx
  obtain ⟨hyi,hym,hyo,hyt,hyv⟩ := hy
  refine ⟨hxi.trans hyi.symm,hxm.trans hym.symm,?_,?_⟩
  · rw [hxt, hyt]
    grind
  · intro m
    by_cases hreq : requests obj.metrics m.mask = true
    · obtain ⟨hox,hxm,-⟩ := (hxv m).1 hreq
      obtain ⟨hoy,hym,-⟩ := (hyv m).1 hreq
      have := hxy m
      rw [hxm, hym]
      grind
    · rw [(hxv m).2 hreq, (hyv m).2 hreq]
      exact UInt64.le_refl _

/-- The samples of a run are sound, of its metrics, and in order. -/
theorem samples_precede {obj : SamplerObj σ} {s : σ} (hs : obj.sampler = some s)
    {ops : List (SamplerOp ρ)}
    (hsnap : ((outputs platformSamplerRead s (nativeReads ops)).filterMap
      ReadOutcome.published).Pairwise Snapshot.Below)
    (hclock : (clocks ops).Pairwise (· ≤ ·)) :
    (∀ sample ∈ obj.samples platformSamplerRead ops, sample.Sound ∧ sample.metrics = obj.metrics) ∧
    (obj.samples platformSamplerRead ops).Pairwise SampleObj.Precedes := by
  constructor
  · intro sample hsample
    obtain ⟨x,-,t,-,htaken⟩ := mem_samples hs hsample
    exact ⟨htaken.sound,htaken.2.1⟩
  · apply (samples_ordered hs hsnap hclock).imp
    rintro earlier later ⟨x,y,hxy,t,u,htu,hx,hy⟩
    exact hx.precedes hy hxy htu

end SamplerObj

/-- The samples of a sampler whose snapshots and clock never decrease have deltas, and the deltas add
up: over two steps and over any number of them. -/
theorem deltas_compose {σ ρ : Type} (platformSamplerRead : σ → ρ → σ × ReadOutcome)
    (obj : SamplerObj σ) (s : σ) (hs : obj.sampler = some s) (ops : List (SamplerOp ρ))
    (hsnap : ((outputs platformSamplerRead s (nativeReads ops)).filterMap
      ReadOutcome.published).Pairwise fun x y => ∀ m, x m ≤ y m)
    (hclock : (clocks ops).Pairwise (· ≤ ·)) :
    let samples := obj.samples platformSamplerRead ops
    let collected m := requests obj.metrics m.mask = true
    (∀ a b c, [a,b,c].Sublist samples → (c.timeNs - a.timeNs).toNat ≤ zendLongMax →
      ∃ ba cb ca, b.since a = .ok ba ∧ c.since b = .ok cb ∧ c.since a = .ok ca ∧
        ca.elapsedTimeNs = cb.elapsedTimeNs + ba.elapsedTimeNs ∧
        ∀ m, collected m → ∃ va vc v₁ v₂ v, a.value m = .ok va ∧ c.value m = .ok vc ∧
          ba.value m = .ok v₁ ∧ cb.value m = .ok v₂ ∧ ca.value m = .ok v ∧
          v = v₂ + v₁ ∧ v = vc - va) ∧
    (∀ a ∈ samples, ∃ aa, a.since a = .ok aa ∧ aa.elapsedTimeNs = 0 ∧ ∀ m, aa.values m = 0) ∧
    (∀ a ∈ samples, ∀ m, (∃ v, a.value m = .ok v) ↔ collected m) ∧
    (∀ a ∈ samples, ∀ b ∈ samples, ∀ delta, b.since a = .ok delta →
      ∀ m, (∃ v, delta.value m = .ok v) ↔ collected m) ∧
    ∀ a rest, (a::rest).Sublist samples →
      ((rest.getLastD a).timeNs - a.timeNs).toNat ≤ zendLongMax →
      ∃ (deltas : List SampleDeltaObj) (total : SampleDeltaObj),
        steps (fun x y => y.since x) a rest = deltas.map .ok ∧
        (rest.getLastD a).since a = .ok total ∧
        (deltas.map (·.elapsedTimeNs)).sum = total.elapsedTimeNs ∧
        ∀ m, collected m → ∃ vs : List ℤ,
          deltas.map (·.value m) = vs.map .ok ∧ total.value m = .ok vs.sum := by
  intro samples collected
  obtain ⟨hsound,horder⟩ : (∀ sample ∈ samples, sample.Sound ∧ sample.metrics = obj.metrics) ∧
      samples.Pairwise SampleObj.Precedes := SamplerObj.samples_precede hs hsnap hclock
  refine ⟨?_,?_,?_,?_,?_⟩
  · intro a b c habc ht
    obtain ⟨ha,hb⟩ := List.pairwise_cons.mp (horder.sublist habc)
    have hab : a.Precedes b := ha b (by simp)
    have hac : a.Precedes c := ha c (by simp)
    have hbc : b.Precedes c := (List.pairwise_cons.mp hb).1 c (by simp)
    have hsa := hsound a (habc.subset (by simp))
    have hsb := hsound b (habc.subset (by simp))
    have hsc := hsound c (habc.subset (by simp))
    have hfits : a.ElapsedFits c := ht
    refine ⟨_,_,_,SampleObj.since_eq hab hsa.1 hsb.1 (hfits.mono (.refl a) hab hbc),
      SampleObj.since_eq hbc hsb.1 hsc.1 (hfits.mono hab hbc (.refl c)),
      SampleObj.since_eq hac hsa.1 hsc.1 ht,?_,?_⟩
    · rw [hac.elapsed, hbc.elapsed, hab.elapsed]
      omega
    · intro m hreq
      refine ⟨_,_,_,_,_,hsa.1.value (hsa.2 ▸ hreq),hsc.1.value (hsc.2 ▸ hreq),
        hab.value hsb.1 (hsb.2 ▸ hreq),hbc.value hsc.1 (hsc.2 ▸ hreq),
        hac.value hsc.1 (hsc.2 ▸ hreq),?_,rfl⟩
      omega
  · intro a ha
    have hzero : ∀ x : UInt64, x - x = 0 := fun x => by simp
    have hfits : a.ElapsedFits a := by
      change (a.timeNs - a.timeNs).toNat ≤ _
      rw [hzero]
      decide
    refine ⟨_,SampleObj.since_eq (.refl a) (hsound a ha).1 (hsound a ha).1 hfits,?_,?_⟩
    · rw [(SampleObj.Precedes.refl a).elapsed]
      omega
    · intro m
      exact hzero _
  · intro a ha m
    obtain ⟨hsa,hma⟩ := hsound a ha
    change (∃ v, a.value m = .ok v) ↔ requests obj.metrics m.mask = true
    rw [← hma]
    exact SampleObj.sampleValue_ok_iff (hsa.fits m)
  · intro a _ b hb delta hdelta m
    obtain ⟨hsb,hmb⟩ := hsound b hb
    obtain ⟨hmetrics,hle⟩ := SampleObj.since_ok hdelta
    change (∃ v, delta.value m = .ok v) ↔ requests obj.metrics m.mask = true
    rw [← hmb, ← hmetrics]
    exact SampleObj.sampleValue_ok_iff ((hle m).trans (hsb.fits m))
  · intro a rest hrest ht
    have hordered := horder.sublist hrest
    have hlast : a.Precedes (rest.getLastD a) := getLastD_related (.refl a) hordered
    have hall : ∀ x ∈ a::rest, x.Sound ∧ x.metrics = obj.metrics := fun x hx =>
      hsound x (hrest.subset hx)
    have hend : rest.getLastD a ∈ a::rest := List.getLastD_mem_cons
    refine ⟨_,_,SampleObj.steps_since hordered (fun x hx => (hall x hx).1) ht,
      SampleObj.since_eq hlast (hall a List.mem_cons_self).1 (hall _ hend).1 ht,
      SampleObj.sum_steps_elapsed hordered,?_⟩
    intro m hreq
    refine ⟨_,SampleObj.map_steps_value hordered fun x hx => ⟨(hall x hx).1,?_⟩,?_⟩
    · rw [(hall x hx).2]
      exact hreq
    · rw [SampleObj.sum_steps_values hordered m, hlast.difference m]
      exact hlast.value (hall _ hend).1 ((hall _ hend).2 ▸ hreq)

/-- A backend whose reads fail or deliver a snapshot. -/
def plainRead (sampler : Unit) (r : Except Error Snapshot) : Unit × ReadOutcome :=
  match r with
  | .error e => (sampler,⟨.error e,fun _ => 0⟩)
  | .ok snapshot => (sampler,⟨.ok (),snapshot⟩)

/-- Three samples, with a failed read between the first two. -/
def plainReads : List (SamplerOp (Except Error Snapshot)) :=
  [.read (.ok fun _ => 5) 10,.read (.error samplerClosed) 11,.read (.ok fun _ => 7) 12,
    .read (.ok fun _ => 12) 20]

def plainSampler : SamplerObj Unit := ⟨some (),0,fun _ => 4,1,1,[.cpuTime]⟩

theorem deltas_compose_plain :
    ∃ a b c, plainSampler.samples plainRead plainReads = [a,b,c] ∧
      ∃ ba cb ca, b.since a = .ok ba ∧ c.since b = .ok cb ∧ c.since a = .ok ca ∧
        ca.elapsedTimeNs = cb.elapsedTimeNs + ba.elapsedTimeNs := by
  have hsnapshots : (outputs plainRead () (nativeReads plainReads)).filterMap ReadOutcome.published =
      [fun _ => 5,fun _ => 7,fun _ => 12] := rfl
  have hsnap : ((outputs plainRead () (nativeReads plainReads)).filterMap
      ReadOutcome.published).Pairwise fun x y => ∀ m, x m ≤ y m := by
    rw [hsnapshots]
    simp
  have htimes : (plainSampler.samples plainRead plainReads).map (·.timeNs) = [9,11,19] := rfl
  obtain ⟨a,b,c,hsamples⟩ := List.length_eq_three.mp (by decide :
      (plainSampler.samples plainRead plainReads).length = 3)
  rw [hsamples] at htimes
  obtain ⟨ha,-,hc⟩ : a.timeNs = 9 ∧ b.timeNs = 11 ∧ c.timeNs = 19 := by simpa using htimes
  obtain ⟨ba,cb,ca,hba,hcb,hca,helapsed,-⟩ :=
    (deltas_compose plainRead plainSampler () rfl plainReads hsnap (by decide)).1 a b c
      (hsamples ▸ .refl _) (by rw [ha, hc]; decide)
  exact ⟨a,b,c,hsamples,ba,cb,ca,hba,hcb,hca,helapsed⟩

end Perfidious
