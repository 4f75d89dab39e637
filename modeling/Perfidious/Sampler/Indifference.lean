import Perfidious.Sampler.Objects

/-! Native states that a backend cannot tell apart, and runs of the sampler objects over them. -/
namespace Perfidious
open Library

variable {κ σ ρ : Type}

/-- The backend acts alike on related native states and returns the same. -/
structure Platform.Respects (P : Platform κ σ ρ) (R : κ → κ → Prop) : Prop where
  supported : ∀ {k k'} metrics scope r, R k k' →
    R (P.samplerSupportedMetrics metrics scope r k).1 (P.samplerSupportedMetrics metrics scope r k').1 ∧
    (P.samplerSupportedMetrics metrics scope r k).2 = (P.samplerSupportedMetrics metrics scope r k').2
  opened : ∀ {k k'} metrics scope sampler r, R k k' →
    R (P.samplerOpen metrics scope sampler r k).1 (P.samplerOpen metrics scope sampler r k').1 ∧
    (P.samplerOpen metrics scope sampler r k).2 = (P.samplerOpen metrics scope sampler r k').2
  read : ∀ {k k'} sampler snapshot r, R k k' →
    R (P.samplerRead sampler snapshot r k).1 (P.samplerRead sampler snapshot r k').1 ∧
    (P.samplerRead sampler snapshot r k).2 = (P.samplerRead sampler snapshot r k').2
  closed : ∀ {k k'} sampler r, R k k' → R (P.samplerClose sampler r k) (P.samplerClose sampler r k')

namespace ObjectStore

def withNative (native : κ) (s : ObjectStore κ σ) : ObjectStore κ σ := { s with native }

/-- Two stores that differ in nothing but related native states. -/
def Alike (R : κ → κ → Prop) (s t : ObjectStore κ σ) : Prop :=
  ∃ k, R s.native k ∧ t = s.withNative k

variable {P : Platform κ σ ρ} {R : κ → κ → Prop}

theorem identityRelease_withNative (a : ℕ) (k : κ) (s : ObjectStore κ σ) :
    (s.withNative k).identityRelease a = (s.identityRelease a).withNative k := by
  unfold identityRelease withNative
  dsimp only
  split
  · rfl
  · split <;> rfl

theorem identityRetain_withNative (a : ℕ) (k : κ) (s : ObjectStore κ σ) :
    (s.withNative k).identityRetain a = (s.identityRetain a).withNative k := by
  unfold identityRetain withNative
  dsimp only
  split <;> rfl

theorem samplerObjFree_alike (hP : P.Respects R) (obj : SamplerObj σ) (r : ρ) {s : ObjectStore κ σ}
    {k : κ} (hR : R s.native k) :
    Alike R (s.samplerObjFree P obj r) ((s.withNative k).samplerObjFree P obj r) := by
  cases hobj : obj.sampler with
  | none =>
    refine ⟨k,?_,?_⟩
    · rw [samplerObjFree_native_of_none P hobj]
      exact hR
    · simp only [samplerObjFree, hobj]
      exact identityRelease_withNative _ _ _
  | some sampler =>
    refine ⟨P.samplerClose sampler r k,?_,?_⟩
    · rw [samplerObjFree_native_of_some P hobj]
      exact hP.closed sampler r hR
    · simp only [samplerObjFree, hobj]
      rw [← identityRelease_withNative]
      rfl

theorem openAdmitted_alike (hP : P.Respects R) (metrics : UInt32) (metricOrder : List MetricId)
    (scope : ScopeId) (r : OpenAnswers ρ) {s : ObjectStore κ σ} {k : κ} (hR : R s.native k) :
    Alike R (s.openAdmitted P metrics metricOrder scope r).1
      ((s.withNative k).openAdmitted P metrics metricOrder scope r).1 ∧
    (s.openAdmitted P metrics metricOrder scope r).2 =
      ((s.withNative k).openAdmitted P metrics metricOrder scope r).2 := by
  obtain ⟨hR₁,ho⟩ := hP.opened metrics scope none r.opened hR
  unfold openAdmitted withNative
  rcases hopen : P.samplerOpen metrics scope none r.opened s.native with ⟨k₁,a⟩
  rcases hopen' : P.samplerOpen metrics scope none r.opened k with ⟨k₁',a'⟩
  rw [hopen, hopen'] at hR₁ ho
  cases ho
  simp only [hopen,hopen']
  cases a with
  | error x =>
    refine ⟨?_,rfl⟩
    exact samplerObjFree_alike hP _ r.cleanup hR₁
  | ok sampler =>
    obtain ⟨hR₂,hr⟩ := hP.read sampler (fun _ => 0) r.read hR₁
    rcases hread : P.samplerRead sampler (fun _ => 0) r.read k₁ with ⟨k₂,sampler',outcome⟩
    rcases hread' : P.samplerRead sampler (fun _ => 0) r.read k₁' with ⟨k₂',y⟩
    dsimp only at hR₂ hr
    rw [hread, hread'] at hR₂ hr
    cases hr
    simp only [hread,hread']
    cases outcome.result with
    | error e =>
      refine ⟨?_,rfl⟩
      exact samplerObjFree_alike hP _ r.cleanup hR₂
    | ok u => exact ⟨⟨k₂',hR₂,rfl⟩,rfl⟩

theorem openSampler_alike (hP : P.Respects R) (values : List (Option MetricId))
    (scope : Option ScopeId) (r : OpenAnswers ρ) {s : ObjectStore κ σ} {k : κ} (hR : R s.native k) :
    Alike R (s.openSampler P values scope r).1 ((s.withNative k).openSampler P values scope r).1 ∧
    (s.openSampler P values scope r).2 = ((s.withNative k).openSampler P values scope r).2 := by
  unfold openSampler
  by_cases hempty : values.isEmpty = true
  · rw [if_pos hempty, if_pos hempty]
    exact ⟨⟨k,hR,rfl⟩,rfl⟩
  rw [if_neg hempty, if_neg hempty]
  cases admitMetrics values 0 [] with
  | error e => exact ⟨⟨k,hR,rfl⟩,rfl⟩
  | ok admitted =>
    obtain ⟨metrics,metricOrder⟩ := admitted
    obtain ⟨hR₁,hs⟩ := hP.supported metrics (scope.getD .currentThread) r.supported hR
    have hnative : (s.withNative k).native = k := rfl
    rcases hsup : P.samplerSupportedMetrics metrics (scope.getD .currentThread) r.supported s.native
      with ⟨k₁,a⟩
    rcases hsup' : P.samplerSupportedMetrics metrics (scope.getD .currentThread) r.supported k
      with ⟨k₁',a'⟩
    rw [hsup, hsup'] at hR₁ hs
    cases hs
    simp only [hnative,hsup,hsup']
    cases a with
    | error e => exact ⟨⟨k₁',hR₁,rfl⟩,rfl⟩
    | ok supported =>
      by_cases hall : metrics &&& ~~~supported ≠ 0
      · simp only [if_pos hall]
        exact ⟨⟨k₁',hR₁,rfl⟩,trivial⟩
      · simp only [if_neg hall]
        exact openAdmitted_alike hP metrics metricOrder _ r (s := s.withNative k₁) hR₁

/-- Past the native read nothing looks at the native state. -/
theorem takeSample_withNative (obj : SamplerObj σ) (opening : ℕ) (current : Snapshot)
    (r : ReadAnswers ρ) (k : κ) (s : ObjectStore κ σ) :
    (s.withNative k).takeSample obj opening current r =
      ((s.takeSample obj opening current r).1.withNative k,(s.takeSample obj opening current r).2) := by
  unfold takeSample
  by_cases hclock : r.now < obj.timeOriginNs
  · rw [if_pos hclock, if_pos hclock]
  · rw [if_neg hclock, if_neg hclock]
    simp only [identityRetain_withNative]
    cases collect obj.metrics (obj.difference current) MetricId.all (fun _ => 0) with
    | error e =>
      simp only [sampleObjFree, identityRelease_withNative]
    | ok values => rfl

theorem takeSample_native (obj : SamplerObj σ) (opening : ℕ) (current : Snapshot)
    (r : ReadAnswers ρ) (s : ObjectStore κ σ) :
    (s.takeSample obj opening current r).1.native = s.native := by
  generalize hx : s.takeSample obj opening current r = x
  cases hx ▸ takeSample_cases obj opening current r s with
  | clock => rfl
  | dropped sample => exact (sampleObjFree_native _ _).trans (identityRetain_native _ _)
  | taken sample => exact identityRetain_native _ _

theorem readSampler_alike (hP : P.Respects R) (handle : ℕ) (r : ReadAnswers ρ)
    {s : ObjectStore κ σ} {k : κ} (hR : R s.native k) :
    Alike R (s.readSampler P handle r).1 ((s.withNative k).readSampler P handle r).1 ∧
    (s.readSampler P handle r).2 = ((s.withNative k).readSampler P handle r).2 := by
  unfold readSampler
  have hsamplers : (s.withNative k).samplers = s.samplers := rfl
  have hnative : (s.withNative k).native = k := rfl
  rw [hsamplers]
  cases s.samplers.lookup handle with
  | none => exact ⟨⟨k,hR,rfl⟩,rfl⟩
  | some x =>
    obtain ⟨obj,opening⟩ := x
    cases hobj : obj.sampler with
    | none =>
      simp only [hobj]
      exact ⟨⟨k,hR,rfl⟩,trivial⟩
    | some sampler =>
      obtain ⟨hR₁,hr⟩ := hP.read sampler r.current r.read hR
      rcases hread : P.samplerRead sampler r.current r.read s.native with ⟨k₁,sampler',outcome⟩
      rcases hread' : P.samplerRead sampler r.current r.read k with ⟨k₁',y⟩
      rw [hread, hread'] at hR₁ hr
      cases hr
      simp only [hobj,hnative,hread,hread']
      cases outcome.result with
      | error e => exact ⟨⟨k₁',hR₁,rfl⟩,rfl⟩
      | ok u =>
        have heq := takeSample_withNative { obj with sampler := some sampler' } opening
          outcome.snapshot r k₁' { s with
            native := k₁
            samplers := s.samplers.insert handle ⟨{ obj with sampler := some sampler' },opening⟩ }
        refine ⟨⟨k₁',?_,(Prod.mk.inj heq).1⟩,(Prod.mk.inj heq).2.symm⟩
        rw [takeSample_native]
        exact hR₁

theorem closeSampler_alike (hP : P.Respects R) (handle : ℕ) (r : ρ) {s : ObjectStore κ σ} {k : κ}
    (hR : R s.native k) :
    Alike R (s.closeSampler P handle r).1 ((s.withNative k).closeSampler P handle r).1 ∧
    (s.closeSampler P handle r).2 = ((s.withNative k).closeSampler P handle r).2 := by
  unfold closeSampler
  have hsamplers : (s.withNative k).samplers = s.samplers := rfl
  rw [hsamplers]
  cases s.samplers.lookup handle with
  | none => exact ⟨⟨k,hR,rfl⟩,rfl⟩
  | some x =>
    cases hobj : x.object.sampler with
    | none =>
      simp only [hobj]
      exact ⟨⟨k,hR,rfl⟩,trivial⟩
    | some sampler =>
      simp only [hobj]
      exact ⟨⟨_,hP.closed sampler r hR,rfl⟩,trivial⟩

theorem destroySampler_alike (hP : P.Respects R) (handle : ℕ) (r : ρ) {s : ObjectStore κ σ} {k : κ}
    (hR : R s.native k) :
    Alike R (s.destroySampler P handle r).1 ((s.withNative k).destroySampler P handle r).1 ∧
    (s.destroySampler P handle r).2 = ((s.withNative k).destroySampler P handle r).2 := by
  unfold destroySampler
  have hsamplers : (s.withNative k).samplers = s.samplers := rfl
  rw [hsamplers]
  cases s.samplers.lookup handle with
  | none => exact ⟨⟨k,hR,rfl⟩,rfl⟩
  | some x =>
    refine ⟨?_,rfl⟩
    exact samplerObjFree_alike hP x.object r (s := { s with samplers := s.samplers.erase handle }) hR

theorem destroySample_alike (handle : ℕ) {s : ObjectStore κ σ} {k : κ} (hR : R s.native k) :
    Alike R (s.destroySample handle).1 ((s.withNative k).destroySample handle).1 ∧
    (s.destroySample handle).2 = ((s.withNative k).destroySample handle).2 := by
  unfold destroySample
  have hsamples : (s.withNative k).samples = s.samples := rfl
  rw [hsamples]
  cases s.samples.lookup handle with
  | none => exact ⟨⟨k,hR,rfl⟩,rfl⟩
  | some x =>
    refine ⟨⟨k,?_,?_⟩,rfl⟩
    · change R (sampleObjFree _ _).native k
      rw [sampleObjFree_native]
      exact hR
    · exact identityRelease_withNative x.object.identity k
        { s with samples := s.samples.erase handle }

/-- Stores that differ only in what the backend cannot see do the same. -/
theorem step_alike (hP : P.Respects R) {s t : ObjectStore κ σ} (h : Alike R s t) (op : ObjectOp ρ) :
    Alike R (s.step P op).1 (t.step P op).1 ∧ (s.step P op).2 = (t.step P op).2 := by
  obtain ⟨k,hR,rfl⟩ := h
  cases op with
  | openSampler values scope r => exact openSampler_alike hP values scope r hR
  | readSampler handle r => exact readSampler_alike hP handle r hR
  | closeSampler handle r => exact closeSampler_alike hP handle r hR
  | destroySampler handle r => exact destroySampler_alike hP handle r hR
  | destroySample handle => exact destroySample_alike handle hR

theorem outputs_alike (hP : P.Respects R) {s t : ObjectStore κ σ} (h : Alike R s t)
    (ops : List (ObjectOp ρ)) : outputs (step P) s ops = outputs (step P) t ops := by
  have hsame : List.Forall₂ (· = ·) ops ops := List.forall₂_same.mpr fun _ _ => rfl
  have houtputs := outputs_forall₂ (step P) (step P) (Q := (· = ·)) (fun s t op op' hst hop => by
    subst hop
    exact step_alike hP hst op) h hsame
  exact List.forall₂_eq_eq_eq ▸ houtputs

theorem final_alike (hP : P.Respects R) {s t : ObjectStore κ σ} (h : Alike R s t)
    (ops : List (ObjectOp ρ)) : Alike R (final (step P) s ops) (final (step P) t ops) := by
  have hsame : List.Forall₂ (· = ·) ops ops := List.forall₂_same.mpr fun _ _ => rfl
  refine final_related (step P) (step P) (fun s t op op' hst hop => ?_) h hsame
  subst hop
  exact (step_alike hP hst op).1

/-- A failed `Sampler::open` has changed nothing but the native state. -/
theorem openSampler_thrown (P : Platform κ σ ρ) {s : ObjectStore κ σ} {values : List (Option MetricId)}
    {scope : Option ScopeId} {r : OpenAnswers ρ} {t : Thrown}
    (h : (s.openSampler P values scope r).2.result = .thrown t) :
    (s.openSampler P values scope r).1 =
      s.withNative (s.openSampler P values scope r).1.native := by
  have hfree : ∀ (obj : SamplerObj σ) (answers : ρ) (native : κ),
      obj.identity = r.identity.pick s.identities.keys →
      ∃ native', samplerObjFree P obj answers { s with
        native
        identities := s.identities.insert (r.identity.pick s.identities.keys) 1 } =
          s.withNative native' := by
    intro obj answers native hid
    have hrelease : ∀ native', identityRelease obj.identity { s with
        native := native'
        identities := s.identities.insert (r.identity.pick s.identities.keys) 1 } =
          s.withNative native' := by
      intro native'
      have hlast : (1 : UInt32) - 1 = 0 := rfl
      have herase := Table.erase_insert (Table.lookup_pick r.identity s.identities) (1 : UInt32)
      rw [hid]
      simp only [identityRelease, Finmap.lookup_insert, hlast, if_true, herase]
      rfl
    unfold samplerObjFree
    cases obj.sampler with
    | none => exact ⟨_,hrelease native⟩
    | some sampler => exact ⟨_,hrelease _⟩
  generalize hx : s.openSampler P values scope r = x at h
  cases hx ▸ s.openSampler_cases P values scope r with
  | rejected => rfl
  | unprobed => rfl
  | unsupported => rfl
  | admitted supported opened =>
    cases opened with
    | failed obj left named =>
      obtain ⟨native',heq⟩ := hfree obj r.cleanup _ named
      change samplerObjFree P obj r.cleanup _ = s.withNative (samplerObjFree P obj r.cleanup _).native
      rw [heq]
      rfl
    | unread obj held named =>
      obtain ⟨native',heq⟩ := hfree obj r.cleanup _ named
      change samplerObjFree P obj r.cleanup _ = s.withNative (samplerObjFree P obj r.cleanup _).native
      rw [heq]
      rfl
    | opened => cases h

end ObjectStore

end Perfidious
