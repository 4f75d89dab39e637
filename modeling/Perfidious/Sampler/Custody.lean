import Perfidious.Sampler.Objects

/-! What a backend's native state has to do with the samplers that are open, and the rule that carries
it through every run of the sampler objects. -/
namespace Perfidious
open Library

variable {κ σ ρ : Type}

/-- As long as the environment answers as `A` says, the backend keeps up the relation `K` between the
native state and the samplers that are open, each under the handle of its object. -/
structure Platform.Keeps (P : Platform κ σ ρ) (A : ρ → Prop) (K : (ℕ → Option σ) → κ → Prop) : Prop where
  supported : ∀ {inUse k r} metrics scope, A r → K inUse k →
    K inUse (P.samplerSupportedMetrics metrics scope r k).1
  failed : ∀ {inUse k k' e left r} metrics scope, A r → K inUse k →
    P.samplerOpen metrics scope none r k = (k',.error (e,left)) → left = none ∧ K inUse k'
  opened : ∀ {inUse k k' sampler r} handle metrics scope, A r → inUse handle = none → K inUse k →
    P.samplerOpen metrics scope none r k = (k',.ok sampler) →
    K (Function.update inUse handle (some sampler)) k'
  read : ∀ {inUse k k' sampler sampler' outcome r} handle snapshot, A r → inUse handle = some sampler →
    K inUse k → P.samplerRead sampler snapshot r k = (k',sampler',outcome) →
    K (Function.update inUse handle (some sampler')) k'
  closed : ∀ {inUse k sampler r} handle, A r → inUse handle = some sampler → K inUse k →
    K (Function.update inUse handle none) (P.samplerClose sampler r k)

/-- The native answers to an operation are as `A` says. -/
def ObjectOp.Answered (A : ρ → Prop) : ObjectOp ρ → Prop
  | .openSampler _ _ r => A r.supported ∧ A r.opened ∧ A r.read ∧ A r.cleanup
  | .readSampler _ r => A r.read
  | .closeSampler _ r => A r
  | .destroySampler _ r => A r
  | .destroySample _ => True

theorem answered_true (op : ObjectOp ρ) : op.Answered fun _ => True := by
  cases op <;> simp [ObjectOp.Answered]

namespace ObjectStore

/-- The backend's sampler of an open sampler object. -/
def inUse (samplers : Table (Live (SamplerObj σ))) (handle : ℕ) : Option σ :=
  (samplers.lookup handle).bind (·.object.sampler)

section
variable {samplers : Table (Live (SamplerObj σ))} {handle : ℕ}

theorem inUse_insert (x : Live (SamplerObj σ)) :
    inUse (samplers.insert handle x) = Function.update (inUse samplers) handle x.object.sampler := by
  funext k
  by_cases hk : k = handle
  · subst hk
    simp [inUse]
  · simp [inUse,Finmap.lookup_insert_of_ne _ hk,Function.update_of_ne hk]

theorem inUse_erase : inUse (samplers.erase handle) = Function.update (inUse samplers) handle none := by
  funext k
  by_cases hk : k = handle
  · subst hk
    simp [inUse]
  · simp [inUse,Finmap.lookup_erase_ne hk,Function.update_of_ne hk]

theorem inUse_of_lookup {x : Live (SamplerObj σ)} (h : samplers.lookup handle = some x) :
    inUse samplers handle = x.object.sampler := by
  simp [inUse,h]

theorem inUse_of_absent (h : samplers.lookup handle = none) : inUse samplers handle = none := by
  simp [inUse,h]

end

variable {P : Platform κ σ ρ} {A : ρ → Prop} {K : (ℕ → Option σ) → κ → Prop}

/-- The relation in a store. -/
def Kept (K : (ℕ → Option σ) → κ → Prop) (s : ObjectStore κ σ) : Prop := K (inUse s.samplers) s.native

theorem Kept.of_same {s t : ObjectStore κ σ} (h : s.Kept K) (hsamplers : t.samplers = s.samplers)
    (hnative : t.native = s.native) : t.Kept K := by
  unfold Kept
  rw [hsamplers, hnative]
  exact h

theorem Kept.openAdmitted (hP : P.Keeps A K) {s : ObjectStore κ σ} (h : s.Kept K) (metrics : UInt32)
    (metricOrder : List MetricId) (scope : ScopeId) {r : OpenAnswers ρ} (hopen : A r.opened)
    (hfirst : A r.read) (hcleanup : A r.cleanup) :
    (s.openAdmitted P metrics metricOrder scope r).1.Kept K := by
  have hfree := inUse_of_absent (Table.lookup_pick r.handle s.samplers)
  generalize hx : s.openAdmitted P metrics metricOrder scope r = x
  cases hx ▸ openAdmitted_cases P metrics metricOrder scope r s with
  | failed obj left named opened =>
    obtain ⟨hnone,hk⟩ := hP.failed metrics scope hopen h opened
    unfold Kept
    rw [samplerObjFree_samplers, samplerObjFree_native_of_none P (left.trans hnone)]
    exact hk
  | unread obj held named opened read result =>
    -- The new sampler is closed again before any object could hold it.
    have hopened := hP.opened (r.handle.pick s.samplers.keys) metrics scope hopen hfree h opened
    have hread := hP.read _ (fun _ => 0) hfirst (Function.update_self ..) hopened read
    have hclosed := hP.closed _ hcleanup (Function.update_self ..) hread
    unfold Kept
    rw [samplerObjFree_samplers, samplerObjFree_native_of_some P held]
    rw [Function.update_idem, Function.update_idem, ← hfree, Function.update_eq_self] at hclosed
    exact hclosed
  | opened obj held named requested ordered opened read result =>
    have hopened := hP.opened (r.handle.pick s.samplers.keys) metrics scope hopen hfree h opened
    have hread := hP.read _ (fun _ => 0) hfirst (Function.update_self ..) hopened read
    rw [Function.update_idem] at hread
    unfold Kept
    dsimp only
    rw [inUse_insert, held]
    exact hread

theorem Kept.openSampler (hP : P.Keeps A K) {s : ObjectStore κ σ} (h : s.Kept K)
    (values : List (Option MetricId)) (scope : Option ScopeId) {r : OpenAnswers ρ}
    (hr : A r.supported ∧ A r.opened ∧ A r.read ∧ A r.cleanup) :
    (s.openSampler P values scope r).1.Kept K := by
  unfold ObjectStore.openSampler
  split
  · exact h
  split
  · exact h
  next metrics metricOrder names =>
    have hk := hP.supported metrics (scope.getD .currentThread) hr.1 h
    dsimp only
    split
    next native e hsupported =>
      rw [hsupported] at hk
      exact hk
    next native supported hsupported =>
      rw [hsupported] at hk
      split
      · exact hk
      · obtain ⟨-,hopen,hfirst,hcleanup⟩ := hr
        exact Kept.openAdmitted hP (s := { s with native }) hk metrics metricOrder _ hopen hfirst hcleanup

theorem TakeCase.kept {obj : SamplerObj σ} {opening : ℕ} {current : Snapshot} {r : ReadAnswers ρ}
    {s : ObjectStore κ σ} {x : ObjectStore κ σ × ObjectOutcome} (hx : TakeCase obj opening current r s x)
    (h : s.Kept K) : x.1.Kept K := by
  cases hx with
  | clock backwards => exact h
  | dropped sample same forwards failed => exact h.of_same (by simp) (by simp)
  | taken sample same forwards complete rest fresh =>
    exact h.of_same (identityRetain_samplers _ _) (identityRetain_native _ _)

theorem Kept.readSampler (hP : P.Keeps A K) {s : ObjectStore κ σ} (h : s.Kept K) (handle : ℕ)
    {r : ReadAnswers ρ} (hr : A r.read) : (s.readSampler P handle r).1.Kept K := by
  -- A read puts the sampler back under its handle.
  have hread : ∀ {obj opening sampler native sampler' outcome},
      s.samplers.lookup handle = some ⟨obj,opening⟩ → obj.sampler = some sampler →
      P.samplerRead sampler r.current r.read s.native = (native,sampler',outcome) →
      Kept K { s with
        native
        samplers := s.samplers.insert handle ⟨{ obj with sampler := some sampler' },opening⟩ } := by
    intro obj opening sampler native sampler' outcome found held read
    unfold Kept
    dsimp only
    rw [inUse_insert]
    exact hP.read handle r.current hr ((inUse_of_lookup found).trans held) h read
  generalize hx : s.readSampler P handle r = x
  cases hx ▸ readSampler_cases P handle r s with
  | noObject absent => exact h
  | closed found gone => exact h
  | failed found held read result => exact hread found held read
  | read found held read result taken => exact taken.kept (hread found held read)

theorem Kept.closeSampler (hP : P.Keeps A K) {s : ObjectStore κ σ} (h : s.Kept K) (handle : ℕ)
    {r : ρ} (hr : A r) : (s.closeSampler P handle r).1.Kept K := by
  unfold ObjectStore.closeSampler
  split
  · exact h
  next obj opening found =>
    split
    · exact h
    next sampler held =>
      unfold Kept
      dsimp only
      rw [inUse_insert]
      exact hP.closed handle hr ((inUse_of_lookup found).trans held) h

theorem Kept.destroySampler (hP : P.Keeps A K) {s : ObjectStore κ σ} (h : s.Kept K) (handle : ℕ)
    {r : ρ} (hr : A r) : (s.destroySampler P handle r).1.Kept K := by
  unfold ObjectStore.destroySampler
  split
  · exact h
  next obj opening found =>
    unfold Kept
    dsimp only
    rw [samplerObjFree_samplers]
    dsimp only
    rw [inUse_erase]
    cases held : obj.sampler with
    | none =>
      rw [samplerObjFree_native_of_none P held]
      have hnone : inUse s.samplers handle = none := (inUse_of_lookup found).trans held
      rw [← hnone, Function.update_eq_self]
      exact h
    | some sampler =>
      rw [samplerObjFree_native_of_some P held]
      exact hP.closed handle hr ((inUse_of_lookup found).trans held) h

theorem Kept.step (hP : P.Keeps A K) {s : ObjectStore κ σ} (h : s.Kept K) {op : ObjectOp ρ}
    (hop : op.Answered A) : (s.step P op).1.Kept K := by
  cases op with
  | openSampler values scope r => exact h.openSampler hP values scope hop
  | readSampler handle r => exact h.readSampler hP handle hop
  | closeSampler handle r => exact h.closeSampler hP handle hop
  | destroySampler handle r => exact h.destroySampler hP handle hop
  | destroySample handle =>
    simp only [ObjectStore.step, destroySample]
    split
    · exact h
    · exact h.of_same (sampleObjFree_samplers _ _) (sampleObjFree_native _ _)

end ObjectStore

/-- What a backend's sampler owes to the metrics it was opened for, and keeps up when it is read. -/
structure Platform.Serves (P : Platform κ σ ρ) (J : UInt32 → σ → Prop) : Prop where
  opened : ∀ {metrics scope r k k' sampler}, P.samplerOpen metrics scope none r k = (k',.ok sampler) →
    J metrics sampler
  read : ∀ {metrics sampler snapshot r k k' sampler' outcome}, J metrics sampler →
    P.samplerRead sampler snapshot r k = (k',sampler',outcome) → J metrics sampler'

namespace ObjectStore

/-- Every open sampler serves the metrics of its object. -/
def Served (J : UInt32 → σ → Prop) (samplers : Table (Live (SamplerObj σ))) : Prop :=
  ∀ handle x sampler, samplers.lookup handle = some x → x.object.sampler = some sampler →
    J x.object.metrics sampler

variable {P : Platform κ σ ρ} {J : UInt32 → σ → Prop} {samplers : Table (Live (SamplerObj σ))}

theorem Served.insert (h : Served J samplers) (handle : ℕ) {x : Live (SamplerObj σ)}
    (hx : ∀ sampler, x.object.sampler = some sampler → J x.object.metrics sampler) :
    Served J (samplers.insert handle x) := by
  intro k y sampler hy
  rcases Table.of_lookup_insert hy with ⟨-,rfl⟩ | ⟨-,hy⟩
  · exact hx sampler
  · exact h k y sampler hy

theorem Served.erase (h : Served J samplers) (handle : ℕ) : Served J (samplers.erase handle) :=
  fun k y sampler hy => h k y sampler (Table.of_lookup_erase hy).2

theorem Served.openSampler (hP : P.Serves J) {s : ObjectStore κ σ} (h : Served J s.samplers)
    (values : List (Option MetricId)) (scope : Option ScopeId) (r : OpenAnswers ρ) :
    Served J (s.openSampler P values scope r).1.samplers := by
  generalize hy : s.openSampler P values scope r = y
  cases hy ▸ s.openSampler_cases P values scope r with
  | rejected reason => exact h
  | unprobed supported names => exact h
  | unsupported supported => exact h
  | admitted supported opened names =>
    cases opened with
    | failed obj left named opened => simpa using h
    | unread obj held named opened read result => simpa using h
    | opened obj held named requested ordered opened read result =>
      refine h.insert _ fun sampler hsampler => ?_
      cases held.symm.trans hsampler
      cases requested
      exact hP.read (hP.opened opened) read

theorem Served.readSampler (hP : P.Serves J) {s : ObjectStore κ σ} (h : Served J s.samplers)
    (handle : ℕ) (r : ReadAnswers ρ) : Served J (s.readSampler P handle r).1.samplers := by
  have hread : ∀ {obj : SamplerObj σ} {opening sampler native sampler' outcome},
      s.samplers.lookup handle = some ⟨obj,opening⟩ → obj.sampler = some sampler →
      P.samplerRead sampler r.current r.read s.native = (native,sampler',outcome) →
      Served J (s.samplers.insert handle ⟨{ obj with sampler := some sampler' },opening⟩) := by
    intro obj opening sampler native sampler' outcome found held read
    have hserved : J obj.metrics sampler := h handle ⟨obj,opening⟩ sampler found held
    refine h.insert _ fun sampler'' hsampler => ?_
    cases hsampler
    exact hP.read hserved read
  generalize hx : s.readSampler P handle r = x
  cases hx ▸ readSampler_cases P handle r s with
  | noObject absent => exact h
  | closed found gone => exact h
  | failed found held read result => exact hread found held read
  | read found held read result taken =>
    cases taken with
    | clock backwards => exact hread found held read
    | dropped sample same forwards failed => simpa using hread found held read
    | taken sample same forwards complete rest fresh =>
      change Served J (identityRetain _ _).samplers
      rw [identityRetain_samplers]
      exact hread found held read

theorem Served.step (hP : P.Serves J) {s : ObjectStore κ σ} (h : Served J s.samplers)
    (op : ObjectOp ρ) : Served J (s.step P op).1.samplers := by
  cases op with
  | openSampler values scope r => exact h.openSampler hP values scope r
  | readSampler handle r => exact h.readSampler hP handle r
  | closeSampler handle r =>
    simp only [ObjectStore.step, closeSampler]
    split
    · exact h
    · split
      · exact h
      · exact h.insert _ fun sampler hsampler => by cases hsampler
  | destroySampler handle r =>
    simp only [ObjectStore.step, destroySampler]
    split
    · exact h
    · rw [samplerObjFree_samplers]
      exact h.erase handle
  | destroySample handle =>
    simp only [ObjectStore.step, destroySample]
    split
    · exact h
    · rw [sampleObjFree_samplers]
      exact h

end ObjectStore

end Perfidious
