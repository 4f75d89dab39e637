import Perfidious.Library.Table
import Perfidious.Sampler.Sample

/-! The PHP objects of the sampler API (`sampler.c`): `Sampler` objects, the `Sample` objects read from
them, and the identity blocks they share, over any platform backend. -/
namespace Perfidious
open Library

/-- What `sampler.h` declares of a backend, over its native state `κ`, its sampler type `σ` and the
answers `ρ` of the environment to one call. `samplerOpen` is given what `*sampler` holds; on failure
it returns the error together with what `*sampler` holds then. -/
structure Platform (κ σ ρ : Type) where
  samplerSupportedMetrics : UInt32 → ScopeId → ρ → κ → κ × Except Error UInt32
  samplerOpen : UInt32 → ScopeId → Option σ → ρ → κ → κ × Except (Error × Option σ) σ
  samplerRead : σ → Snapshot → ρ → κ → κ × σ × ReadOutcome
  samplerClose : σ → ρ → κ → κ

/-- A live object. `opening` is the number of the successful `Sampler::open` that it goes back to; the
program does not store it. -/
structure Live (α : Type) where
  object : α
  opening : ℕ

/-- The live objects and the memory of the identity blocks, each block holding its `refcount`.
`openings` counts the samplers opened so far, and `misused` records an access to a freed block. -/
structure ObjectStore (κ σ : Type) where
  native : κ
  identities : Table UInt32
  samplers : Table (Live (SamplerObj σ))
  samples : Table (Live SampleObj)
  openings : ℕ
  misused : Bool

def emptyMetrics : Error := ⟨.valueError,0,
  [.text "Perfidious\\Sampler::open(): Argument #1 ($metrics) must not be empty"]⟩

def notAMetric : Error := ⟨.typeError,0,
  [.text "All metrics must be instances of Perfidious\\Metric"]⟩

def duplicateMetrics : Error := ⟨.valueError,0,
  [.text "Perfidious\\Sampler::open(): Argument #1 ($metrics) must not contain duplicate metrics"]⟩

def ScopeId.name : ScopeId → String
  | .currentProcess => "current-process"
  | .currentThread => "current-thread"

/-- The message of `perfidious_throw_unsupported_metrics`. All five names fit its buffer. -/
def unsupportedMetric (scope : ScopeId) (rejected : List MetricId) : Error where
  exceptionCe := .unsupportedMetricException
  code := 0
  message := [.text "Metrics [",.text (", ".intercalate (rejected.map MetricId.name)),
    .text "] are not supported for scope ",.text scope.name]

/-- What a method throws. An `UnsupportedMetricException` has two properties of its own. -/
inductive Thrown
  | exception (e : Error)
  | unsupported (e : Error) (scope : ScopeId) (unsupportedMetrics : List MetricId)

/-- The result of a call on an object, or of destroying one. `noObject` stands for a handle without an
object, on which PHP cannot call anything. -/
inductive Result
  | sampler (handle : ℕ)
  | sample (handle : ℕ)
  | done
  | thrown (t : Thrown)
  | noObject

/-- A call, its result, and how many objects it constructed, including those it destroyed again. -/
structure ObjectOutcome where
  result : Result
  constructed : ℕ

/-- The loop of `Sampler::open` over its first argument; `none` is a value that is not a `Metric`. -/
def admitMetrics : List (Option MetricId) → UInt32 → List MetricId →
    Except Error (UInt32 × List MetricId)
  | [],metrics,metricOrder => .ok (metrics,metricOrder)
  | none::_,_,_ => .error notAMetric
  | some m::values,metrics,metricOrder =>
    if requests metrics m.mask then .error duplicateMetrics
    else admitMetrics values (metrics ||| m.mask) (metricOrder ++ [m])

/-- The answers to one `Sampler::open`: the handle and the address that the allocator picks, those of
the native calls, those of the native calls in the cleanup after a failure, and the clock. -/
structure OpenAnswers (ρ : Type) where
  handle : Fresh
  identity : Fresh
  supported : ρ
  opened : ρ
  read : ρ
  cleanup : ρ
  now : UInt64

/-- The answers to one `Sampler::read`; `current` is what the stack variable holds before. -/
structure ReadAnswers (ρ : Type) where
  handle : Fresh
  current : Snapshot
  read : ρ
  now : UInt64

namespace ObjectStore
variable {κ σ ρ : Type}

/-- `perfidious_sample_identity_release`. -/
def identityRelease (address : ℕ) (s : ObjectStore κ σ) : ObjectStore κ σ :=
  match s.identities.lookup address with
  | none => { s with misused := true }
  | some refcount =>
    if refcount - 1 = 0 then { s with identities := s.identities.erase address }
    else { s with identities := s.identities.insert address (refcount - 1) }

/-- `sample->identity->refcount++`. -/
def identityRetain (address : ℕ) (s : ObjectStore κ σ) : ObjectStore κ σ :=
  match s.identities.lookup address with
  | none => { s with misused := true }
  | some refcount => { s with identities := s.identities.insert address (refcount + 1) }

variable (P : Platform κ σ ρ)

/-- `perfidious_sampler_obj_free`. -/
def samplerObjFree (obj : SamplerObj σ) (r : ρ) (s : ObjectStore κ σ) : ObjectStore κ σ :=
  let s := match obj.sampler with
    | none => s
    | some sampler => { s with native := P.samplerClose sampler r s.native }
  s.identityRelease obj.identity

/-- `perfidious_sample_obj_free`. -/
def sampleObjFree (obj : SampleObj) (s : ObjectStore κ σ) : ObjectStore κ σ :=
  s.identityRelease obj.identity

/-- `Sampler::open` from `object_init_ex` on. -/
def openAdmitted (metrics : UInt32) (metricOrder : List MetricId) (scope : ScopeId)
    (r : OpenAnswers ρ) (s : ObjectStore κ σ) : ObjectStore κ σ × ObjectOutcome :=
  let handle := r.handle.pick s.samplers.keys
  let address := r.identity.pick s.identities.keys
  let s := { s with identities := s.identities.insert address 1 }
  let obj : SamplerObj σ := ⟨none,address,fun _ => 0,0,0,[]⟩
  match P.samplerOpen metrics scope obj.sampler r.opened s.native with
  | (native,.error (e,sampler)) =>
    (({ s with native }).samplerObjFree P { obj with sampler } r.cleanup,⟨.thrown (.exception e),1⟩)
  | (native,.ok sampler) =>
    let (native,sampler,outcome) := P.samplerRead sampler obj.origin r.read native
    let obj := { obj with sampler := some sampler, origin := outcome.snapshot }
    match outcome.result with
    | .error e => (({ s with native }).samplerObjFree P obj r.cleanup,⟨.thrown (.exception e),1⟩)
    | .ok () =>
      let obj := { obj with timeOriginNs := r.now, metrics, metricOrder }
      ({ s with
        native
        samplers := s.samplers.insert handle ⟨obj,s.openings⟩
        openings := s.openings + 1 },⟨.sampler handle,1⟩)

/-- `Sampler::open`. -/
def openSampler (values : List (Option MetricId)) (scope : Option ScopeId) (r : OpenAnswers ρ)
    (s : ObjectStore κ σ) : ObjectStore κ σ × ObjectOutcome :=
  if values.isEmpty then (s,⟨.thrown (.exception emptyMetrics),0⟩)
  else
    match admitMetrics values 0 [] with
    | .error e => (s,⟨.thrown (.exception e),0⟩)
    | .ok (metrics,metricOrder) =>
      let scope := scope.getD .currentThread
      match P.samplerSupportedMetrics metrics scope r.supported s.native with
      | (native,.error e) => ({ s with native },⟨.thrown (.exception e),0⟩)
      | (native,.ok supported) =>
        if metrics &&& ~~~supported ≠ 0 then
          let rejected := metricOrder.filter fun m => requests (metrics &&& ~~~supported) m.mask
          ({ s with native },
            ⟨.thrown (.unsupported (unsupportedMetric scope rejected) scope rejected),0⟩)
        else ({ s with native }).openAdmitted P metrics metricOrder scope r

/-- `Sampler::read` after the native read. -/
def takeSample (obj : SamplerObj σ) (opening : ℕ) (current : Snapshot) (r : ReadAnswers ρ)
    (s : ObjectStore κ σ) : ObjectStore κ σ × ObjectOutcome :=
  if r.now < obj.timeOriginNs then (s,⟨.thrown (.exception clockBackwards),0⟩)
  else
    let sample : SampleObj := ⟨obj.identity,fun _ => 0,r.now - obj.timeOriginNs,obj.metrics⟩
    let s := s.identityRetain obj.identity
    match collect obj.metrics (obj.difference current) MetricId.all sample.values with
    | .error e => (s.sampleObjFree sample,⟨.thrown (.exception e),1⟩)
    | .ok values =>
      let handle := r.handle.pick s.samples.keys
      ({ s with samples := s.samples.insert handle ⟨{ sample with values },opening⟩ },
        ⟨.sample handle,1⟩)

/-- `Sampler::read`. -/
def readSampler (handle : ℕ) (r : ReadAnswers ρ) (s : ObjectStore κ σ) :
    ObjectStore κ σ × ObjectOutcome :=
  match s.samplers.lookup handle with
  | none => (s,⟨.noObject,0⟩)
  | some ⟨obj,opening⟩ =>
    match obj.sampler with
    | none => (s,⟨.thrown (.exception samplerClosed),0⟩)
    | some sampler =>
      let (native,sampler,outcome) := P.samplerRead sampler r.current r.read s.native
      let obj := { obj with sampler := some sampler }
      let s := { s with native, samplers := s.samplers.insert handle ⟨obj,opening⟩ }
      match outcome.result with
      | .error e => (s,⟨.thrown (.exception e),0⟩)
      | .ok () => s.takeSample obj opening outcome.snapshot r

/-- `Sampler::close`. -/
def closeSampler (handle : ℕ) (r : ρ) (s : ObjectStore κ σ) : ObjectStore κ σ × ObjectOutcome :=
  match s.samplers.lookup handle with
  | none => (s,⟨.noObject,0⟩)
  | some ⟨obj,opening⟩ =>
    match obj.sampler with
    | none => (s,⟨.done,0⟩)
    | some sampler =>
      ({ s with
        native := P.samplerClose sampler r s.native
        samplers := s.samplers.insert handle ⟨{ obj with sampler := none },opening⟩ },⟨.done,0⟩)

/-- The last reference to a `Sampler` object is dropped. -/
def destroySampler (handle : ℕ) (r : ρ) (s : ObjectStore κ σ) : ObjectStore κ σ × ObjectOutcome :=
  match s.samplers.lookup handle with
  | none => (s,⟨.noObject,0⟩)
  | some ⟨obj,_⟩ =>
    (({ s with samplers := s.samplers.erase handle }).samplerObjFree P obj r,⟨.done,0⟩)

/-- The last reference to a `Sample` object is dropped. -/
def destroySample (handle : ℕ) (s : ObjectStore κ σ) : ObjectStore κ σ × ObjectOutcome :=
  match s.samples.lookup handle with
  | none => (s,⟨.noObject,0⟩)
  | some ⟨obj,_⟩ =>
    (({ s with samples := s.samples.erase handle }).sampleObjFree obj,⟨.done,0⟩)

end ObjectStore

/-- What a PHP program does with samplers and samples, and what the collector does to them. -/
inductive ObjectOp (ρ : Type)
  | openSampler (values : List (Option MetricId)) (scope : Option ScopeId) (r : OpenAnswers ρ)
  | readSampler (handle : ℕ) (r : ReadAnswers ρ)
  | closeSampler (handle : ℕ) (r : ρ)
  | destroySampler (handle : ℕ) (r : ρ)
  | destroySample (handle : ℕ)

namespace ObjectStore
variable {κ σ ρ : Type} (P : Platform κ σ ρ)

def step (s : ObjectStore κ σ) : ObjectOp ρ → ObjectStore κ σ × ObjectOutcome
  | .openSampler values scope r => s.openSampler P values scope r
  | .readSampler handle r => s.readSampler P handle r
  | .closeSampler handle r => s.closeSampler P handle r
  | .destroySampler handle r => s.destroySampler P handle r
  | .destroySample handle => s.destroySample handle

/-- No object exists yet. -/
def start (native : κ) : ObjectStore κ σ := ⟨native,∅,∅,∅,0,false⟩

/-- The number of live objects. -/
def liveObjects (s : ObjectStore κ σ) : ℕ := s.samplers.keys.card + s.samples.keys.card

@[simp] theorem identityRelease_samplers (a : ℕ) (s : ObjectStore κ σ) :
    (s.identityRelease a).samplers = s.samplers := by
  unfold identityRelease
  split
  · rfl
  · split <;> rfl

@[simp] theorem identityRelease_samples (a : ℕ) (s : ObjectStore κ σ) :
    (s.identityRelease a).samples = s.samples := by
  unfold identityRelease
  split
  · rfl
  · split <;> rfl

@[simp] theorem identityRelease_native (a : ℕ) (s : ObjectStore κ σ) :
    (s.identityRelease a).native = s.native := by
  unfold identityRelease
  split
  · rfl
  · split <;> rfl

@[simp] theorem identityRelease_openings (a : ℕ) (s : ObjectStore κ σ) :
    (s.identityRelease a).openings = s.openings := by
  unfold identityRelease
  split
  · rfl
  · split <;> rfl

@[simp] theorem identityRetain_samplers (a : ℕ) (s : ObjectStore κ σ) :
    (s.identityRetain a).samplers = s.samplers := by
  unfold identityRetain
  split <;> rfl

@[simp] theorem identityRetain_samples (a : ℕ) (s : ObjectStore κ σ) :
    (s.identityRetain a).samples = s.samples := by
  unfold identityRetain
  split <;> rfl

@[simp] theorem identityRetain_native (a : ℕ) (s : ObjectStore κ σ) :
    (s.identityRetain a).native = s.native := by
  unfold identityRetain
  split <;> rfl

@[simp] theorem identityRetain_openings (a : ℕ) (s : ObjectStore κ σ) :
    (s.identityRetain a).openings = s.openings := by
  unfold identityRetain
  split <;> rfl

@[simp] theorem samplerObjFree_samplers (obj : SamplerObj σ) (r : ρ) (s : ObjectStore κ σ) :
    (s.samplerObjFree P obj r).samplers = s.samplers := by
  unfold samplerObjFree
  cases obj.sampler <;> exact identityRelease_samplers _ _

theorem samplerObjFree_native_of_none {obj : SamplerObj σ} (h : obj.sampler = none) (r : ρ)
    (s : ObjectStore κ σ) : (s.samplerObjFree P obj r).native = s.native := by
  simp [samplerObjFree,h]

theorem samplerObjFree_native_of_some {obj : SamplerObj σ} {sampler : σ} (h : obj.sampler = some sampler)
    (r : ρ) (s : ObjectStore κ σ) :
    (s.samplerObjFree P obj r).native = P.samplerClose sampler r s.native := by
  simp [samplerObjFree,h]

@[simp] theorem sampleObjFree_native (obj : SampleObj) (s : ObjectStore κ σ) :
    (s.sampleObjFree obj).native = s.native := identityRelease_native _ _

@[simp] theorem sampleObjFree_samplers (obj : SampleObj) (s : ObjectStore κ σ) :
    (s.sampleObjFree obj).samplers = s.samplers := identityRelease_samplers _ _

/-- Inversion of `Sampler::read` after its native read. -/
inductive TakeCase (obj : SamplerObj σ) (opening : ℕ) (current : Snapshot) (r : ReadAnswers ρ)
    (s : ObjectStore κ σ) : ObjectStore κ σ × ObjectOutcome → Prop
  | clock (backwards : r.now < obj.timeOriginNs) :
      TakeCase obj opening current r s (s,⟨.thrown (.exception clockBackwards),0⟩)
  | dropped {e} (sample : SampleObj) (same : sample.identity = obj.identity)
      (forwards : ¬ r.now < obj.timeOriginNs)
      (failed : collect obj.metrics (obj.difference current) MetricId.all (fun _ => 0) = .error e) :
      TakeCase obj opening current r s
        ((s.identityRetain sample.identity).sampleObjFree sample,⟨.thrown (.exception e),1⟩)
  | taken {k} (sample : SampleObj) (same : sample.identity = obj.identity)
      (forwards : ¬ r.now < obj.timeOriginNs)
      (complete : collect obj.metrics (obj.difference current) MetricId.all (fun _ => 0) =
        .ok sample.values)
      (rest : sample.timeNs = r.now - obj.timeOriginNs ∧ sample.metrics = obj.metrics)
      (fresh : (s.identityRetain sample.identity).samples.lookup k = none) :
      TakeCase obj opening current r s
        ({ s.identityRetain sample.identity with
          samples := (s.identityRetain sample.identity).samples.insert k ⟨sample,opening⟩ },
          ⟨.sample k,1⟩)

theorem takeSample_cases (obj : SamplerObj σ) (opening : ℕ) (current : Snapshot) (r : ReadAnswers ρ)
    (s : ObjectStore κ σ) : TakeCase obj opening current r s (s.takeSample obj opening current r) := by
  unfold takeSample
  split
  next backwards => exact .clock backwards
  next forwards =>
    dsimp only
    split
    next e failed => exact .dropped ⟨obj.identity,_,_,_⟩ rfl forwards failed
    next values complete =>
      exact .taken ⟨obj.identity,values,_,_⟩ rfl forwards complete ⟨rfl,rfl⟩ (Table.lookup_pick _ _)

/-- Inversion of `Sampler::read`. -/
inductive ReadCase (handle : ℕ) (r : ReadAnswers ρ) (s : ObjectStore κ σ) :
    ObjectStore κ σ × ObjectOutcome → Prop
  | noObject (absent : s.samplers.lookup handle = none) : ReadCase handle r s (s,⟨.noObject,0⟩)
  | closed {obj opening} (found : s.samplers.lookup handle = some ⟨obj,opening⟩)
      (gone : obj.sampler = none) : ReadCase handle r s (s,⟨.thrown (.exception samplerClosed),0⟩)
  | failed {obj opening sampler native sampler' outcome e}
      (found : s.samplers.lookup handle = some ⟨obj,opening⟩) (held : obj.sampler = some sampler)
      (read : P.samplerRead sampler r.current r.read s.native = (native,sampler',outcome))
      (result : outcome.result = .error e) :
      ReadCase handle r s ({ s with
        native
        samplers := s.samplers.insert handle ⟨{ obj with sampler := some sampler' },opening⟩ },
        ⟨.thrown (.exception e),0⟩)
  | read {obj opening sampler native sampler' outcome x}
      (found : s.samplers.lookup handle = some ⟨obj,opening⟩) (held : obj.sampler = some sampler)
      (read : P.samplerRead sampler r.current r.read s.native = (native,sampler',outcome))
      (result : outcome.result = .ok ())
      (taken : TakeCase { obj with sampler := some sampler' } opening outcome.snapshot r { s with
        native
        samplers := s.samplers.insert handle ⟨{ obj with sampler := some sampler' },opening⟩ } x) :
      ReadCase handle r s x

theorem readSampler_cases (handle : ℕ) (r : ReadAnswers ρ) (s : ObjectStore κ σ) :
    ReadCase P handle r s (s.readSampler P handle r) := by
  unfold readSampler
  split
  next absent => exact .noObject absent
  next obj opening found =>
    split
    next gone => exact .closed found gone
    next sampler held =>
      rcases hread : P.samplerRead sampler r.current r.read s.native with ⟨native,sampler',outcome⟩
      dsimp only
      split
      next e result => exact .failed found held hread result
      next result => exact .read found held hread result (takeSample_cases _ _ _ _ _)

/-- The method does to its object, and returns, what `Sampler::read` does without the bookkeeping of
objects and identities. -/
theorem readSampler_read {s : ObjectStore κ σ} {handle : ℕ} {obj : SamplerObj σ} {opening : ℕ}
    (found : s.samplers.lookup handle = some ⟨obj,opening⟩) (r : ReadAnswers ρ) :
    let method := obj.read
      (fun sampler (r : ReadAnswers ρ) => (P.samplerRead sampler r.current r.read s.native).2) r r.now
    (s.readSampler P handle r).1.samplers.lookup handle = some ⟨method.1,opening⟩ ∧
    (∀ e, method.2 = .error e → (s.readSampler P handle r).2.result = .thrown (.exception e)) ∧
    (∀ sample, method.2 = .ok sample → ∃ k, (s.readSampler P handle r).2.result = .sample k ∧
      (s.readSampler P handle r).1.samples.lookup k = some ⟨sample,opening⟩) := by
  dsimp only
  generalize hx : s.readSampler P handle r = x
  cases hx ▸ readSampler_cases P handle r s with
  | noObject absent => cases found.symm.trans absent
  | closed found' gone =>
    cases found.symm.trans found'
    simp [SamplerObj.read,gone,found]
  | failed found' held read result =>
    cases found.symm.trans found'
    simp [SamplerObj.read,held,read,result]
  | read found' held read result taken =>
    cases found.symm.trans found'
    cases taken with
    | clock backwards => simp [SamplerObj.read,held,read,result,backwards]
    | dropped sample same forwards failed =>
      simp [SamplerObj.read,held,read,result,forwards,failed]
    | taken sample same forwards complete rest fresh =>
      obtain ⟨identity,values,timeNs,metrics⟩ := sample
      obtain ⟨rfl,rfl⟩ := rest
      cases same
      simp [SamplerObj.read,held,read,result,forwards,complete]

/-- Inversion of `Sampler::open` from `object_init_ex` on. `block` is the store with the new identity
block in it. -/
inductive OpenCase (metrics : UInt32) (metricOrder : List MetricId) (scope : ScopeId)
    (r : OpenAnswers ρ) (s block : ObjectStore κ σ) : ObjectStore κ σ × ObjectOutcome → Prop
  | failed {native e sampler} (obj : SamplerObj σ) (left : obj.sampler = sampler)
      (named : obj.identity = r.identity.pick s.identities.keys)
      (opened : P.samplerOpen metrics scope none r.opened s.native = (native,.error (e,sampler))) :
      OpenCase metrics metricOrder scope r s block
        (({ block with native }).samplerObjFree P obj r.cleanup,⟨.thrown (.exception e),1⟩)
  | unread {native sampler native' sampler' outcome e} (obj : SamplerObj σ)
      (held : obj.sampler = some sampler')
      (named : obj.identity = r.identity.pick s.identities.keys)
      (opened : P.samplerOpen metrics scope none r.opened s.native = (native,.ok sampler))
      (read : P.samplerRead sampler (fun _ => 0) r.read native = (native',sampler',outcome))
      (result : outcome.result = .error e) :
      OpenCase metrics metricOrder scope r s block
        (({ block with native := native' }).samplerObjFree P obj r.cleanup,
          ⟨.thrown (.exception e),1⟩)
  | opened {native sampler native' sampler' outcome} (obj : SamplerObj σ)
      (held : obj.sampler = some sampler')
      (named : obj.identity = r.identity.pick s.identities.keys) (requested : obj.metrics = metrics)
      (ordered : obj.metricOrder = metricOrder)
      (opened : P.samplerOpen metrics scope none r.opened s.native = (native,.ok sampler))
      (read : P.samplerRead sampler (fun _ => 0) r.read native = (native',sampler',outcome))
      (result : outcome.result = .ok ()) :
      OpenCase metrics metricOrder scope r s block
        ({ block with
          native := native'
          samplers := block.samplers.insert (r.handle.pick s.samplers.keys) ⟨obj,block.openings⟩
          openings := block.openings + 1 },⟨.sampler (r.handle.pick s.samplers.keys),1⟩)

theorem openAdmitted_cases (metrics : UInt32) (metricOrder : List MetricId) (scope : ScopeId)
    (r : OpenAnswers ρ) (s : ObjectStore κ σ) :
    OpenCase P metrics metricOrder scope r s
      { s with identities := s.identities.insert (r.identity.pick s.identities.keys) 1 }
      (s.openAdmitted P metrics metricOrder scope r) := by
  unfold openAdmitted
  rcases hopen : P.samplerOpen metrics scope none r.opened s.native with ⟨native,⟨e,sampler⟩ | sampler⟩
  · simp only [hopen]
    exact .failed ⟨sampler,_,_,_,_,_⟩ rfl rfl hopen
  · rcases hread : P.samplerRead sampler (fun _ => 0) r.read native with ⟨native',sampler',outcome⟩
    simp only [hopen,hread]
    split
    next e result => exact .unread ⟨some sampler',_,_,_,_,_⟩ rfl rfl hopen hread result
    next result => exact .opened ⟨some sampler',_,_,_,_,_⟩ rfl rfl rfl rfl hopen hread result

theorem admitMetrics_error {values : List (Option MetricId)} {metrics : UInt32}
    {metricOrder : List MetricId} {e : Error} (h : admitMetrics values metrics metricOrder = .error e) :
    e = notAMetric ∨ e = duplicateMetrics := by
  induction values generalizing metrics metricOrder with
  | nil => cases h
  | cons value values ih =>
    cases value with
    | none => exact .inl (Except.error.inj h).symm
    | some m =>
      unfold admitMetrics at h
      split at h
      · exact .inr (Except.error.inj h).symm
      · exact ih h

/-- Inversion of `Sampler::open`. -/
inductive OpenSamplerCase (values : List (Option MetricId)) (scope : ScopeId) (r : OpenAnswers ρ)
    (s : ObjectStore κ σ) : ObjectStore κ σ × ObjectOutcome → Prop
  | rejected {e} (reason : e = emptyMetrics ∨ e = notAMetric ∨ e = duplicateMetrics) :
      OpenSamplerCase values scope r s (s,⟨.thrown (.exception e),0⟩)
  | unprobed {metrics metricOrder native e}
      (supported : P.samplerSupportedMetrics metrics scope r.supported s.native = (native,.error e))
      (names : admitMetrics values 0 [] = .ok (metrics,metricOrder)) :
      OpenSamplerCase values scope r s ({ s with native },⟨.thrown (.exception e),0⟩)
  | unsupported {metrics native supported rejected}
      (supported : P.samplerSupportedMetrics metrics scope r.supported s.native =
        (native,.ok supported)) :
      OpenSamplerCase values scope r s ({ s with native },
        ⟨.thrown (.unsupported (unsupportedMetric scope rejected) scope rejected),0⟩)
  | admitted {metrics metricOrder native supported x}
      (supported : P.samplerSupportedMetrics metrics scope r.supported s.native =
        (native,.ok supported))
      (opened : OpenCase P metrics metricOrder scope r { s with native } { s with
        native
        identities := s.identities.insert (r.identity.pick s.identities.keys) 1 } x)
      (names : admitMetrics values 0 [] = .ok (metrics,metricOrder)) :
      OpenSamplerCase values scope r s x

theorem openSampler_cases (values : List (Option MetricId)) (scope : Option ScopeId)
    (r : OpenAnswers ρ) (s : ObjectStore κ σ) :
    OpenSamplerCase P values (scope.getD .currentThread) r s (s.openSampler P values scope r) := by
  unfold openSampler
  split
  · exact .rejected (.inl rfl)
  split
  next e he => exact .rejected (.inr (admitMetrics_error he))
  next metrics metricOrder names =>
    dsimp only
    split
    next native e hsupported => exact .unprobed hsupported names
    next native supported hsupported =>
      split
      · exact .unsupported hsupported
      · exact .admitted hsupported (openAdmitted_cases P metrics metricOrder _ r { s with native }) names

end ObjectStore

end Perfidious
