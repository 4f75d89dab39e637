import Mathlib.Logic.Function.Basic
import Perfidious.Sampler.Metric
import Perfidious.Library.Run

/-! The common sampler layer (`sampler.c`): samplers, their samples and the deltas between them,
over any platform backend. -/
namespace Perfidious
open Library

/-- `struct perfidious_sampler_obj` over the backend's sampler. The identity is the address of the
shared `struct perfidious_sample_identity`. -/
structure SamplerObj (σ : Type) where
  sampler : Option σ
  identity : ℕ
  origin : Snapshot
  timeOriginNs : UInt64
  metrics : UInt32
  metricOrder : List MetricId

/-- `struct perfidious_sample_obj`. -/
structure SampleObj where
  identity : ℕ
  values : Snapshot
  timeNs : UInt64
  metrics : UInt32

/-- `struct perfidious_sample_delta_obj` with its `elapsedTimeNs` property. -/
structure SampleDeltaObj where
  values : Snapshot
  metrics : UInt32
  elapsedTimeNs : ℤ

def samplerClosed : Error := ⟨.closedException,0,[.text "Sampler is closed"]⟩
def clockBackwards : Error := ⟨.ioException,0,[.text "Monotonic clock moved backwards"]⟩

def counterBackwards (metric : MetricId) : Error := ⟨.ioException,0,
  [.text "Sampler ",.text metric.name,.text " counter moved backwards"]⟩

def counterTooLarge (metric : MetricId) : Error := ⟨.overflowException,0,
  [.text "Sampler ",.text metric.name,.text " counter is too large to represent as a PHP integer"]⟩

def sampleBackwards (metric : MetricId) : Error := ⟨.ioException,0,
  [.text "Sampler ",.text metric.name,.text " counter moved backwards between samples"]⟩

def valueTooLarge : Error := ⟨.overflowException,0,
  [.text "Sampler counter value is too large to represent as a PHP integer"]⟩

def notCollected (metric : MetricId) : Error := ⟨.valueError,0,
  [.text "Metric ",.text metric.name,.text " was not collected by this sampler"]⟩

def differentSampler : Error := ⟨.valueError,0,[.text "Samples must come from the same sampler"]⟩

def newerSample : Error := ⟨.valueError,0,
  [.text "The earlier sample must not be newer than this sample"]⟩

/-- `perfidious_uint64_to_long`. -/
def uint64ToLong (value : UInt64) : Except Error ℤ :=
  if value.toNat > zendLongMax then .error valueTooLarge else .ok value.toNat

/-- The loop over all metrics in `Sampler::read` and `Sample::since`: a metric outside the mask
keeps its zero, the others store their difference, and the first failure ends the loop. -/
def collect (metrics : UInt32) (difference : MetricId → Except Error UInt64) :
    List MetricId → Snapshot → Except Error Snapshot
  | [],values => .ok values
  | m::ms,values =>
    if requests metrics m.mask then
      match difference m with
      | .error e => .error e
      | .ok value => collect metrics difference ms (Function.update values m value)
    else collect metrics difference ms values

/-- A completed loop has stored every requested difference. -/
theorem collect_ok {metrics : UInt32} {difference : MetricId → Except Error UInt64}
    {ms : List MetricId} (hms : ms.Nodup) {values values' : Snapshot}
    (h : collect metrics difference ms values = .ok values') (m : MetricId) :
    (m ∈ ms ∧ requests metrics m.mask = true → difference m = .ok (values' m)) ∧
    (¬ (m ∈ ms ∧ requests metrics m.mask = true) → values' m = values m) := by
  induction ms generalizing values with
  | nil =>
    cases h
    simp
  | cons a ms ih =>
    obtain ⟨ha,hnd⟩ := List.nodup_cons.mp hms
    unfold collect at h
    by_cases hreq : requests metrics a.mask = true
    · rw [if_pos hreq] at h
      cases hd : difference a with
      | error e => simp [hd] at h
      | ok value =>
        simp only [hd] at h
        obtain ⟨hin,hout⟩ := ih hnd h
        by_cases hm : m = a
        · subst hm
          refine ⟨fun _ => ?_,fun hn => absurd ⟨List.mem_cons_self,hreq⟩ hn⟩
          rw [hd, hout (fun hx => ha hx.1), Function.update_self]
        · rw [Function.update_of_ne hm] at hout
          simpa [hm] using ⟨fun h₁ h₂ => hin ⟨h₁,h₂⟩,fun hn => hout fun hx => by simp [hx] at hn⟩
    · rw [if_neg hreq] at h
      obtain ⟨hin,hout⟩ := ih hnd h
      by_cases hm : m = a
      · subst hm
        exact ⟨fun hx => absurd hx.2 hreq,fun _ => hout fun hx => hreq hx.2⟩
      · simpa [hm] using ⟨fun h₁ h₂ => hin ⟨h₁,h₂⟩,fun hn => hout fun hx => by simp [hx] at hn⟩

/-- The loop fails with the error of some requested metric. -/
theorem collect_error {metrics : UInt32} {difference : MetricId → Except Error UInt64}
    {ms : List MetricId} {values : Snapshot} {e : Error}
    (h : collect metrics difference ms values = .error e) :
    ∃ m, requests metrics m.mask = true ∧ difference m = .error e := by
  induction ms generalizing values with
  | nil => cases h
  | cons a ms ih =>
    unfold collect at h
    by_cases hreq : requests metrics a.mask = true
    · rw [if_pos hreq] at h
      cases hd : difference a with
      | error e' =>
        simp only [hd, Except.error.injEq] at h
        exact ⟨a,hreq,h ▸ hd⟩
      | ok value =>
        simp only [hd] at h
        exact ih h
    · rw [if_neg hreq] at h
      exact ih h

/-- The loop completes when no requested difference fails. -/
theorem collect_total {metrics : UInt32} {difference : MetricId → Except Error UInt64}
    {ms : List MetricId} {values : Snapshot}
    (h : ∀ m, requests metrics m.mask = true → ∃ value, difference m = .ok value) :
    ∃ values', collect metrics difference ms values = .ok values' := by
  cases hc : collect metrics difference ms values with
  | ok values' => exact ⟨values',rfl⟩
  | error e =>
    obtain ⟨m,hreq,hd⟩ := collect_error hc
    obtain ⟨value,hv⟩ := h m hreq
    cases hv.symm.trans hd

section Sampler
variable {σ ρ : Type} (platformSamplerRead : σ → ρ → σ × ReadOutcome)

/-- The last part of `Sampler::open`, once the metrics were admitted and the backend's sampler
opened: the first read becomes the origin. -/
def samplerOpen (sampler : σ) (identity : ℕ) (metrics : UInt32) (metricOrder : List MetricId)
    (r : ρ) (now : UInt64) : Except Error (SamplerObj σ) :=
  let (sampler,outcome) := platformSamplerRead sampler r
  match outcome.result with
  | .error e => .error e
  | .ok () => .ok ⟨some sampler,identity,outcome.snapshot,now,metrics,metricOrder⟩

namespace SamplerObj

/-- The body of the metric loop of `Sampler::read`. -/
def difference (obj : SamplerObj σ) (current : Snapshot) (metric : MetricId) : Except Error UInt64 :=
  if current metric < obj.origin metric then .error (counterBackwards metric)
  else if (current metric - obj.origin metric).toNat > zendLongMax then
    .error (counterTooLarge metric)
  else .ok (current metric - obj.origin metric)

/-- `Sampler::read`, with the clock value that follows the native read. -/
def read (obj : SamplerObj σ) (r : ρ) (now : UInt64) : SamplerObj σ × Except Error SampleObj :=
  match obj.sampler with
  | none => (obj,.error samplerClosed)
  | some sampler =>
    let (sampler,outcome) := platformSamplerRead sampler r
    let obj := { obj with sampler := some sampler }
    match outcome.result with
    | .error e => (obj,.error e)
    | .ok () =>
      if now < obj.timeOriginNs then (obj,.error clockBackwards)
      else
        match collect obj.metrics (obj.difference outcome.snapshot) MetricId.all (fun _ => 0) with
        | .error e => (obj,.error e)
        | .ok values => (obj,.ok ⟨obj.identity,values,now - obj.timeOriginNs,obj.metrics⟩)

/-- `Sampler::close`. -/
def close (obj : SamplerObj σ) : SamplerObj σ := { obj with sampler := none }

end SamplerObj

end Sampler

/-- `perfidious_sample_value`. -/
def sampleValue (metrics : UInt32) (values : Snapshot) (metric : MetricId) : Except Error ℤ :=
  if requests metrics metric.mask then uint64ToLong (values metric)
  else .error (notCollected metric)

/-- `Sample::value`. -/
def SampleObj.value (sample : SampleObj) : MetricId → Except Error ℤ :=
  sampleValue sample.metrics sample.values

/-- `SampleDelta::value`. -/
def SampleDeltaObj.value (delta : SampleDeltaObj) : MetricId → Except Error ℤ :=
  sampleValue delta.metrics delta.values

/-- The body of the metric loop of `Sample::since`. -/
def SampleObj.difference (sample earlier : SampleObj) (metric : MetricId) : Except Error UInt64 :=
  if sample.values metric < earlier.values metric then .error (sampleBackwards metric)
  else .ok (sample.values metric - earlier.values metric)

/-- `Sample::since`. -/
def SampleObj.since (sample earlier : SampleObj) : Except Error SampleDeltaObj :=
  if sample.identity ≠ earlier.identity then .error differentSampler
  else if sample.timeNs < earlier.timeNs then .error newerSample
  else
    match uint64ToLong (sample.timeNs - earlier.timeNs) with
    | .error e => .error e
    | .ok elapsedTimeNs =>
      match collect sample.metrics (sample.difference earlier) MetricId.all (fun _ => 0) with
      | .error e => .error e
      | .ok values => .ok ⟨values,sample.metrics,elapsedTimeNs⟩

/-- Inversion of a failed `Sample::since`. -/
theorem SampleObj.since_error {sample earlier : SampleObj} {e : Error}
    (h : sample.since earlier = .error e) :
    (sample.identity ≠ earlier.identity ∧ e = differentSampler) ∨
    (sample.timeNs < earlier.timeNs ∧ e = newerSample) ∨ e = valueTooLarge ∨
      ∃ m, e = sampleBackwards m := by
  unfold since at h
  split at h
  next hid => exact .inl ⟨hid,(Except.error.inj h).symm⟩
  split at h
  next htime => exact .inr (.inl ⟨htime,(Except.error.inj h).symm⟩)
  split at h
  next e' he =>
    unfold uint64ToLong at he
    split at he <;> cases he
    exact .inr (.inr (.inl (Except.error.inj h).symm))
  · split at h
    next e' he =>
      obtain ⟨m,-,hd⟩ := collect_error he
      unfold difference at hd
      split at hd <;> cases hd
      exact .inr (.inr (.inr ⟨m,(Except.error.inj h).symm⟩))
    · cases h

end Perfidious
