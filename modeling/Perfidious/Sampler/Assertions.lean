import Perfidious.Sampler.Admission
import Perfidious.Sampler.WindowsPlatform
import Perfidious.Sampler.DarwinPlatform
import Perfidious.Sampler.Descriptors

/-! The assertions of the sampler backends (`ZEND_ASSERT`), in a build that checks them. No run of the
sampler API makes one fail, so that such a build does what a build without them does. -/
namespace Perfidious
open Library

variable {κ κ' σ ρ : Type}

/-- What a backend asserts of a request that it opens, and of a sampler that it reads with given answers
in a given native state. -/
structure Assertions (κ σ ρ : Type) where
  opens : UInt32 → ScopeId → Bool
  reads : σ → ρ → κ → Bool

/-- No read of the sampler makes an assertion fail, whatever the system answers. -/
def Assertions.Readable (a : Assertions κ σ ρ) (sampler : σ) : Prop := ∀ r k, a.reads sampler r k = true

/-- The backend with its assertions compiled in. Next to the native state stands whether all of them
held so far. -/
def Platform.asserting (P : Platform κ σ ρ) (a : Assertions κ σ ρ) : Platform (κ × Bool) σ ρ where
  samplerSupportedMetrics metrics scope r k :=
    let (native,x) := P.samplerSupportedMetrics metrics scope r k.1
    ((native,k.2),x)
  samplerOpen metrics scope sampler r k :=
    let (native,x) := P.samplerOpen metrics scope sampler r k.1
    ((native,k.2 && a.opens metrics scope),x)
  samplerRead sampler snapshot r k :=
    let (native,x) := P.samplerRead sampler snapshot r k.1
    ((native,k.2 && a.reads sampler r k.1),x)
  samplerClose sampler r k := (P.samplerClose sampler r k.1,k.2)

/-- The backend `Q` does what `P` does on the part `f` of its native state. -/
structure Platform.Forgets (Q : Platform κ' σ ρ) (P : Platform κ σ ρ) (f : κ' → κ) : Prop where
  supported : ∀ metrics scope r k, P.samplerSupportedMetrics metrics scope r (f k) =
    (f (Q.samplerSupportedMetrics metrics scope r k).1,(Q.samplerSupportedMetrics metrics scope r k).2)
  opened : ∀ metrics scope sampler r k, P.samplerOpen metrics scope sampler r (f k) =
    (f (Q.samplerOpen metrics scope sampler r k).1,(Q.samplerOpen metrics scope sampler r k).2)
  read : ∀ sampler snapshot r k, P.samplerRead sampler snapshot r (f k) =
    (f (Q.samplerRead sampler snapshot r k).1,(Q.samplerRead sampler snapshot r k).2)
  closed : ∀ sampler r k, P.samplerClose sampler r (f k) = f (Q.samplerClose sampler r k)

theorem Platform.asserting_forgets (P : Platform κ σ ρ) (a : Assertions κ σ ρ) :
    (P.asserting a).Forgets P Prod.fst where
  supported _ _ _ _ := rfl
  opened _ _ _ _ _ := rfl
  read _ _ _ _ := rfl
  closed _ _ _ := rfl

namespace ObjectStore

/-- The store over a part of its native state. -/
def mapNative (f : κ' → κ) (s : ObjectStore κ' σ) : ObjectStore κ σ :=
  ⟨f s.native,s.identities,s.samplers,s.samples,s.openings,s.misused⟩

section
variable {Q : Platform κ' σ ρ} {P : Platform κ σ ρ} {f : κ' → κ}

theorem identityRelease_mapNative (address : ℕ) (s : ObjectStore κ' σ) :
    (s.mapNative f).identityRelease address = (s.identityRelease address).mapNative f := by
  unfold identityRelease mapNative
  dsimp only
  split
  · rfl
  · split <;> rfl

theorem identityRetain_mapNative (address : ℕ) (s : ObjectStore κ' σ) :
    (s.mapNative f).identityRetain address = (s.identityRetain address).mapNative f := by
  unfold identityRetain mapNative
  dsimp only
  split <;> rfl

theorem samplerObjFree_mapNative (h : Q.Forgets P f) (obj : SamplerObj σ) (r : ρ)
    (s : ObjectStore κ' σ) :
    (s.mapNative f).samplerObjFree P obj r = (s.samplerObjFree Q obj r).mapNative f := by
  unfold samplerObjFree
  cases obj.sampler with
  | none => exact identityRelease_mapNative _ s
  | some sampler =>
    dsimp only
    rw [← identityRelease_mapNative]
    exact congrArg (fun native => identityRelease obj.identity { s.mapNative f with native })
      (h.closed sampler r s.native)

theorem openAdmitted_mapNative (h : Q.Forgets P f) (metrics : UInt32) (metricOrder : List MetricId)
    (scope : ScopeId) (r : OpenAnswers ρ) (s : ObjectStore κ' σ) :
    (s.mapNative f).openAdmitted P metrics metricOrder scope r =
      ((s.openAdmitted Q metrics metricOrder scope r).1.mapNative f,
        (s.openAdmitted Q metrics metricOrder scope r).2) := by
  have hopen := h.opened metrics scope none r.opened s.native
  unfold openAdmitted
  rcases hq : Q.samplerOpen metrics scope none r.opened s.native with ⟨native,⟨e,sampler⟩ | sampler⟩
  · rw [hq] at hopen
    simp only [mapNative, hopen, hq]
    exact Prod.ext (samplerObjFree_mapNative h _ _ { s with
      native
      identities := s.identities.insert (r.identity.pick s.identities.keys) 1 }) rfl
  · rw [hq] at hopen
    have hread := h.read sampler (fun _ => 0) r.read native
    rcases hr : Q.samplerRead sampler (fun _ => 0) r.read native with ⟨native',sampler',outcome⟩
    rw [hr] at hread
    simp only [mapNative, hopen, hq, hread, hr]
    split
    · exact Prod.ext (samplerObjFree_mapNative h _ _ { s with
        native := native'
        identities := s.identities.insert (r.identity.pick s.identities.keys) 1 }) rfl
    · rfl

theorem openSampler_mapNative (h : Q.Forgets P f) (values : List (Option MetricId))
    (scope : Option ScopeId) (r : OpenAnswers ρ) (s : ObjectStore κ' σ) :
    (s.mapNative f).openSampler P values scope r =
      ((s.openSampler Q values scope r).1.mapNative f,(s.openSampler Q values scope r).2) := by
  unfold openSampler
  split
  · rfl
  split
  · rfl
  next metrics metricOrder _ =>
    have hsupported := h.supported metrics (scope.getD .currentThread) r.supported s.native
    rcases hq : Q.samplerSupportedMetrics metrics (scope.getD .currentThread) r.supported s.native with
      ⟨native,e | supported⟩
    · rw [hq] at hsupported
      simp only [mapNative, hsupported, hq]
    · rw [hq] at hsupported
      simp only [mapNative, hsupported, hq]
      split
      · rfl
      · exact openAdmitted_mapNative h _ _ _ _ { s with native }

theorem takeSample_mapNative (obj : SamplerObj σ) (opening : ℕ) (current : Snapshot)
    (r : ReadAnswers ρ) (s : ObjectStore κ' σ) :
    (s.mapNative f).takeSample obj opening current r =
      ((s.takeSample obj opening current r).1.mapNative f,(s.takeSample obj opening current r).2) := by
  unfold takeSample
  split
  · rfl
  dsimp only
  rw [identityRetain_mapNative]
  split
  · exact Prod.ext (identityRelease_mapNative _ _) rfl
  · rfl

theorem readSampler_mapNative (h : Q.Forgets P f) (handle : ℕ) (r : ReadAnswers ρ)
    (s : ObjectStore κ' σ) : (s.mapNative f).readSampler P handle r =
      ((s.readSampler Q handle r).1.mapNative f,(s.readSampler Q handle r).2) := by
  unfold readSampler
  rw [show (s.mapNative f).samplers = s.samplers from rfl]
  split
  · rfl
  next obj opening _ =>
    split
    · rfl
    next sampler _ =>
      have hread := h.read sampler r.current r.read s.native
      rcases hq : Q.samplerRead sampler r.current r.read s.native with ⟨native,sampler',outcome⟩
      rw [hq] at hread
      simp only [mapNative, hread]
      split
      · rfl
      · exact takeSample_mapNative _ _ _ _ { s with native, samplers := _ }

theorem closeSampler_mapNative (h : Q.Forgets P f) (handle : ℕ) (r : ρ) (s : ObjectStore κ' σ) :
    (s.mapNative f).closeSampler P handle r =
      ((s.closeSampler Q handle r).1.mapNative f,(s.closeSampler Q handle r).2) := by
  unfold closeSampler
  rw [show (s.mapNative f).samplers = s.samplers from rfl]
  split
  · rfl
  next obj opening _ =>
    split
    · rfl
    next sampler _ =>
      simp only [mapNative, h.closed]

theorem destroySampler_mapNative (h : Q.Forgets P f) (handle : ℕ) (r : ρ) (s : ObjectStore κ' σ) :
    (s.mapNative f).destroySampler P handle r =
      ((s.destroySampler Q handle r).1.mapNative f,(s.destroySampler Q handle r).2) := by
  unfold destroySampler
  rw [show (s.mapNative f).samplers = s.samplers from rfl]
  split
  · rfl
  · exact Prod.ext
      (samplerObjFree_mapNative h _ r { s with samplers := s.samplers.erase handle }) rfl

theorem destroySample_mapNative (handle : ℕ) (s : ObjectStore κ' σ) :
    (s.mapNative f).destroySample handle =
      ((s.destroySample handle).1.mapNative f,(s.destroySample handle).2) := by
  unfold destroySample
  rw [show (s.mapNative f).samples = s.samples from rfl]
  split
  · rfl
  · exact Prod.ext (identityRelease_mapNative _ { s with samples := s.samples.erase handle }) rfl

/-- A step over the whole native state is, on the part, the step over the part. -/
theorem step_mapNative (h : Q.Forgets P f) (s : ObjectStore κ' σ) (op : ObjectOp ρ) :
    (s.mapNative f).step P op = ((s.step Q op).1.mapNative f,(s.step Q op).2) := by
  cases op with
  | openSampler values scope r => exact openSampler_mapNative h values scope r s
  | readSampler handle r => exact readSampler_mapNative h handle r s
  | closeSampler handle r => exact closeSampler_mapNative h handle r s
  | destroySampler handle r => exact destroySampler_mapNative h handle r s
  | destroySample handle => exact destroySample_mapNative handle s

theorem run_mapNative (h : Q.Forgets P f) (s : ObjectStore κ' σ) (ops : List (ObjectOp ρ)) :
    outputs (step P) (s.mapNative f) ops = outputs (step Q) s ops ∧
    final (step P) (s.mapNative f) ops = (final (step Q) s ops).mapNative f := by
  induction ops generalizing s with
  | nil => exact ⟨rfl,rfl⟩
  | cons op ops ih =>
    obtain ⟨houts,hfinal⟩ := ih (s.step Q op).1
    rw [outputs_cons, final_cons, step_mapNative h, outputs_cons, final_cons]
    exact ⟨congrArg _ houts,hfinal⟩

end

end ObjectStore

/-- Why the assertions of a backend hold: what it admits it may open, what it opened it may read, and
what it read it may read again. -/
structure Platform.Guards (P : Platform κ σ ρ) (a : Assertions κ σ ρ) : Prop where
  admits : ∀ {ms scope r k k' supported}, ms ≠ [] → ms.Nodup →
    P.samplerSupportedMetrics (maskOf ms) scope r k = (k',.ok supported) →
    (∀ m ∈ ms, requests supported m.mask = true) → a.opens (maskOf ms) scope = true
  opened : ∀ {metrics scope r k k' sampler}, a.opens metrics scope = true →
    P.samplerOpen metrics scope none r k = (k',.ok sampler) → a.Readable sampler
  read : ∀ {sampler snapshot r k k' sampler' outcome}, a.Readable sampler →
    P.samplerRead sampler snapshot r k = (k',sampler',outcome) → a.Readable sampler'

theorem admitMetrics_ok {values : List (Option MetricId)} {seen ms : List MetricId} {metrics : UInt32}
    (hseen : seen.Nodup) (h : admitMetrics values (maskOf seen) seen = .ok (metrics,ms)) :
    ms.Nodup ∧ metrics = maskOf ms ∧ ms.map some = seen.map some ++ values := by
  induction values generalizing seen with
  | nil =>
    cases h
    exact ⟨hseen,rfl,by simp⟩
  | cons value values ih =>
    cases value with
    | none => cases h
    | some m =>
      unfold admitMetrics at h
      split at h
      · cases h
      next hnew =>
        rw [← maskOf_concat] at h
        have hm : m ∉ seen := fun hm => hnew (requests_maskOf.mpr hm)
        obtain ⟨hnodup,hmask,hall⟩ := ih (List.nodup_append.mpr ⟨hseen,by simp,by
          intro a ha b hb hab
          cases List.mem_singleton.mp hb
          exact hm (hab ▸ ha)⟩) h
        exact ⟨hnodup,hmask,by simpa using hall⟩

theorem Platform.asserting_opened {P : Platform κ σ ρ} {a : Assertions κ σ ρ} {metrics : UInt32}
    {scope : ScopeId} {sampler : Option σ} {r : ρ} {k k' : κ × Bool} {x : Except (Error × Option σ) σ}
    (h : (P.asserting a).samplerOpen metrics scope sampler r k = (k',x)) :
    P.samplerOpen metrics scope sampler r k.1 = (k'.1,x) ∧ k'.2 = (k.2 && a.opens metrics scope) := by
  cases h
  exact ⟨rfl,rfl⟩

theorem Platform.asserting_read {P : Platform κ σ ρ} {a : Assertions κ σ ρ} {sampler : σ} {r : ρ}
    {snapshot : Snapshot} {k k' : κ × Bool} {x : σ × ReadOutcome}
    (h : (P.asserting a).samplerRead sampler snapshot r k = (k',x)) :
    P.samplerRead sampler snapshot r k.1 = (k'.1,x) ∧ k'.2 = (k.2 && a.reads sampler r k.1) := by
  cases h
  exact ⟨rfl,rfl⟩

namespace ObjectStore
variable {P : Platform κ σ ρ} {a : Assertions κ σ ρ}

/-- No assertion has failed, and every open sampler can be read without one failing. -/
def Asserted (a : Assertions κ σ ρ) (s : ObjectStore (κ × Bool) σ) : Prop :=
  s.native.2 = true ∧ Served (fun _ sampler => a.Readable sampler) s.samplers

theorem samplerObjFree_flag (obj : SamplerObj σ) (r : ρ) (s : ObjectStore (κ × Bool) σ) :
    (s.samplerObjFree (P.asserting a) obj r).native.2 = s.native.2 := by
  cases hobj : obj.sampler with
  | none => rw [samplerObjFree_native_of_none _ hobj]
  | some sampler =>
    rw [samplerObjFree_native_of_some _ hobj]
    rfl

theorem Asserted.openAdmitted (hP : P.Guards a) {s : ObjectStore (κ × Bool) σ} (h : s.Asserted a)
    {metrics : UInt32} {scope : ScopeId} (hopens : a.opens metrics scope = true)
    (metricOrder : List MetricId) (r : OpenAnswers ρ) :
    (s.openAdmitted (P.asserting a) metrics metricOrder scope r).1.Asserted a := by
  obtain ⟨hflag,hserved⟩ := h
  generalize hx : s.openAdmitted (P.asserting a) metrics metricOrder scope r = x
  cases hx ▸ openAdmitted_cases (P.asserting a) metrics metricOrder scope r s with
  | failed obj left named opened =>
    obtain ⟨-,hnext⟩ := Platform.asserting_opened opened
    refine ⟨?_,by simpa using hserved⟩
    rw [samplerObjFree_flag, hnext, hflag, hopens]
    rfl
  | unread obj held named opened read result =>
    obtain ⟨hopen,hnext⟩ := Platform.asserting_opened opened
    obtain ⟨-,hlast⟩ := Platform.asserting_read read
    refine ⟨?_,by simpa using hserved⟩
    rw [samplerObjFree_flag, hlast, hnext, hflag, hopens, hP.opened hopens hopen _ _]
    rfl
  | opened obj held named requested ordered opened read result =>
    obtain ⟨hopen,hnext⟩ := Platform.asserting_opened opened
    obtain ⟨hread,hlast⟩ := Platform.asserting_read read
    have hreads := hP.opened hopens hopen
    refine ⟨?_,hserved.insert _ fun sampler hsampler => ?_⟩
    · rw [hlast, hnext, hflag, hopens, hreads _ _]
      rfl
    · cases held.symm.trans hsampler
      exact hP.read hreads hread

theorem Asserted.openSampler (hP : P.Guards a) {s : ObjectStore (κ × Bool) σ} (h : s.Asserted a)
    (values : List (Option MetricId)) (scope : Option ScopeId) (r : OpenAnswers ρ) :
    (s.openSampler (P.asserting a) values scope r).1.Asserted a := by
  unfold ObjectStore.openSampler
  split
  · exact h
  next hvalues =>
    split
    · exact h
    next metrics ms names =>
      obtain ⟨hnodup,rfl,hall⟩ := admitMetrics_ok List.nodup_nil names
      have hne : ms ≠ [] := by
        rintro rfl
        exact hvalues (by simpa using hall.symm)
      rcases hs : P.samplerSupportedMetrics (maskOf ms) (scope.getD .currentThread) r.supported
        s.native.1 with ⟨native,e | supported⟩
      · have hq : (P.asserting a).samplerSupportedMetrics (maskOf ms) (scope.getD .currentThread)
            r.supported s.native = ((native,s.native.2),.error e) := by
          simp only [Platform.asserting, hs]
        simp only [hq]
        exact h
      · have hq : (P.asserting a).samplerSupportedMetrics (maskOf ms) (scope.getD .currentThread)
            r.supported s.native = ((native,s.native.2),.ok supported) := by
          simp only [Platform.asserting, hs]
        simp only [hq]
        split
        · exact h
        next hwithin =>
          have hsupported := (rejected_eq_zero_iff ms supported).mp (not_not.mp hwithin)
          exact Asserted.openAdmitted (s := { s with native := (native,s.native.2) }) hP ⟨h.1,h.2⟩
            (hP.admits hne hnodup hs hsupported) ms r

theorem Asserted.readSampler (hP : P.Guards a) {s : ObjectStore (κ × Bool) σ} (h : s.Asserted a)
    (handle : ℕ) (r : ReadAnswers ρ) : (s.readSampler (P.asserting a) handle r).1.Asserted a := by
  obtain ⟨hflag,hserved⟩ := h
  have hread : ∀ {obj : SamplerObj σ} {opening sampler native sampler' outcome},
      s.samplers.lookup handle = some ⟨obj,opening⟩ → obj.sampler = some sampler →
      (P.asserting a).samplerRead sampler r.current r.read s.native = (native,sampler',outcome) →
      Asserted a { s with
        native
        samplers := s.samplers.insert handle ⟨{ obj with sampler := some sampler' },opening⟩ } := by
    intro obj opening sampler native sampler' outcome found held read
    obtain ⟨hread,hnext⟩ := Platform.asserting_read read
    have hreads : a.Readable sampler := hserved handle ⟨obj,opening⟩ sampler found held
    refine ⟨?_,hserved.insert _ fun sampler'' hsampler => ?_⟩
    · change native.2 = true
      rw [hnext, hflag, hreads _ _]
      rfl
    · cases hsampler
      exact hP.read hreads hread
  generalize hx : s.readSampler (P.asserting a) handle r = x
  cases hx ▸ readSampler_cases (P.asserting a) handle r s with
  | noObject absent => exact ⟨hflag,hserved⟩
  | closed found gone => exact ⟨hflag,hserved⟩
  | failed found held read result => exact hread found held read
  | read found held read result taken =>
    have hnext := hread found held read
    cases taken with
    | clock backwards => exact hnext
    | dropped sample same forwards failed => simpa [Asserted] using hnext
    | taken sample same forwards complete rest fresh => simpa [Asserted] using hnext

theorem Asserted.step (hP : P.Guards a) {s : ObjectStore (κ × Bool) σ} (h : s.Asserted a)
    (op : ObjectOp ρ) : (s.step (P.asserting a) op).1.Asserted a := by
  cases op with
  | openSampler values scope r => exact h.openSampler hP values scope r
  | readSampler handle r => exact h.readSampler hP handle r
  | closeSampler handle r =>
    obtain ⟨hflag,hserved⟩ := h
    simp only [ObjectStore.step, closeSampler]
    split
    · exact ⟨hflag,hserved⟩
    · split
      · exact ⟨hflag,hserved⟩
      · exact ⟨hflag,hserved.insert _ fun sampler hsampler => by cases hsampler⟩
  | destroySampler handle r =>
    obtain ⟨hflag,hserved⟩ := h
    simp only [ObjectStore.step, destroySampler]
    split
    · exact ⟨hflag,hserved⟩
    · refine ⟨(samplerObjFree_flag _ _ _).trans hflag,?_⟩
      rw [samplerObjFree_samplers]
      exact hserved.erase handle
  | destroySample handle =>
    simp only [ObjectStore.step, destroySample]
    split
    · exact h
    · simpa [Asserted] using h

/-- In a run from no objects no assertion fails, and the build that checks them returns what the other
one returns. -/
theorem run_asserting (hP : P.Guards a) (native : κ) (ops : List (ObjectOp ρ)) :
    (final (step (P.asserting a)) (.start (native,true)) ops).native.2 = true ∧
    outputs (step (P.asserting a)) (.start (native,true)) ops = outputs (step P) (.start native) ops := by
  constructor
  · have hstart : Asserted a (.start (native,true) : ObjectStore (κ × Bool) σ) :=
      ⟨rfl,fun handle x sampler h => by cases h⟩
    exact (final_invariant_all (step (P.asserting a)) (I := Asserted a)
      (fun s op h => h.step hP op) ops hstart).1
  · exact (run_mapNative (P.asserting_forgets a) (.start (native,true)) ops).1.symm

end ObjectStore

namespace Linux

/-- `perfidious_scale_uint64` in the build that checks its assertion, with what came of the check. -/
def scaleAsserting (int128 : Bool) (value multiplier divisor : UInt64) : Option UInt64 × Bool :=
  (scaleUint64 int128 value multiplier divisor,divisor != 0)

/-- The loop body of `perfidious_platform_sampler_read` in that build. -/
def advanceAsserting (int128 : Bool) (metric : MetricId) (counter : Counter) (r : RawRead) :
    Except Error Counter × Bool :=
  if r.length ≠ sizeofReading then
    (.error (samplerError "read" metric (if r.length < 0 then r.errno else EIO)),true)
  else if r.reading.value < counter.previous.value ∨ r.reading.enabled < counter.previous.enabled ∨
      r.reading.running < counter.previous.running then
    (.error (samplerError "counter monotonicity check" metric EIO),true)
  else
    let value := r.reading.value - counter.previous.value
    let enabled := r.reading.enabled - counter.previous.enabled
    let running := r.reading.running - counter.previous.running
    if running > enabled ∨ (running = 0 ∧ (enabled ≠ 0 ∨ value ≠ 0)) then
      (.error (samplerError "counter running-time check" metric EAGAIN),true)
    else
      let (scaled,held) :=
        if running ≠ 0 then scaleAsserting int128 value enabled running else (some 0,true)
      match scaled with
      | none => (.error (counterOverflow metric),held)
      | some scaled =>
        if scaled > uint64Max - counter.total then (.error (counterOverflow metric),held)
        else (.ok { counter with total := counter.total + scaled, previous := r.reading },held)

def readCounterAsserting (int128 : Bool) (read : MetricId → ReadReplies) (metric : MetricId)
    (counter : Counter) : Except Error Counter × Bool :=
  if counter.fd < 0 then (.ok counter,true)
  else advanceAsserting int128 metric counter (readRetrying (read metric).earlier (read metric).last)

def readCountersAsserting (int128 : Bool) (read : MetricId → ReadReplies) :
    List MetricId → (MetricId → Counter) → Except Error (MetricId → Counter) × Bool
  | [],next => (.ok next,true)
  | m::ms,next =>
    match readCounterAsserting int128 read m (next m) with
    | (.error e,held) => (.error e,held)
    | (.ok c,held) =>
      let (result,rest) := readCountersAsserting int128 read ms (Function.update next m c)
      (result,held && rest)

/-- The loop body only divides by a running time that is not zero. -/
theorem advanceAsserting_eq (int128 : Bool) (metric : MetricId) (counter : Counter) (r : RawRead) :
    advanceAsserting int128 metric counter r = (advance int128 metric counter r,true) := by
  unfold advanceAsserting advance
  split
  · rfl
  split
  · rfl
  dsimp only
  split
  · rfl
  by_cases hrunning : r.reading.running - counter.previous.running ≠ 0
  · rw [if_pos hrunning, if_pos hrunning]
    have hheld : (r.reading.running - counter.previous.running != 0) = true := bne_iff_ne.mpr hrunning
    unfold scaleAsserting
    rw [hheld]
    dsimp only
    cases scaleUint64 int128 (r.reading.value - counter.previous.value)
        (r.reading.enabled - counter.previous.enabled) (r.reading.running - counter.previous.running) with
    | none => rfl
    | some scaled =>
      dsimp only
      split <;> rfl
  · rw [if_neg hrunning, if_neg hrunning]
    dsimp only
    split <;> rfl

theorem readCounterAsserting_eq (int128 : Bool) (read : MetricId → ReadReplies) (metric : MetricId)
    (counter : Counter) :
    readCounterAsserting int128 read metric counter = (readCounter int128 read metric counter,true) := by
  unfold readCounterAsserting readCounter
  split
  · rfl
  · exact advanceAsserting_eq ..

/-- The metric loop of the build that checks is the loop of the other one. -/
theorem readCountersAsserting_eq (int128 : Bool) (read : MetricId → ReadReplies) (ms : List MetricId)
    (next : MetricId → Counter) :
    readCountersAsserting int128 read ms next = (readCounters int128 read ms next,true) := by
  induction ms generalizing next with
  | nil => rfl
  | cons m ms ih =>
    unfold readCountersAsserting readCounters
    rw [readCounterAsserting_eq]
    cases readCounter int128 read m (next m) with
    | error e => rfl
    | ok c =>
      dsimp only
      rw [ih]
      rfl

/-- `linux/sampler.c` asserts the scope of a sampler that it opens, and `linux/counter_math.h` each
divisor with which a read scales a counter. -/
def assertions (int128 : Bool) : Assertions Kernel PlatformSampler Answers where
  opens _ scope := scope == .currentThread
  reads sampler r k :=
    let replies := k.replies sampler.counters r.toReplies
    replies.gettid != sampler.threadId ||
      (readCountersAsserting int128 replies.read MetricId.all sampler.counters).2

theorem readable (int128 : Bool) (sampler : PlatformSampler) : (assertions int128).Readable sampler := by
  intro r k
  change (_ || (readCountersAsserting ..).2) = true
  rw [readCountersAsserting_eq, Bool.or_true]

end Linux

theorem Linux.guards (int128 : Bool) : (Linux.platform int128).Guards (Linux.assertions int128) where
  admits := by
    intro ms scope r k k' supported hne _ hsupported hall
    change Linux.platformSamplerSupportedMetrics (maskOf ms) scope r k = _ at hsupported
    unfold Linux.platformSamplerSupportedMetrics at hsupported
    by_cases hscope : scope = .currentThread
    · exact beq_iff_eq.mpr hscope
    · rw [if_pos hscope] at hsupported
      cases hsupported
      obtain ⟨m,hm⟩ := List.exists_mem_of_ne_nil ms hne
      have hnone := hall m hm
      rw [requests, UInt32.zero_and] at hnone
      cases hnone
  opened _ _ := Linux.readable int128 _
  read _ _ := Linux.readable int128 _

/-- `darwin/sampler.c` asserts that a sampler of a thread is read for its CPU time only. -/
def Darwin.assertions : Assertions Unit Darwin.PlatformSampler Darwin.Replies where
  opens metrics scope := scope == .currentProcess || metrics == MetricId.cpuTime.mask
  reads sampler _ _ := sampler.scope == .currentProcess || sampler.metrics == MetricId.cpuTime.mask

theorem Darwin.guards (host : Darwin.Host) : (Darwin.platform host).Guards Darwin.assertions where
  admits := by
    intro ms scope r k k' supported hne hnodup hsupported hall
    cases scope with
    | currentProcess => rfl
    | currentThread =>
      cases hsupported
      have hcpu : ∀ m ∈ ms, m = .cpuTime := by
        intro m hm
        have hreq := hall m hm
        cases m <;> first | rfl | cases hreq
      have hms : ms = [.cpuTime] := by
        cases ms with
        | nil => exact absurd rfl hne
        | cons m rest =>
          obtain rfl := hcpu m (by simp)
          cases rest with
          | nil => rfl
          | cons m' rest =>
            obtain rfl := hcpu m' (by simp)
            simp at hnodup
      rw [hms]
      rfl
  opened := by
    intro metrics scope r k k' sampler hopens hopen
    cases scope with
    | currentProcess =>
      cases hopen
      exact fun _ _ => hopens
    | currentThread =>
      change (k,Darwin.platformSamplerOpen metrics .currentThread none r) = _ at hopen
      unfold Darwin.platformSamplerOpen at hopen
      dsimp only at hopen
      split at hopen <;> cases hopen
      exact fun _ _ => hopens
  read := by
    intro sampler snapshot r k k' sampler' outcome hreads hread
    have hkept : (Darwin.platformSamplerRead host sampler r).1 = sampler' :=
      congrArg (fun answer => answer.2.1) hread
    rw [← hkept, (Darwin.read_published host sampler r).1]
    exact fun _ _ => hreads r k

namespace Windows

/-- `windows/sampler.c` asserts that page faults are read of a process and context switches of a thread.
The variable `profile_data` of a read is only set for a thread, if its metrics need it. -/
def asserted (metrics : UInt32) (scope : ScopeId) : Bool :=
  let profileSet := scope == .currentThread && requests metrics threadProfileMetrics
  (!requests metrics MetricId.pageFaults.mask || scope == .currentProcess) &&
  (!requests metrics MetricId.contextSwitches.mask || scope == .currentThread && profileSet) &&
  (!requests metrics MetricId.cpuCycles.mask || scope == .currentProcess || profileSet)

def assertions : Assertions Kernel NativeSampler Answers where
  opens := asserted
  reads sampler _ _ := asserted sampler.metrics sampler.scope

theorem asserted_of_supported {ms : List MetricId} {scope : ScopeId}
    (hall : ∀ m ∈ ms, requests (platformSamplerSupportedMetrics (maskOf ms) scope) m.mask = true) :
    asserted (maskOf ms) scope = true := by
  have hlack : ∀ m : MetricId, requests (platformSamplerSupportedMetrics (maskOf ms) scope) m.mask = false →
      requests (maskOf ms) m.mask = false := by
    intro m hm
    by_contra hreq
    rw [hall m (requests_maskOf.mp (Bool.eq_true_of_not_eq_false hreq))] at hm
    cases hm
  cases scope with
  | currentProcess =>
    have hswitches := hlack .contextSwitches (by simp only [platformSamplerSupportedMetrics]; decide)
    simp [asserted,hswitches]
  | currentThread =>
    have hfaults := hlack .pageFaults (by simp only [platformSamplerSupportedMetrics]; decide)
    simp only [asserted, threadProfileMetrics, requests_or, hfaults]
    cases requests (maskOf ms) MetricId.contextSwitches.mask <;>
      cases requests (maskOf ms) MetricId.cpuCycles.mask <;> rfl

theorem guards : platform.Guards assertions where
  admits := by
    intro ms scope r k k' supported _ _ hsupported hall
    cases hsupported
    exact asserted_of_supported hall
  opened := by
    intro metrics scope r k k' sampler hopens hopen
    obtain ⟨threadId,hsampler⟩ := platformSamplerOpen_opened hopen
    intro _ _
    change asserted sampler.toPlatformSampler.metrics sampler.toPlatformSampler.scope = true
    rw [hsampler]
    exact hopens
  read := by
    intro sampler snapshot r k k' sampler' outcome hreads hread
    cases hread
    obtain ⟨hmetrics,hscope⟩ := read_kept sampler.toPlatformSampler (k.replies sampler r.toReplies)
    intro _ _
    change asserted (platformSamplerRead _ _).1.metrics (platformSamplerRead _ _).1.scope = true
    rw [hmetrics, hscope]
    exact hreads r k

end Windows

/-- No assertion of a sampler backend ever fails, among them that of the divisors of a read, and no read
uses `profile_data` without having set it: in every run of the sampler API from no objects, whatever the
system answers, the build that checks them returns what the build without them returns. -/
theorem assertions_hold :
    (∀ int128 native ops,
      (final (ObjectStore.step ((Linux.platform int128).asserting (Linux.assertions int128)))
        (.start (native,true)) ops).native.2 = true ∧
      outputs (ObjectStore.step ((Linux.platform int128).asserting (Linux.assertions int128)))
        (.start (native,true)) ops = outputs (ObjectStore.step (Linux.platform int128)) (.start native) ops) ∧
    (∀ host native ops,
      (final (ObjectStore.step ((Darwin.platform host).asserting Darwin.assertions))
        (.start (native,true)) ops).native.2 = true ∧
      outputs (ObjectStore.step ((Darwin.platform host).asserting Darwin.assertions))
        (.start (native,true)) ops = outputs (ObjectStore.step (Darwin.platform host)) (.start native) ops) ∧
    ∀ native ops,
      (final (ObjectStore.step (Windows.platform.asserting Windows.assertions))
        (.start (native,true)) ops).native.2 = true ∧
      outputs (ObjectStore.step (Windows.platform.asserting Windows.assertions))
        (.start (native,true)) ops = outputs (ObjectStore.step Windows.platform) (.start native) ops :=
  ⟨fun int128 => ObjectStore.run_asserting (Linux.guards int128),
    fun host => ObjectStore.run_asserting (Darwin.guards host),
    ObjectStore.run_asserting Windows.guards⟩

end Perfidious
