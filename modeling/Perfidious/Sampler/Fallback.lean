import Perfidious.Sampler.Admission
import Perfidious.Sampler.WindowsPlatform
import Perfidious.Sampler.DarwinPlatform
import Perfidious.Sampler.Descriptors

/-! The documented way to open a sampler with what the system supports (`docs/SAMPLER_API.md`): catch
`UnsupportedMetricException`, drop its `$unsupportedMetrics` from the request and try again. -/
namespace Perfidious
open Library

variable {κ σ ρ : Type}

/-- How the fallback ends. `unanswered` is for want of answers to the next attempt. -/
inductive Ending
  | opened (handle : ℕ)
  | noneLeft
  | failed (e : Error)
  | unanswered
  deriving DecidableEq

/-- The loop `while ($metrics !== [])`, with the answers to each attempt. Other exceptions than
`UnsupportedMetricException` pass through. -/
def ObjectStore.fallback (P : Platform κ σ ρ) (scope : Option ScopeId) :
    List (OpenAnswers ρ) → List MetricId → ObjectStore κ σ → ObjectStore κ σ × Ending
  | [],ms,s => (s,if ms.isEmpty then .noneLeft else .unanswered)
  | r::rs,ms,s =>
    if ms.isEmpty then (s,.noneLeft)
    else
      let (s,outcome) := s.openSampler P (ms.map some) scope r
      match outcome.result with
      | .sampler handle => (s,.opened handle)
      | .thrown (.unsupported _ _ unsupportedMetrics) =>
        s.fallback P scope rs (ms.filter (· ∉ unsupportedMetrics))
      | .thrown (.exception e) => (s,.failed e)
      | _ => (s,.unanswered)

/-- Asked for `asked` with the answers to one of the attempts, the backend reports this mask. -/
def Platform.Probes (P : Platform κ σ ρ) (scope : ScopeId) (rs : List (OpenAnswers ρ))
    (asked : List MetricId) (supported : UInt32) : Prop :=
  ∃ r ∈ rs, ∃ k k', P.samplerSupportedMetrics (maskOf asked) scope r.supported k = (k',.ok supported)

/-- The backend was asked for the metric, among others, and its mask lacks it. -/
def Platform.Refuses (P : Platform κ σ ρ) (scope : ScopeId) (rs : List (OpenAnswers ρ)) (m : MetricId) :
    Prop :=
  ∃ asked supported, P.Probes scope rs asked supported ∧ m ∈ asked ∧ requests supported m.mask = false

/-- The error is the backend's own, in one of the attempts. -/
def Platform.Throws (P : Platform κ σ ρ) (scope : ScopeId) (rs : List (OpenAnswers ρ)) (e : Error) :
    Prop :=
  ∃ r ∈ rs, (∃ metrics k k', P.samplerSupportedMetrics metrics scope r.supported k = (k',.error e)) ∨
    (∃ metrics k k' sampler, P.samplerOpen metrics scope none r.opened k = (k',.error (e,sampler))) ∨
    ∃ sampler snapshot k k' sampler' outcome,
      P.samplerRead sampler snapshot r.read k = (k',sampler',outcome) ∧ outcome.result = .error e

theorem Platform.Probes.cons {P : Platform κ σ ρ} {scope : ScopeId} {rs : List (OpenAnswers ρ)}
    {asked : List MetricId} {supported : UInt32} (h : P.Probes scope rs asked supported)
    (r : OpenAnswers ρ) : P.Probes scope (r::rs) asked supported := by
  obtain ⟨r',hr',hprobed⟩ := h
  exact ⟨r',List.mem_cons_of_mem _ hr',hprobed⟩

theorem Platform.Refuses.cons {P : Platform κ σ ρ} {scope : ScopeId} {rs : List (OpenAnswers ρ)}
    {m : MetricId} (h : P.Refuses scope rs m) (r : OpenAnswers ρ) : P.Refuses scope (r::rs) m := by
  obtain ⟨asked,supported,hprobes,hrest⟩ := h
  exact ⟨asked,supported,hprobes.cons r,hrest⟩

theorem Platform.Throws.cons {P : Platform κ σ ρ} {scope : ScopeId} {rs : List (OpenAnswers ρ)}
    {e : Error} (h : P.Throws scope rs e) (r : OpenAnswers ρ) : P.Throws scope (r::rs) e := by
  obtain ⟨r',hr',hthrown⟩ := h
  exact ⟨r',List.mem_cons_of_mem _ hr',hthrown⟩

theorem admitMetrics_some (seen : List MetricId) {ms : List MetricId} (h : (seen ++ ms).Nodup) :
    admitMetrics (ms.map some) (maskOf seen) seen = .ok (maskOf (seen ++ ms),seen ++ ms) := by
  induction ms generalizing seen with
  | nil => simp [admitMetrics]
  | cons m ms ih =>
    have hm : requests (maskOf seen) m.mask ≠ true := by
      rw [ne_eq, requests_maskOf]
      intro hmem
      exact (List.nodup_append.mp h).2.2 m hmem m List.mem_cons_self rfl
    rw [List.append_cons] at h ⊢
    rw [List.map_cons, admitMetrics, if_neg hm, ← maskOf_concat]
    exact ih _ h

namespace ObjectStore

/-- Inversion of one attempt. -/
inductive AttemptCase (P : Platform κ σ ρ) (ms : List MetricId) (scope : ScopeId) (r : OpenAnswers ρ)
    (s : ObjectStore κ σ) : ObjectStore κ σ × ObjectOutcome → Prop
  | unprobed {native e}
      (probed : P.samplerSupportedMetrics (maskOf ms) scope r.supported s.native = (native,.error e)) :
      AttemptCase P ms scope r s ({ s with native },⟨.thrown (.exception e),0⟩)
  | refused {native supported message}
      (probed : P.samplerSupportedMetrics (maskOf ms) scope r.supported s.native =
        (native,.ok supported))
      (lacks : ∃ m ∈ ms, requests supported m.mask = false) :
      AttemptCase P ms scope r s ({ s with native },
        ⟨.thrown (.unsupported message scope (missing ms supported)),0⟩)
  | admitted {native supported x}
      (probed : P.samplerSupportedMetrics (maskOf ms) scope r.supported s.native =
        (native,.ok supported))
      (all : ∀ m ∈ ms, requests supported m.mask = true)
      (opened : OpenCase P (maskOf ms) ms scope r { s with native } { s with
        native
        identities := s.identities.insert (r.identity.pick s.identities.keys) 1 } x) :
      AttemptCase P ms scope r s x

theorem attempt_cases (P : Platform κ σ ρ) {ms : List MetricId} (hne : ms ≠ []) (hnodup : ms.Nodup)
    (scope : Option ScopeId) (r : OpenAnswers ρ) (s : ObjectStore κ σ) :
    AttemptCase P ms (scope.getD .currentThread) r s (s.openSampler P (ms.map some) scope r) := by
  have hadmit : admitMetrics (ms.map some) 0 [] = .ok (maskOf ms,ms) :=
    admitMetrics_some [] hnodup
  unfold openSampler
  rw [if_neg (by simpa using hne), hadmit]
  dsimp only
  split
  next native e hs => exact .unprobed hs
  next native supported hs =>
    split
    next hlack =>
      rw [missing_eq]
      refine .refused hs ?_
      by_contra hall
      refine hlack ((rejected_eq_zero_iff ms supported).mpr fun m hm => ?_)
      by_contra hreq
      exact hall ⟨m,hm,Bool.eq_false_iff.mpr hreq⟩
    next hwithin =>
      exact .admitted hs ((rejected_eq_zero_iff ms supported).mp (not_not.mp hwithin))
        (openAdmitted_cases P (maskOf ms) ms _ r { s with native })

theorem OpenCase.ends {P : Platform κ σ ρ} {metrics : UInt32} {ms : List MetricId} {scope : ScopeId}
    {r : OpenAnswers ρ} {rs : List (OpenAnswers ρ)} (hr : r ∈ rs) {s block : ObjectStore κ σ}
    {x : ObjectStore κ σ × ObjectOutcome}
    (h : OpenCase P metrics ms scope r s block x) :
    x.1.samples = block.samples ∧
    ((∃ e, x.2.result = .thrown (.exception e) ∧ x.1.samplers = block.samplers ∧ P.Throws scope rs e) ∨
      x.2.result = .sampler (r.handle.pick s.samplers.keys) ∧
      ∃ live, live.object.metricOrder = ms ∧
        x.1.samplers = block.samplers.insert (r.handle.pick s.samplers.keys) live) := by
  cases h with
  | @failed native e sampler obj left named opened =>
    refine ⟨samplerObjFree_samples obj r.cleanup _,.inl ⟨e,rfl,samplerObjFree_samplers P _ _ _,?_⟩⟩
    exact ⟨r,hr,.inr (.inl ⟨metrics,s.native,native,sampler,opened⟩)⟩
  | @unread native sampler native' sampler' outcome e obj held named opened read result =>
    refine ⟨samplerObjFree_samples obj r.cleanup _,.inl ⟨e,rfl,samplerObjFree_samplers P _ _ _,?_⟩⟩
    exact ⟨r,hr,.inr (.inr ⟨sampler,_,native,native',sampler',outcome,read,result⟩)⟩
  | opened obj held named requested ordered opened read result =>
    exact ⟨rfl,.inr ⟨rfl,⟨obj,_⟩,ordered,rfl⟩⟩

variable {P : Platform κ σ ρ} {scope : Option ScopeId}

@[simp] theorem fallback_nil (rs : List (OpenAnswers ρ)) (s : ObjectStore κ σ) :
    s.fallback P scope rs [] = (s,.noneLeft) := by
  cases rs <;> rfl

/-- An attempt that is not the last one reports metrics as unsupported, and nothing else happens. -/
inductive RoundCase (P : Platform κ σ ρ) (scope : Option ScopeId) (r : OpenAnswers ρ)
    (rs : List (OpenAnswers ρ)) (ms : List MetricId) (s : ObjectStore κ σ) :
    ObjectStore κ σ × Ending → Prop
  | retry {native supported}
      (probed : P.samplerSupportedMetrics (maskOf ms) (scope.getD .currentThread) r.supported s.native =
        (native,.ok supported))
      (lacks : ∃ m ∈ ms, requests supported m.mask = false) :
      RoundCase P scope r rs ms s (fallback P scope rs (ms.filter (· ∉ missing ms supported)) { s with native })
  | failed {native e}
      (probed : P.samplerSupportedMetrics (maskOf ms) (scope.getD .currentThread) r.supported s.native =
        (native,.error e)) :
      RoundCase P scope r rs ms s ({ s with native },.failed e)
  | ended {native supported x ending}
      (probed : P.samplerSupportedMetrics (maskOf ms) (scope.getD .currentThread) r.supported s.native =
        (native,.ok supported))
      (all : ∀ m ∈ ms, requests supported m.mask = true)
      (opened : OpenCase P (maskOf ms) ms (scope.getD .currentThread) r { s with native } { s with
        native
        identities := s.identities.insert (r.identity.pick s.identities.keys) 1 } x)
      (result : (∃ handle, x.2.result = .sampler handle ∧ ending = .opened handle) ∨
        ∃ e, x.2.result = .thrown (.exception e) ∧ ending = .failed e) :
      RoundCase P scope r rs ms s (x.1,ending)

theorem fallback_cases {ms : List MetricId} (hne : ms ≠ []) (hnodup : ms.Nodup) (r : OpenAnswers ρ)
    (rs : List (OpenAnswers ρ)) (s : ObjectStore κ σ) :
    RoundCase P scope r rs ms s (s.fallback P scope (r::rs) ms) := by
  rw [fallback, if_neg (by simpa using hne)]
  generalize hx : s.openSampler P (ms.map some) scope r = x
  cases hx ▸ attempt_cases P hne hnodup scope r s with
  | unprobed probed => exact .failed probed
  | refused probed lacks => exact .retry probed lacks
  | admitted probed all opened =>
    obtain ⟨-,⟨e,he,-⟩ | ⟨hopened,-⟩⟩ := opened.ends (List.mem_singleton_self r)
    · simp only [he]
      exact .ended probed all opened (.inr ⟨e,he,rfl⟩)
    · simp only [hopened]
      exact .ended probed all opened (.inl ⟨_,hopened,rfl⟩)

/-- What the fallback leaves behind, by how it ends. -/
structure Settled (P : Platform κ σ ρ) (scope : ScopeId) (rs : List (OpenAnswers ρ))
    (ms : List MetricId) (s : ObjectStore κ σ) (x : ObjectStore κ σ × Ending) : Prop where
  samples : x.1.samples = s.samples
  opened : ∀ handle, x.2 = .opened handle → ∃ kept live, kept ≠ [] ∧ kept.Sublist ms ∧
    (∀ m ∈ ms, m ∉ kept → P.Refuses scope rs m) ∧
    (∃ supported, P.Probes scope rs kept supported ∧ ∀ m ∈ kept, requests supported m.mask = true) ∧
    live.object.metricOrder = kept ∧
    s.samplers.lookup handle = none ∧ x.1.samplers = s.samplers.insert handle live
  noneLeft : x.2 = .noneLeft → x.1.samplers = s.samplers ∧ ∀ m ∈ ms, P.Refuses scope rs m
  failed : ∀ e, x.2 = .failed e → x.1.samplers = s.samplers ∧ P.Throws scope rs e

theorem Settled.nothing (P : Platform κ σ ρ) (scope : ScopeId) (rs : List (OpenAnswers ρ))
    (s : ObjectStore κ σ) : Settled P scope rs [] s (s,.noneLeft) :=
  ⟨rfl,nofun,fun _ => ⟨rfl,by simp⟩,nofun⟩

/-- What holds after a refusal holds of the whole request. -/
theorem Settled.retry {P : Platform κ σ ρ} {scope : ScopeId} {rs : List (OpenAnswers ρ)}
    {ms : List MetricId} {s : ObjectStore κ σ} {r : OpenAnswers ρ} {native : κ} {supported : UInt32}
    {x : ObjectStore κ σ × Ending}
    (hprobed : P.samplerSupportedMetrics (maskOf ms) scope r.supported s.native = (native,.ok supported))
    (h : Settled P scope rs (ms.filter (· ∉ missing ms supported)) { s with native } x) :
    Settled P scope (r::rs) ms s x := by
  have hrefused : ∀ m ∈ ms, m ∉ ms.filter (· ∉ missing ms supported) → P.Refuses scope (r::rs) m := by
    intro m hm hdropped
    have hmissing : m ∈ missing ms supported := by
      by_contra hnot
      exact hdropped (List.mem_filter.mpr ⟨hm,by simpa using hnot⟩)
    have hlacks := (List.mem_filter.mp hmissing).2
    exact ⟨ms,supported,⟨r,List.mem_cons_self,s.native,native,hprobed⟩,hm,by simpa using hlacks⟩
  refine ⟨h.samples,fun handle he => ?_,fun he => ?_,fun e he => ?_⟩
  · obtain ⟨kept,live,hne,hkept,hlost,⟨mask,hprobes,hall⟩,hrest⟩ := h.opened handle he
    refine ⟨kept,live,hne,hkept.trans List.filter_sublist,fun m hm hnot => ?_,
      ⟨mask,hprobes.cons r,hall⟩,hrest⟩
    by_cases hin : m ∈ ms.filter (· ∉ missing ms supported)
    · exact (hlost m hin hnot).cons r
    · exact hrefused m hm hin
  · obtain ⟨hsamplers,hlost⟩ := h.noneLeft he
    refine ⟨hsamplers,fun m hm => ?_⟩
    by_cases hin : m ∈ ms.filter (· ∉ missing ms supported)
    · exact (hlost m hin).cons r
    · exact hrefused m hm hin
  · obtain ⟨hsamplers,hthrows⟩ := h.failed e he
    exact ⟨hsamplers,hthrows.cons r⟩

theorem fallback_settled {ms : List MetricId} (hms : ms.Nodup) (rs : List (OpenAnswers ρ))
    (s : ObjectStore κ σ) : Settled P (scope.getD .currentThread) rs ms s (s.fallback P scope rs ms) := by
  induction rs generalizing ms s with
  | nil =>
    cases ms with
    | nil => exact .nothing P _ _ s
    | cons m ms => exact ⟨rfl,nofun,nofun,nofun⟩
  | cons r rs ih =>
    by_cases hne : ms = []
    · subst hne
      exact .nothing P _ _ s
    generalize hx : s.fallback P scope (r::rs) ms = x
    cases hx ▸ fallback_cases hne hms r rs s with
    | @retry native supported probed lacks => exact (ih (hms.filter _) { s with native }).retry probed
    | @failed native e probed =>
      refine ⟨rfl,nofun,nofun,fun e' he => ?_⟩
      cases he
      exact ⟨rfl,r,List.mem_cons_self,.inl ⟨_,_,_,probed⟩⟩
    | @ended native supported y ending probed all opened result =>
      obtain ⟨hsamples,⟨e,he,hsamplers,hthrows⟩ | ⟨hopened,live,horder,hsamplers⟩⟩ :=
        opened.ends (List.mem_cons_self : r ∈ r::rs)
      · obtain ⟨handle,hh,-⟩ | ⟨e',hh,rfl⟩ := result
        · cases he.symm.trans hh
        · cases he.symm.trans hh
          refine ⟨hsamples,nofun,nofun,fun e' he' => ?_⟩
          cases he'
          exact ⟨hsamplers,hthrows⟩
      · obtain ⟨handle,hh,rfl⟩ | ⟨e',hh,-⟩ := result
        · cases hopened.symm.trans hh
          refine ⟨hsamples,fun handle he => ?_,nofun,nofun⟩
          cases he
          exact ⟨ms,live,hne,List.Sublist.refl ms,fun m hm hnot => absurd hm hnot,
            ⟨supported,⟨r,List.mem_cons_self,_,_,probed⟩,all⟩,horder,Table.lookup_pick _ _,hsamplers⟩
        · cases hopened.symm.trans hh

/-- A round is answered if the one after its refusal would be. -/
theorem answered_of_retry {ms : List MetricId} (hms : ms.Nodup) {r : OpenAnswers ρ}
    {rs : List (OpenAnswers ρ)} (hretry : ∀ k k' supported,
      P.samplerSupportedMetrics (maskOf ms) (scope.getD .currentThread) r.supported k = (k',.ok supported) →
      (∃ m ∈ ms, requests supported m.mask = false) →
      ∀ t, (fallback P scope rs (ms.filter (requests supported ·.mask)) t).2 ≠ .unanswered)
    (s : ObjectStore κ σ) : (s.fallback P scope (r::rs) ms).2 ≠ .unanswered := by
  by_cases hne : ms = []
  · subst hne
    exact nofun
  generalize hx : s.fallback P scope (r::rs) ms = x
  cases hx ▸ fallback_cases hne hms r rs s with
  | @retry native supported probed lacks =>
    have hkept : ms.filter (· ∉ missing ms supported) = ms.filter (requests supported ·.mask) := by
      apply List.filter_congr
      intro m hm
      simp [missing,hm]
    rw [hkept]
    exact hretry _ _ _ probed lacks _
  | failed probed => exact nofun
  | ended probed all opened result =>
    obtain ⟨handle,-,rfl⟩ | ⟨e,-,rfl⟩ := result <;> exact nofun

theorem fallback_answered {ms : List MetricId} (hms : ms.Nodup) {rs : List (OpenAnswers ρ)}
    (hrs : ms.length ≤ rs.length) (s : ObjectStore κ σ) :
    (s.fallback P scope rs ms).2 ≠ .unanswered := by
  induction rs generalizing ms s with
  | nil =>
    obtain rfl := List.eq_nil_of_length_eq_zero (Nat.le_zero.mp hrs)
    exact nofun
  | cons r rs ih =>
    refine answered_of_retry hms (fun k k' supported _ hlacks t => ih (hms.filter _) ?_ t) s
    have hshorter : (ms.filter (requests supported ·.mask)).length < ms.length :=
      List.length_filter_lt_length_iff_exists.mpr (by simpa using hlacks)
    rw [List.length_cons] at hrs
    omega

/-- The fallback on a request without duplicates makes at most one attempt for each metric. If it ends
with a sampler, this one measures a part of the request in its order, which the backend supports, and
the backend refused each of the other metrics; if it ends without one, it leaves the samplers as they
were, either because the backend refused every metric or with an error of the backend, never one about
the request. -/
theorem fallback_settles (P : Platform κ σ ρ) (scope : Option ScopeId) (ms : List MetricId)
    (hms : ms.Nodup) (rs : List (OpenAnswers ρ)) (hrs : ms.length ≤ rs.length) (s : ObjectStore κ σ) :
    (s.fallback P scope rs ms).2 ≠ .unanswered ∧
    Settled P (scope.getD .currentThread) rs ms s (s.fallback P scope rs ms) :=
  ⟨fallback_answered hms hrs s,fallback_settled hms rs s⟩

/-- A request that the backend cannot refuse any more. -/
theorem answered_of_supported {ms : List MetricId} (hms : ms.Nodup) {r : OpenAnswers ρ}
    {rs : List (OpenAnswers ρ)} (hall : ∀ k k' supported,
      P.samplerSupportedMetrics (maskOf ms) (scope.getD .currentThread) r.supported k = (k',.ok supported) →
      ∀ m ∈ ms, requests supported m.mask = true)
    (s : ObjectStore κ σ) : (s.fallback P scope (r::rs) ms).2 ≠ .unanswered := by
  refine answered_of_retry hms (fun k k' supported hprobed hlacks => ?_) s
  obtain ⟨m,hm,hreq⟩ := hlacks
  rw [hall k k' supported hprobed m hm] at hreq
  cases hreq

/-- A backend whose mask tells of each metric whether it is available refuses once at most. -/
theorem answered_of_mask {ms : List MetricId} (hms : ms.Nodup) (available : MetricId → Bool)
    {r₁ r₂ : OpenAnswers ρ} (hmask : ∀ r ∈ [r₁,r₂], ∀ asked k k' supported,
      P.samplerSupportedMetrics (maskOf asked) (scope.getD .currentThread) r.supported k =
        (k',.ok supported) → ∀ m ∈ asked, requests supported m.mask = available m)
    (rs : List (OpenAnswers ρ)) (s : ObjectStore κ σ) :
    (s.fallback P scope (r₁::r₂::rs) ms).2 ≠ .unanswered := by
  refine answered_of_retry hms (fun k k' supported hprobed _ => ?_) s
  refine answered_of_supported (hms.filter _) fun k k' supported' hprobed' m hm => ?_
  obtain ⟨hm',hkept⟩ := List.mem_filter.mp hm
  rw [hmask r₂ (by simp) _ _ _ _ hprobed' m hm, ← hmask r₁ (by simp) _ _ _ _ hprobed m hm']
  exact hkept

/-- What is available does not change between the attempts: a metric that is refused is not available,
and a request that is not refused is for available metrics. -/
def Steady (P : Platform κ σ ρ) (scope : ScopeId) (rs : List (OpenAnswers ρ))
    (available : MetricId → Bool) : Prop :=
  ∀ asked supported, P.Probes scope rs asked supported →
    (∀ m ∈ asked, requests supported m.mask = false → available m = false) ∧
    ((∀ m ∈ asked, requests supported m.mask = true) → ∀ m ∈ asked, available m = true)

/-- The fallback ends with a sampler of the available metrics, in the order of the request, or because
there are none, or with an error of the backend. -/
def Exact (P : Platform κ σ ρ) (scope : ScopeId) (rs : List (OpenAnswers ρ)) (ms : List MetricId)
    (available : MetricId → Bool) (x : ObjectStore κ σ × Ending) : Prop :=
  x.2 ≠ .unanswered ∧
  (∀ handle, x.2 = .opened handle → x.1.metrics handle = some (ms.filter available)) ∧
  (x.2 = .noneLeft → ms.filter available = []) ∧
  ∀ e, x.2 = .failed e → P.Throws scope rs e

theorem Settled.exact {scope : ScopeId} {rs : List (OpenAnswers ρ)} {ms : List MetricId}
    (hms : ms.Nodup) {s : ObjectStore κ σ} {x : ObjectStore κ σ × Ending}
    (h : Settled P scope rs ms s x) (hanswered : x.2 ≠ .unanswered) {available : MetricId → Bool}
    (hsteady : Steady P scope rs available) : Exact P scope rs ms available x := by
  have hrefused : ∀ m, P.Refuses scope rs m → available m = false := by
    rintro m ⟨asked,supported,hprobes,hm,hlack⟩
    exact (hsteady asked supported hprobes).1 m hm hlack
  refine ⟨hanswered,fun handle he => ?_,fun he => ?_,fun e he => (h.failed e he).2⟩
  · obtain ⟨kept,live,-,hkept,hlost,⟨supported,hprobes,hall⟩,horder,-,hsamplers⟩ := h.opened handle he
    have hfilter : kept = ms.filter available := by
      have hin : kept.filter available = kept :=
        List.filter_eq_self.mpr fun m hm => (hsteady kept supported hprobes).2 hall m hm
      have hsub : kept.Sublist (ms.filter available) := hin ▸ hkept.filter available
      refine hsub.eq_of_length_le (List.subperm_of_subset (hms.filter _) fun m hm => ?_).length_le
      obtain ⟨hm,havailable⟩ := List.mem_filter.mp hm
      by_contra hnot
      rw [hrefused m (hlost m hm hnot)] at havailable
      cases havailable
    refine metrics_eq_some_iff.mpr ⟨live,?_,horder.trans hfilter⟩
    rw [hsamplers]
    exact Finmap.lookup_insert _
  · obtain ⟨-,hlost⟩ := h.noneLeft he
    refine List.filter_eq_nil_iff.mpr fun m hm => ?_
    rw [hrefused m (hlost m hm)]
    exact Bool.false_ne_true

end ObjectStore

namespace Windows

/-- What Windows supports, by the scope alone. -/
def available (scope : ScopeId) (m : MetricId) : Bool :=
  requests (platformSamplerSupportedMetrics 0 scope) m.mask

theorem steady (scope : ScopeId) (rs : List (OpenAnswers Answers)) :
    ObjectStore.Steady platform scope rs (available scope) := by
  rintro asked supported ⟨r,hr,k,k',hprobed⟩
  cases hprobed
  exact ⟨fun m _ hlack => hlack,fun hall m hm => hall m hm⟩

theorem fallback_answered (scope : Option ScopeId) {ms : List MetricId} (hms : ms.Nodup)
    (r₁ r₂ : OpenAnswers Answers) (rs : List (OpenAnswers Answers)) (s : ObjectStore Kernel NativeSampler) :
    (s.fallback platform scope (r₁::r₂::rs) ms).2 ≠ .unanswered := by
  refine ObjectStore.answered_of_mask hms (available (scope.getD .currentThread)) ?_ rs s
  intro r _ asked k k' supported hprobed m _
  cases hprobed
  rfl

end Windows

namespace Darwin
variable {host : Host} {ms : List MetricId}

/-- Of a request without metrics that no process supports, only cycles can be refused. -/
theorem nominal_supported (hnominal : ∀ m ∈ ms, requests nominalProcessMetrics m.mask = true)
    {r : Replies} {supported : UInt32}
    (h : platformSamplerSupportedMetrics (maskOf ms) .currentProcess r = .ok supported) {m : MetricId}
    (hm : m ∈ ms) (hcycles : m ≠ .cpuCycles) : requests supported m.mask = true := by
  have hbase : requests baseProcessMetrics m.mask = true := by
    have hreq := hnominal m hm
    cases m with
    | cpuCycles => exact absurd rfl hcycles
    | instructions => exact absurd hreq (by decide)
    | cpuTime => decide
    | pageFaults => decide
    | contextSwitches => decide
  have hwider : requests (baseProcessMetrics ||| MetricId.cpuCycles.mask) m.mask = true := by
    cases m with
    | instructions => exact absurd hbase (by decide)
    | cpuCycles => rfl
    | cpuTime => decide
    | pageFaults => decide
    | contextSwitches => decide
  have hwithin := (rejected_eq_zero_iff ms nominalProcessMetrics).mpr hnominal
  unfold platformSamplerSupportedMetrics at h
  dsimp only at h
  rw [if_neg (not_not.mpr hwithin)] at h
  split at h
  · cases h
    exact hbase
  · split at h
    · cases h
    · split at h
      · cases h
        exact hwider
      · cases h
        exact hbase

theorem fallback_nominal (hms : ms.Nodup)
    (hnominal : ∀ m ∈ ms, requests nominalProcessMetrics m.mask = true)
    (r₁ r₂ : OpenAnswers Replies) (rs : List (OpenAnswers Replies))
    (s : ObjectStore Unit PlatformSampler) :
    (s.fallback (platform host) (some .currentProcess) (r₁::r₂::rs) ms).2 ≠ .unanswered := by
  refine ObjectStore.answered_of_retry hms (fun k k' supported hprobed hlacks => ?_) s
  have hprobed := congrArg Prod.snd hprobed
  obtain ⟨m,hm,hlack⟩ := hlacks
  have hm' : m = .cpuCycles := by
    by_contra hne
    rw [nominal_supported hnominal hprobed hm hne] at hlack
    cases hlack
  subst hm'
  refine ObjectStore.answered_of_supported (hms.filter _) fun k k' supported' hprobed' m hm => ?_
  have hprobed' := congrArg Prod.snd hprobed'
  refine nominal_supported (fun m hm => hnominal m (List.mem_filter.mp hm).1) hprobed' hm ?_
  rintro rfl
  rw [(List.mem_filter.mp hm).2] at hlack
  cases hlack

/-- On Darwin a process can be refused twice: first what no process supports, then cycles. -/
theorem fallback_answered (scope : Option ScopeId) (hms : ms.Nodup) (r₁ r₂ r₃ : OpenAnswers Replies)
    (rs : List (OpenAnswers Replies)) (s : ObjectStore Unit PlatformSampler) :
    (s.fallback (platform host) scope (r₁::r₂::r₃::rs) ms).2 ≠ .unanswered := by
  obtain hscope | rfl : scope.getD .currentThread = .currentThread ∨ scope = some .currentProcess := by
    rcases scope with _ | _ | _
    · exact .inl rfl
    · exact .inr rfl
    · exact .inl rfl
  · refine ObjectStore.answered_of_mask hms (requests MetricId.cpuTime.mask ·.mask) ?_ (r₃::rs) s
    intro r _ asked k k' supported hprobed m _
    rw [hscope] at hprobed
    cases hprobed
    rfl
  · by_cases hnominal : ∀ m ∈ ms, requests nominalProcessMetrics m.mask = true
    · exact fallback_nominal hms hnominal r₁ r₂ (r₃::rs) s
    · refine ObjectStore.answered_of_retry hms (fun k k' supported hprobed _ => ?_) s
      have hprobed : platformSamplerSupportedMetrics (maskOf ms) .currentProcess r₁.supported =
        .ok supported := congrArg Prod.snd hprobed
      have hbeyond : maskOf ms &&& ~~~nominalProcessMetrics ≠ 0 :=
        fun h => hnominal ((rejected_eq_zero_iff ms nominalProcessMetrics).mp h)
      unfold platformSamplerSupportedMetrics at hprobed
      dsimp only at hprobed
      rw [if_pos hbeyond] at hprobed
      cases hprobed
      exact fallback_nominal (hms.filter _) (fun m hm => (List.mem_filter.mp hm).2) r₂ r₃ rs

/-- What Darwin supports, where a process may have cycles. -/
def available (cycles : Bool) (scope : ScopeId) (m : MetricId) : Bool :=
  match scope with
  | .currentThread => requests MetricId.cpuTime.mask m.mask
  | .currentProcess => requests baseProcessMetrics m.mask || m = .cpuCycles && cycles

/-- Whether `proc_pid_rusage` counts cycles does not depend on the attempt. -/
def Counts (cycles : Bool) (r : OpenAnswers Replies) : Prop :=
  decide (r.supported.processUsage.value.cycles ≠ 0) = cycles

theorem nominal_eq (m : MetricId) : requests nominalProcessMetrics m.mask = decide (m ≠ .instructions) := by
  cases m <;> decide

theorem base_eq (m : MetricId) :
    requests baseProcessMetrics m.mask = decide (m ≠ .instructions ∧ m ≠ .cpuCycles) := by
  cases m <;> decide

/-- Cycles are in the mask if a process has them, and the other metrics of `base_process_metrics`. -/
theorem wider_eq (m : MetricId) : requests (baseProcessMetrics ||| MetricId.cpuCycles.mask) m.mask =
    decide (m ≠ .instructions) := by
  cases m <;> decide

theorem steady {cycles : Bool} {rs : List (OpenAnswers Replies)} (hrs : ∀ r ∈ rs, Counts cycles r)
    (scope : ScopeId) : ObjectStore.Steady (platform host) scope rs (available cycles scope) := by
  rintro asked supported ⟨r,hr,k,k',hprobed⟩
  have hprobed : platformSamplerSupportedMetrics (maskOf asked) scope r.supported = .ok supported :=
    congrArg Prod.snd hprobed
  cases scope with
  | currentThread =>
    cases hprobed
    exact ⟨fun m _ hlack => hlack,fun hall m hm => hall m hm⟩
  | currentProcess =>
    unfold platformSamplerSupportedMetrics at hprobed
    dsimp only at hprobed
    unfold available
    split at hprobed
    next hbeyond =>
      cases hprobed
      refine ⟨fun m _ hlack => ?_,fun hall => ?_⟩
      · rw [nominal_eq] at hlack
        obtain rfl : m = .instructions := by simpa using hlack
        rfl
      · exact absurd ((rejected_eq_zero_iff asked _).mpr hall) hbeyond
    next hwithin =>
      have hnominal := (rejected_eq_zero_iff asked _).mp (not_not.mp hwithin)
      simp only [nominal_eq] at hnominal
      split at hprobed
      next hnone =>
        have hcycles : MetricId.cpuCycles ∉ asked := by
          intro hmem
          have hreq := requests_maskOf.mpr hmem
          rw [requests, hnone] at hreq
          cases hreq
        cases hprobed
        refine ⟨fun m hm hlack => ?_,fun hall m hm => by simp [hall m hm]⟩
        have hm' : m ≠ .cpuCycles := fun h => hcycles (h ▸ hm)
        simp [hlack,hm']
      next hsome =>
        have hcounts := hrs r hr
        unfold readProcessUsage at hprobed
        split at hprobed
        · cases hprobed
        next usage husage =>
          have hvalue : r.supported.processUsage.value = usage := by
            split at husage <;> cases husage
            rfl
          unfold Counts at hcounts
          rw [hvalue] at hcounts
          split at hprobed
          next hpositive =>
            cases hprobed
            obtain rfl : cycles = true := by rw [← hcounts]; simpa using hpositive
            refine ⟨fun m hm hlack => ?_,fun hall m hm => ?_⟩
            · rw [wider_eq] at hlack
              rw [hnominal m hm] at hlack
              cases hlack
            · rw [base_eq]
              have hnot := hnominal m hm
              by_cases hc : m = .cpuCycles
              · simp [hc]
              · simpa [hc] using hnot
          next hzero =>
            cases hprobed
            obtain rfl : cycles = false := by rw [← hcounts]; simpa using hzero
            refine ⟨fun m hm hlack => by simp [hlack],fun hall m hm => by simp [hall m hm]⟩

end Darwin

namespace Linux

/-- Which metrics the kernel offers does not depend on the attempt. -/
def Offers (available : MetricId → Bool) (r : OpenAnswers Answers) : Prop :=
  ∀ m, (r.supported.perfEventOpen m).isOk = available m

theorem requests_insert (supported : UInt32) (a m : MetricId) :
    requests (supported ||| a.mask) m.mask = (requests supported m.mask || decide (a = m)) := by
  rw [requests_testBit, requests_testBit, UInt32.toNat_or, Nat.testBit_or, a.mask_toNat,
    Nat.testBit_two_pow]
  congr 1
  exact decide_eq_decide.mpr ⟨MetricId.index_inj,fun h => by rw [h]⟩

/-- The mask has the metrics that were probed with success. -/
theorem probeMetrics_ok {requestedMetrics : UInt32} {r : Answers} {ms : List MetricId}
    {supported supported' : UInt32} {k k' : Kernel}
    (h : probeMetrics requestedMetrics r ms supported k = (k',.ok supported')) (m : MetricId) :
    requests supported' m.mask = (requests supported m.mask ||
      decide (m ∈ ms) && requests requestedMetrics m.mask && (r.perfEventOpen m).isOk) := by
  induction ms generalizing supported k with
  | nil =>
    cases h
    simp
  | cons a ms ih =>
    unfold probeMetrics at h
    split at h
    next hreq =>
      dsimp only at h
      split at h
      next hneg =>
        have hfail : (r.perfEventOpen a).isOk = false := by rw [openMetric_neg hneg]; rfl
        split at h
        · rw [ih h]
          by_cases hma : m = a
          · subst hma
            simp [hfail]
          · simp [hma]
        · cases h
      next hpos =>
        have hok := openMetric_nonneg hpos
        rw [ih h, requests_insert]
        by_cases hma : m = a
        · subst hma
          simp [hok,hreq]
        · simp [hma,Ne.symm hma]
    next hreq =>
      rw [ih h]
      by_cases hma : m = a
      · subst hma
        simp [hreq]
      · simp [hma]

/-- The mask for a thread, on what was asked, is what the kernel offers. -/
theorem supportedMetrics_ok {asked : List MetricId} {r : Answers} {supported : UInt32} {k k' : Kernel}
    (h : platformSamplerSupportedMetrics (maskOf asked) .currentThread r k = (k',.ok supported))
    {m : MetricId} (hm : m ∈ asked) : requests supported m.mask = (r.perfEventOpen m).isOk := by
  rw [probeMetrics_ok h m, requests_maskOf.mpr hm]
  simp [requests,MetricId.mem_all]

/-- What Linux supports, where the kernel offers these metrics. -/
def available (offered : MetricId → Bool) (scope : ScopeId) (m : MetricId) : Bool :=
  scope = .currentThread && offered m

theorem supported_available {offered : MetricId → Bool} {scope : ScopeId} {r : OpenAnswers Answers}
    (hr : Offers offered r) {asked : List MetricId} {k k' : Kernel} {supported : UInt32}
    (h : platformSamplerSupportedMetrics (maskOf asked) scope r.supported k = (k',.ok supported))
    {m : MetricId} (hm : m ∈ asked) : requests supported m.mask = available offered scope m := by
  cases scope with
  | currentThread => exact (supportedMetrics_ok h hm).trans (hr m)
  | currentProcess =>
    cases h
    rw [requests, UInt32.zero_and]
    rfl

theorem steady (int128 : Bool) {offered : MetricId → Bool} {rs : List (OpenAnswers Answers)}
    (hrs : ∀ r ∈ rs, Offers offered r) (scope : ScopeId) :
    ObjectStore.Steady (platform int128) scope rs (available offered scope) := by
  rintro asked supported ⟨r,hr,k,k',hprobed⟩
  have hmask : ∀ m ∈ asked, requests supported m.mask = available offered scope m := fun m hm =>
    supported_available (hrs r hr) hprobed hm
  exact ⟨fun m hm hlack => (hmask m hm).symm.trans hlack,
    fun hall m hm => (hmask m hm).symm.trans (hall m hm)⟩

end Linux

/-- A process without cycles is refused twice. -/
def Darwin.refusedTwice : ObjectStore Unit Darwin.PlatformSampler × Ending :=
  ObjectStore.fallback (Darwin.platform ⟨⟨125,3⟩,true⟩) (some .currentProcess)
    [ticksOpening,ticksOpening,ticksOpening] [.instructions,.cpuCycles,.cpuTime] (.start ())

theorem ObjectStore.fallback_settles_twice :
    Darwin.refusedTwice.2 = .opened 0 ∧ ∃ kept live, kept ≠ [] ∧
      kept.Sublist [.instructions,.cpuCycles,.cpuTime] ∧ live.object.metricOrder = kept ∧
      Darwin.refusedTwice.1.samplers.lookup 0 = some live := by
  have hopened : Darwin.refusedTwice.2 = .opened 0 := rfl
  obtain ⟨-,hsettled⟩ := fallback_settles (Darwin.platform ⟨⟨125,3⟩,true⟩) (some .currentProcess)
    [.instructions,.cpuCycles,.cpuTime] (by decide)
    [Darwin.ticksOpening,Darwin.ticksOpening,Darwin.ticksOpening] (by decide) (.start ())
  obtain ⟨kept,live,hne,hkept,-,-,horder,-,hsamplers⟩ := hsettled.opened 0 hopened
  refine ⟨hopened,kept,live,hne,hkept,horder,?_⟩
  unfold Darwin.refusedTwice
  rw [hsamplers]
  exact Finmap.lookup_insert _

/-- Where what is available stays the same, the fallback on a request without duplicates ends with a
sampler of exactly the available metrics of the request, unless there are none or a native call fails
and the error is the backend's own. Two attempts are enough on Linux and Windows and three on Darwin,
where cycles are only asked for once nothing else is refused. -/
theorem fallback_exact (scope : Option ScopeId) (ms : List MetricId) (hms : ms.Nodup) :
    let scopeId := scope.getD .currentThread
    (∀ int128 offered r₁ r₂ rs s, (∀ r ∈ r₁::r₂::rs, Linux.Offers offered r) →
      ObjectStore.Exact (Linux.platform int128) scopeId (r₁::r₂::rs) ms (Linux.available offered scopeId)
        (ObjectStore.fallback (Linux.platform int128) scope (r₁::r₂::rs) ms s)) ∧
    (∀ r₁ r₂ rs s,
      ObjectStore.Exact Windows.platform scopeId (r₁::r₂::rs) ms (Windows.available scopeId)
        (ObjectStore.fallback Windows.platform scope (r₁::r₂::rs) ms s)) ∧
    ∀ host cycles r₁ r₂ r₃ rs s, (∀ r ∈ r₁::r₂::r₃::rs, Darwin.Counts cycles r) →
      ObjectStore.Exact (Darwin.platform host) scopeId (r₁::r₂::r₃::rs) ms
        (Darwin.available cycles scopeId)
        (ObjectStore.fallback (Darwin.platform host) scope (r₁::r₂::r₃::rs) ms s) := by
  intro scopeId
  refine ⟨fun int128 offered r₁ r₂ rs s hrs => ?_,fun r₁ r₂ rs s => ?_,
    fun host cycles r₁ r₂ r₃ rs s hrs => ?_⟩
  · refine (ObjectStore.fallback_settled hms _ s).exact hms ?_ (Linux.steady int128 hrs scopeId)
    exact ObjectStore.answered_of_mask hms _ (fun r hr asked k k' supported hprobed m hm =>
      Linux.supported_available (hrs r (by simp at hr ⊢; tauto)) hprobed hm) rs s
  · exact (ObjectStore.fallback_settled hms _ s).exact hms
      (Windows.fallback_answered scope hms r₁ r₂ rs s) (Windows.steady scopeId _)
  · exact (ObjectStore.fallback_settled hms _ s).exact hms
      (Darwin.fallback_answered scope hms r₁ r₂ r₃ rs s) (Darwin.steady hrs scopeId)

theorem fallback_exact_twice : Darwin.refusedTwice.1.metrics 0 = some [.cpuTime] := by
  have hopened : Darwin.refusedTwice.2 = .opened 0 := rfl
  obtain ⟨-,-,hdarwin⟩ := fallback_exact (some .currentProcess) [.instructions,.cpuCycles,.cpuTime] (by decide)
  exact (hdarwin ⟨⟨125,3⟩,true⟩ false Darwin.ticksOpening Darwin.ticksOpening Darwin.ticksOpening []
    (.start ()) (by simp [Darwin.Counts,Darwin.ticksOpening,Darwin.ticksAt])).2.1 0 hopened

end Perfidious
