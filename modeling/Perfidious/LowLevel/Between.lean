import Perfidious.LowLevel.Independent
import Perfidious.Sampler.Between

/-! What a delta stands for on Windows: the events of the process or the thread between the two reads,
whatever other samplers and thread profiles do in the meantime. -/
namespace Perfidious.Windows
open Library

/-- A sampler reads the metrics it was opened for, and its widened counters hold whole periods. -/
def Serving (metrics : UInt32) (sampler : NativeSampler) : Prop :=
  sampler.metrics = metrics ∧ Sound sampler.toPlatformSampler

theorem platform_serves : platform.Serves Serving where
  opened := by
    intro metrics scope r k k' sampler h
    obtain ⟨threadId,hsampler⟩ := platformSamplerOpen_opened h
    unfold Serving
    rw [hsampler]
    exact ⟨rfl,opened_sound metrics scope threadId⟩
  read := by
    intro metrics sampler snapshot r k k' sampler' outcome h hread
    cases hread
    exact ⟨(read_kept sampler.toPlatformSampler _).1.trans h.1,read_sound h.2 _⟩

namespace Sessions

theorem final_served (base : Table Native) (ops : List SessionOp) :
    ObjectStore.Served Serving (final step (start base) ops).store.samplers := by
  apply final_invariant_all step (I := fun s => ObjectStore.Served Serving s.store.samplers)
  · intro s op h
    cases op with
    | objects op => exact h.step platform_serves op
    | enable hardwareCounters r => exact enable_samplers hardwareCounters r s ▸ h
    | readProfile object r =>
      simp only [step, readProfile_eq]
      exact h
    | closeProfile object disable => exact closeProfile_samplers object disable s ▸ h
    | destroyProfile object disable => exact destroyProfile_samplers object disable s ▸ h
  · intro handle x sampler h
    cases h

end Sessions

/-- Reads move the part of a sampler that they are about as they would move it alone. -/
theorem final_nativeRead (w : Watch) (sampler : NativeSampler) (last : Option ℕ) (calls : List Call) :
    (final nativeRead sampler (calls.map Call.replies)).toPlatformSampler =
      (final w.step (sampler.toPlatformSampler,last) calls).1 := by
  induction calls generalizing sampler last with
  | nil => rfl
  | cons call calls ih => exact ih (nativeRead sampler call.replies).1 _

theorem Watch.final_metrics (w : Watch) (σ : PlatformSampler × Option ℕ) (calls : List Call) :
    (final w.step σ calls).1.metrics = σ.1.metrics :=
  final_invariant_all w.step (I := fun τ => τ.1.metrics = σ.1.metrics)
    (fun τ call h => (read_kept τ.1 call.replies).1.trans h) calls rfl

/-- What a successful read of a watched counter puts out. -/
theorem Watch.step_published {w : Watch} {σ : PlatformSampler × Option ℕ} {call : Call} {x : Snapshot}
    (hx : (platformSamplerRead σ.1 call.replies).2.published = some x)
    (hreq : requests σ.1.metrics w.metric.mask = true) :
    (w.step σ call).2 = some ⟨w.count call,(x w.metric).toNat⟩ := by
  obtain ⟨hok,rfl⟩ := ReadOutcome.published_eq_some_iff.mp hx
  simp [Watch.step,hok,hreq]

/-- Between two successful reads a watched counter grows by the true count. -/
theorem Watch.Lawful.delta {w : Watch} (hw : w.Lawful) {s : PlatformSampler} (hs : Sound s)
    (hreq : requests s.metrics w.metric.mask = true) {first last : Call} {calls : List Call}
    {x y : Snapshot} (hx : (platformSamplerRead s first.replies).2.published = some x)
    (hslow : Along w.step w.Slow ((platformSamplerRead s first.replies).1,some (w.count first))
      (calls ++ [last]))
    (hy : (platformSamplerRead
      (final w.step ((platformSamplerRead s first.replies).1,some (w.count first)) calls).1
        last.replies).2.published = some y) :
    w.count first ≤ w.count last ∧
    (y w.metric).toNat - (x w.metric).toNat = w.count last - w.count first := by
  have hok := (ReadOutcome.published_eq_some_iff.mp hx).1
  have hseen : w.seen s first.replies = true := by
    by_contra hnot
    exact (hw.ignores s first (Bool.eq_false_iff.mpr hnot)).2 ⟨hok,hreq⟩
  have hnext : (w.step (s,none) first).1 =
      ((platformSamplerRead s first.replies).1,some (w.count first)) := by
    simp [Watch.step,hseen]
  have hfirst : w.Slow (s,none) first := by
    have hresult := ReadOutcome.published_eq_some_iff.mp hx
    refine ⟨by simp,?_,?_⟩ <;> intro he <;> simp [ReadOutcome.succeeded,he] at hok
  have hslow : Along w.step w.Slow (s,none) (first::(calls ++ [last])) :=
    ⟨hfirst,by rw [hnext]; exact hslow⟩
  have hpairs := w.outputs_tracked hw hs hslow
  have hmetrics : requests (final w.step
      ((platformSamplerRead s first.replies).1,some (w.count first)) calls).1.metrics w.metric.mask =
        true := by
    rw [w.final_metrics, (read_kept s first.replies).1]
    exact hreq
  rw [outputs_cons, hnext, Watch.step_published (σ := (s,none)) hx hreq, outputs_append, outputs_cons,
    Watch.step_published hy hmetrics] at hpairs
  have hle := @List.rel_of_pairwise_cons _ _ _ _ hpairs ⟨w.count last,(y w.metric).toNat⟩ (by simp)
  rw [Tracked.le_def] at hle
  dsimp only at hle
  omega

/-- A metric that Windows counts in 64 bits is published as the native source stands. -/
theorem published_source {s : PlatformSampler} (hs : Sound s) {r : Replies} {x : Snapshot}
    (hx : (platformSamplerRead s r).2.published = some x) :
    (requests s.metrics MetricId.cpuTime.mask = true → (x .cpuTime).toNat = sourceTime r) ∧
    (requests s.metrics MetricId.cpuCycles.mask = true → (x .cpuCycles).toNat = sourceCycles s r) := by
  obtain ⟨hok,rfl⟩ := ReadOutcome.published_eq_some_iff.mp hx
  obtain ⟨hmetrics,hscope⟩ := read_kept s r
  have hlevels := read_published hs hok
  constructor
  · intro hm
    have hcpu := congrFun hlevels .cpuTime
    rw [levels, hmetrics, if_pos hm] at hcpu
    exact hcpu
  · intro hm
    have hcycles := congrFun hlevels .cpuCycles
    rw [levels, hmetrics, if_pos hm] at hcycles
    refine hcycles.trans ?_
    simp only [sourceCycles, hscope]

theorem final_nativeRead_sound {sampler : NativeSampler} (h : Sound sampler.toPlatformSampler)
    (rs : List Replies) : Sound (final nativeRead sampler rs).toPlatformSampler :=
  final_invariant_all nativeRead (I := fun s => Sound s.toPlatformSampler)
    (fun _ _ hs => read_sound hs _) rs h

theorem final_nativeRead_kept (sampler : NativeSampler) (rs : List Replies) :
    (final nativeRead sampler rs).metrics = sampler.metrics ∧
    (final nativeRead sampler rs).scope = sampler.scope := by
  apply final_invariant_all nativeRead
    (I := fun s => s.metrics = sampler.metrics ∧ s.scope = sampler.scope)
  · intro s r h
    obtain ⟨hmetrics,hscope⟩ := read_kept s.toPlatformSampler r
    exact ⟨hmetrics.trans h.1,hscope.trans h.2⟩
  · exact ⟨rfl,rfl⟩

namespace Sessions

/-- What a read of a sampler came to. -/
def sampled (handle : ℕ) (r : ReadAnswers Answers) (s : Sessions) : Except Error (Option SampleObj) :=
  samplerSeen (s.step (.objects (.readSampler handle r))).1 (s.step (.objects (.readSampler handle r))).2

/-- A metric of a delta is what the given quantity grew by between the two reads. -/
def Grew (delta : SampleDeltaObj) (first last : Call) (m : MetricId) (quantity : Call → ℕ) : Prop :=
  quantity first ≤ quantity last ∧ (delta.values m).toNat = quantity last - quantity first

theorem grew_of {delta : SampleDeltaObj} {first last : Call} {m : MetricId} {quantity : Call → ℕ}
    {x y : Snapshot} (h : x m ≤ y m ∧ delta.values m = y m - x m) (hx : (x m).toNat = quantity first)
    (hy : (y m).toNat = quantity last) : Grew delta first last m quantity := by
  obtain ⟨hle,hdelta⟩ := h
  unfold Grew
  rw [hdelta, UInt64.toNat_sub_of_le _ _ hle, ← hx, ← hy]
  exact ⟨UInt64.le_iff_toNat_le.mp hle,rfl⟩

/-- What `Sample::since` reports on Windows. In every run of both APIs, whatever happens to other
objects between two reads of a sampler, the delta of CPU time and cycles is what the native counters
grew by, and that of page faults and context switches is the true number of events, if between
successive observations the 32-bit native counters wrapped at most once, and no read reported a counter
overflow. -/
theorem deltas_count {base : Table Native} (hbase : (Kernel.start base).Exclusive)
    (before between : List SessionOp) (handle : ℕ) (re rl : ReadAnswers Answers) (e l : SampleObj)
    (delta : SampleDeltaObj) (first last : Call) (calls : List Call)
    (hfirst : first.replies = re.read.toReplies) (hlast : last.replies = rl.read.toReplies)
    (hcalls : calls.map Call.replies = nativeReads (between.filterMap (samplerCall handle))) :
    let s := final step (start base) before
    let s' := (s.step (.objects (.readSampler handle re))).1
    s.sampled handle re = .ok (some e) → (∀ op ∈ between, op.dropsSampler handle = false) →
    (final step s' between).sampled handle rl = .ok (some l) → l.since e = .ok delta →
    ∃ obj opening sampler, s'.store.samplers.lookup handle = some ⟨obj,opening⟩ ∧
      obj.sampler = some sampler ∧ sampler.metrics = delta.metrics ∧
      (requests delta.metrics MetricId.cpuTime.mask = true →
        Grew delta first last .cpuTime fun call => sourceTime call.replies) ∧
      (requests delta.metrics MetricId.cpuCycles.mask = true →
        Grew delta first last .cpuCycles fun call => sourceCycles sampler.toPlatformSampler call.replies) ∧
      ∀ w ∈ [faultWatch,switchWatch], requests delta.metrics w.metric.mask = true →
        Along w.step w.Slow (sampler.toPlatformSampler,some (w.count first)) (calls ++ [last]) →
        Grew delta first last w.metric w.count := by
  intro s s' he hkept hl hd
  have hs : s.Sound base := final_sound hbase before
  obtain ⟨obj,opening,found⟩ : ∃ obj opening, s.store.samplers.lookup handle = some ⟨obj,opening⟩ :=
    ObjectStore.sampled_found (P := platform) (r := re) he
  obtain ⟨sampler,x,y,hsampler,hnext,hx,hy,hmetrics,hvalues⟩ := SamplerObj.since_component
    (sampler_component handle opening) hs found (i := .objects (.readSampler handle re))
    (j := .objects (.readSampler handle rl)) (if_pos rfl) (if_pos rfl) rfl
    (along_of_forall step hkept _) rfl he hl hd
  obtain ⟨hserves,hsound⟩ := final_served base before handle _ sampler found hsampler
  have hre : readCall re.current re.read = first.replies := hfirst.symm
  have hrl : readCall rl.current rl.read = last.replies := hlast.symm
  rw [hre] at hx hy hnext
  rw [hrl, ← hcalls] at hy
  let read := (nativeRead sampler first.replies).1
  obtain ⟨hkeptMetrics,hkeptScope⟩ := final_nativeRead_kept sampler [first.replies]
  have hreads : read.metrics = delta.metrics := hkeptMetrics.trans (hserves.trans hmetrics.symm)
  have hsampler' : sampler.metrics = delta.metrics := hserves.trans hmetrics.symm
  have hsound' : Windows.Sound read.toPlatformSampler := read_sound hsound _
  obtain ⟨hlastMetrics,hlastScope⟩ := final_nativeRead_kept read (calls.map Call.replies)
  obtain ⟨hcpu,hcycles⟩ := published_source hsound hx
  obtain ⟨hcpu',hcycles'⟩ := published_source (final_nativeRead_sound hsound' _) hy
  rw [hlastMetrics, hreads] at hcpu' hcycles'
  rw [hsampler'] at hcpu hcycles
  refine ⟨_,opening,read,hnext,rfl,hreads,fun hm => ?_,fun hm => ?_,fun w hw hm hslow => ?_⟩
  · exact grew_of (hvalues _ hm) (hcpu hm) (hcpu' hm)
  · have hfirst : sourceCycles sampler.toPlatformSampler first.replies =
        sourceCycles read.toPlatformSampler first.replies := by
      simp only [sourceCycles, ← hkeptScope]
      rfl
    have hlast : sourceCycles (final nativeRead read (calls.map Call.replies)).toPlatformSampler
        last.replies = sourceCycles read.toPlatformSampler last.replies := by
      simp only [sourceCycles, hlastScope]
    exact grew_of (hvalues _ hm) ((hcycles hm).trans hfirst) ((hcycles' hm).trans hlast)
  · have hlawful : w.Lawful := by
      rcases List.mem_pair.mp hw with rfl | rfl
      · exact faultWatch_lawful
      · exact switchWatch_lawful
    have hy : (platformSamplerRead (final nativeRead read (calls.map Call.replies)).toPlatformSampler
        last.replies).2.published = some y := hy
    rw [final_nativeRead w read (some (w.count first))] at hy
    obtain ⟨hle,hdelta⟩ := hlawful.delta hsound (by rw [hsampler']; exact hm) hx hslow hy
    refine ⟨hle,?_⟩
    obtain ⟨hxy,hvalue⟩ := hvalues _ hm
    rw [hvalue, UInt64.toNat_sub_of_le _ _ hxy]
    exact hdelta

/-- A read that brings the given counts. -/
def countRead (call : Call) (now : UInt64) : ReadAnswers Answers :=
  ⟨.next,fun _ => 0,{ plainAnswers with toReplies := call.replies },now⟩

/-- The switches wrap, while someone else tries to profile the thread. -/
def wrapBetween : List SessionOp :=
  [.enable 0 plainEnable,.objects (.readSampler 0 (countRead (plainCall 0 4294967299 7) 8))]

def wrapEarlier : Option SampleObj :=
  takenSample ((final step (start ∅) plainSessions).sampled 0 (countRead (plainCall 0 4294967290 7) 7))

/-- The sessions after the earlier read. -/
def wrapSessions : Sessions :=
  ((final step (start ∅) plainSessions).step
    (.objects (.readSampler 0 (countRead (plainCall 0 4294967290 7) 7)))).1

def wrapLater : Option SampleObj :=
  takenSample ((final step wrapSessions wrapBetween).sampled 0 (countRead (plainCall 0 4294967300 7) 9))

theorem deltas_count_wrap :
    ∃ e l delta, wrapEarlier = some e ∧ wrapLater = some l ∧ l.since e = .ok delta ∧
      delta.value .contextSwitches = .ok 10 ∧
      Grew delta (plainCall 0 4294967290 7) (plainCall 0 4294967300 7) .contextSwitches Call.switches := by
  have hvalue : (wrapEarlier.bind fun e => wrapLater.bind fun l => (l.since e).toOption.map
      fun delta => (delta.value .contextSwitches,delta.metrics)) = some (.ok 10,4) := rfl
  obtain ⟨e,he,hvalue⟩ := Option.bind_eq_some_iff.mp hvalue
  obtain ⟨l,hl,hvalue⟩ := Option.bind_eq_some_iff.mp hvalue
  obtain ⟨delta,hd,hvalue⟩ := Option.map_eq_some_iff.mp hvalue
  obtain ⟨hten,hmetrics⟩ := Prod.mk.inj hvalue
  have hd : l.since e = .ok delta := eq_ok_of_toOption hd
  obtain ⟨obj,opening,sampler,hlookup,hsampler,-,-,-,hcounts⟩ := deltas_count start_exclusive plainSessions
    wrapBetween 0 (countRead (plainCall 0 4294967290 7) 7) (countRead (plainCall 0 4294967300 7) 9) e l
    delta (plainCall 0 4294967290 7) (plainCall 0 4294967300 7) [plainCall 0 4294967299 7] rfl rfl rfl
    (sampled_of_taken he) (by decide) (sampled_of_taken hl) hd
  have hstate : ((wrapSessions.store.samplers.lookup 0).bind (·.object.sampler)).map
      NativeSampler.toPlatformSampler =
        some ⟨4,.currentThread,7,⟨0,0⟩,⟨4294967290,0⟩⟩ := rfl
  have hlookup : wrapSessions.store.samplers.lookup 0 = some ⟨obj,opening⟩ := hlookup
  simp only [hlookup, Option.bind_some, hsampler, Option.map_some, Option.some.injEq] at hstate
  refine ⟨e,l,delta,he,hl,hd,hten,hcounts switchWatch (by simp) (by rw [hmetrics]; rfl) ?_⟩
  rw [hstate]
  refine ⟨⟨?_,?_,?_⟩,⟨?_,?_,?_⟩,trivial⟩ <;> decide

end Sessions

end Perfidious.Windows
