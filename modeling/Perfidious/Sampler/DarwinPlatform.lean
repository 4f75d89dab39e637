import Perfidious.Sampler.Darwin
import Perfidious.Sampler.Between
import Perfidious.Sampler.Custody

/-! The rest of the Darwin sampler backend (`darwin/sampler.c`): which metrics it supports, opening and
closing. It has no native state of its own. -/
namespace Perfidious.Darwin
open Library

/-- `base_process_metrics`. -/
def baseProcessMetrics : UInt32 :=
  MetricId.cpuTime.mask ||| MetricId.pageFaults.mask ||| MetricId.contextSwitches.mask

/-- `nominal_process_metrics`. -/
def nominalProcessMetrics : UInt32 := baseProcessMetrics ||| MetricId.cpuCycles.mask

/-- `perfidious_platform_sampler_supported_metrics`. The host is probed only for a request that is
nominally supported and asks for cycles. -/
def platformSamplerSupportedMetrics (requestedMetrics : UInt32) (scope : ScopeId) (r : Replies) :
    Except Error UInt32 :=
  match scope with
  | .currentThread => .ok MetricId.cpuTime.mask
  | .currentProcess =>
    if requestedMetrics &&& ~~~nominalProcessMetrics ≠ 0 then .ok nominalProcessMetrics
    else if requestedMetrics &&& MetricId.cpuCycles.mask = 0 then .ok baseProcessMetrics
    else
      match readProcessUsage r.processUsage with
      | .error e => .error e
      | .ok usage =>
        if usage.cycles ≠ 0 then .ok (baseProcessMetrics ||| MetricId.cpuCycles.mask)
        else .ok baseProcessMetrics

/-- `perfidious_platform_sampler_open`. `sampler` is what the output pointer holds before. -/
def platformSamplerOpen (metrics : UInt32) (scope : ScopeId) (sampler : Option PlatformSampler)
    (r : Replies) : Except (Error × Option PlatformSampler) PlatformSampler :=
  match scope with
  | .currentProcess => .ok ⟨metrics,scope,0⟩
  | .currentThread =>
    match getCurrentThreadId r.threadId with
    | .error e => .error (e,sampler)
    | .ok threadId => .ok ⟨metrics,scope,threadId⟩

/-- The Darwin backend. -/
def platform (host : Host) : Platform Unit PlatformSampler Replies where
  samplerSupportedMetrics metrics scope r k := (k,platformSamplerSupportedMetrics metrics scope r)
  samplerOpen metrics scope sampler r k := (k,platformSamplerOpen metrics scope sampler r)
  samplerRead sampler _ r k := (k,platformSamplerRead host sampler r)
  samplerClose _ _ k := k

theorem readsAlone (host : Host) :
    (platform host).ReadsAlone (fun _ => True) (fun _ r => r) (platformSamplerRead host) where
  keeps _ _ := trivial
  read _ _ _ _ _ := rfl

theorem platform_serves (host : Host) : (platform host).Serves fun metrics sampler => sampler.metrics = metrics where
  opened := by
    intro metrics scope r k k' sampler h
    change (k,platformSamplerOpen metrics scope none r) = _ at h
    unfold platformSamplerOpen at h
    cases scope with
    | currentProcess =>
      cases h
      rfl
    | currentThread =>
      dsimp only at h
      split at h <;> cases h
      rfl
  read := by
    intro metrics sampler snapshot r k k' sampler' outcome h hread
    have hkept : (platformSamplerRead host sampler r).1 = sampler' :=
      congrArg (fun answer => answer.2.1) hread
    rw [← hkept, (read_published host sampler r).1]
    exact h

/-- What a metric stands for: CPU time in nanoseconds, each native tick count converted on its own, and
the sums of the native counts. -/
def native (host : Host) (scope : ScopeId) (r : Replies) (m : MetricId) : ℕ :=
  match scope with
  | .currentThread => threadValue host r m
  | .currentProcess =>
    match m with
    | .cpuTime => ticks host r.processUsage.value.userTime + ticks host r.processUsage.value.systemTime
    | .pageFaults => (r.rusage.value.minflt.toInt + r.rusage.value.majflt.toInt).toNat
    | .contextSwitches => (r.rusage.value.nvcsw.toInt + r.rusage.value.nivcsw.toInt).toNat
    | .cpuCycles => r.processUsage.value.cycles.toNat
    | .instructions => 0

theorem published_native {host : Host} {s : PlatformSampler} {r : Replies} {x : Snapshot}
    (hx : (platformSamplerRead host s r).2.published = some x) {m : MetricId}
    (hm : requests s.metrics m.mask = true) : (x m).toNat = native host s.scope r m := by
  obtain ⟨hok,rfl⟩ := ReadOutcome.published_eq_some_iff.mp hx
  refine (congrFun ((read_published host s r).2 hok) m).trans ?_
  unfold published native
  cases s.scope with
  | currentThread => rfl
  | currentProcess => exact if_pos hm

/-- A sampler keeps no state between reads. -/
theorem final_read (host : Host) (s : PlatformSampler) (rs : List Replies) :
    final (platformSamplerRead host) s rs = s := by
  induction rs with
  | nil => rfl
  | cons r rs ih => rw [final_cons, (read_published host s r).1, ih]

/-- What `Sample::since` reports on Darwin. In every run of a process, whatever other samplers do between
two reads of a sampler, the delta of a metric is what the converted native counters grew by from the one
read to the other. -/
theorem deltas_convert (host : Host) (before between : List (ObjectOp Replies)) (handle : ℕ)
    (re rl : ReadAnswers Replies) (e l : SampleObj) (delta : SampleDeltaObj) :
    let P := platform host
    let s := final (ObjectStore.step P) (.start ()) before
    s.sampled P handle re = .ok (some e) → (∀ op ∈ between, op.drops handle = false) →
    (final (ObjectStore.step P) (s.readSampler P handle re).1 between).sampled P handle rl = .ok (some l) →
    l.since e = .ok delta →
    ∃ obj opening sampler, s.samplers.lookup handle = some ⟨obj,opening⟩ ∧ obj.sampler = some sampler ∧
      ∀ m, requests delta.metrics m.mask = true →
        native host sampler.scope re.read m ≤ native host sampler.scope rl.read m ∧
        (delta.values m).toNat = native host sampler.scope rl.read m - native host sampler.scope re.read m := by
  intro P s he hkept hl hd
  have hserved : ObjectStore.Served (fun metrics sampler => sampler.metrics = metrics) s.samplers := by
    apply final_invariant_all (ObjectStore.step P)
      (I := fun s => ObjectStore.Served (fun metrics sampler => sampler.metrics = metrics) s.samplers)
    · exact fun _ op h => h.step (platform_serves host) op
    · intro handle x sampler h
      cases h
  obtain ⟨obj,opening,found⟩ := ObjectStore.sampled_found he
  obtain ⟨sampler,x,y,hsampler,-,hx,hy,hmetrics,hvalues⟩ := SamplerObj.since_component
    (ObjectStore.sampler_component (readsAlone host) handle opening) trivial found
    (i := .readSampler handle re) (j := .readSampler handle rl) (if_pos rfl) (if_pos rfl) rfl
    (along_of_forall (ObjectStore.step P) hkept _) rfl he hl hd
  rw [final_read, (read_published host sampler re.read).1] at hy
  have hsame : sampler.metrics = delta.metrics :=
    (hserved handle ⟨obj,opening⟩ sampler found hsampler).trans hmetrics.symm
  refine ⟨obj,opening,sampler,found,hsampler,fun m hm => ?_⟩
  obtain ⟨hle,hdelta⟩ := hvalues m hm
  have hm' : requests sampler.metrics m.mask = true := hsame ▸ hm
  rw [← published_native hx hm', ← published_native hy hm', hdelta, UInt64.toNat_sub_of_le _ _ hle]
  exact ⟨UInt64.le_iff_toNat_le.mp hle,rfl⟩

/-- A process at the given tick counts, all native calls succeeding. -/
def ticksAt (user system : UInt64) : Replies where
  threadId := ⟨0,1⟩
  selfcounts := ⟨0,⟨0,0,0,0⟩⟩
  threadInfo := ⟨0,⟨0,0⟩,⟨0,0⟩⟩
  processUsage := ⟨0,⟨user,system,0,0⟩⟩
  rusage := ⟨0,⟨0,0,0,0⟩⟩

def ticksRead (user system now : UInt64) : ReadAnswers Replies :=
  ⟨.next,fun _ => 0,ticksAt user system,now⟩

def ticksOpening : OpenAnswers Replies :=
  ⟨.next,.next,ticksAt 0 0,ticksAt 0 0,ticksAt 0 0,ticksAt 0 0,5⟩

def ticksBetween : List (ObjectOp Replies) :=
  [.openSampler [some .pageFaults] (some .currentProcess) ticksOpening,.readSampler 1 (ticksRead 50 50 8),
    .closeSampler 1 (ticksAt 0 0)]

/-- A process sampler of CPU time on its own, where 125 units of 3 ns make a tick. -/
def ticksStore : ObjectStore Unit PlatformSampler :=
  final (ObjectStore.step (platform ⟨⟨125,3⟩,true⟩)) (.start ())
    [.openSampler [some .cpuTime] (some .currentProcess) ticksOpening]

def ticksEarlier : Option SampleObj :=
  takenSample (ticksStore.sampled (platform ⟨⟨125,3⟩,true⟩) 0 (ticksRead 4 5 7))

def ticksLater : Option SampleObj :=
  takenSample ((final (ObjectStore.step (platform ⟨⟨125,3⟩,true⟩))
    (ticksStore.readSampler (platform ⟨⟨125,3⟩,true⟩) 0 (ticksRead 4 5 7)).1 ticksBetween).sampled
      (platform ⟨⟨125,3⟩,true⟩) 0 (ticksRead 60 80 9))

theorem deltas_convert_ticks :
    ∃ e l delta, ticksEarlier = some e ∧ ticksLater = some l ∧ l.since e = .ok delta ∧
      delta.value .cpuTime = .ok 5459 ∧ ∃ scope,
        (delta.values .cpuTime).toNat = native ⟨⟨125,3⟩,true⟩ scope (ticksAt 60 80) .cpuTime -
          native ⟨⟨125,3⟩,true⟩ scope (ticksAt 4 5) .cpuTime := by
  have hvalue : (ticksEarlier.bind fun e => ticksLater.bind fun l => (l.since e).toOption.map
      fun delta => (delta.value .cpuTime,delta.metrics)) = some (.ok 5459,1) := rfl
  obtain ⟨e,he,hvalue⟩ := Option.bind_eq_some_iff.mp hvalue
  obtain ⟨l,hl,hvalue⟩ := Option.bind_eq_some_iff.mp hvalue
  obtain ⟨delta,hd,hvalue⟩ := Option.map_eq_some_iff.mp hvalue
  obtain ⟨hticks,hmetrics⟩ := Prod.mk.inj hvalue
  have hd : l.since e = .ok delta := eq_ok_of_toOption hd
  obtain ⟨obj,opening,sampler,-,-,hvalues⟩ := deltas_convert ⟨⟨125,3⟩,true⟩
    [.openSampler [some .cpuTime] (some .currentProcess) ticksOpening] ticksBetween 0 (ticksRead 4 5 7)
    (ticksRead 60 80 9) e l delta (sampled_of_taken he) (by decide) (sampled_of_taken hl) hd
  obtain ⟨-,hdelta⟩ := hvalues .cpuTime (by rw [hmetrics]; rfl)
  exact ⟨e,l,delta,he,hl,hd,hticks,sampler.scope,hdelta⟩

end Perfidious.Darwin
