import Perfidious.Sampler.Solo

/-! What a delta stands for: what the counters of the backend did between the two reads, whatever else
the program did with its samplers in the meantime. -/
namespace Perfidious
open Library

variable {κ σ ρ : Type}

theorem sampled_of_taken {o : Except Error (Option SampleObj)} {sample : SampleObj}
    (h : takenSample o = some sample) : o = .ok (some sample) := by
  cases o with
  | error e => cases h
  | ok x => exact congrArg _ h

theorem eq_ok_of_toOption {α : Type} {x : Except Error α} {a : α} (h : x.toOption = some a) : x = .ok a := by
  cases x with
  | error e => cases h
  | ok b => exact congrArg _ (Option.some.inj h)

/-- Inversion of a successful `Sample::since`, for the metrics that were collected. -/
theorem SampleObj.since_values {sample earlier : SampleObj} {delta : SampleDeltaObj}
    (h : sample.since earlier = .ok delta) {m : MetricId} (hm : requests sample.metrics m.mask = true) :
    earlier.values m ≤ sample.values m ∧ delta.values m = sample.values m - earlier.values m := by
  unfold since at h
  split_ifs at h
  split at h
  · cases h
  · split at h
    · cases h
    next values hv =>
      cases h
      have hd := (collect_ok MetricId.nodup_all hv m).1 ⟨MetricId.mem_all m,hm⟩
      unfold difference at hd
      split_ifs at hd with hback
      exact ⟨UInt64.not_lt.mp hback,(Except.ok.inj hd).symm⟩

namespace SamplerObj

/-- Two samples of one sampler differ by what their snapshots differ by. -/
theorem Taken.since {obj : SamplerObj σ} {x y : Snapshot} {t u : UInt64} {e l : SampleObj}
    (he : obj.Taken x t e) (hl : obj.Taken y u l) {delta : SampleDeltaObj} (hd : l.since e = .ok delta) :
    delta.metrics = obj.metrics ∧
    ∀ m, requests delta.metrics m.mask = true → x m ≤ y m ∧ delta.values m = y m - x m := by
  obtain ⟨-,-,-,-,hx⟩ := he
  obtain ⟨-,hmetrics,-,-,hy⟩ := hl
  have hcollected : delta.metrics = obj.metrics := (SampleObj.since_ok hd).1.trans hmetrics
  refine ⟨hcollected,fun m hm => ?_⟩
  rw [hcollected] at hm
  obtain ⟨hox,hex,-⟩ := (hx m).1 hm
  obtain ⟨hoy,hly,-⟩ := (hy m).1 hm
  obtain ⟨hle,hvalue⟩ := SampleObj.since_values hd (hmetrics ▸ hm)
  rw [hex, hly] at hle
  rw [UInt64.le_iff_toNat_le] at hle hox hoy
  rw [UInt64.toNat_sub_of_le _ _ (UInt64.le_iff_toNat_le.mpr hox),
    UInt64.toNat_sub_of_le _ _ (UInt64.le_iff_toNat_le.mpr hoy)] at hle
  refine ⟨UInt64.le_iff_toNat_le.mpr (by omega),?_⟩
  rw [hvalue, hex, hly]
  grind

variable {read : σ → ρ → σ × ReadOutcome}

/-- A read that returned a sample was one of an open sampler. -/
theorem step_sample {obj : SamplerObj σ} {r : ρ} {now : UInt64} {sample : SampleObj}
    (h : (obj.step read (.read r now)).2 = .ok (some sample)) :
    ∃ s current, obj.sampler = some s ∧ (read s r).2.published = some current ∧
      obj.Taken current now sample ∧
      (obj.step read (.read r now)).1 = { obj with sampler := some (read s r).1 } := by
  cases hs : obj.sampler with
  | none => simp [step,SamplerObj.read,hs,Except.map] at h
  | some s =>
    obtain ⟨hnext,hcase⟩ := read_open read hs r now
    have hout : (obj.read read r now).2 = .ok sample := by
      unfold step at h
      cases ho : (obj.read read r now).2 with
      | error e => simp [ho,Except.map] at h
      | ok x =>
        simp only [ho, Except.map, Except.ok.injEq, Option.some.injEq] at h
        rw [h]
    rw [hout] at hcase
    cases hcase with
    | taken native stems => exact ⟨s,_,rfl,native,stems,hnext⟩

/-- A sampler that is still open after some calls was read by all of them. -/
theorem final_sampler {obj : SamplerObj σ} {s s' : σ} (hs : obj.sampler = some s)
    {ops : List (SamplerOp ρ)} (hs' : (final (step read) obj ops).sampler = some s') :
    s' = final read s (nativeReads ops) := by
  induction ops generalizing obj s with
  | nil => exact Option.some.inj (hs'.symm.trans hs)
  | cons op ops ih =>
    rw [final_cons] at hs'
    cases op with
    | close =>
      obtain ⟨sampler,hfinal,hnone⟩ := @final_kept σ ρ read (fun _ => False) (fun _ _ h => h)
        obj.close (fun s hs => by cases hs) ops
      have hfinal : (final (step read) obj.close ops).sampler = sampler := congrArg _ hfinal
      exact absurd (hfinal.symm.trans hs') (fun h => hnone s' h)
    | read r now =>
      refine ih ?_ hs'
      exact congrArg SamplerObj.sampler (read_open read hs r now).1

/-- The read of the earlier sample, the calls in between and the read of the later one: the delta is
what the published snapshots differ by. -/
theorem since_published {obj : SamplerObj σ} {re rl : ρ} {nowe nowl : UInt64} {e l : SampleObj}
    {between : List (SamplerOp ρ)} (he : (obj.step read (.read re nowe)).2 = .ok (some e))
    (hl : ((final (step read) (obj.step read (.read re nowe)).1 between).step read (.read rl nowl)).2 =
      .ok (some l)) {delta : SampleDeltaObj} (hd : l.since e = .ok delta) :
    ∃ s x y, obj.sampler = some s ∧
      (obj.step read (.read re nowe)).1 = { obj with sampler := some (read s re).1 } ∧
      (read s re).2.published = some x ∧
      (read (final read (read s re).1 (nativeReads between)) rl).2.published = some y ∧
      delta.metrics = obj.metrics ∧
      ∀ m, requests delta.metrics m.mask = true → x m ≤ y m ∧ delta.values m = y m - x m := by
  obtain ⟨s,x,hs,hx,hte,hnext⟩ := step_sample he
  obtain ⟨s',y,hs',hy,htl,-⟩ := step_sample hl
  rw [hnext] at hs' htl
  obtain ⟨sampler,hfinal,-⟩ := @final_kept σ ρ read (fun _ => True) (fun _ _ h => h)
    { obj with sampler := some (read s re).1 } (fun _ _ => trivial) between
  cases final_sampler rfl hs'
  rw [hfinal] at htl
  have htl' : obj.Taken y nowl l := htl
  exact ⟨s,x,y,hs,hnext,hx,hy,hte.since htl' hd⟩

/-- Between two reads of a sampler that is a component of something larger, the backend did what it
would have done for that sampler alone. -/
theorem since_component {τ ι ο : Type*} {step : τ → ι → τ × ο} {call : ι → Option (SamplerOp ρ)}
    {seen : τ → ο → Except Error (Option SampleObj)} {I : τ → Prop} {P : τ → ι → Prop}
    {holds : τ → SamplerObj σ → Prop}
    (h : Component step (fun _ => call) seen (SamplerObj.step read) I P holds) {t : τ} (ht : I t)
    {obj : SamplerObj σ} (hobj : holds t obj) {i j : ι} {re rl : ρ} {nowe nowl : UInt64}
    (hi : call i = some (.read re nowe)) (hj : call j = some (.read rl nowl)) (hpi : P t i)
    {between : List ι} (hp : Along step P (step t i).1 between)
    (hpj : P (final step (step t i).1 between) j) {e l : SampleObj}
    (he : seen (step t i).1 (step t i).2 = .ok (some e))
    (hl : seen (step (final step (step t i).1 between) j).1
      (step (final step (step t i).1 between) j).2 = .ok (some l))
    {delta : SampleDeltaObj} (hd : l.since e = .ok delta) :
    ∃ s x y, obj.sampler = some s ∧ holds (step t i).1 { obj with sampler := some (read s re).1 } ∧
      (read s re).2.published = some x ∧
      (read (final read (read s re).1 (nativeReads (between.filterMap call))) rl).2.published = some y ∧
      delta.metrics = obj.metrics ∧
      ∀ m, requests delta.metrics m.mask = true → x m ≤ y m ∧ delta.values m = y m - x m := by
  obtain ⟨hnext,hseen⟩ := h.moves ht hpi hobj hi
  have hI := h.keeps ht hpi
  obtain ⟨-,hfinal⟩ := h.run hI hp hnext
  rw [reached_inputs] at hfinal
  have hI' : I (final step (step t i).1 between) :=
    final_invariant step (fun _ _ ht hp => h.keeps ht hp) hI hp
  obtain ⟨-,hseen'⟩ := h.moves hI' hpj hfinal hj
  obtain ⟨s,x,y,hs,hstep,hx,hy,hvalues⟩ := since_published (hseen.symm.trans he) (hseen'.symm.trans hl) hd
  rw [hstep] at hnext
  exact ⟨s,x,y,hs,hnext,hx,hy,hvalues⟩

end SamplerObj

/-- What a read of a sampler came to. -/
def ObjectStore.sampled (P : Platform κ σ ρ) (handle : ℕ) (r : ReadAnswers ρ) (s : ObjectStore κ σ) :
    Except Error (Option SampleObj) := seen (s.readSampler P handle r).1 (s.readSampler P handle r).2

theorem ObjectStore.sampled_found {P : Platform κ σ ρ} {s : ObjectStore κ σ} {handle : ℕ}
    {r : ReadAnswers ρ} {sample : SampleObj} (h : s.sampled P handle r = .ok (some sample)) :
    ∃ obj opening, s.samplers.lookup handle = some ⟨obj,opening⟩ := by
  cases hx : s.samplers.lookup handle with
  | none =>
    have hnone : s.readSampler P handle r = (s,⟨.noObject,0⟩) := by simp [readSampler,hx]
    simp [sampled,hnone,seen] at h
  | some x => exact ⟨x.object,x.opening,rfl⟩

namespace Linux

/-- A read that published something published the totals in which it left the counters. -/
theorem published_total {sampler : PlatformSampler} {call : Snapshot × Replies} {x : Snapshot}
    (h : (readStep true sampler call).2.published = some x) {m : MetricId} (hm : sampler.requested m) :
    (readStep true sampler call).1.requested m ∧ x m = ((readStep true sampler call).1.counters m).total := by
  obtain ⟨hok,rfl⟩ := ReadOutcome.published_eq_some_iff.mp h
  obtain ⟨scaled,-,hcounter,hsnapshot⟩ := (read_success_commits hok m).1 hm
  have hc : (readStep true sampler call).1.counters m = _ := hcounter
  refine ⟨?_,?_⟩
  · unfold PlatformSampler.requested
    rw [hc]
    exact hm
  · rw [hc]
    exact hsnapshot

/-- What the scaled intervals of a sequence of readings sum to, compared with the raw count. -/
theorem estimate_bounds {x : Reading} {readings : List Reading} (h : (x::readings).IsChain Follows)
    (hne : readings ≠ []) :
    let raw := (readings.getLastD x).value.toNat - x.value.toNat
    let estimate := (steps interval x readings).sum
    raw ≤ estimate ∧ ((∀ y ∈ x::readings, y.running = y.enabled) → estimate = raw) ∧
    (estimate : ℚ) ≤ (steps exactInterval x readings).sum ∧
    (steps exactInterval x readings).sum < estimate + readings.length := by
  intro raw estimate
  have hraw : (steps (rise Reading.value) x readings).sum = raw := by
    have hsum := sum_rise_value h
    omega
  refine ⟨hraw ▸ sum_rise_le h,fun hall => ?_,?_,?_⟩
  · rw [← hraw, ← steps_interval_eq_rise h hall]
  · rw [cast_sum_steps]
    exact sum_steps_le (fun _ => interval_le_exact _ _) h
  · rw [cast_sum_steps]
    exact sum_steps_lt exact_lt_interval x hne

/-- The readings of a metric that the reads between two samples accepted, with that of the later one. -/
def acceptedBetween (m : MetricId) (handle : ℕ) (between : List (ObjectOp Answers))
    (rl : ReadAnswers Answers) (sampler : PlatformSampler) : List Reading :=
  accepted sampler m (nativeReads (between.filterMap (ObjectStore.callOn readCall handle)) ++
    [readCall rl.current rl.read])

/-- What `Sample::since` reports. In every run of a process, whatever other samplers do between two
reads of a sampler, the delta of a metric is the sum of the scaled intervals between the readings that
the kernel gave for it from the one read to the other. It is never below the raw count, equals it if the
counter was never multiplexed, and loses less than one event for each reading. -/
theorem deltas_estimate (files : Table File) (errno : Errno) (before between : List (ObjectOp Answers))
    (handle : ℕ) (re rl : ReadAnswers Answers) (e l : SampleObj) (delta : SampleDeltaObj) (m : MetricId) :
    let P := platform true
    let s : Store := final (ObjectStore.step P) (.start (Kernel.start files errno)) before
    let s' := (s.readSampler P handle re).1
    s.sampled P handle re = .ok (some e) → (∀ op ∈ between, op.drops handle = false) →
    (final (ObjectStore.step P) s' between).sampled P handle rl = .ok (some l) →
    l.since e = .ok delta → requests delta.metrics m.mask = true →
    ∃ obj opening sampler, s'.samplers.lookup handle = some ⟨obj,opening⟩ ∧
      obj.sampler = some sampler ∧
      let first := (sampler.counters m).previous
      let readings := acceptedBetween m handle between rl sampler
      let raw := (readings.getLastD first).value.toNat - first.value.toNat
      let estimate := (delta.values m).toNat
      (first::readings).IsChain Follows ∧ estimate = (steps interval first readings).sum ∧
      raw ≤ estimate ∧ ((∀ x ∈ first::readings, x.running = x.enabled) → estimate = raw) ∧
      (estimate : ℚ) ≤ (steps exactInterval first readings).sum ∧
      (steps exactInterval first readings).sum < estimate + readings.length := by
  intro P s s' he hkept hl hd hm
  have hs : Owned files s :=
    final_invariant_all (ObjectStore.step P) (fun s op hs => hs.step true op) before
      (start_owned files errno)
  obtain ⟨obj,opening,found⟩ := ObjectStore.sampled_found he
  obtain ⟨sampler,x,y,hsampler,hnext,hx,hy,hmetrics,hvalues⟩ := SamplerObj.since_component
    (ObjectStore.sampler_component (readsAlone true files) handle opening) hs found
    (i := .readSampler handle re) (j := .readSampler handle rl) (if_pos rfl) (if_pos rfl) rfl
    (along_of_forall (ObjectStore.step P) hkept _) rfl he hl hd
  have hreq : sampler.requested m := (hs.requested found hsampler m).mp (hmetrics ▸ hm)
  obtain ⟨hreq',hfirst⟩ := published_total hx hreq
  let read := readStep true sampler (readCall re.current re.read)
  let calls := nativeReads (between.filterMap (ObjectStore.callOn readCall handle))
  let call := readCall rl.current rl.read
  have hlast : y m = ((final (readStep true) read.1 (calls ++ [call])).counters m).total := by
    rw [final_append]
    exact (published_total hy (run_estimates hreq' calls).1).2
  obtain ⟨-,hchain,hprevious,htotal⟩ := run_estimates hreq' (calls ++ [call])
  obtain ⟨hle,hdelta⟩ := hvalues m hm
  have hsum : (delta.values m).toNat =
      (steps interval (read.1.counters m).previous (accepted read.1 m (calls ++ [call]))).sum := by
    rw [hdelta, UInt64.toNat_sub_of_le _ _ hle, hlast, hfirst, htotal]
    exact Nat.add_sub_cancel_left _ _
  have hne : accepted read.1 m (calls ++ [call]) ≠ [] := by
    have hok : (readStep true (final (readStep true) read.1 calls) call).2.succeeded = true :=
      (ReadOutcome.published_eq_some_iff.mp hy).1
    rw [accepted_append]
    simp [accepted,kept,hok]
  refine ⟨_,opening,read.1,hnext,rfl,hchain,hsum,?_⟩
  rw [hsum]
  exact estimate_bounds hchain hne

/-- A read in which every counter stands as given. -/
def countersAt (value enabled running now : UInt64) : ReadAnswers Answers :=
  ⟨.next,fun _ => 0,{ plainAnswers with read := fun _ => fullRead value enabled running },now⟩

/-- Another sampler is opened and read between the two reads, and the first one is read once more. -/
def plainBetween : List (ObjectOp Answers) :=
  [.openSampler [some .pageFaults] none plainOpening,.readSampler 0 (countersAt 20 200 150 8),
    .readSampler 1 (countersAt 90 90 90 9)]

/-- A sampler on its own. -/
def cyclesStore : Store :=
  final (ObjectStore.step (platform true)) (.start (Kernel.start ∅ 0))
    [.openSampler [some .cpuCycles] none plainOpening]

/-- The store before the later read. -/
def cyclesBetween : Store :=
  final (ObjectStore.step (platform true))
    (cyclesStore.readSampler (platform true) 0 (countersAt 10 100 100 7)).1 plainBetween

def cyclesEarlier : Option SampleObj :=
  takenSample (cyclesStore.sampled (platform true) 0 (countersAt 10 100 100 7))

def cyclesLater : Option SampleObj :=
  takenSample (cyclesBetween.sampled (platform true) 0 (countersAt 30 300 200 10))

theorem deltas_estimate_multiplexed :
    ∃ e l delta, cyclesEarlier = some e ∧ cyclesLater = some l ∧ l.since e = .ok delta ∧
      delta.value .cpuCycles = .ok 40 ∧
      ∃ sampler : PlatformSampler, (delta.values .cpuCycles).toNat =
        (steps interval (sampler.counters .cpuCycles).previous
          (acceptedBetween .cpuCycles 0 plainBetween (countersAt 30 300 200 10) sampler)).sum := by
  have hvalue : (cyclesEarlier.bind fun e => cyclesLater.bind fun l => (l.since e).toOption.map
      fun delta => (delta.value .cpuCycles,delta.metrics)) = some (.ok 40,8) := rfl
  obtain ⟨e,he,hvalue⟩ := Option.bind_eq_some_iff.mp hvalue
  obtain ⟨l,hl,hvalue⟩ := Option.bind_eq_some_iff.mp hvalue
  obtain ⟨delta,hd,hvalue⟩ := Option.map_eq_some_iff.mp hvalue
  obtain ⟨h40,hmetrics⟩ := Prod.mk.inj hvalue
  have hd : l.since e = .ok delta := eq_ok_of_toOption hd
  obtain ⟨obj,opening,sampler,-,-,-,hsum,-⟩ := deltas_estimate ∅ 0
    [.openSampler [some .cpuCycles] none plainOpening] plainBetween 0 (countersAt 10 100 100 7)
    (countersAt 30 300 200 10) e l delta .cpuCycles (sampled_of_taken he) (by decide)
    (sampled_of_taken hl) hd (by rw [hmetrics]; rfl)
  exact ⟨e,l,delta,he,hl,hd,h40,sampler,hsum⟩

end Linux

end Perfidious
