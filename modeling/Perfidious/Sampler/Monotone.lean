import Perfidious.Sampler.Sample

/-! Runs of a sampler object over a backend whose snapshots never decrease. -/
namespace Perfidious
open Library

/-- A method call on a sampler: `read`, with the backend's replies and the clock value after them,
or `close`. -/
inductive SamplerOp (ρ : Type)
  | read (r : ρ) (now : UInt64)
  | close

/-- The backend's replies that a run consumes: those before the first `close`. -/
def nativeReads {ρ : Type} : List (SamplerOp ρ) → List ρ
  | [] => []
  | .read r _::ops => r :: nativeReads ops
  | .close::_ => []

/-- The clock values that a run consumes. -/
def clocks {ρ : Type} : List (SamplerOp ρ) → List UInt64
  | [] => []
  | .read _ now::ops => now :: clocks ops
  | .close::_ => []

def takenSample : Except Error (Option SampleObj) → Option SampleObj
  | .ok sample => sample
  | .error _ => none

variable {σ ρ : Type} (platformSamplerRead : σ → ρ → σ × ReadOutcome)

/-- A sampler that could be opened has the snapshot of the first read as its origin. -/
theorem samplerOpen_ok {platformSamplerRead : σ → ρ → σ × ReadOutcome} {s : σ} {identity : ℕ}
    {metrics : UInt32} {metricOrder : List MetricId} {r : ρ} {now : UInt64} {obj : SamplerObj σ}
    (h : samplerOpen platformSamplerRead s identity metrics metricOrder r now = .ok obj) :
    (platformSamplerRead s r).2.published = some obj.origin ∧
      obj = ⟨some (platformSamplerRead s r).1,identity,obj.origin,now,metrics,metricOrder⟩ := by
  unfold samplerOpen at h
  cases hfirst : (platformSamplerRead s r).2.result with
  | error e => simp [hfirst] at h
  | ok u =>
    simp only [hfirst, Except.ok.injEq] at h
    subst h
    exact ⟨ReadOutcome.published_eq_some_iff.mpr ⟨by simp [ReadOutcome.succeeded,hfirst],rfl⟩,rfl⟩

namespace SamplerObj

def step (obj : SamplerObj σ) : SamplerOp ρ → SamplerObj σ × Except Error (Option SampleObj)
  | .read r now => ((obj.read platformSamplerRead r now).1,
      (obj.read platformSamplerRead r now).2.map some)
  | .close => (obj.close,.ok none)

/-- The samples a run of calls takes. -/
def samples (obj : SamplerObj σ) (ops : List (SamplerOp ρ)) : List SampleObj :=
  (outputs (step platformSamplerRead) obj ops).filterMap takenSample

/-- The sample that a call took, with the clock value of the call. -/
def takenAt : SamplerOp ρ → Except Error (Option SampleObj) → Option (UInt64 × SampleObj)
  | .read _ now,o => (takenSample o).map fun sample => (now,sample)
  | .close,_ => none

/-- The samples of a run, each with the clock value that its read got. -/
def timedSamples : SamplerObj σ → List (SamplerOp ρ) → List (UInt64 × SampleObj)
  | _,[] => []
  | obj,op::ops =>
    let (obj,o) := obj.step platformSamplerRead op
    (takenAt op o).toList ++ timedSamples obj ops

/-- A sample stems from one snapshot of the backend and one clock value. -/
def Taken (obj : SamplerObj σ) (current : Snapshot) (now : UInt64) (sample : SampleObj) : Prop :=
  sample.identity = obj.identity ∧ sample.metrics = obj.metrics ∧
  obj.timeOriginNs ≤ now ∧ sample.timeNs = now - obj.timeOriginNs ∧
  ∀ m, (requests obj.metrics m.mask = true → obj.origin m ≤ current m ∧
      sample.values m = current m - obj.origin m ∧ (sample.values m).toNat ≤ zendLongMax) ∧
    (¬ requests obj.metrics m.mask = true → sample.values m = 0)

/-- Inversion of `Sampler::read` on an open sampler. -/
inductive ReadCase (obj : SamplerObj σ) (s : σ) (r : ρ) (now : UInt64) : Except Error SampleObj → Prop
  | failed {e} (native : (platformSamplerRead s r).2.result = .error e) : ReadCase obj s r now (.error e)
  | clock {current} (native : (platformSamplerRead s r).2.published = some current)
      (backwards : now < obj.timeOriginNs) : ReadCase obj s r now (.error clockBackwards)
  | counter {current m} (native : (platformSamplerRead s r).2.published = some current)
      (backwards : current m < obj.origin m) : ReadCase obj s r now (.error (counterBackwards m))
  | large {current m} (native : (platformSamplerRead s r).2.published = some current) :
      ReadCase obj s r now (.error (counterTooLarge m))
  | taken {current sample} (native : (platformSamplerRead s r).2.published = some current)
      (stems : obj.Taken current now sample) : ReadCase obj s r now (.ok sample)

variable {platformSamplerRead}

theorem difference_ok {obj : SamplerObj σ} {current : Snapshot} {m : MetricId} {value : UInt64}
    (h : obj.difference current m = .ok value) :
    obj.origin m ≤ current m ∧ value = current m - obj.origin m ∧ value.toNat ≤ zendLongMax := by
  unfold difference at h
  split_ifs at h with hback hlarge
  cases h
  exact ⟨UInt64.not_lt.mp hback,rfl,not_lt.mp hlarge⟩

theorem difference_eq_ok {obj : SamplerObj σ} {current : Snapshot} {m : MetricId}
    (hle : obj.origin m ≤ current m) (hfits : (current m - obj.origin m).toNat ≤ zendLongMax) :
    obj.difference current m = .ok (current m - obj.origin m) := by
  unfold difference
  rw [if_neg (UInt64.not_lt.mpr hle), if_neg (not_lt.mpr hfits)]

theorem difference_error {obj : SamplerObj σ} {current : Snapshot} {m : MetricId} {e : Error}
    (h : obj.difference current m = .error e) :
    current m < obj.origin m ∧ e = counterBackwards m ∨ e = counterTooLarge m := by
  unfold difference at h
  split_ifs at h with hback hlarge
  · cases h
    exact .inl ⟨hback,rfl⟩
  · cases h
    exact .inr rfl

variable (platformSamplerRead) in
theorem read_open {obj : SamplerObj σ} {s : σ} (hs : obj.sampler = some s) (r : ρ) (now : UInt64) :
    (obj.read platformSamplerRead r now).1 =
      { obj with sampler := some (platformSamplerRead s r).1 } ∧
    ReadCase platformSamplerRead obj s r now (obj.read platformSamplerRead r now).2 := by
  unfold read
  simp only [hs]
  cases hres : (platformSamplerRead s r).2.result with
  | error e => exact ⟨rfl,.failed hres⟩
  | ok u =>
    have hpub : (platformSamplerRead s r).2.published = some (platformSamplerRead s r).2.snapshot :=
      ReadOutcome.published_eq_some_iff.mpr ⟨by simp [ReadOutcome.succeeded,hres],rfl⟩
    dsimp only
    by_cases hclock : now < obj.timeOriginNs
    · rw [if_pos hclock]
      exact ⟨rfl,.clock hpub hclock⟩
    rw [if_neg hclock]
    split
    next e he =>
      obtain ⟨m,-,hd⟩ := collect_error he
      rcases difference_error hd with ⟨hback,rfl⟩ | rfl
      · exact ⟨rfl,.counter hpub hback⟩
      · exact ⟨rfl,.large hpub⟩
    next values hv =>
      refine ⟨rfl,.taken hpub ⟨rfl,rfl,UInt64.not_lt.mp hclock,rfl,fun m => ?_⟩⟩
      obtain ⟨hin,hout⟩ := collect_ok MetricId.nodup_all hv m
      constructor
      · intro hreq
        exact difference_ok (hin ⟨MetricId.mem_all m,hreq⟩)
      · intro hreq
        exact hout fun h => hreq h.2

/-- `Sampler::read` once the native read succeeded and the clock did not go back. -/
theorem read_native_ok {obj : SamplerObj σ} {s : σ} {r : ρ} {now : UInt64} {current : Snapshot}
    (hs : obj.sampler = some s) (hnative : (platformSamplerRead s r).2.published = some current)
    (hclock : obj.timeOriginNs ≤ now) :
    (obj.read platformSamplerRead r now).2 =
      (collect obj.metrics (obj.difference current) MetricId.all (fun _ => 0)).map fun values =>
        ⟨obj.identity,values,now - obj.timeOriginNs,obj.metrics⟩ := by
  obtain ⟨hok,hcurrent⟩ := ReadOutcome.published_eq_some_iff.mp hnative
  unfold read
  rcases hread : platformSamplerRead s r with ⟨s',outcome⟩
  rw [hread] at hok hcurrent
  obtain ⟨result,snapshot⟩ := outcome
  cases result with
  | error e => cases hok
  | ok u =>
    cases hcurrent
    have hdiff : SamplerObj.difference { obj with sampler := some s' } snapshot =
        obj.difference snapshot := rfl
    simp only [hs,hread]
    rw [if_neg (UInt64.not_lt.mpr hclock), hdiff]
    cases collect obj.metrics (obj.difference snapshot) MetricId.all (fun _ => 0) <;> rfl

/-- A run replaces nothing but the backend's sampler, which keeps what the backend's reads keep. -/
theorem final_kept {J : σ → Prop} (hJ : ∀ s r, J s → J (platformSamplerRead s r).1)
    {obj : SamplerObj σ} (hobj : ∀ s, obj.sampler = some s → J s) (ops : List (SamplerOp ρ)) :
    ∃ sampler, final (step platformSamplerRead) obj ops = { obj with sampler } ∧
      ∀ s, sampler = some s → J s := by
  induction ops generalizing obj with
  | nil => exact ⟨_,rfl,hobj⟩
  | cons op ops ih =>
    rw [final_cons]
    cases op with
    | close =>
      obtain ⟨sampler,hfinal,hs⟩ := @ih obj.close (fun s hs => by cases hs)
      exact ⟨sampler,hfinal,hs⟩
    | read r now =>
      cases hsampler : obj.sampler with
      | none =>
        have hkeep : (step platformSamplerRead obj (.read r now)).1 = obj := by
          simp [step,read,hsampler]
        rw [hkeep]
        exact ih hobj
      | some s =>
        have hkeep : (step platformSamplerRead obj (.read r now)).1 =
          { obj with sampler := some (platformSamplerRead s r).1 } :=
            (read_open platformSamplerRead hsampler r now).1
        rw [hkeep]
        obtain ⟨sampler,hfinal,hs⟩ := @ih { obj with sampler := some (platformSamplerRead s r).1 }
          (fun s' hs' => by
            cases hs'
            exact hJ s r (hobj s hsampler))
        exact ⟨sampler,hfinal,hs⟩

/-- A closed sampler only ever throws `ClosedException`. -/
theorem outputs_closed {obj : SamplerObj σ} (hs : obj.sampler = none) (ops : List (SamplerOp ρ)) :
    ∀ o ∈ outputs (step platformSamplerRead) obj ops, o = .ok none ∨ o = .error samplerClosed := by
  induction ops with
  | nil => simp
  | cons op ops ih =>
    have hkeep : (step platformSamplerRead obj op).1 = obj := by
      cases op with
      | read r now => simp [step,read,hs]
      | close => simp [step,close,← hs]
    rw [outputs_cons, hkeep]
    rintro o (_ | ⟨_,ho⟩)
    · cases op with
      | read r now => exact .inr (by simp [step,read,hs,Except.map])
      | close => exact .inl rfl
    · exact ih o ho

theorem timedSamples_closed {obj : SamplerObj σ} (hs : obj.sampler = none) (ops : List (SamplerOp ρ)) :
    obj.timedSamples platformSamplerRead ops = [] := by
  induction ops with
  | nil => rfl
  | cons op ops ih =>
    have hkeep : (step platformSamplerRead obj op).1 = obj ∧
        takenAt op (step platformSamplerRead obj op).2 = none := by
      cases op with
      | read r now => simp [step,read,hs,takenAt,takenSample,Except.map]
      | close => simp [step,close,takenAt,← hs]
    simp only [timedSamples, hkeep.1, hkeep.2, ih]
    rfl

theorem samples_eq (obj : SamplerObj σ) (ops : List (SamplerOp ρ)) :
    obj.samples platformSamplerRead ops = (obj.timedSamples platformSamplerRead ops).map Prod.snd := by
  induction ops generalizing obj with
  | nil => rfl
  | cons op ops ih =>
    have htaken : takenSample (step platformSamplerRead obj op).2 =
        (takenAt op (step platformSamplerRead obj op).2).map Prod.snd := by
      cases op with
      | read r now => simp [takenAt,Function.comp_def]
      | close => rfl
    have hrest := ih (step platformSamplerRead obj op).1
    simp only [samples, outputs_cons, List.filterMap_cons, timedSamples, List.map_append] at hrest ⊢
    rw [htaken, ← hrest]
    cases takenAt op (step platformSamplerRead obj op).2 <;> rfl

/-- The samples of a run were taken at clock values of the run, in order. -/
theorem timedSamples_clocks {obj : SamplerObj σ} {s : σ} (hs : obj.sampler = some s)
    (ops : List (SamplerOp ρ)) :
    ((obj.timedSamples platformSamplerRead ops).map Prod.fst).Sublist (clocks ops) := by
  induction ops generalizing obj s with
  | nil => exact .slnil
  | cons op ops ih =>
    cases op with
    | close =>
      have hclosed := @timedSamples_closed _ _ platformSamplerRead obj.close rfl ops
      simp only [timedSamples, step, takenAt, hclosed]
      exact List.nil_sublist _
    | read r now =>
      have hopen : (step platformSamplerRead obj (.read r now)).1.sampler =
          some (platformSamplerRead s r).1 := by
        rw [step, (read_open platformSamplerRead hs r now).1]
      have hrest := ih hopen
      simp only [timedSamples, takenAt, clocks, List.map_append]
      cases takenSample (step platformSamplerRead obj (.read r now)).2 with
      | none => exact hrest.cons now
      | some sample => exact hrest.cons_cons now

/-- Every sample of a run stems from a published snapshot and the clock value of its read. -/
theorem mem_timedSamples {obj : SamplerObj σ} {s : σ} (hs : obj.sampler = some s)
    {ops : List (SamplerOp ρ)} {now : UInt64} {sample : SampleObj}
    (h : (now,sample) ∈ obj.timedSamples platformSamplerRead ops) :
    ∃ current ∈ (outputs platformSamplerRead s (nativeReads ops)).filterMap ReadOutcome.published,
      now ∈ clocks ops ∧ obj.Taken current now sample := by
  induction ops generalizing obj s with
  | nil => cases h
  | cons op ops ih =>
    cases op with
    | close =>
      have hclosed := @timedSamples_closed _ _ platformSamplerRead obj.close rfl ops
      simp [timedSamples,step,takenAt,hclosed] at h
    | read r t =>
      obtain ⟨hkeep,hcase⟩ := read_open platformSamplerRead hs r t
      rcases List.mem_append.mp h with h | h
      · simp only [takenAt] at h
        generalize (obj.read platformSamplerRead r t).2 = out at hcase h
        cases hcase with
        | taken native stems =>
          simp only [Except.map, takenSample, Option.map_some, Option.toList_some, List.mem_singleton,
            Prod.mk.injEq] at h
          obtain ⟨rfl,rfl⟩ := h
          refine ⟨_,?_,List.mem_cons_self,stems⟩
          simp [nativeReads,native]
        | _ => cases h
      · simp only [hkeep] at h
        obtain ⟨current,hcur,ht,htaken⟩ :=
          @ih { obj with sampler := some (platformSamplerRead s r).1 } _ rfl h
        refine ⟨current,?_,List.mem_cons_of_mem _ ht,htaken⟩
        obtain ⟨p,hp,hpub⟩ := List.mem_filterMap.mp hcur
        exact List.mem_filterMap.mpr ⟨p,List.mem_cons_of_mem _ hp,hpub⟩

/-- Every sample of a run stems from a published snapshot and a clock value of the run. -/
theorem mem_samples {obj : SamplerObj σ} {s : σ} (hs : obj.sampler = some s)
    {ops : List (SamplerOp ρ)} {sample : SampleObj}
    (h : sample ∈ obj.samples platformSamplerRead ops) :
    ∃ current ∈ (outputs platformSamplerRead s (nativeReads ops)).filterMap ReadOutcome.published,
      ∃ now ∈ clocks ops, obj.Taken current now sample := by
  rw [samples_eq] at h
  obtain ⟨⟨now,_⟩,hmem,rfl⟩ := List.mem_map.mp h
  obtain ⟨current,hcur,hnow,htaken⟩ := mem_timedSamples hs hmem
  exact ⟨current,hcur,now,hnow,htaken⟩

/-- The origin and the samples of a run follow the order of the snapshots and of the clock. -/
theorem samples_ordered {obj : SamplerObj σ} {s : σ} (hs : obj.sampler = some s)
    {ops : List (SamplerOp ρ)}
    (hsnap : ((outputs platformSamplerRead s (nativeReads ops)).filterMap
      ReadOutcome.published).Pairwise Snapshot.Below)
    (hclock : (clocks ops).Pairwise (· ≤ ·)) :
    (obj.samples platformSamplerRead ops).Pairwise fun earlier later =>
      ∃ x y, x.Below y ∧ ∃ t u, t ≤ u ∧ obj.Taken x t earlier ∧ obj.Taken y u later := by
  induction ops generalizing obj s with
  | nil => exact List.Pairwise.nil
  | cons op ops ih =>
    cases op with
    | close =>
      have hnone : obj.samples platformSamplerRead (.close::ops) = [] := by
        refine List.filterMap_eq_nil_iff.mpr fun o ho => ?_
        rcases List.mem_cons.mp ho with rfl | ho
        · rfl
        · rcases outputs_closed (show (obj.close).sampler = none from rfl) ops o ho with rfl | rfl <;> rfl
      rw [hnone]
      exact List.Pairwise.nil
    | read r now =>
      obtain ⟨hkeep,hcase⟩ := read_open platformSamplerRead hs r now
      obtain ⟨hnow,hclock⟩ := List.pairwise_cons.mp hclock
      have hopen : ({ obj with sampler := some (platformSamplerRead s r).1 } : SamplerObj σ).sampler =
        some (platformSamplerRead s r).1 := rfl
      have hrest := ih hopen
        (hsnap.sublist ((List.sublist_cons_self _ _).filterMap _)) hclock
      simp only [samples, outputs_cons, List.filterMap_cons]
      simp only [step, hkeep]
      generalize (obj.read platformSamplerRead r now).2 = out at hcase
      cases hcase with
      | @taken current sample native stems =>
        refine List.pairwise_cons.mpr ⟨fun later hlater => ?_,hrest⟩
        obtain ⟨y,hy,u,hu,htaken⟩ := mem_samples hopen hlater
        simp only [nativeReads, outputs_cons, List.filterMap_cons, native, List.pairwise_cons] at hsnap
        exact ⟨current,y,hsnap.1 y hy,now,u,hnow u hu,stems,htaken⟩
      | _ => exact hrest

/-- A run that starts at or below all its snapshots and clock values throws no error of its own
about counters or a clock moving backwards. -/
theorem outputs_no_backwards {obj : SamplerObj σ} {s : σ} (hs : obj.sampler = some s)
    {ops : List (SamplerOp ρ)}
    (horigin : ∀ x ∈ (outputs platformSamplerRead s (nativeReads ops)).filterMap
      ReadOutcome.published, obj.origin.Below x)
    (hclock : ∀ now ∈ clocks ops, obj.timeOriginNs ≤ now) {e : Error}
    (he : .error e ∈ outputs (step platformSamplerRead) obj ops) :
    e = samplerClosed ∨ (∃ m, e = counterTooLarge m) ∨
      ∃ o ∈ outputs platformSamplerRead s (nativeReads ops), o.result = .error e := by
  induction ops generalizing obj s with
  | nil => simp at he
  | cons op ops ih =>
    cases op with
    | close =>
      rcases List.mem_cons.mp he with he | he
      · cases he
      · rcases outputs_closed (show (obj.close).sampler = none from rfl) ops _ he with h | h
        · cases h
        · exact .inl (Except.error.inj h)
    | read r now =>
      obtain ⟨hkeep,hcase⟩ := read_open platformSamplerRead hs r now
      rcases List.mem_cons.mp he with he | he
      · simp only [step] at he
        generalize (obj.read platformSamplerRead r now).2 = out at hcase he
        cases hcase with
        | failed native =>
          cases he
          exact .inr (.inr ⟨_,List.mem_cons_self,native⟩)
        | clock native backwards =>
          exact absurd (hclock now List.mem_cons_self) (UInt64.not_le.mpr backwards)
        | @counter current m native backwards =>
          have hmem : current ∈ (outputs platformSamplerRead s
              (nativeReads (.read r now::ops))).filterMap ReadOutcome.published := by
            simp [nativeReads,native]
          exact absurd (horigin current hmem m) (UInt64.not_le.mpr backwards)
        | large native =>
          cases he
          exact .inr (.inl ⟨_,rfl⟩)
        | taken native stems => cases he
      · rw [step, hkeep] at he
        have hsub : ((outputs platformSamplerRead (platformSamplerRead s r).1 (nativeReads ops)).filterMap
            ReadOutcome.published).Sublist _ :=
          (List.sublist_cons_self (platformSamplerRead s r).2 _).filterMap _
        rcases @ih { obj with sampler := some (platformSamplerRead s r).1 } _ rfl
          (fun x hx => horigin x (hsub.subset hx))
          (fun t ht => hclock t (List.mem_cons_of_mem _ ht)) he with h | h | ⟨o,ho,h⟩
        · exact .inl h
        · exact .inr (.inl h)
        · exact .inr (.inr ⟨o,List.mem_cons_of_mem _ ho,h⟩)

/-- No sample holds a value beyond the PHP integers. -/
theorem Taken.values_le {obj : SamplerObj σ} {x : Snapshot} {t : UInt64} {sample : SampleObj}
    (h : obj.Taken x t sample) (m : MetricId) : (sample.values m).toNat ≤ zendLongMax := by
  obtain ⟨-,-,-,-,hv⟩ := h
  by_cases hreq : requests obj.metrics m.mask = true
  · exact ((hv m).1 hreq).2.2
  · rw [(hv m).2 hreq]
    decide

end SamplerObj

theorem uint64ToLong_eq_ok {value : UInt64} (h : value.toNat ≤ zendLongMax) :
    uint64ToLong value = .ok value.toNat := if_neg (not_lt.mpr h)

theorem sampleValue_ne_overflow {metrics : UInt32} {values : Snapshot} {m : MetricId}
    (h : (values m).toNat ≤ zendLongMax) : sampleValue metrics values m ≠ .error valueTooLarge := by
  unfold sampleValue
  split_ifs
  · simp [uint64ToLong_eq_ok h]
  · simp [notCollected,valueTooLarge]

/-- Inversion of a successful `Sample::since`. -/
theorem SampleObj.since_ok {sample earlier : SampleObj} {delta : SampleDeltaObj}
    (h : sample.since earlier = .ok delta) :
    delta.metrics = sample.metrics ∧ ∀ m, (delta.values m).toNat ≤ (sample.values m).toNat := by
  unfold since at h
  split_ifs at h
  split at h
  · cases h
  · split at h
    · cases h
    next values hv =>
      cases h
      refine ⟨rfl,fun m => ?_⟩
      change (values m).toNat ≤ _
      obtain ⟨hin,hout⟩ := collect_ok MetricId.nodup_all hv m
      by_cases hreq : requests sample.metrics m.mask = true
      · have hd := hin ⟨MetricId.mem_all m,hreq⟩
        unfold SampleObj.difference at hd
        split_ifs at hd with hback
        rw [← Except.ok.inj hd, UInt64.toNat_sub_of_le _ _ (UInt64.not_lt.mp hback)]
        exact Nat.sub_le _ _
      · rw [hout fun h => hreq h.2]
        exact Nat.zero_le _

/-- A later sample of the same run can be compared with an earlier one, unless too much time passed
between them. -/
theorem SamplerObj.Taken.since_error {obj : SamplerObj σ} {x y : Snapshot} {t u : UInt64}
    {earlier later : SampleObj} (hx : obj.Taken x t earlier) (hy : obj.Taken y u later)
    (hxy : x.Below y) (htu : t ≤ u) {e : Error} (h : later.since earlier = .error e) :
    e = valueTooLarge := by
  obtain ⟨hxi,-,hxo,hxt,hxv⟩ := hx
  obtain ⟨hyi,hym,hyo,hyt,hyv⟩ := hy
  have htime : ¬ later.timeNs < earlier.timeNs := by
    rw [hxt, hyt]
    grind
  unfold SampleObj.since at h
  rw [if_neg (not_not_intro (hyi.trans hxi.symm)), if_neg htime] at h
  split at h
  next e' he =>
    cases h
    unfold uint64ToLong at he
    split_ifs at he
    exact (Except.error.inj he).symm
  · split at h
    next e' he =>
      obtain ⟨m,hreq,hd⟩ := collect_error he
      rw [hym] at hreq
      obtain ⟨hox,hxm,-⟩ := (hxv m).1 hreq
      obtain ⟨hoy,hym',-⟩ := (hyv m).1 hreq
      have hback : ¬ later.values m < earlier.values m := by
        have := hxy m
        rw [hxm, hym']
        grind
      rw [SampleObj.difference, if_neg hback] at hd
      cases hd
    · cases h

end Perfidious
