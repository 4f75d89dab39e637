import Perfidious.Library.Component
import Perfidious.Sampler.Estimate
import Perfidious.Sampler.Monotone

/-! A sampler among other objects. Whatever a program does with its other samplers and samples, each
sampler behaves as if it were alone, and a sample never changes. -/
namespace Perfidious
open Library

variable {κ σ ρ ρ' : Type}

/-- In the states that `Good` describes, the read of a live sampler depends on nothing but the sampler
and the answers to the read. -/
structure Platform.ReadsAlone (P : Platform κ σ ρ) (Good : ObjectStore κ σ → Prop)
    (answer : Snapshot → ρ → ρ') (solo : σ → ρ' → σ × ReadOutcome) : Prop where
  keeps : ∀ {s} op, Good s → Good (s.step P op).1
  read : ∀ {s handle obj opening sampler} current r, Good s →
    s.samplers.lookup handle = some ⟨obj,opening⟩ → obj.sampler = some sampler →
    (P.samplerRead sampler current r s.native).2 = solo sampler (answer current r)

/-- `Sampler::read` depends on the backend only through the read of its own sampler. -/
theorem SamplerObj.read_congr {read : σ → ρ → σ × ReadOutcome} {read' : σ → ρ' → σ × ReadOutcome}
    {obj : SamplerObj σ} {r : ρ} {r' : ρ'}
    (h : ∀ sampler, obj.sampler = some sampler → read sampler r = read' sampler r') (now : UInt64) :
    obj.read read r now = obj.read read' r' now := by
  cases hs : obj.sampler with
  | none => simp only [SamplerObj.read,hs]
  | some sampler =>
    simp only [SamplerObj.read,hs]
    rw [h sampler hs]

/-- The last reference to a given sampler is dropped. -/
def ObjectOp.drops (handle : ℕ) : ObjectOp ρ → Bool
  | .destroySampler k _ => k == handle
  | _ => false

/-- The last reference to a given sample is dropped. -/
def ObjectOp.dropsSample (handle : ℕ) : ObjectOp ρ → Bool
  | .destroySample k => k == handle
  | _ => false

namespace ObjectStore

/-- The method call that an operation is on a given sampler. -/
def callOn (answer : Snapshot → ρ → ρ') (handle : ℕ) : ObjectOp ρ → Option (SamplerOp ρ')
  | .readSampler k r => if k = handle then some (.read (answer r.current r.read) r.now) else none
  | .closeSampler k _ => if k = handle then some .close else none
  | _ => none

/-- What a method call on a sampler came to: an exception, or the `Sample` object that it returned. -/
def seen (s : ObjectStore κ σ) (o : ObjectOutcome) : Except Error (Option SampleObj) :=
  match o.result with
  | .thrown (.exception e) => .error e
  | .sample k => .ok ((s.samples.lookup k).map Live.object)
  | _ => .ok none

/-- The calls on a sampler along a run, each with what it came to. -/
def calls (P : Platform κ σ ρ) (answer : Snapshot → ρ → ρ') (handle : ℕ) :
    ObjectStore κ σ → List (ObjectOp ρ) → List (SamplerOp ρ' × Except Error (Option SampleObj)) :=
  reached (step P) (fun _ => callOn answer handle) seen

variable {P : Platform κ σ ρ} {answer : Snapshot → ρ → ρ'} {solo : σ → ρ' → σ × ReadOutcome}

/-- A new sampler gets a handle of its own. -/
theorem openSampler_lookup {s : ObjectStore κ σ} {handle : ℕ} {x : Live (SamplerObj σ)}
    (hx : s.samplers.lookup handle = some x) (values : List (Option MetricId)) (scope : Option ScopeId)
    (r : OpenAnswers ρ) : (s.openSampler P values scope r).1.samplers.lookup handle = some x := by
  generalize hy : s.openSampler P values scope r = y
  cases hy ▸ s.openSampler_cases P values scope r with
  | rejected reason => exact hx
  | unprobed supported names => exact hx
  | unsupported supported => exact hx
  | admitted supported opened names =>
    cases opened with
    | failed obj left named opened => simpa using hx
    | unread obj held named opened read result => simpa using hx
    | opened obj held named requested ordered opened read result =>
      have hne : handle ≠ r.handle.pick s.samplers.keys := by
        rintro rfl
        cases (Table.lookup_pick r.handle s.samplers).symm.trans hx
      exact (Finmap.lookup_insert_of_ne _ hne).trans hx

theorem TakeCase.samplers {obj : SamplerObj σ} {opening : ℕ} {current : Snapshot} {r : ReadAnswers ρ}
    {s : ObjectStore κ σ} {x : ObjectStore κ σ × ObjectOutcome} (h : TakeCase obj opening current r s x) :
    x.1.samplers = s.samplers := by
  cases h with
  | clock backwards => rfl
  | dropped sample same forwards failed => simp
  | taken sample same forwards complete rest fresh => exact identityRetain_samplers _ _

/-- A read writes to no sampler but its own. -/
theorem readSampler_lookup {s : ObjectStore κ σ} {handle k : ℕ} (hk : k ≠ handle) (r : ReadAnswers ρ) :
    (s.readSampler P k r).1.samplers.lookup handle = s.samplers.lookup handle := by
  generalize hx : s.readSampler P k r = x
  cases hx ▸ readSampler_cases P k r s with
  | noObject absent => rfl
  | closed found gone => rfl
  | failed found held read result => exact Finmap.lookup_insert_of_ne _ hk.symm
  | read found held read result taken =>
    rw [taken.samplers]
    exact Finmap.lookup_insert_of_ne _ hk.symm

theorem closeSampler_lookup {s : ObjectStore κ σ} {handle k : ℕ} (hk : k ≠ handle) (r : ρ) :
    (s.closeSampler P k r).1.samplers.lookup handle = s.samplers.lookup handle := by
  unfold closeSampler
  split
  · rfl
  · split
    · rfl
    · exact Finmap.lookup_insert_of_ne _ hk.symm

theorem destroySampler_lookup {s : ObjectStore κ σ} {handle k : ℕ} (hk : k ≠ handle) (r : ρ) :
    (s.destroySampler P k r).1.samplers.lookup handle = s.samplers.lookup handle := by
  unfold destroySampler
  split
  · rfl
  · rw [samplerObjFree_samplers]
    exact Finmap.lookup_erase_ne hk.symm

theorem destroySample_samplers (handle : ℕ) (s : ObjectStore κ σ) :
    (s.destroySample handle).1.samplers = s.samplers := by
  unfold destroySample
  split
  · rfl
  · exact sampleObjFree_samplers _ _

/-- An operation that is no call on a sampler, and does not drop it, leaves it as it is. -/
theorem step_lookup {s : ObjectStore κ σ} {handle : ℕ} {x : Live (SamplerObj σ)} {op : ObjectOp ρ}
    (hx : s.samplers.lookup handle = some x) (hdrop : op.drops handle = false)
    (hcall : callOn answer handle op = none) : (s.step P op).1.samplers.lookup handle = some x := by
  cases op with
  | openSampler values scope r => exact openSampler_lookup hx values scope r
  | readSampler k r =>
    have hk : k ≠ handle := by
      rintro rfl
      simp [callOn] at hcall
    exact (readSampler_lookup hk r).trans hx
  | closeSampler k r =>
    have hk : k ≠ handle := by
      rintro rfl
      simp [callOn] at hcall
    exact (closeSampler_lookup hk r).trans hx
  | destroySampler k r =>
    have hk : k ≠ handle := by
      rintro rfl
      simp [ObjectOp.drops] at hdrop
    exact (destroySampler_lookup hk r).trans hx
  | destroySample k => exact (congrArg (Finmap.lookup handle) (destroySample_samplers k s)).trans hx

/-- A read of a sampler among other objects is a read of that sampler alone. -/
theorem readSampler_solo {Good : ObjectStore κ σ → Prop} (hP : P.ReadsAlone Good answer solo)
    {s : ObjectStore κ σ} (hs : Good s) {handle : ℕ} {obj : SamplerObj σ} {opening : ℕ}
    (found : s.samplers.lookup handle = some ⟨obj,opening⟩) (r : ReadAnswers ρ) :
    let alone := obj.step solo (.read (answer r.current r.read) r.now)
    (s.readSampler P handle r).1.samplers.lookup handle = some ⟨alone.1,opening⟩ ∧
    seen (s.readSampler P handle r).1 (s.readSampler P handle r).2 = alone.2 := by
  obtain ⟨hobj,herror,hsample⟩ := readSampler_read P found r
  have hread : obj.read (fun sampler (r : ReadAnswers ρ) =>
      (P.samplerRead sampler r.current r.read s.native).2) r r.now =
      obj.read solo (answer r.current r.read) r.now := by
    apply SamplerObj.read_congr
    intro sampler held
    exact hP.read r.current r.read hs found held
  rw [hread] at hobj herror hsample
  refine ⟨hobj,?_⟩
  unfold seen
  cases halone : (obj.read solo (answer r.current r.read) r.now).2 with
  | error e => simp only [herror e halone, SamplerObj.step, halone, Except.map]
  | ok sample =>
    obtain ⟨k,hresult,hk⟩ := hsample sample halone
    simp only [hresult, hk, SamplerObj.step, halone, Except.map, Option.map_some]

/-- A close of a sampler among other objects is a close of that sampler alone. -/
theorem closeSampler_solo {s : ObjectStore κ σ} {handle : ℕ} {obj : SamplerObj σ} {opening : ℕ}
    (found : s.samplers.lookup handle = some ⟨obj,opening⟩) (r : ρ) :
    (s.closeSampler P handle r).1.samplers.lookup handle = some ⟨obj.close,opening⟩ ∧
    seen (s.closeSampler P handle r).1 (s.closeSampler P handle r).2 = .ok none := by
  unfold closeSampler
  simp only [found]
  cases hs : obj.sampler with
  | none =>
    have hclose : obj.close = obj := by
      unfold SamplerObj.close
      rw [← hs]
    rw [hclose]
    exact ⟨found,rfl⟩
  | some sampler => exact ⟨Finmap.lookup_insert _,rfl⟩

/-- Each sampler is a component of the store, for as long as it is not dropped. -/
theorem sampler_component {Good : ObjectStore κ σ → Prop} (hP : P.ReadsAlone Good answer solo)
    (handle opening : ℕ) :
    Component (step P) (fun _ => callOn answer handle) seen (SamplerObj.step solo) Good
      (fun _ op => op.drops handle = false)
      (fun s obj => s.samplers.lookup handle = some ⟨obj,opening⟩) where
  keeps hs _ := hP.keeps _ hs
  passes _ hdrop hx hcall := step_lookup hx hdrop hcall
  moves := by
    intro s op obj call hs hdrop hx hcall
    cases op with
    | openSampler values scope r => cases hcall
    | readSampler k r =>
      simp only [callOn, Option.ite_none_right_eq_some, Option.some.injEq] at hcall
      obtain ⟨rfl,rfl⟩ := hcall
      exact readSampler_solo hP hs hx r
    | closeSampler k r =>
      simp only [callOn, Option.ite_none_right_eq_some, Option.some.injEq] at hcall
      obtain ⟨rfl,rfl⟩ := hcall
      exact closeSampler_solo hx r
    | destroySampler k r => cases hcall
    | destroySample k => cases hcall

/-- A sampler among other objects returns what it would return alone, and ends up as it would alone. -/
theorem sampler_alone {Good : ObjectStore κ σ → Prop} (hP : P.ReadsAlone Good answer solo)
    {s : ObjectStore κ σ} (hs : Good s) {handle opening : ℕ} {obj : SamplerObj σ}
    (found : s.samplers.lookup handle = some ⟨obj,opening⟩) {later : List (ObjectOp ρ)}
    (hlater : ∀ op ∈ later, op.drops handle = false) :
    let alone := later.filterMap (callOn answer handle)
    (calls P answer handle s later).map Prod.snd = outputs (SamplerObj.step solo) obj alone ∧
    (final (step P) s later).samplers.lookup handle =
      some ⟨final (SamplerObj.step solo) obj alone,opening⟩ := by
  have hrun := (sampler_component hP handle opening).run hs (along_of_forall (step P) hlater s) found
  rwa [reached_inputs] at hrun

@[simp] theorem samplerObjFree_samples (obj : SamplerObj σ) (r : ρ) (s : ObjectStore κ σ) :
    (s.samplerObjFree P obj r).samples = s.samples := by
  unfold samplerObjFree
  cases obj.sampler <;> exact identityRelease_samples _ _

theorem openSampler_samples (values : List (Option MetricId)) (scope : Option ScopeId)
    (r : OpenAnswers ρ) (s : ObjectStore κ σ) :
    (s.openSampler P values scope r).1.samples = s.samples := by
  generalize hy : s.openSampler P values scope r = y
  cases hy ▸ s.openSampler_cases P values scope r with
  | rejected reason => rfl
  | unprobed supported names => rfl
  | unsupported supported => rfl
  | admitted supported opened names =>
    cases opened with
    | failed obj left named opened => simp
    | unread obj held named opened read result => simp
    | opened obj held named requested ordered opened read result => rfl

/-- A new sample gets a handle of its own. -/
theorem TakeCase.samples {obj : SamplerObj σ} {opening : ℕ} {current : Snapshot} {r : ReadAnswers ρ}
    {s : ObjectStore κ σ} {x : ObjectStore κ σ × ObjectOutcome} (h : TakeCase obj opening current r s x)
    {k : ℕ} {y : Live SampleObj} (hy : s.samples.lookup k = some y) : x.1.samples.lookup k = some y := by
  cases h with
  | clock backwards => exact hy
  | dropped sample same forwards failed => simpa [sampleObjFree] using hy
  | @taken j sample same forwards complete rest fresh =>
    rw [identityRetain_samples] at fresh
    have hne : k ≠ j := by
      rintro rfl
      cases fresh.symm.trans hy
    change Finmap.lookup k (Finmap.insert j _ (s.identityRetain sample.identity).samples) = some y
    rw [Finmap.lookup_insert_of_ne _ hne, identityRetain_samples]
    exact hy

/-- A sample stays as it was taken until it is dropped. -/
theorem step_sample {s : ObjectStore κ σ} {k : ℕ} {y : Live SampleObj}
    (hy : s.samples.lookup k = some y) {op : ObjectOp ρ} (hdrop : op.dropsSample k = false) :
    (s.step P op).1.samples.lookup k = some y := by
  cases op with
  | openSampler values scope r =>
    exact (congrArg (Finmap.lookup k) (openSampler_samples values scope r s)).trans hy
  | readSampler handle r =>
    simp only [step]
    generalize hx : s.readSampler P handle r = x
    cases hx ▸ readSampler_cases P handle r s with
    | noObject absent => exact hy
    | closed found gone => exact hy
    | failed found held read result => exact hy
    | read found held read result taken => exact taken.samples hy
  | closeSampler handle r =>
    simp only [step, closeSampler]
    split
    · exact hy
    · split <;> exact hy
  | destroySampler handle r =>
    simp only [step, destroySampler]
    split
    · exact hy
    · simpa using hy
  | destroySample j =>
    have hne : k ≠ j := by
      rintro rfl
      simp [ObjectOp.dropsSample] at hdrop
    simp only [step, destroySample]
    split
    · exact hy
    · simpa [sampleObjFree,Finmap.lookup_erase_ne hne] using hy

theorem sample_kept {s : ObjectStore κ σ} {k : ℕ} {y : Live SampleObj}
    (hy : s.samples.lookup k = some y) {later : List (ObjectOp ρ)}
    (hlater : ∀ op ∈ later, op.dropsSample k = false) :
    (final (step P) s later).samples.lookup k = some y :=
  final_invariant (step P) (I := fun s => s.samples.lookup k = some y)
    (fun _ _ hy hop => step_sample hy hop) hy (along_of_forall (step P) hlater s)

end ObjectStore

namespace Linux

/-- What the Linux backend reads for a call on a sampler. -/
def readCall (current : Snapshot) (r : Answers) : Snapshot × Replies := (current,r.toReplies)

/-- A sampler that owns its descriptors reads as if there were no others. -/
theorem readsAlone (int128 : Bool) (files : Table File) :
    (platform int128).ReadsAlone (Owned files) readCall (readStep int128) where
  keeps op hs := hs.step int128 op
  read := by
    intro s handle obj opening sampler current r hs found held
    have hholds := hs.holds
    rw [held_of_lookup found, held] at hholds
    exact hholds.samplerRead int128 current r.toReplies

/-- Samplers do not disturb one another. In every run of a process, whatever samplers and samples come
and go besides, the calls on a live sampler return what they would return on the sampler alone, the
sampler ends up as it would alone, and every sample stays as it was taken. -/
theorem samplers_independent (int128 : Bool) (files : Table File) (errno : Errno)
    (before later : List (ObjectOp Answers)) (handle opening : ℕ) (obj : SamplerObj PlatformSampler)
    (hlive : (final (ObjectStore.step (platform int128)) (.start (Kernel.start files errno))
      before).samplers.lookup handle = some ⟨obj,opening⟩)
    (hkept : ∀ op ∈ later, op.drops handle = false) :
    let P := platform int128
    let s : Store := final (ObjectStore.step P) (.start (Kernel.start files errno)) before
    let alone := later.filterMap (ObjectStore.callOn readCall handle)
    (ObjectStore.calls P readCall handle s later).map Prod.snd =
      outputs (SamplerObj.step (readStep int128)) obj alone ∧
    (final (ObjectStore.step P) s later).samplers.lookup handle =
      some ⟨final (SamplerObj.step (readStep int128)) obj alone,opening⟩ ∧
    ∀ k y, s.samples.lookup k = some y → (∀ op ∈ later, op.dropsSample k = false) →
      (final (ObjectStore.step P) s later).samples.lookup k = some y := by
  intro P s alone
  have hs : Owned files s :=
    final_invariant_all (ObjectStore.step P) (fun s op hs => hs.step int128 op) before
      (start_owned files errno)
  obtain ⟨houts,hfinal⟩ := ObjectStore.sampler_alone (readsAlone int128 files) hs hlive hkept
  exact ⟨houts,hfinal,fun k y hy hlater => ObjectStore.sample_kept hy hlater⟩

def plainOpening : OpenAnswers Answers :=
  ⟨.next,.next,plainAnswers,plainAnswers,plainAnswers,plainAnswers,5⟩

def plainReading : ReadAnswers Answers := ⟨.next,fun _ => 0,plainAnswers,7⟩

/-- One sampler is read around the reads of another one, which is opened and closed meanwhile. -/
def plainInterleaving : List (ObjectOp Answers) :=
  [.readSampler 0 plainReading,.openSampler [some .pageFaults] none plainOpening,
    .readSampler 1 plainReading,.readSampler 0 { plainReading with now := 4 },.closeSampler 1 plainAnswers,
    .readSampler 0 plainReading]

theorem samplers_independent_two :
    let P := platform true
    let before := [ObjectOp.openSampler [some .cpuTime] none plainOpening]
    let s : Store := final (ObjectStore.step P) (.start (Kernel.start ∅ 0)) before
    ∃ obj opening, s.samplers.lookup 0 = some ⟨obj,opening⟩ ∧
      (ObjectStore.calls P readCall 0 s plainInterleaving).map Prod.snd =
        outputs (SamplerObj.step (readStep true)) obj
          (plainInterleaving.filterMap (ObjectStore.callOn readCall 0)) := by
  intro P before s
  have hsome : (s.samplers.lookup 0).isSome = true := rfl
  obtain ⟨⟨obj,opening⟩,hlive⟩ := Option.isSome_iff_exists.mp hsome
  exact ⟨obj,opening,hlive,
    (samplers_independent true ∅ 0 before plainInterleaving 0 opening obj hlive (by decide)).1⟩

end Linux

end Perfidious
