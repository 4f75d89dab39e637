import Perfidious.LowLevel.Exclusive

/-! Samplers and thread profiles side by side do not disturb one another: each behaves as if it were
alone in the process. -/
namespace Perfidious.Windows
open Library

/-- A method call on a thread profile, with what Windows returns. -/
inductive ProfileCall
  | read (r : ProfileReply)
  | close (error : UInt32)

def ThreadProfileObj.step (obj : ThreadProfileObj) :
    ProfileCall → ThreadProfileObj × Except Error (Option ThreadProfileSnapshot)
  | .read r => (obj,(obj.read r).map some)
  | .close error => ((obj.close error).1,(obj.close error).2.map fun _ => none)

/-- The last reference to a given sampler is dropped. -/
def SessionOp.dropsSampler (handle : ℕ) : SessionOp → Bool
  | .objects op => op.drops handle
  | _ => false

/-- The last reference to a given thread profile is dropped. -/
def SessionOp.dropsProfile (object : ℕ) : SessionOp → Bool
  | .destroyProfile k _ => k == object
  | _ => false

/-- What `DisableThreadProfiling` returns for a live session. -/
def disabled : Option ErrorCode → UInt32
  | none => 0
  | some e => e.code

/-- The answers that reach a read of the Windows backend. -/
def readCall (_ : Snapshot) (r : Answers) : Replies := r.toReplies

theorem readsAlone (base : Table Native) (profiles : Table Profile) :
    platform.ReadsAlone (ObjectStore.Kept (Consistent base profiles)) readCall nativeRead where
  keeps op h := ObjectStore.Kept.step (platform_keeps base profiles) h (answered_true op)
  read := by
    intro s handle obj opening sampler current r h found held
    have hs : Sessions.Sound base ⟨s,profiles⟩ := h
    exact hs.samplerRead ((ObjectStore.inUse_of_lookup found).trans held) r.toReplies

namespace Sessions

/-- The method call that an operation is on a given sampler. -/
def samplerCall (handle : ℕ) : SessionOp → Option (SamplerOp Replies)
  | .objects op => ObjectStore.callOn readCall handle op
  | _ => none

/-- What a method call on a sampler came to. -/
def samplerSeen (s : Sessions) : SessionResult → Except Error (Option SampleObj)
  | .object o => s.store.seen o
  | _ => .ok none

/-- The method call that an operation is on a given thread profile. -/
def profileCall (object : ℕ) : SessionOp → Option ProfileCall
  | .readProfile k r => if k = object then some (.read r) else none
  | .closeProfile k disable => if k = object then some (.close (disabled disable)) else none
  | _ => none

/-- What a method call on a thread profile came to. -/
def profileSeen (_ : Sessions) : SessionResult → Except Error (Option ThreadProfileSnapshot)
  | .snapshot snapshot => .ok (some snapshot)
  | .thrown e => .error e
  | _ => .ok none

theorem enable_samplers (hardwareCounters : ℤ) (r : EnableAnswers) (s : Sessions) :
    (s.enable hardwareCounters r).1.store.samplers = s.store.samplers := by
  unfold Sessions.enable
  split
  · rfl
  split
  · rfl
  · split <;> rfl

theorem closeProfile_samplers (object : ℕ) (disable : Option ErrorCode) (s : Sessions) :
    (s.closeProfile object disable).1.store.samplers = s.store.samplers := by
  unfold Sessions.closeProfile
  split <;> rfl

theorem destroyProfile_samplers (object : ℕ) (disable : Option ErrorCode) (s : Sessions) :
    (s.destroyProfile object disable).1.store.samplers = s.store.samplers := by
  unfold Sessions.destroyProfile
  split <;> rfl

theorem readProfile_eq (object : ℕ) (r : ProfileReply) (s : Sessions) : (s.readProfile object r).1 = s := by
  unfold Sessions.readProfile
  split
  · rfl
  · split <;> rfl

/-- A new thread profile gets a handle of its own. -/
theorem enable_lookup {s : Sessions} {object : ℕ} {p : Profile} (hp : s.profiles.lookup object = some p)
    (hardwareCounters : ℤ) (r : EnableAnswers) :
    (s.enable hardwareCounters r).1.profiles.lookup object = some p := by
  unfold Sessions.enable
  split
  · exact hp
  split
  · exact hp
  · split
    · exact hp
    · have hne : object ≠ r.object.pick s.profiles.keys := by
        rintro rfl
        cases (Table.lookup_pick r.object s.profiles).symm.trans hp
      exact (Finmap.lookup_insert_of_ne _ hne).trans hp

variable {base : Table Native}

theorem sampler_component (handle opening : ℕ) :
    Component step (fun _ => samplerCall handle) samplerSeen (SamplerObj.step nativeRead) (Sound base)
      (fun _ op => op.dropsSampler handle = false)
      (fun s obj => s.store.samplers.lookup handle = some ⟨obj,opening⟩) where
  keeps hs _ := hs.step _
  passes := by
    intro s op obj hs hdrop hx hcall
    cases op with
    | objects op => exact ObjectStore.step_lookup hx hdrop hcall
    | enable hardwareCounters r => exact (congrArg _ (enable_samplers hardwareCounters r s)).trans hx
    | readProfile object r =>
      simp only [step, readProfile_eq]
      exact hx
    | closeProfile object disable => exact (congrArg _ (closeProfile_samplers object disable s)).trans hx
    | destroyProfile object disable =>
      exact (congrArg _ (destroyProfile_samplers object disable s)).trans hx
  moves := by
    intro s op obj call hs hdrop hx hcall
    cases op with
    | objects op =>
      exact (ObjectStore.sampler_component (readsAlone base s.profiles) handle opening).moves hs hdrop hx
        hcall
    | _ => cases hcall

theorem profile_component (object : ℕ) (threadId : UInt32) :
    Component step (fun _ => profileCall object) profileSeen ThreadProfileObj.step (Sound base)
      (fun _ op => op.dropsProfile object = false)
      (fun s obj => s.profiles.lookup object = some ⟨obj,threadId⟩) where
  keeps hs _ := hs.step _
  passes := by
    intro s op obj hs hdrop hx hcall
    cases op with
    | objects op => exact hx
    | enable hardwareCounters r => exact enable_lookup hx hardwareCounters r
    | readProfile k r =>
      simp only [step, readProfile_eq]
      exact hx
    | closeProfile k disable =>
      have hk : object ≠ k := by
        rintro rfl
        simp [profileCall] at hcall
      simp only [step, Sessions.closeProfile]
      split
      · exact hx
      · exact (Finmap.lookup_insert_of_ne _ hk).trans hx
    | destroyProfile k disable =>
      have hk : object ≠ k := by
        rintro rfl
        simp [SessionOp.dropsProfile] at hdrop
      simp only [step, Sessions.destroyProfile]
      split
      · exact hx
      · exact (Finmap.lookup_erase_ne hk).trans hx
  moves := by
    intro s op obj call hs hdrop hx hcall
    cases op with
    | objects op => cases hcall
    | enable hardwareCounters r => cases hcall
    | readProfile k r =>
      simp only [profileCall, Option.ite_none_right_eq_some, Option.some.injEq] at hcall
      obtain ⟨rfl,rfl⟩ := hcall
      have hreply : obj.read (profileReply obj r s.kernel) = obj.read r := by
        cases hn : obj.handle with
        | none => simp only [ThreadProfileObj.read, ThreadProfileObj.readOver, hn]
        | some n => rw [hs.profileReply hx hn]
      refine ⟨?_,?_⟩
      · simp only [step, readProfile_eq]
        exact hx
      · simp only [step, Sessions.readProfile, hx, hreply, ThreadProfileObj.step]
        cases obj.read r <;> rfl
    | closeProfile k disable =>
      simp only [profileCall, Option.ite_none_right_eq_some, Option.some.injEq] at hcall
      obtain ⟨rfl,rfl⟩ := hcall
      simp only [step, Sessions.closeProfile, hx]
      cases hn : obj.handle with
      | none =>
        have hclose : ∀ error, obj.close error = (obj,.ok ()) := by
          intro error
          simp [ThreadProfileObj.close,hn]
        simp only [ThreadProfileObj.step, hclose]
        exact ⟨Finmap.lookup_insert _,rfl⟩
      | some n =>
        have herror : (s.kernel.disableThreadProfiling n disable).2 = disabled disable := by
          unfold Kernel.disableThreadProfiling
          rw [hs.session hx hn]
          cases disable <;> rfl
        dsimp only
        rw [herror]
        refine ⟨Finmap.lookup_insert _,?_⟩
        simp only [ThreadProfileObj.step]
        cases (obj.close (disabled disable)).2 <;> rfl
    | destroyProfile k disable => cases hcall

/-- Samplers and thread profiles do not disturb one another. In every run of both APIs the calls on a
live object return what they would return on that object alone, which ends up as it would alone. -/
theorem sessions_independent (hbase : (Kernel.start base).Exclusive) (before later : List SessionOp) :
    let s := final step (start base) before
    (∀ handle opening obj, s.store.samplers.lookup handle = some ⟨obj,opening⟩ →
      (∀ op ∈ later, op.dropsSampler handle = false) →
      let alone := later.filterMap (samplerCall handle)
      (reached step (fun _ => samplerCall handle) samplerSeen s later).map Prod.snd =
        outputs (SamplerObj.step nativeRead) obj alone ∧
      (final step s later).store.samplers.lookup handle =
        some ⟨final (SamplerObj.step nativeRead) obj alone,opening⟩) ∧
    ∀ object threadId obj, s.profiles.lookup object = some ⟨obj,threadId⟩ →
      (∀ op ∈ later, op.dropsProfile object = false) →
      let alone := later.filterMap (profileCall object)
      (reached step (fun _ => profileCall object) profileSeen s later).map Prod.snd =
        outputs ThreadProfileObj.step obj alone ∧
      (final step s later).profiles.lookup object =
        some ⟨final ThreadProfileObj.step obj alone,threadId⟩ := by
  intro s
  have hs : s.Sound base := final_sound hbase before
  constructor
  · intro handle opening obj found hlater alone
    have hrun := (sampler_component handle opening).run hs (along_of_forall step hlater s) found
    rwa [reached_inputs] at hrun
  · intro object threadId obj found hlater alone
    have hrun := (profile_component object threadId).run hs (along_of_forall step hlater s) found
    rwa [reached_inputs] at hrun

/-- The thread of the sampler is profiled by others before and after the sampler is closed. -/
def plainLater : List SessionOp :=
  [.enable 0 plainEnable,.objects (.readSampler 0 ⟨.next,fun _ => 0,plainAnswers,9⟩),
    .objects (.closeSampler 0 plainAnswers),.enable 0 plainEnable,.readProfile 0 plainInitial,
    .objects (.readSampler 0 ⟨.next,fun _ => 0,plainAnswers,9⟩)]

theorem sessions_independent_plain :
    let s := final step (start ∅) plainSessions
    ∃ opening obj, s.store.samplers.lookup 0 = some ⟨obj,opening⟩ ∧
      (reached step (fun _ => samplerCall 0) samplerSeen s plainLater).map Prod.snd =
        outputs (SamplerObj.step nativeRead) obj (plainLater.filterMap (samplerCall 0)) := by
  intro s
  have hsome : (s.store.samplers.lookup 0).isSome = true := rfl
  obtain ⟨⟨obj,opening⟩,hlive⟩ := Option.isSome_iff_exists.mp hsome
  exact ⟨opening,obj,hlive,
    ((sessions_independent start_exclusive plainSessions plainLater).1 0 opening obj hlive (by decide)).1⟩

end Sessions

end Perfidious.Windows
