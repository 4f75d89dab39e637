import Perfidious.Sampler.WindowsPlatform

/-! Samplers and low-level thread profiles side by side (`windows/sampler.c`, `windows/functions.c`):
who owns which native handle, and which thread is being profiled for whom. -/
namespace Perfidious.Windows
open Library

/-- A live `ThreadProfile` object. `threadId` is the thread that it was enabled on; the program does
not store it. -/
structure Profile where
  object : ThreadProfileObj
  threadId : UInt32

/-- The objects of a process with both APIs. -/
structure Sessions where
  store : ObjectStore Kernel NativeSampler
  profiles : Table Profile

/-- The answers to one `enable_current_thread_profiling`: the handle that PHP picks for the object, the
current thread, and the native calls. `disable` is only asked if the initial reading failed. -/
structure EnableAnswers where
  object : Fresh
  threadId : UInt32
  enable : Except ErrorCode Fresh
  initial : ProfileReply
  disable : Option ErrorCode

/-- The result of a call on either API, or of dropping an object. -/
inductive SessionResult
  | object (o : ObjectOutcome)
  | profile (handle : ℕ)
  | snapshot (s : ThreadProfileSnapshot)
  | done
  | thrown (e : Error)
  | noObject

namespace Sessions

def kernel (s : Sessions) : Kernel := s.store.native

def withKernel (k : Kernel) (s : Sessions) : Sessions := { s with store := { s.store with native := k } }

/-- `enable_current_thread_profiling`. The object exists before the session, and is destroyed again if
the initial reading fails. -/
def enable (hardwareCounters : ℤ) (r : EnableAnswers) (s : Sessions) : Sessions × SessionResult :=
  if hardwareCounters < 0 ∨ 0xffff < hardwareCounters then (s,.thrown maskOutOfRange)
  else
    match s.kernel.enableThreadProfiling r.threadId r.enable with
    | (k,.error error) => (s.withKernel k,.thrown (enableError error.code))
    | (k,.ok handle) =>
      match enableCurrentThreadProfiling hardwareCounters ⟨0,handle⟩ r.initial with
      | .error e => (s.withKernel (k.abandon handle r.threadId r.disable),.thrown e)
      | .ok obj =>
        let object := r.object.pick s.profiles.keys
        ({ s.withKernel k with profiles := s.profiles.insert object ⟨obj,r.threadId⟩ },.profile object)

/-- `ReadThreadProfilingData` on the handle of an object. -/
def profileReply (obj : ThreadProfileObj) (r : ProfileReply) (k : Kernel) : ProfileReply :=
  match obj.handle.bind (Finmap.lookup · k.handles.table) with
  | some (.profile _) => r
  | _ => { r with error := ERROR_INVALID_HANDLE }

/-- `ThreadProfile::read`. -/
def readProfile (object : ℕ) (r : ProfileReply) (s : Sessions) : Sessions × SessionResult :=
  match s.profiles.lookup object with
  | none => (s,.noObject)
  | some p =>
    match p.object.read (profileReply p.object r s.kernel) with
    | .error e => (s,.thrown e)
    | .ok snapshot => (s,.snapshot snapshot)

/-- `ThreadProfile::close`. -/
def closeProfile (object : ℕ) (disable : Option ErrorCode) (s : Sessions) : Sessions × SessionResult :=
  match s.profiles.lookup object with
  | none => (s,.noObject)
  | some p =>
    let (k,error) := match p.object.handle with
      | none => (s.kernel,0)
      | some handle => s.kernel.disableThreadProfiling handle disable
    let (obj,result) := p.object.close error
    ({ s.withKernel k with profiles := s.profiles.insert object { p with object := obj } },
      match result with
      | .error e => .thrown e
      | .ok () => .done)

/-- `perfidious_windows_thread_profile_obj_free`. -/
def destroyProfile (object : ℕ) (disable : Option ErrorCode) (s : Sessions) : Sessions × SessionResult :=
  match s.profiles.lookup object with
  | none => (s,.noObject)
  | some p =>
    let k := match p.object.handle with
      | none => s.kernel
      | some handle => s.kernel.abandon handle p.threadId disable
    ({ s.withKernel k with profiles := s.profiles.erase object },.done)

end Sessions

/-- What a PHP program does with both APIs, and what the collector does to the objects. -/
inductive SessionOp
  | objects (op : ObjectOp Answers)
  | enable (hardwareCounters : ℤ) (r : EnableAnswers)
  | readProfile (object : ℕ) (r : ProfileReply)
  | closeProfile (object : ℕ) (disable : Option ErrorCode)
  | destroyProfile (object : ℕ) (disable : Option ErrorCode)

namespace Sessions

def step (s : Sessions) : SessionOp → Sessions × SessionResult
  | .objects op => ({ s with store := (s.store.step platform op).1 },.object (s.store.step platform op).2)
  | .enable hardwareCounters r => s.enable hardwareCounters r
  | .readProfile object r => s.readProfile object r
  | .closeProfile object disable => s.closeProfile object disable
  | .destroyProfile object disable => s.destroyProfile object disable

/-- No object exists yet. -/
def start (handles : Table Native) : Sessions := ⟨.start (Kernel.start handles),∅⟩

end Sessions

/-- The places that can hold a native handle of the extension: the two slots of a sampler, the slot of a
thread profile, and the sessions that were lost. A slot for a session names its thread. -/
inductive Slot
  | thread (sampler : ℕ)
  | session (sampler : ℕ) (threadId : UInt32)
  | profile (object : ℕ) (threadId : UInt32)
  | lost (handle : ℕ) (threadId : UInt32)
  deriving DecidableEq

/-- What the handle in a slot refers to. -/
def Slot.entry : Slot → Native
  | .thread _ => .thread
  | .session _ threadId => .profile threadId
  | .profile _ threadId => .profile threadId
  | .lost _ threadId => .profile threadId

/-- The handles in the slots. -/
def holds (inUse : ℕ → Option NativeSampler) (profiles : Table Profile) (lost : List (ℕ × UInt32)) :
    Slot → Option ℕ
  | .thread h => (inUse h).bind (·.threadHandle)
  | .session h threadId =>
    (inUse h).bind fun sampler => if sampler.threadId = threadId then sampler.profileHandle else none
  | .profile h threadId =>
    (profiles.lookup h).bind fun p => if p.threadId = threadId then p.object.handle else none
  | .lost n threadId => if (n,threadId) ∈ lost then some n else none

section
variable {inUse : ℕ → Option NativeSampler} {profiles : Table Profile} {lost : List (ℕ × UInt32)}

/-- A sampler fills its own two slots. -/
theorem holds_sampler (handle : ℕ) (sampler : NativeSampler) :
    holds (Function.update inUse handle (some sampler)) profiles lost =
      Function.update (Function.update (holds (Function.update inUse handle none) profiles lost)
        (.thread handle) sampler.threadHandle) (.session handle sampler.threadId)
        sampler.profileHandle := by
  funext slot
  cases slot with
  | thread h =>
    rw [Function.update_of_ne (by simp)]
    by_cases hh : h = handle
    · subst hh
      simp [holds]
    · rw [Function.update_of_ne (by simpa using hh)]
      simp [holds,Function.update_of_ne hh]
  | session h threadId =>
    by_cases hh : h = handle
    · subst hh
      by_cases ht : threadId = sampler.threadId
      · subst ht
        simp [holds]
      · rw [Function.update_of_ne (by simpa using ht), Function.update_of_ne (by simp)]
        simp [holds,Ne.symm ht]
    · rw [Function.update_of_ne (by simp [hh]), Function.update_of_ne (by simp)]
      simp [holds,Function.update_of_ne hh]
  | profile h threadId => simp [holds]
  | lost n threadId => simp [holds]

theorem holds_thread_none (handle : ℕ) :
    holds (Function.update inUse handle none) profiles lost (.thread handle) = none := by
  simp [holds]

theorem holds_session_none (handle : ℕ) (threadId : UInt32) :
    holds (Function.update inUse handle none) profiles lost (.session handle threadId) = none := by
  simp [holds]

/-- An open thread profile fills its slot. -/
theorem holds_profile (object : ℕ) (p : Profile) :
    holds inUse (profiles.insert object p) lost =
      Function.update (holds inUse (profiles.erase object) lost) (.profile object p.threadId)
        p.object.handle := by
  funext slot
  cases slot with
  | thread h => simp [holds]
  | session h threadId => simp [holds]
  | lost n threadId => simp [holds]
  | profile h threadId =>
    by_cases hh : h = object
    · subst hh
      by_cases ht : threadId = p.threadId
      · subst ht
        simp [holds]
      · rw [Function.update_of_ne (by simpa using ht)]
        simp [holds,Ne.symm ht]
    · rw [Function.update_of_ne (by simp [hh])]
      simp [holds,Finmap.lookup_insert_of_ne _ hh,Finmap.lookup_erase_ne hh]

theorem holds_of_lookup {object : ℕ} {p : Profile} (hp : profiles.lookup object = some p) :
    holds inUse profiles lost =
      Function.update (holds inUse (profiles.erase object) lost) (.profile object p.threadId)
        p.object.handle := by
  funext slot
  cases slot with
  | thread h => simp [holds]
  | session h threadId => simp [holds]
  | lost n threadId => simp [holds]
  | profile h threadId =>
    have hinsert := congrFun (@holds_profile inUse profiles lost object p) (.profile h threadId)
    rw [← hinsert]
    by_cases hh : h = object
    · subst hh
      simp [holds,hp]
    · simp [holds,Finmap.lookup_insert_of_ne _ hh]

theorem holds_erase_of_absent {object : ℕ} (hp : profiles.lookup object = none) :
    holds inUse (profiles.erase object) lost = holds inUse profiles lost := by
  funext slot
  cases slot with
  | profile h threadId =>
    by_cases hh : h = object
    · subst hh
      simp [holds,hp]
    · simp [holds,Finmap.lookup_erase_ne hh]
  | _ => rfl

theorem holds_profile_none (object : ℕ) (threadId : UInt32) :
    holds inUse (profiles.erase object) lost (.profile object threadId) = none := by
  simp [holds]

theorem holds_lost (n : ℕ) (threadId : UInt32) :
    holds inUse profiles ((n,threadId)::lost) =
      Function.update (holds inUse profiles lost) (.lost n threadId) (some n) := by
  funext slot
  cases slot with
  | thread h => simp [holds]
  | session h threadId => simp [holds]
  | profile h threadId => simp [holds]
  | lost m t =>
    by_cases hm : (m,t) = (n,threadId)
    · cases hm
      simp [holds]
    · have hne : Slot.lost m t ≠ .lost n threadId := by
        intro h
        cases h
        exact hm rfl
      rw [Function.update_of_ne hne]
      simp only [holds, List.mem_cons, hm, false_or]

/-- The sampler without its session. -/
def NativeSampler.unprofiled (sampler : NativeSampler) : NativeSampler :=
  { sampler with profileHandle := none }

theorem holds_unprofiled (handle : ℕ) (sampler : NativeSampler) :
    holds (Function.update inUse handle (some sampler.unprofiled)) profiles lost =
      Function.update (holds (Function.update inUse handle none) profiles lost) (.thread handle)
        sampler.threadHandle := by
  rw [holds_sampler]
  have hfree : Function.update (holds (Function.update inUse handle none) profiles lost)
      (.thread handle) sampler.threadHandle (.session handle sampler.threadId) = none := by
    rw [Function.update_of_ne (by simp)]
    exact holds_session_none handle _
  have hsame := Function.update_eq_self (.session handle sampler.threadId)
    (Function.update (holds (Function.update inUse handle none) profiles lost) (.thread handle)
      sampler.threadHandle)
  rwa [hfree] at hsame

theorem holds_profiled (handle : ℕ) (sampler : NativeSampler) :
    holds (Function.update inUse handle (some sampler)) profiles lost =
      Function.update (holds (Function.update inUse handle (some sampler.unprofiled)) profiles lost)
        (.session handle sampler.threadId) sampler.profileHandle := by
  rw [holds_sampler, holds_unprofiled]

theorem holds_unprofiled_session (handle : ℕ) (sampler : NativeSampler) (threadId : UInt32) :
    holds (Function.update inUse handle (some sampler.unprofiled)) profiles lost
      (.session handle threadId) = none := by
  simp [holds,NativeSampler.unprofiled]

end

/-- A sampler has the handles that its scope and its metrics need. -/
structure NativeSampler.Equipped (sampler : NativeSampler) : Prop where
  thread : sampler.threadHandle.isSome = true ↔ sampler.scope = .currentThread
  session : sampler.profileHandle.isSome = true ↔
    sampler.scope = .currentThread ∧ requests sampler.metrics threadProfileMetrics = true

/-- The handles of the process are those in `base` and those in the slots of the objects. -/
structure Consistent (base : Table Native) (profiles : Table Profile)
    (inUse : ℕ → Option NativeSampler) (k : Kernel) : Prop where
  held : k.handles.Held base Slot.entry (holds inUse profiles k.lost)
  exclusive : k.Exclusive
  equipped : ∀ {h sampler}, inUse h = some sampler → sampler.Equipped

section
variable {base : Table Native} {profiles : Table Profile} {inUse : ℕ → Option NativeSampler} {k : Kernel}

/-- A session that is abandoned is either ended or lost. -/
theorem abandon_held {slot : Slot} {n : ℕ} {threadId : UInt32} (r : Option ErrorCode)
    (hslot : holds inUse profiles k.lost slot = none) (hentry : slot.entry = .profile threadId)
    (howner : slot ≠ .lost n threadId)
    (h : k.handles.Held base Slot.entry
      (Function.update (holds inUse profiles k.lost) slot (some n))) :
    (k.abandon n threadId r).handles.Held base Slot.entry
      (holds inUse profiles (k.abandon n threadId r).lost) := by
  have hn : k.handles.table.lookup n = some (.profile threadId) := by
    rw [h.present (Function.update_self ..), hentry]
  cases r with
  | none =>
    have hback := h.giveBack (Function.update_self slot (some n) (holds inUse profiles k.lost))
    rw [Function.update_idem, ← hslot, Function.update_eq_self] at hback
    rw [Kernel.abandon_none hn]
    exact hback
  | some e =>
    have hlost : Function.update (holds inUse profiles k.lost) slot (some n) (.lost n threadId) = none := by
      rw [Function.update_of_ne howner.symm]
      by_contra hheld
      have hmem : holds inUse profiles k.lost (.lost n threadId) = some n := by
        simp only [holds] at hheld ⊢
        split at hheld
        next hmem => rw [if_pos hmem]
        · exact absurd rfl hheld
      -- Two slots would hold the handle.
      exact howner (h.unique (Function.update_self ..)
        ((Function.update_of_ne howner.symm _ _).trans hmem))
    have hsame : (Slot.lost n threadId).entry = slot.entry := hentry.symm
    have hmove := h.move (Function.update_self ..) hlost hsame
    rw [Function.update_idem, ← hslot, Function.update_eq_self, ← holds_lost] at hmove
    rw [Kernel.abandon_some hn]
    exact hmove

theorem equipped_without {handle : ℕ} (h : ∀ {j sampler}, inUse j = some sampler → sampler.Equipped)
    {j : ℕ} {sampler : NativeSampler} (hj : Function.update inUse handle none j = some sampler) :
    sampler.Equipped := by
  by_cases hjh : j = handle
  · subst hjh
    rw [Function.update_self] at hj
    cases hj
  · rw [Function.update_of_ne hjh] at hj
    exact h hj

theorem equipped_with {handle : ℕ} {new : NativeSampler}
    (h : ∀ {j sampler}, inUse j = some sampler → sampler.Equipped) (hnew : new.Equipped) {j : ℕ}
    {sampler : NativeSampler} (hj : Function.update inUse handle (some new) j = some sampler) :
    sampler.Equipped := by
  by_cases hjh : j = handle
  · subst hjh
    rw [Function.update_self] at hj
    cases hj
    exact hnew
  · rw [Function.update_of_ne hjh] at hj
    exact h hj

/-- The session of a sampler is ended or lost. -/
theorem closeSession_held {handle : ℕ} {sampler : NativeSampler} (r : Answers)
    (h : k.handles.Held base Slot.entry
      (holds (Function.update inUse handle (some sampler)) profiles k.lost)) :
    (closeSession sampler r k).handles.Held base Slot.entry
      (holds (Function.update inUse handle (some sampler.unprofiled)) profiles
        (closeSession sampler r k).lost) := by
  rw [holds_profiled] at h
  unfold closeSession
  cases hp : sampler.profileHandle with
  | none =>
    rw [hp, ← holds_unprofiled_session handle sampler sampler.threadId, Function.update_eq_self] at h
    exact h
  | some n =>
    rw [hp] at h
    exact abandon_held r.disable (holds_unprofiled_session ..) rfl (by simp) h

/-- The thread handle of a sampler is given back. -/
theorem closeThread_held {handle : ℕ} {sampler : NativeSampler}
    (h : k.handles.Held base Slot.entry
      (holds (Function.update inUse handle (some sampler.unprofiled)) profiles k.lost)) :
    (closeThread sampler k).handles.Held base Slot.entry
      (holds (Function.update inUse handle none) profiles (closeThread sampler k).lost) := by
  rw [holds_unprofiled] at h
  unfold closeThread
  cases ht : sampler.threadHandle with
  | none =>
    rw [ht, ← holds_thread_none handle, Function.update_eq_self] at h
    exact h
  | some n =>
    rw [ht] at h
    have hback := h.giveBack (Function.update_self ..)
    rw [Function.update_idem, ← holds_thread_none handle, Function.update_eq_self] at hback
    exact hback

theorem platformSamplerClose_exclusive (h : k.Exclusive) (sampler : NativeSampler) (r : Answers) :
    (platformSamplerClose sampler r k).Exclusive := by
  have hsession : (closeSession sampler r k).Exclusive := by
    unfold closeSession
    split
    · exact h
    · exact h.abandon _ _ _
  unfold platformSamplerClose closeThread
  split
  · exact hsession
  · exact hsession.giveBack _

theorem Consistent.close {handle : ℕ} {sampler : NativeSampler} (h : Consistent base profiles inUse k)
    (hsampler : inUse handle = some sampler) (r : Answers) :
    Consistent base profiles (Function.update inUse handle none) (platformSamplerClose sampler r k) := by
  have hheld := h.held
  rw [← Function.update_eq_self handle inUse, hsampler] at hheld
  exact ⟨closeThread_held (closeSession_held r hheld),platformSamplerClose_exclusive h.exclusive _ _,
    equipped_without h.equipped⟩

/-- A thread handle is taken for a sampler. -/
theorem take_thread {handle : ℕ} (sampler : NativeSampler) {fresh : Fresh}
    (h : k.handles.Held base Slot.entry (holds (Function.update inUse handle none) profiles k.lost))
    (ht : sampler.threadHandle = some (k.handles.take fresh .thread).2) :
    (k.handles.take fresh .thread).1.Held base Slot.entry
      (holds (Function.update inUse handle (some sampler.unprofiled)) profiles k.lost) := by
  rw [holds_unprofiled, ht]
  exact h.take fresh (holds_thread_none handle)

/-- A session is enabled for a sampler. -/
theorem take_session {handle : ℕ} (sampler : NativeSampler) {fresh : Fresh}
    (h : k.handles.Held base Slot.entry
      (holds (Function.update inUse handle (some sampler.unprofiled)) profiles k.lost))
    (hp : sampler.profileHandle = some (k.handles.take fresh (.profile sampler.threadId)).2) :
    (k.handles.take fresh (.profile sampler.threadId)).1.Held base Slot.entry
      (holds (Function.update inUse handle (some sampler)) profiles k.lost) := by
  rw [holds_profiled, hp]
  exact h.take fresh (holds_unprofiled_session handle sampler sampler.threadId)

end

/-- Inversion of `perfidious_platform_sampler_open` for a thread. -/
inductive ThreadOpenCase (metrics : UInt32) (sampler : Option NativeSampler) (r : Answers) (k : Kernel) :
    Kernel × Except (Error × Option NativeSampler) NativeSampler → Prop
  | unduplicated {error} (duplicate : r.duplicate = .error error) :
      ThreadOpenCase metrics sampler r k (k,.error (windowsThrowError "DuplicateHandle" error,sampler))
  | refused {fresh error} (duplicate : r.duplicate = .ok fresh)
      (needed : requests metrics threadProfileMetrics = true)
      (refusal : r.enable = .error error ∨ k.profiled r.currentThreadId = true ∧ error = wmiAlreadyEnabled) :
      ThreadOpenCase metrics sampler r k
        (Kernel.closeHandle (k.handles.take fresh .thread).2
          { k with handles := (k.handles.take fresh .thread).1 },
          .error (enableError error.code,sampler))
  | plain {fresh} (duplicate : r.duplicate = .ok fresh)
      (unneeded : requests metrics threadProfileMetrics = false) :
      ThreadOpenCase metrics sampler r k ({ k with handles := (k.handles.take fresh .thread).1 },
        .ok ⟨opened metrics .currentThread r.currentThreadId,some (k.handles.take fresh .thread).2,none⟩)
  | profiled {fresh fresh'} (duplicate : r.duplicate = .ok fresh)
      (needed : requests metrics threadProfileMetrics = true) (enable : r.enable = .ok fresh')
      (free : k.profiled r.currentThreadId = false) :
      ThreadOpenCase metrics sampler r k
        ({ k with handles :=
            ((k.handles.take fresh .thread).1.take fresh' (.profile r.currentThreadId)).1 },
          .ok ⟨opened metrics .currentThread r.currentThreadId,some (k.handles.take fresh .thread).2,
            some ((k.handles.take fresh .thread).1.take fresh' (.profile r.currentThreadId)).2⟩)

/-- A duplicated thread handle profiles nothing. -/
theorem profiled_duplicate (k : Kernel) (fresh : Fresh) (threadId : UInt32) :
    Kernel.profiled threadId { k with handles := (k.handles.take fresh .thread).1 } = k.profiled threadId := by
  have hfree : k.handles.table.lookup (fresh.pick k.handles.table.keys) = none := Table.lookup_pick ..
  unfold Kernel.profiled Leases.take
  dsimp only
  rw [Table.count_insert hfree]
  rfl

theorem platformSamplerOpen_thread (metrics : UInt32) (sampler : Option NativeSampler) (r : Answers)
    (k : Kernel) : ThreadOpenCase metrics sampler r k
      (platformSamplerOpen metrics .currentThread sampler r k) := by
  unfold platformSamplerOpen Kernel.duplicateHandle
  cases hd : r.duplicate with
  | error error => exact .unduplicated hd
  | ok fresh =>
    dsimp only
    by_cases hreq : requests metrics threadProfileMetrics = true
    · rw [if_pos hreq]
      unfold Kernel.enableThreadProfiling
      cases he : r.enable with
      | error error => exact .refused hd hreq (.inl he)
      | ok fresh' =>
        dsimp only
        rw [profiled_duplicate]
        by_cases hp : k.profiled r.currentThreadId = true
        · rw [if_pos hp]
          exact .refused hd hreq (.inr ⟨hp,rfl⟩)
        · rw [if_neg hp]
          exact .profiled hd hreq he (Bool.eq_false_iff.mpr hp)
    · rw [if_neg hreq]
      exact .plain hd (Bool.eq_false_iff.mpr hreq)

section
variable {base : Table Native} {profiles : Table Profile} {inUse : ℕ → Option NativeSampler} {k : Kernel}

/-- A new sampler takes its handles. -/
theorem Consistent.open {handle : ℕ} {k' : Kernel} {sampler : NativeSampler} {metrics : UInt32}
    {scope : ScopeId} {r : Answers} (h : Consistent base profiles inUse k) (hfree : inUse handle = none)
    (hopen : platformSamplerOpen metrics scope none r k = (k',.ok sampler)) :
    Consistent base profiles (Function.update inUse handle (some sampler)) k' := by
  have hheld := h.held
  rw [← Function.update_eq_self handle inUse, hfree] at hheld
  cases scope with
  | currentProcess =>
    cases hopen
    refine ⟨?_,h.exclusive,equipped_with h.equipped ⟨by simp [opened],by simp [opened]⟩⟩
    change k.handles.Held base Slot.entry (holds (Function.update inUse handle
      (some (NativeSampler.unprofiled ⟨opened metrics .currentProcess 0,none,none⟩))) profiles k.lost)
    rw [holds_unprofiled, ← holds_thread_none handle, Function.update_eq_self]
    exact hheld
  | currentThread =>
    have hcase := platformSamplerOpen_thread metrics none r k
    rw [hopen] at hcase
    cases hcase with
    | plain duplicate unneeded =>
      refine ⟨?_,h.exclusive.duplicate _,equipped_with h.equipped ⟨by simp [opened],?_⟩⟩
      · exact take_thread ⟨opened metrics .currentThread r.currentThreadId,_,none⟩ hheld rfl
      · simp [opened,unneeded]
    | @profiled fresh fresh' duplicate needed enable free =>
      have hthread := take_thread ⟨opened metrics .currentThread r.currentThreadId,
        some (k.handles.take fresh .thread).2,none⟩ hheld rfl
      refine ⟨?_,?_,equipped_with h.equipped ⟨by simp [opened],by simp [opened,needed]⟩⟩
      · exact take_session (k := { k with handles := (k.handles.take fresh .thread).1 })
          ⟨opened metrics .currentThread r.currentThreadId,_,some _⟩ hthread rfl
      · apply Kernel.Exclusive.enable (h.exclusive.duplicate _)
        rw [profiled_duplicate, free]
        decide

theorem nativeRead_kept (sampler : NativeSampler) (r : Replies) :
    (nativeRead sampler r).1.threadHandle = sampler.threadHandle ∧
    (nativeRead sampler r).1.profileHandle = sampler.profileHandle ∧
    (nativeRead sampler r).1.threadId = sampler.threadId ∧
    ((nativeRead sampler r).1.Equipped ↔ sampler.Equipped) := by
  have hcase := readCase sampler.toPlatformSampler r
  unfold nativeRead
  generalize platformSamplerRead sampler.toPlatformSampler r = out at hcase
  cases hcase <;> exact ⟨rfl,rfl,rfl,fun h => ⟨h.1,h.2⟩,fun h => ⟨h.1,h.2⟩⟩

theorem holds_congr {handle : ℕ} {sampler sampler' : NativeSampler}
    (hthread : sampler'.threadHandle = sampler.threadHandle)
    (hsession : sampler'.profileHandle = sampler.profileHandle)
    (hid : sampler'.threadId = sampler.threadId) (lost : List (ℕ × UInt32)) :
    holds (Function.update inUse handle (some sampler')) profiles lost =
      holds (Function.update inUse handle (some sampler)) profiles lost := by
  rw [holds_sampler, holds_sampler, hthread, hsession, hid]

/-- The backend keeps the handles in the slots of the objects. -/
theorem platform_keeps (base : Table Native) (profiles : Table Profile) :
    platform.Keeps (fun _ => True) (Consistent base profiles) where
  supported _ _ _ h := h
  failed := by
    intro inUse k k' e left r metrics scope _ h hopen
    cases scope with
    | currentProcess => cases hopen
    | currentThread =>
      have hcase := platformSamplerOpen_thread metrics none r k
      change platformSamplerOpen metrics .currentThread none r k = _ at hopen
      rw [hopen] at hcase
      cases hcase with
      | unduplicated duplicate => exact ⟨rfl,h⟩
      | refused duplicate needed refusal =>
        exact ⟨rfl,h.held.take_giveBack _ _,(h.exclusive.duplicate _).giveBack _,h.equipped⟩
  opened handle metrics scope _ hfree h hopen := h.open hfree hopen
  read := by
    intro inUse k k' sampler sampler' outcome r handle snapshot _ hsampler h hread
    change (k,nativeRead sampler (k.replies sampler r.toReplies)) = _ at hread
    obtain ⟨hthread,hsession,hid,hequipped⟩ := nativeRead_kept sampler (k.replies sampler r.toReplies)
    obtain ⟨rfl,hnative⟩ := Prod.mk.inj hread
    rw [hnative] at hthread hsession hid hequipped
    refine ⟨?_,h.exclusive,equipped_with h.equipped (hequipped.mpr (h.equipped hsampler))⟩
    rw [holds_congr hthread hsession hid, ← hsampler, Function.update_eq_self]
    exact h.held
  closed handle _ hsampler h := h.close hsampler _

/-- A sampler holds its session. -/
theorem Consistent.session {handle n : ℕ} {sampler : NativeSampler} (h : Consistent base profiles inUse k)
    (hsampler : inUse handle = some sampler) (hn : sampler.profileHandle = some n) :
    k.handles.table.lookup n = some (.profile sampler.threadId) := by
  have hslot : holds inUse profiles k.lost (.session handle sampler.threadId) = some n := by
    simp [holds,hsampler,hn]
  exact h.held.present hslot

theorem abandon_lost {n : ℕ} {threadId : UInt32}
    (hn : k.handles.table.lookup n = some (.profile threadId)) :
    (k.abandon n threadId none).lost = k.lost := by
  rw [Kernel.abandon_none hn]
  rfl

theorem closeThread_lost (sampler : NativeSampler) (k : Kernel) : (closeThread sampler k).lost = k.lost := by
  unfold closeThread
  split <;> rfl

/-- As long as `DisableThreadProfiling` does not fail, the backend loses no session. -/
theorem platform_keeps_lost (base : Table Native) (profiles : Table Profile) (lost : List (ℕ × UInt32)) :
    platform.Keeps (fun r => r.disable = none)
      (fun inUse k => Consistent base profiles inUse k ∧ k.lost = lost) where
  supported _ _ _ h := h
  failed := by
    intro inUse k k' e left r metrics scope _ h hopen
    obtain ⟨hleft,hk⟩ := (platform_keeps base profiles).failed metrics scope trivial h.1 hopen
    refine ⟨hleft,hk,?_⟩
    cases scope with
    | currentProcess => cases hopen
    | currentThread =>
      have hcase := platformSamplerOpen_thread metrics none r k
      change platformSamplerOpen metrics .currentThread none r k = _ at hopen
      rw [hopen] at hcase
      cases hcase <;> exact h.2
  opened := by
    intro inUse k k' sampler r handle metrics scope _ hfree h hopen
    refine ⟨h.1.open hfree hopen,?_⟩
    cases scope with
    | currentProcess =>
      cases hopen
      exact h.2
    | currentThread =>
      have hcase := platformSamplerOpen_thread metrics none r k
      change platformSamplerOpen metrics .currentThread none r k = _ at hopen
      rw [hopen] at hcase
      cases hcase <;> exact h.2
  read := by
    intro inUse k k' sampler sampler' outcome r handle snapshot _ hsampler h hread
    refine ⟨(platform_keeps base profiles).read handle snapshot trivial hsampler h.1 hread,?_⟩
    cases hread
    exact h.2
  closed := by
    intro inUse k sampler r handle hr hsampler h
    refine ⟨h.1.close hsampler r,?_⟩
    change (closeThread sampler (closeSession sampler r k)).lost = lost
    rw [closeThread_lost]
    unfold closeSession
    cases hn : sampler.profileHandle with
    | none => exact h.2
    | some n =>
      dsimp only
      rw [hr, abandon_lost (h.1.session hsampler hn)]
      exact h.2

end

/-- No owner of a session is freed while its `DisableThreadProfiling` fails. -/
def SessionOp.Ends : SessionOp → Prop
  | .objects op => op.Answered fun r => r.disable = none
  | .enable _ r => r.disable = none
  | .destroyProfile _ disable => disable = none
  | .readProfile .. => True
  | .closeProfile .. => True

namespace Sessions

/-- What holds between two calls. -/
def Sound (base : Table Native) (s : Sessions) : Prop :=
  Consistent base s.profiles (ObjectStore.inUse s.store.samplers) s.kernel

section
variable {base : Table Native} {s : Sessions}

theorem Sound.enable (h : s.Sound base) (hardwareCounters : ℤ) (r : EnableAnswers) :
    (s.enable hardwareCounters r).1.Sound base := by
  have hobject := Table.lookup_pick r.object s.profiles
  unfold Sessions.enable
  split
  · exact h
  unfold Kernel.enableThreadProfiling
  cases he : r.enable with
  | error error => exact h
  | ok fresh =>
    dsimp only
    by_cases hp : s.kernel.profiled r.threadId = true
    · rw [if_pos hp]
      exact h
    rw [if_neg hp]
    -- The session is held by the new object.
    have hslot : holds (ObjectStore.inUse s.store.samplers) s.profiles s.kernel.lost
        (.profile (r.object.pick s.profiles.keys) r.threadId) = none := by
      simp [holds,hobject]
    have htaken := h.held.take fresh hslot
    have hexclusive := h.exclusive.enable hp fresh
    dsimp only
    cases hopen : enableCurrentThreadProfiling hardwareCounters
        ⟨0,(s.kernel.handles.take fresh (.profile r.threadId)).2⟩ r.initial with
    | error e =>
      exact ⟨abandon_held r.disable hslot rfl (by simp) htaken,hexclusive.abandon _ _ _,h.equipped⟩
    | ok obj =>
      have hhandle : obj.handle = some (s.kernel.handles.take fresh (.profile r.threadId)).2 := by
        unfold enableCurrentThreadProfiling at hopen
        split_ifs at hopen
        cases hopen
        rfl
      refine ⟨?_,hexclusive,h.equipped⟩
      dsimp only
      rw [holds_profile, holds_erase_of_absent hobject, hhandle]
      exact htaken

theorem Sound.closeProfile (h : s.Sound base) (object : ℕ) (disable : Option ErrorCode) :
    (s.closeProfile object disable).1.Sound base := by
  unfold Sessions.closeProfile
  split
  · exact h
  next p hp =>
    have hheld := h.held
    rw [holds_of_lookup hp] at hheld
    cases hhandle : p.object.handle with
    | none =>
      have hclose : (p.object.close 0).1 = p.object := by simp [ThreadProfileObj.close,hhandle]
      refine ⟨?_,h.exclusive,h.equipped⟩
      dsimp only
      rw [hclose, holds_profile]
      exact hheld
    | some n =>
      rw [hhandle] at hheld
      have hn : s.kernel.handles.table.lookup n = some (.profile p.threadId) :=
        hheld.present (k := .profile object p.threadId) (Function.update_self ..)
      dsimp only
      unfold Kernel.disableThreadProfiling
      rw [hn]
      cases disable with
      | none =>
        have hclose : (p.object.close 0).1.handle = none := by simp [ThreadProfileObj.close,hhandle]
        have hback := hheld.giveBack (Function.update_self ..)
        refine ⟨?_,h.exclusive.giveBack n,h.equipped⟩
        dsimp only
        rw [holds_profile, hclose]
        rwa [Function.update_idem] at hback
      | some e =>
        have hclose : (p.object.close e.code).1 = p.object := by
          simp [ThreadProfileObj.close,hhandle,e.failure]
        refine ⟨?_,h.exclusive,h.equipped⟩
        dsimp only
        rw [hclose, holds_profile, hhandle]
        exact hheld

theorem Sound.destroyProfile (h : s.Sound base) (object : ℕ) (disable : Option ErrorCode) :
    (s.destroyProfile object disable).1.Sound base := by
  unfold Sessions.destroyProfile
  split
  · exact h
  next p hp =>
    have hheld := h.held
    rw [holds_of_lookup hp] at hheld
    have hnone := @holds_profile_none (ObjectStore.inUse s.store.samplers) s.profiles s.kernel.lost object
      p.threadId
    cases hhandle : p.object.handle with
    | none =>
      rw [hhandle, ← hnone, Function.update_eq_self] at hheld
      exact ⟨hheld,h.exclusive,h.equipped⟩
    | some n =>
      rw [hhandle] at hheld
      exact ⟨abandon_held disable hnone rfl (by simp) hheld,h.exclusive.abandon _ _ _,h.equipped⟩

theorem Sound.step (h : s.Sound base) (op : SessionOp) : (s.step op).1.Sound base := by
  cases op with
  | objects op => exact ObjectStore.Kept.step (platform_keeps base s.profiles) h (answered_true op)
  | enable hardwareCounters r => exact h.enable hardwareCounters r
  | readProfile object r =>
    simp only [Sessions.step, readProfile]
    split
    · exact h
    · split <;> exact h
  | closeProfile object disable => exact h.closeProfile object disable
  | destroyProfile object disable => exact h.destroyProfile object disable

end

theorem start_sound {base : Table Native} (hbase : (Kernel.start base).Exclusive) :
    (start base).Sound base where
  held := by
    have hnone : holds (ObjectStore.inUse (start base).store.samplers) (start base).profiles
        (start base).kernel.lost = fun _ => none := by
      funext slot
      cases slot <;> simp [start,ObjectStore.start,ObjectStore.inUse,kernel,Kernel.start,holds]
    rw [hnone]
    refine ⟨?_,?_,?_,?_,fun _ => rfl,fun _ => rfl⟩ <;> simp
  exclusive := hbase
  equipped := by
    intro h sampler hsampler
    simp [start,ObjectStore.start,ObjectStore.inUse] at hsampler

theorem final_sound {base : Table Native} (hbase : (Kernel.start base).Exclusive) (ops : List SessionOp) :
    (final step (start base) ops).Sound base :=
  final_invariant_all step (fun _ op h => h.step op) ops (start_sound hbase)

/-- The handles in the slots of the objects, and those of the lost sessions. -/
def slots (s : Sessions) : Slot → Option ℕ :=
  holds (ObjectStore.inUse s.store.samplers) s.profiles s.kernel.lost

/-- A thread profile holds its session. -/
theorem Sound.session {base : Table Native} {s : Sessions} (h : s.Sound base) {object n : ℕ} {p : Profile}
    (hp : s.profiles.lookup object = some p) (hn : p.object.handle = some n) :
    s.kernel.handles.table.lookup n = some (.profile p.threadId) := by
  have hslot : s.slots (.profile object p.threadId) = some n := by
    simp [slots,holds,hp,hn]
  exact h.held.present hslot

theorem Sound.step_lost {base : Table Native} {s : Sessions} (h : s.Sound base) {op : SessionOp}
    (hop : op.Ends) : (s.step op).1.kernel.lost = s.kernel.lost := by
  cases op with
  | objects op =>
    exact (ObjectStore.Kept.step (platform_keeps_lost base s.profiles s.kernel.lost) ⟨h,rfl⟩ hop).2
  | enable hardwareCounters r =>
    simp only [Sessions.step, Sessions.enable]
    split
    · rfl
    unfold Kernel.enableThreadProfiling
    cases r.enable with
    | error error => rfl
    | ok fresh =>
      dsimp only
      by_cases hp : s.kernel.profiled r.threadId = true
      · rw [if_pos hp]
        rfl
      rw [if_neg hp]
      dsimp only
      split
      · change Kernel.lost (Kernel.abandon _ _ r.disable _) = _
        rw [show r.disable = none from hop, abandon_lost]
        exact Finmap.lookup_insert _
      · rfl
  | readProfile object r =>
    simp only [Sessions.step, readProfile]
    split
    · rfl
    · split <;> rfl
  | closeProfile object disable =>
    simp only [Sessions.step, Sessions.closeProfile]
    split
    · rfl
    next p hp =>
      cases hn : p.object.handle with
      | none => rfl
      | some n =>
        dsimp only
        unfold Kernel.disableThreadProfiling
        rw [h.session hp hn]
        cases disable <;> rfl
  | destroyProfile object disable =>
    simp only [Sessions.step, Sessions.destroyProfile]
    split
    · rfl
    next p hp =>
      cases hn : p.object.handle with
      | none => rfl
      | some n =>
        change Kernel.lost (Kernel.abandon _ _ disable _) = _
        rw [show disable = none from hop, abandon_lost (h.session hp hn)]

theorem final_lost {base : Table Native} (hbase : (Kernel.start base).Exclusive) {ops : List SessionOp}
    (hops : ∀ op ∈ ops, op.Ends) : (final step (start base) ops).kernel.lost = [] :=
  (final_invariant step (I := fun s => s.Sound base ∧ s.kernel.lost = [])
    (fun _ op h hop => ⟨h.1.step op,(h.1.step_lost hop).trans h.2⟩) ⟨start_sound hbase,rfl⟩
    (along_of_forall step hops _)).2

end Sessions

end Perfidious.Windows
