import Perfidious.LowLevel.Sessions
import Perfidious.Sampler.Solo

/-! What follows from the ownership of native handles on Windows: nothing is closed twice or used after
it was closed, and a thread is profiled for one object at a time. -/
namespace Perfidious.Windows
open Library

/-- The thread checks decide what the handles contribute to a read. -/
theorem platformSamplerRead_congr {s : PlatformSampler} {r : Replies} (waitResult waitError : UInt32)
    (profileError : UInt32)
    (h : checkThread s { r with waitResult, waitError, profileError } = checkThread s r) :
    platformSamplerRead s { r with waitResult, waitError, profileError } = platformSamplerRead s r := by
  unfold platformSamplerRead
  rw [h]
  rfl

/-- A sampler with its handles reads what Windows answers. -/
theorem replies_read {sampler : NativeSampler} {k : Kernel} (h : sampler.Equipped)
    (hthread : ∀ n, sampler.threadHandle = some n → k.handles.table.lookup n = some .thread)
    (hsession : ∀ n, sampler.profileHandle = some n →
      k.handles.table.lookup n = some (.profile sampler.threadId)) (r : Replies) :
    nativeRead sampler (k.replies sampler r) = nativeRead sampler r := by
  have hread : platformSamplerRead sampler.toPlatformSampler (k.replies sampler r) =
      platformSamplerRead sampler.toPlatformSampler r := by
    unfold Kernel.replies
    cases ht : sampler.threadHandle with
    | none =>
      have hscope : sampler.scope ≠ .currentThread := by
        intro hscope
        have := h.thread.mpr hscope
        simp [ht] at this
      dsimp only [Option.bind_none]
      split <;>
        exact platformSamplerRead_congr _ _ _ (by simp [checkThread,hscope])
    | some n =>
      have hscope := h.thread.mp (by rw [ht]; rfl)
      simp only [Option.bind_some, hthread n ht]
      cases hp : sampler.profileHandle with
      | none =>
        have hreq : requests sampler.metrics threadProfileMetrics ≠ true := by
          intro hreq
          have := h.session.mpr ⟨hscope,hreq⟩
          simp [hp] at this
        exact platformSamplerRead_congr _ _ _ (by simp [checkThread,hreq])
      | some m => simp only [Option.bind_some, hsession m hp]
  unfold nativeRead
  rw [hread]

/-- Ending the session of a thread leaves it without one. -/
theorem Kernel.Exclusive.ended {k : Kernel} (h : k.Exclusive) {n : ℕ} {threadId : UInt32}
    (hn : k.handles.table.lookup n = some (.profile threadId)) :
    (k.closeHandle n).profiled threadId = false := by
  apply Bool.eq_false_iff.mpr
  intro hp
  obtain ⟨m,hm⟩ := Kernel.profiled_iff.mp hp
  obtain ⟨hne,hm⟩ := Table.of_lookup_erase hm
  exact hne (h threadId m n hm hn)

/-- A thread handle profiles nothing. -/
theorem Kernel.profiled_closeHandle {k : Kernel} {n : ℕ} (hn : k.handles.table.lookup n = some .thread)
    (threadId : UInt32) : (k.closeHandle n).profiled threadId = k.profiled threadId := by
  have hcount := Table.count_erase (p := fun x => x == Native.profile threadId) hn
  unfold Kernel.profiled Kernel.closeHandle Leases.giveBack
  rw [← hcount]
  rfl

namespace Sessions

section
variable {base : Table Native} {s : Sessions}

theorem Sound.threadHandle (h : s.Sound base) {handle n : ℕ} {sampler : NativeSampler}
    (hsampler : ObjectStore.inUse s.store.samplers handle = some sampler)
    (hn : sampler.threadHandle = some n) : s.kernel.handles.table.lookup n = some .thread := by
  have hslot : s.slots (.thread handle) = some n := by
    simp [slots,holds,hsampler,hn]
  exact h.held.present hslot

/-- An open sampler reads through its own handles. -/
theorem Sound.samplerRead (h : s.Sound base) {handle : ℕ} {sampler : NativeSampler}
    (hsampler : ObjectStore.inUse s.store.samplers handle = some sampler) (r : Replies) :
    nativeRead sampler (s.kernel.replies sampler r) = nativeRead sampler r :=
  replies_read (h.equipped hsampler) (fun _ hn => h.threadHandle hsampler hn)
    (fun _ hn => Consistent.session h hsampler hn) r

/-- An open thread profile reads its own session. -/
theorem Sound.profileReply (h : s.Sound base) {object n : ℕ} {p : Profile}
    (hp : s.profiles.lookup object = some p) (hn : p.object.handle = some n) (r : ProfileReply) :
    Sessions.profileReply p.object r s.kernel = r := by
  unfold Sessions.profileReply
  simp only [hn, Option.bind_some, h.session hp hn]

/-- A failed close of a thread profile changes nothing. -/
theorem Sound.closeProfile_failed (h : s.Sound base) {object n : ℕ} {p : Profile}
    (hp : s.profiles.lookup object = some p) (hn : p.object.handle = some n) (e : ErrorCode) :
    s.closeProfile object (some e) = (s,.thrown (windowsThrowError "DisableThreadProfiling" e.code)) := by
  have hclose : p.object.close e.code =
      (p.object,.error (windowsThrowError "DisableThreadProfiling" e.code)) := by
    simp [ThreadProfileObj.close,hn,e.failure]
  have hsame : s.profiles.insert object p = s.profiles := by
    apply Finmap.ext_lookup
    intro j
    by_cases hj : j = object
    · rw [hj, Finmap.lookup_insert, hp]
    · rw [Finmap.lookup_insert_of_ne _ hj]
  unfold Sessions.closeProfile Kernel.disableThreadProfiling
  simp only [hp, hn, h.session hp hn, hclose, hsame]
  rfl

end

/-- Native handles on Windows. In every run of both APIs, each open object has the handles it needs and
reads through them, each handle has one owner, and every handle without an owner was closed as often as
it was opened. What is left when everything is closed is a session whose `DisableThreadProfiling`
failed. -/
theorem native_handles_owned {base : Table Native} (hbase : (Kernel.start base).Exclusive)
    (ops : List SessionOp) :
    let s := final step (start base) ops
    let l := s.kernel.handles
    (∀ h sampler, ObjectStore.inUse s.store.samplers h = some sampler →
      (sampler.threadHandle.isSome = true ↔ sampler.scope = .currentThread) ∧
      (sampler.profileHandle.isSome = true ↔
        sampler.scope = .currentThread ∧ requests sampler.metrics threadProfileMetrics = true) ∧
      ∀ snapshot r, platform.samplerRead sampler snapshot r s.kernel =
        (s.kernel,nativeRead sampler r.toReplies)) ∧
    (∀ object p n r, s.profiles.lookup object = some p → p.object.handle = some n →
      profileReply p.object r s.kernel = r) ∧
    (∀ n x, base.lookup n = none →
      (l.table.lookup n = some x ↔ ∃ slot, s.slots slot = some n ∧ slot.entry = x)) ∧
    (∀ n x, base.lookup n = some x → l.table.lookup n = some x ∧ ∀ slot, s.slots slot ≠ some n) ∧
    (∀ slot slot' n, s.slots slot = some n → s.slots slot' = some n → slot = slot') ∧
    (∀ slot n, s.slots slot = some n → l.taken n = l.returned n + 1) ∧
    (∀ n, (∀ slot, s.slots slot ≠ some n) → l.taken n = l.returned n) ∧
    ((∀ h, ObjectStore.inUse s.store.samplers h = none) →
      (∀ object p, s.profiles.lookup object = some p → p.object.handle = none) →
      ∀ n, (∀ threadId, (n,threadId) ∉ s.kernel.lost) → l.table.lookup n = base.lookup n) ∧
    ((∀ op ∈ ops, op.Ends) → s.kernel.lost = []) := by
  intro s l
  have hs : s.Sound base := Sessions.final_sound hbase ops
  refine ⟨?_,?_,?_,?_,?_,?_,?_,?_,?_⟩
  · intro h sampler hsampler
    refine ⟨(hs.equipped hsampler).thread,(hs.equipped hsampler).session,fun snapshot r => ?_⟩
    exact congrArg (Prod.mk s.kernel) (hs.samplerRead hsampler r.toReplies)
  · intro object p n r hp hn
    exact hs.profileReply hp hn r
  · intro n x hfree
    constructor
    · exact hs.held.held_of_present hfree
    · rintro ⟨slot,hn,rfl⟩
      exact hs.held.present hn
  · intro n x hx
    have hother : ∀ slot, s.slots slot ≠ some n := by
      intro slot hn
      rw [hs.held.fresh hn] at hx
      cases hx
    exact ⟨(hs.held.rest hother).trans hx,hother⟩
  · intro slot slot' n hn hn'
    exact hs.held.unique hn hn'
  · intro slot n hn
    exact hs.held.outstanding hn
  · intro n hn
    exact hs.held.settled hn
  · intro hsamplers hprofiles n hlost
    apply hs.held.rest
    intro slot hn
    cases slot with
    | thread h => simp [holds,hsamplers] at hn
    | session h threadId => simp [holds,hsamplers] at hn
    | profile object threadId =>
      simp only [holds, Option.bind_eq_some_iff] at hn
      obtain ⟨p,hp,hn⟩ := hn
      rw [hprofiles object p hp] at hn
      split at hn <;> cases hn
    | lost m threadId =>
      simp only [holds, Option.ite_none_right_eq_some, Option.some.injEq] at hn
      obtain ⟨hmem,rfl⟩ := hn
      exact hlost threadId hmem
  · intro hops
    exact final_lost hbase hops

/-- The exception for a thread that is being profiled already. -/
def busy : Error := enableError ERROR_WMI_ALREADY_ENABLED

theorem enable_busy {hardwareCounters : ℤ} {r : EnableAnswers} {fresh : Fresh} {s : Sessions}
    (hrange : 0 ≤ hardwareCounters ∧ hardwareCounters ≤ 0xffff) (henable : r.enable = .ok fresh)
    (hp : s.kernel.profiled r.threadId = true) : s.enable hardwareCounters r = (s,.thrown busy) := by
  unfold Sessions.enable Kernel.enableThreadProfiling
  rw [if_neg (by omega), henable]
  simp only [hp, if_true]
  rfl

theorem enable_not_busy {hardwareCounters : ℤ} {r : EnableAnswers} {fresh : Fresh} {s : Sessions}
    (hrange : 0 ≤ hardwareCounters ∧ hardwareCounters ≤ 0xffff) (henable : r.enable = .ok fresh)
    (hp : s.kernel.profiled r.threadId = false) : (s.enable hardwareCounters r).2 ≠ .thrown busy := by
  unfold Sessions.enable Kernel.enableThreadProfiling
  rw [if_neg (by omega), henable]
  simp only [hp, Bool.false_eq_true, if_false]
  cases hopen : enableCurrentThreadProfiling hardwareCounters
      ⟨0,(s.kernel.handles.take fresh (.profile r.threadId)).2⟩ r.initial with
  | ok obj => simp
  | error e =>
    unfold enableCurrentThreadProfiling at hopen
    rw [if_neg (by omega), if_neg (by simp)] at hopen
    split at hopen
    · cases hopen
      simp [busy,enableError,windowsThrowError]
    · cases hopen

/-- No read of a sampler reports a busy thread. -/
theorem read_not_busy {sampler : PlatformSampler} {r : Replies} {e : Error}
    (h : (platformSamplerRead sampler r).2.result = .error e) : e ≠ busy := by
  suffices hce : e.exceptionCe ≠ .resourceBusyException by
    rintro rfl
    exact hce rfl
  unfold platformSamplerRead at h
  dsimp only at h
  split at h
  next he =>
    cases h
    unfold checkThread at he
    split_ifs at he <;> cases he <;> simp [wrongThread,windowsThrowError]
  split at h
  next he =>
    cases h
    unfold readCpuTime at he
    dsimp only at he
    split_ifs at he <;> cases he <;> simp [overflow,windowsThrowError]
  split at h
  next he =>
    cases h
    unfold readPageFaults at he
    split_ifs at he
    · cases he
      simp [windowsThrowError]
    · split at he <;> cases he
      simp [pageFaultOverflow,overflow]
  split at h
  next he =>
    cases h
    rw [(readContextSwitches_error he).2.2]
    simp [contextSwitchOverflow,overflow]
  split at h
  next he =>
    cases h
    unfold readCpuCycles at he
    cases hs : sampler.scope <;> simp only [hs] at he <;> split_ifs at he
    cases he
    simp [windowsThrowError]
  · cases h

/-- A request that `Sampler::open` admits for a thread, with metrics that need a session. -/
structure Profiling (values : List (Option MetricId)) where
  metrics : UInt32
  metricOrder : List MetricId
  admitted : admitMetrics values 0 [] = .ok (metrics,metricOrder)
  supported : metrics &&& ~~~platformSamplerSupportedMetrics metrics .currentThread = 0
  profiled : requests metrics threadProfileMetrics = true

theorem Profiling.openSampler_eq {values : List (Option MetricId)} (x : Profiling values)
    (r : OpenAnswers Answers) (s : ObjectStore Kernel NativeSampler) :
    s.openSampler platform values (some .currentThread) r =
      s.openAdmitted platform x.metrics x.metricOrder .currentThread r := by
  obtain ⟨metrics,metricOrder,admitted,supported,profiled⟩ := x
  have hvalues : values.isEmpty ≠ true := by
    intro hempty
    cases List.isEmpty_iff.mp hempty
    cases admitted
    simp [requests] at profiled
  unfold ObjectStore.openSampler
  rw [if_neg hvalues, admitted]
  change (if metrics &&& ~~~platformSamplerSupportedMetrics metrics .currentThread ≠ 0 then _
    else _) = _
  rw [if_neg (not_not_intro supported)]
  rfl

/-- `Sampler::open` is refused with the exception for a busy thread if and only if the thread is being
profiled, and then it leaves nothing behind. -/
theorem Profiling.busy_iff {values : List (Option MetricId)} (x : Profiling values)
    {r : OpenAnswers Answers} {s : Sessions} {fresh fresh' : Fresh}
    (hduplicate : r.opened.duplicate = .ok fresh) (henable : r.opened.enable = .ok fresh') :
    ((s.store.openSampler platform values (some .currentThread) r).2.result = .thrown (.exception busy) ↔
      s.kernel.profiled r.opened.currentThreadId = true) ∧
    (s.kernel.profiled r.opened.currentThreadId = true →
      (s.store.openSampler platform values (some .currentThread) r).1.native.handles.table =
        s.kernel.handles.table) := by
  have hcase := platformSamplerOpen_thread x.metrics none r.opened s.kernel
  rw [x.openSampler_eq]
  generalize hx : s.store.openAdmitted platform x.metrics x.metricOrder .currentThread r = out
  cases hx ▸ ObjectStore.openAdmitted_cases platform x.metrics x.metricOrder .currentThread r s.store with
  | @failed native e sampler obj left named opened =>
    change platformSamplerOpen x.metrics .currentThread none r.opened s.kernel = _ at opened
    rw [opened] at hcase
    cases hcase with
    | unduplicated duplicate => cases hduplicate.symm.trans duplicate
    | @refused f error duplicate needed refusal =>
      rcases refusal with refusal | ⟨hp,rfl⟩
      · cases henable.symm.trans refusal
      · refine ⟨⟨fun _ => hp,fun _ => rfl⟩,fun _ => ?_⟩
        rw [ObjectStore.samplerObjFree_native_of_none platform left]
        exact Table.erase_insert (Table.lookup_pick f s.kernel.handles.table) _
  | @unread native sampler native' sampler' outcome e obj held named opened read result =>
    change platformSamplerOpen x.metrics .currentThread none r.opened s.kernel = _ at opened
    rw [opened] at hcase
    have hne : e ≠ busy := by
      change (native,nativeRead sampler _) = _ at read
      obtain ⟨-,hread⟩ := Prod.mk.inj read
      have hout : outcome = (nativeRead sampler (native.replies sampler r.read.toReplies)).2 := by
        rw [hread]
      rw [hout] at result
      exact read_not_busy result
    have hfree : s.kernel.profiled r.opened.currentThreadId = false := by
      cases hcase with
      | plain duplicate unneeded => cases x.profiled.symm.trans unneeded
      | profiled duplicate needed enable free => exact free
    simp [hfree,hne]
  | @opened native sampler native' sampler' outcome obj held named requested ordered opened read result =>
    change platformSamplerOpen x.metrics .currentThread none r.opened s.kernel = _ at opened
    rw [opened] at hcase
    have hfree : s.kernel.profiled r.opened.currentThreadId = false := by
      cases hcase with
      | plain duplicate unneeded => cases x.profiled.symm.trans unneeded
      | profiled duplicate needed enable free => exact free
    simp [hfree]

/-- A closed sampler leaves its thread without a session, unless `DisableThreadProfiling` fails. -/
theorem Sound.closeSampler_profiled {base : Table Native} {s : Sessions} (h : s.Sound base)
    {handle n : ℕ} {sampler : NativeSampler}
    (hsampler : ObjectStore.inUse s.store.samplers handle = some sampler)
    (hn : sampler.profileHandle = some n) (r : Answers) :
    (s.store.closeSampler platform handle r).1.native.profiled sampler.threadId = r.disable.isSome := by
  have hsession := Consistent.session h hsampler hn
  obtain ⟨⟨obj,opening⟩,found,held⟩ := Option.bind_eq_some_iff.mp hsampler
  change obj.sampler = some sampler at held
  have hclose : (s.store.closeSampler platform handle r).1.native =
      closeThread sampler (closeSession sampler r s.kernel) := by
    unfold ObjectStore.closeSampler
    simp only [found, held]
    rfl
  obtain ⟨m,hm⟩ := Option.isSome_iff_exists.mp
    ((h.equipped hsampler).thread.mpr ((h.equipped hsampler).session.mp (by rw [hn]; rfl)).1)
  have hthread := h.threadHandle hsampler hm
  rw [hclose, closeThread, hm, closeSession, hn]
  dsimp only
  cases r.disable with
  | none =>
    have hleft : (s.kernel.closeHandle n).handles.table.lookup m = some .thread := by
      have hne : m ≠ n := by
        rintro rfl
        cases hthread.symm.trans hsession
      exact (Finmap.lookup_erase_ne hne).trans hthread
    rw [Kernel.abandon_none hsession, Kernel.profiled_closeHandle hleft]
    exact h.exclusive.ended hsession
  | some e =>
    rw [Kernel.abandon_some hsession, Kernel.profiled_closeHandle (by exact hthread)]
    exact Kernel.profiled_iff.mpr ⟨n,hsession⟩

/-- Thread profiling is exclusive. In every run of both APIs a thread has one session at most, whose owner
is a sampler, a thread profile, or lost. Where the native calls otherwise succeed, `Sampler::open` of
metrics that need a session, and the low-level function for a valid mask, are refused with the exception
for a busy thread if and only if the current thread has a session, and a refusal changes nothing. The
session ends with a successful close of its owner; a failed close of a thread profile changes nothing and
can be repeated. -/
theorem thread_profiling_exclusive {base : Table Native} (hbase : (Kernel.start base).Exclusive)
    (ops : List SessionOp) :
    let s := final step (start base) ops
    let profiles n threadId := s.kernel.handles.table.lookup n = some (Native.profile threadId)
    (∀ threadId n m, profiles n threadId → profiles m threadId → n = m) ∧
    (∀ threadId, s.kernel.profiled threadId = true ↔
      (∃ n, base.lookup n = some (.profile threadId)) ∨
      ∃ slot n, s.slots slot = some n ∧ slot.entry = .profile threadId) ∧
    (∀ hardwareCounters r fresh, 0 ≤ hardwareCounters ∧ hardwareCounters ≤ 0xffff →
      r.enable = .ok fresh →
      ((s.enable hardwareCounters r).2 = .thrown busy ↔ s.kernel.profiled r.threadId = true) ∧
      (s.kernel.profiled r.threadId = true → (s.enable hardwareCounters r).1 = s)) ∧
    (∀ values r fresh fresh', Profiling values → r.opened.duplicate = .ok fresh →
      r.opened.enable = .ok fresh' →
      let x := s.store.openSampler platform values (some .currentThread) r
      (x.2.result = .thrown (.exception busy) ↔ s.kernel.profiled r.opened.currentThreadId = true) ∧
      (s.kernel.profiled r.opened.currentThreadId = true →
        x.1 = s.store.withNative x.1.native ∧ x.1.native.handles.table = s.kernel.handles.table)) ∧
    (∀ h sampler n r, ObjectStore.inUse s.store.samplers h = some sampler →
      sampler.profileHandle = some n →
      (s.store.closeSampler platform h r).1.native.profiled sampler.threadId = r.disable.isSome) ∧
    ∀ object p n, s.profiles.lookup object = some p → p.object.handle = some n →
      (s.closeProfile object none).1.kernel.profiled p.threadId = false ∧
      ∀ e, s.closeProfile object (some e) =
        (s,.thrown (windowsThrowError "DisableThreadProfiling" e.code)) := by
  intro s profiles
  have hs : s.Sound base := Sessions.final_sound hbase ops
  refine ⟨hs.exclusive,?_,?_,?_,?_,?_⟩
  · intro threadId
    rw [Kernel.profiled_iff]
    constructor
    · rintro ⟨n,hn⟩
      cases hb : base.lookup n with
      | none =>
        obtain ⟨slot,hslot,hentry⟩ := hs.held.held_of_present hb hn
        exact .inr ⟨slot,n,hslot,hentry⟩
      | some x =>
        have hrest : s.kernel.handles.table.lookup n = base.lookup n := by
          apply hs.held.rest
          intro slot hslot
          cases (hs.held.fresh hslot).symm.trans hb
        exact .inl ⟨n,hrest.symm.trans hn⟩
    · rintro (⟨n,hn⟩ | ⟨slot,n,hslot,hentry⟩)
      · refine ⟨n,(hs.held.rest ?_).trans hn⟩
        intro slot hslot
        cases (hs.held.fresh hslot).symm.trans hn
      · exact ⟨n,(hs.held.present hslot).trans (congrArg some hentry)⟩
  · intro hardwareCounters r fresh hrange henable
    cases hp : s.kernel.profiled r.threadId with
    | true =>
      rw [enable_busy hrange henable hp]
      simp
    | false => simpa using enable_not_busy hrange henable hp
  · intro values r fresh fresh' hprofiling hduplicate henable x
    obtain ⟨hiff,htable⟩ := hprofiling.busy_iff hduplicate henable
    exact ⟨hiff,fun hp => ⟨ObjectStore.openSampler_thrown platform (hiff.mpr hp),htable hp⟩⟩
  · intro h sampler n r hsampler hn
    exact hs.closeSampler_profiled hsampler hn r
  · intro object p n hp hn
    refine ⟨?_,hs.closeProfile_failed hp hn⟩
    have hended := hs.exclusive.ended (hs.session hp hn)
    unfold Sessions.closeProfile Kernel.disableThreadProfiling
    simp only [hp, hn, hs.session hp hn]
    exact hended

/-- Every native call on thread 7 succeeds, except for those that a session keeps from succeeding. -/
def plainReplies : Replies where
  currentThreadId := 7
  waitResult := waitTimeout
  waitError := 0
  profileError := 0
  profile := ⟨3,1000⟩
  times := ⟨true,0,⟨0,0⟩,⟨0,0⟩⟩
  memory := ⟨true,0,0⟩
  processCycles := ⟨true,0,0⟩

def plainAnswers : Answers := ⟨plainReplies,.ok .next,.ok .next,none⟩

def plainInitial : ProfileReply := ⟨0,⟨⟨3,1000⟩,0,0,0,fun _ => ⟨0,0⟩⟩⟩

def plainEnable : EnableAnswers := ⟨.next,7,.ok .next,plainInitial,none⟩

/-- A sampler with a session is opened. -/
def plainSessions : List SessionOp :=
  [.objects (.openSampler [some .contextSwitches] none
    ⟨.next,.next,plainAnswers,plainAnswers,plainAnswers,plainAnswers,5⟩)]

theorem start_exclusive : (Kernel.start ∅).Exclusive := by
  intro threadId n m hn
  cases hn

theorem native_handles_owned_plain :
    let s := final step (start ∅) plainSessions
    s.kernel.handles.table.lookup 1 = some (.profile 7) ∧
      ∃ slot, s.slots slot = some 1 ∧ slot.entry = .profile 7 :=
  ⟨rfl,((native_handles_owned start_exclusive plainSessions).2.2.1 1 _ rfl).mp rfl⟩

theorem thread_profiling_exclusive_plain :
    ((final step (start ∅) plainSessions).enable 0 plainEnable).2 = .thrown busy :=
  ((thread_profiling_exclusive start_exclusive plainSessions).2.2.1 0 plainEnable .next
    ⟨by decide,by decide⟩ rfl).1.mpr rfl

end Sessions

end Perfidious.Windows
