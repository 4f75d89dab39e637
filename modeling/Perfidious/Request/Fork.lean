import Perfidious.Request.Isolation

/-! Processes that fork. A child inherits the globals and the descriptors of its parent, hence the
request handle, whose event group keeps counting for the parent. -/
namespace Perfidious
open Library

/-- A process with its pid. -/
structure Member where
  process : Process
  pid : ℤ

/-- The processes that descend from process 0, by their identities, on the event groups of one
system. -/
structure Family where
  members : ℕ → Option Member
  next : ℕ
  world : World

/-- `getpid()` answers with the pid of the process. -/
def ProcessOp.asPid (pid : ℤ) : ProcessOp → ProcessOp
  | .rinit _ r => .rinit pid r
  | op => op

/-- A process forks, the child getting a pid, or it takes a step of its own. -/
inductive FamilyOp
  | fork (p : ℕ) (pid : ℤ)
  | run (p : ℕ) (op : ProcessOp)

namespace Family

def step (f : Family) : FamilyOp → Family × Option Outcome
  | .fork p pid =>
    match f.members p with
    | none => (f,none)
    | some m =>
      let child : Member := ⟨{ m.process with self := f.next },pid⟩
      ({ f with members := Function.update f.members f.next (some child), next := f.next+1 },none)
  | .run p op =>
    match f.members p with
    | none => (f,none)
    | some m =>
      let (s,o) := System.step ⟨m.process,f.world⟩ (op.asPid m.pid)
      ({ f with members := Function.update f.members p (some ⟨s.process,m.pid⟩), world := s.world },some o)

/-- A single process before its first `RINIT`. -/
def start (pid : ℤ) (requestEnable : Bool) (requestMetrics : Option String) (world : World) : Family where
  members := Function.update (fun _ => none) 0
    (some ⟨(System.start 0 requestEnable requestMetrics world).process,pid⟩)
  next := 1
  world := world

end Family

/-- Nothing happened to the group but descriptors being closed. -/
def EventGroup.OnlyClosed (g g' : EventGroup) : Prop :=
  ∃ n, g' = { g with calls := g.calls ++ List.replicate n .close }

/-- A hook of a process touches the groups of the other processes by closing descriptors at most. -/
def Family.Respects (f : Family) : FamilyOp → Prop
  | .fork _ _ => True
  | .run p op => op.isHook = true → ∀ d < f.world.next, (f.world.groups d).opener ≠ p →
      (f.world.groups d).OnlyClosed ((f.step (.run p op)).1.world.groups d)

/-- A process ends a request only if it has no request handle or is the one recorded with it, and no
child gets the pid recorded with a handle that it inherits. -/
def Family.Careful (f : Family) : FamilyOp → Prop
  | .fork p pid => ∀ m, f.members p = some m → m.process.globals.requestHandle = none ∨
      m.process.globals.requestHandlePid ≠ pid
  | .run p (.rshutdown _ _) => ∀ m, f.members p = some m → m.process.globals.requestHandle = none ∨
      m.process.globals.requestHandlePid = m.pid
  | .run _ _ => True

namespace EventGroup

theorem OnlyClosed.refl (g : EventGroup) : g.OnlyClosed g := ⟨0,by simp⟩

theorem OnlyClosed.opener {g g' : EventGroup} (h : g.OnlyClosed g') : g'.opener = g.opener := by
  obtain ⟨n,rfl⟩ := h
  rfl

/-- A group that was controlled since is not merely closed. -/
theorem not_onlyClosed {g g' : EventGroup} (request : Control)
    (h : g.calls.count (.control request) < g'.calls.count (.control request)) : ¬g.OnlyClosed g' := by
  rintro ⟨n,rfl⟩
  simp [List.count_append,List.count_replicate] at h

end EventGroup

namespace Attached

/-- System calls are only added. -/
def Continues (a b : Attached) : Prop := a.group.calls <+: b.group.calls

theorem trySetEnabled_continues (a : Attached) (enabled : Bool) (r : Native Status) :
    Continues a (a.trySetEnabled enabled r).1 := by
  cases hr : r.answer with
  | none => simp [trySetEnabled_of_none hr,Continues,EventGroup.issue]
  | some errno => simp [trySetEnabled_of_some hr,Continues,EventGroup.issue]

theorem resetBetween_continues (a : Attached) (read : Native ReadAnswer) (reset : Native Status) :
    Continues a (a.resetBetween read reset).1 := by
  by_cases hread : read.answer = .full
  case neg =>
    obtain ⟨n,-,hunread⟩ := resetBetween_of_unread hread reset
    simp [hunread,Continues,EventGroup.issue,afterRead]
  cases hreset : reset.answer with
  | none => simp [resetBetween_of_none hread hreset,Continues,EventGroup.issue,EventGroup.control,afterRead]
  | some errno => simp [resetBetween_of_some hread hreset,Continues,EventGroup.issue,afterRead]

theorem tryReset_continues (a : Attached) (r : ResetReplies) : Continues a (a.tryReset r).1 := by
  apply tryReset_kept (P := Continues a) ?_ ?_ (List.prefix_refl _)
  · exact fun enabled r h => h.trans (trySetEnabled_continues _ enabled r)
  · exact fun read reset h => h.trans (resetBetween_continues _ read reset)

/-- The end of a request issues a `DISABLE`, even if it fails. -/
theorem requestShutdown_disables (a : Attached) (disable : Native Status) (reset : ResetReplies) :
    a.group.calls.count (.control .disable) <
      (a.requestShutdown disable reset).1.group.calls.count (.control .disable) := by
  have hdisable : (a.trySetEnabled false disable).1.group.calls = a.group.calls ++ [.control .disable] := by
    cases hr : disable.answer with
    | none => simp [trySetEnabled_of_none hr,EventGroup.issue]
    | some errno => simp [trySetEnabled_of_some hr,EventGroup.issue]
  have hmore := (tryReset_continues (a.trySetEnabled false disable).1 reset).sublist.count_le
    (.control .disable)
  rw [hdisable, List.count_append] at hmore
  exact Nat.lt_of_lt_of_le (Nat.lt_succ_self _) hmore

end Attached

namespace System

variable {α : Type}

theorem withHandle_groups_of_ne {d e : ℕ} (h : d ≠ e) (f : Attached → Attached × α) (lost : α)
    (s : System) : (s.withHandle e f lost).1.world.groups d = s.world.groups d := by
  unfold withHandle
  split
  · rfl
  · exact Function.update_of_ne h _ _

theorem withHandle_opener {f : Attached → Attached × α} (hf : ∀ a, (f a).1.fixed = a.fixed) (d e : ℕ)
    (lost : α) (s : System) :
    ((s.withHandle e f lost).1.world.groups d).opener = (s.world.groups d).opener := by
  by_cases h : d = e
  · subst h
    unfold withHandle
    split
    · rfl
    next a ha =>
      have hopener : (f a).1.group.opener = a.group.opener := congrArg (·.2.2) (hf a)
      rw [(attached_eq_some ha).2, ← hopener]
      exact congrArg EventGroup.opener (Function.update_self ..)
  · rw [withHandle_groups_of_ne h]

theorem tryClose_onlyClosed (d e : ℕ) (r : ℕ → Status) (s : System) :
    (s.world.groups d).OnlyClosed ((s.tryClose e r).1.world.groups d) := by
  unfold tryClose
  split
  · exact .refl _
  next a ha =>
    by_cases h : d = e
    · subst h
      rw [(attached_eq_some ha).2]
      refine ⟨a.handle.metrics.length,?_⟩
      rw [← tryClose_onGroup r a.handle.metrics]
      exact Function.update_self ..
    · dsimp only
      rw [Function.update_of_ne h]
      exact .refl _

theorem gshutdown_onlyClosed (d : ℕ) (close : ℕ → Status) (s : System) :
    (s.world.groups d).OnlyClosed ((s.gshutdown close).world.groups d) := by
  unfold gshutdown
  split
  · exact .refl _
  · exact tryClose_onlyClosed ..

theorem enterProcess_onlyClosed (d : ℕ) (pid : ℤ) (close : ℕ → Status) (s : System) :
    (s.world.groups d).OnlyClosed ((s.enterProcess pid close).world.groups d) := by
  rw [enterProcess_eq]
  split
  · rw [changeProcess_eq]
    exact gshutdown_onlyClosed d close _
  · exact .refl _

theorem enterProcess_next (pid : ℤ) (close : ℕ → Status) (s : System) :
    (s.enterProcess pid close).world.next = s.world.next := by
  have h := congrArg Ledger.next (s.enterProcess_ledger pid close)
  apply h.trans
  split
  · exact Ledger.release_next none
  · rfl

theorem openRequestHandle_groups {d : ℕ} {s : System} (h : d < s.world.next) (r : OpenReplies) :
    (s.openRequestHandle r).1.world.groups d = s.world.groups d := by
  rcases s.openRequestHandle_cases r with ⟨-,he⟩ | ⟨-,e,he⟩ | ⟨-,metrics,x,-,-,he⟩ <;> rw [he]
  · rfl
  · exact Function.update_of_ne (Nat.ne_of_lt h) _ _

theorem rinitOpened_onlyClosed {d : ℕ} {s : System} (h : d < s.world.next) (pid : ℤ) (r : RinitReplies) :
    (s.world.groups d).OnlyClosed ((s.rinitOpened pid r).world.groups d) := by
  have henter := s.enterProcess_onlyClosed d pid r.close
  have hopen := openRequestHandle_groups (s := s.enterProcess pid r.close)
    (by rwa [enterProcess_next]) r.open
  exact hopen ▸ henter

/-- `RINIT` ends with starting the handle, or already with the check for a new process. -/
theorem rinit_cases (pid : ℤ) (r : RinitReplies) (s : System) :
    (s.rinit pid r).1 = s.enterProcess pid r.close ∨
    (s.rinit pid r).1 = ((s.rinitOpened pid r).startRequestHandle r.reset r.enable).1 := by
  unfold rinit
  dsimp only
  split
  · exact .inl rfl
  · exact .inr rfl

theorem startRequestHandle_opener (d : ℕ) (reset : ResetReplies) (enable : Native Status) (s : System) :
    ((s.startRequestHandle reset enable).1.world.groups d).opener = (s.world.groups d).opener := by
  unfold startRequestHandle
  split
  · rfl
  · exact withHandle_opener (f := Attached.requestInit reset enable)
      (fun a => a.step_fixed (.requestInit reset enable)) ..

theorem Disposed.onlyClosed {s t : System} {w : ℕ} {r : ℕ → Status} (h : s.Disposed w r t) (d : ℕ) :
    (s.world.groups d).OnlyClosed (t.world.groups d) := by
  cases h with
  | idle hnone => exact .refl _
  | dropped found left hnone => exact .refl _
  | closed found left howned => exact tryClose_onlyClosed ..

/-- No operation changes who opened a group. -/
theorem step_opener {d : ℕ} {s : System} (hd : d < s.world.next) (op : ProcessOp) :
    ((s.step op).1.world.groups d).opener = (s.world.groups d).opener := by
  cases op with
  | rinit pid r =>
    change ((s.rinit pid r).1.world.groups d).opener = _
    rcases s.rinit_cases pid r with he | he <;> rw [he]
    · exact (enterProcess_onlyClosed d pid r.close s).opener
    · rw [startRequestHandle_opener]
      exact (rinitOpened_onlyClosed hd pid r).opener
  | rshutdown disable reset =>
    change ((s.rshutdown disable reset).1.world.groups d).opener = _
    unfold rshutdown
    split
    · rfl
    · exact withHandle_opener (f := Attached.requestShutdown disable reset)
        (fun a => a.step_fixed (.requestShutdown disable reset)) ..
  | gshutdown close => exact (gshutdown_onlyClosed d close s).opener
  | requestHandle =>
    simp only [step]
    rcases s.requestHandle_cases with ⟨-,e,-,he⟩ | ⟨-,-,-,e,-,he⟩ | ⟨-,he⟩ <;> rw [he] <;> rfl
  | «open» args cap r =>
    simp only [step]
    rcases s.open_cases args cap r with ⟨e,he⟩ | ⟨x,he⟩ <;> rw [he]
    exact congrArg EventGroup.opener (Function.update_of_ne (Nat.ne_of_lt hd) _ _)
  | new => rfl
  | method w m =>
    change ((s.callMethod w m).1.world.groups d).opener = _
    unfold callMethod
    split
    · rfl
    split
    · rfl
    · exact withHandle_opener (fun a => a.call_fixed m) ..
  | close w r => exact ((s.close_disposed w r).onlyClosed d).opener
  | destroy w r => exact ((s.destroy_disposed w r).onlyClosed d).opener
  | elapse e t =>
    by_cases h : d = e
    · subst h
      simp [step]
    · simp [step,Function.update_of_ne h]

/-- The request handle is one that the process opened itself exactly if it is recorded with its pid. -/
def Owner (pid : ℤ) (s : System) : Prop := ∀ d, s.process.globals.requestHandle = some d →
  ((s.world.groups d).opener = s.process.self ↔ s.process.globals.requestHandlePid = pid)

theorem enterProcess_pid (pid : ℤ) (close : ℕ → Status) (s : System) :
    (s.enterProcess pid close).process.globals.requestHandlePid = pid := by
  rw [enterProcess_eq]
  split
  · rw [changeProcess_eq]
    rfl
  next h => exact not_not.mp h

/-- A handle that survives the first part of `RINIT` belongs to the process. -/
theorem enterProcess_owner {pid : ℤ} {s : System} (h : s.Owner pid) (close : ℕ → Status) :
    (s.enterProcess pid close).Owner pid := by
  intro d hd
  refine iff_of_true ?_ (enterProcess_pid pid close s)
  rw [enterProcess_eq] at hd ⊢
  split at hd
  · rw [changeProcess_eq] at hd
    cases (gshutdown_requestHandle close _).symm.trans hd
  next hpid =>
    rw [if_neg hpid]
    exact (h d hd).mpr (not_not.mp hpid)

theorem rinitOpened_pid (pid : ℤ) (r : RinitReplies) (s : System) :
    (s.rinitOpened pid r).process.globals.requestHandlePid = pid := by
  refine Eq.trans ?_ (enterProcess_pid pid r.close s)
  unfold rinitOpened
  rcases openRequestHandle_cases r.open (s.enterProcess pid r.close) with
    ⟨-,he⟩ | ⟨-,e,he⟩ | ⟨-,metrics,x,-,-,he⟩ <;> rw [he] <;> rfl

theorem rinitOpened_owner {pid : ℤ} {s : System} (h : s.Owner pid) (r : RinitReplies) :
    (s.rinitOpened pid r).Owner pid := by
  have henter := enterProcess_owner h r.close
  unfold rinitOpened
  rcases openRequestHandle_cases r.open (s.enterProcess pid r.close) with
    ⟨-,he⟩ | ⟨-,e,he⟩ | ⟨-,metrics,x,-,-,he⟩ <;> rw [he]
  · exact henter
  · exact henter
  · intro d hd
    cases hd
    refine iff_of_true ?_ (enterProcess_pid pid r.close s)
    exact congrArg EventGroup.opener (attached_eq_some (allocate_attached x _)).2

/-- What decides about ownership on the side of the process. -/
def holder (s : System) : ℕ × Option ℕ × ℤ :=
  (s.process.self,s.process.globals.requestHandle,s.process.globals.requestHandlePid)

theorem holder_of_core {s t : System} (h : s.core = t.core) : s.holder = t.holder :=
  congrArg (fun c : ℕ × Globals => (c.1,c.2.requestHandle,c.2.requestHandlePid)) h

theorem withHandle_holder (d : ℕ) (f : Attached → Attached × α) (lost : α) (s : System) :
    (s.withHandle d f lost).1.holder = s.holder := holder_of_core (withHandle_core ..)

theorem startRequestHandle_holder (reset : ResetReplies) (enable : Native Status) (s : System) :
    (s.startRequestHandle reset enable).1.holder = s.holder := by
  unfold startRequestHandle
  split
  · rfl
  · exact withHandle_holder ..

theorem rshutdown_holder (disable : Native Status) (reset : ResetReplies) (s : System) :
    (s.rshutdown disable reset).1.holder = s.holder := by
  unfold rshutdown
  split
  · rfl
  · exact withHandle_holder ..

theorem requestHandle_holder (s : System) : s.requestHandle.1.holder = s.holder := by
  rcases s.requestHandle_cases with ⟨-,e,-,he⟩ | ⟨-,-,-,e,-,he⟩ | ⟨-,he⟩ <;> rw [he] <;> rfl

theorem Owner.congr {pid : ℤ} {s t : System} (h : s.Owner pid) (hholder : t.holder = s.holder)
    (hopener : ∀ d, s.process.globals.requestHandle = some d →
      (t.world.groups d).opener = (s.world.groups d).opener) : t.Owner pid := by
  simp only [holder, Prod.mk.injEq] at hholder
  obtain ⟨hself,hhandle,hpid⟩ := hholder
  intro d hd
  rw [hhandle] at hd
  rw [hopener d hd, hself, hpid]
  exact h d hd

/-- The request handle is older than every handle still to be opened. -/
theorem request_lt {s : System} (h : s.Sound) {d : ℕ} (hd : s.process.globals.requestHandle = some d) :
    d < s.world.next := h.owned.lt_next (h.owned.live_of_holds (k := none) hd)

theorem step_owner {pid : ℤ} {s : System} (hs : s.Sound) (h : s.Owner pid) (op : ProcessOp) :
    (s.step (op.asPid pid)).1.Owner pid := by
  have hopener : ∀ d, s.process.globals.requestHandle = some d → ∀ op,
      ((s.step op).1.world.groups d).opener = (s.world.groups d).opener :=
    fun d hd op => step_opener (request_lt hs hd) op
  by_cases quiet : op.isQuiet = true
  · have hsame : op.asPid pid = op := by cases op <;> first | rfl | cases quiet
    rw [hsame]
    exact h.congr (holder_of_core (step_core quiet)) fun d hd => hopener d hd op
  cases op with
  | rinit pid' r =>
    change (s.rinit pid r).1.Owner pid
    rcases s.rinit_cases pid r with he | he <;> rw [he]
    · exact enterProcess_owner h r.close
    · exact (rinitOpened_owner h r).congr (startRequestHandle_holder ..)
        fun d _ => startRequestHandle_opener ..
  | rshutdown disable reset =>
    exact h.congr (rshutdown_holder disable reset s) fun d hd => hopener d hd (.rshutdown disable reset)
  | gshutdown close =>
    intro d hd
    cases (gshutdown_requestHandle close s).symm.trans hd
  | requestHandle =>
    exact h.congr s.requestHandle_holder fun d hd => hopener d hd .requestHandle
  | _ => exact absurd rfl quiet

theorem rinit_pid (pid : ℤ) (r : RinitReplies) (s : System) :
    (s.rinit pid r).1.process.globals.requestHandlePid = pid := by
  rcases s.rinit_cases pid r with he | he <;> rw [he]
  · exact enterProcess_pid pid r.close s
  · exact (congrArg (·.2.2) (startRequestHandle_holder ..)).trans (rinitOpened_pid pid r s)

/-- The request handle was there before an operation or was opened by it. -/
theorem step_request_origin {pid : ℤ} {s : System} (hs : s.Sound) (h : s.Owner pid) (op : ProcessOp) {d : ℕ}
    (hd : (s.step (op.asPid pid)).1.process.globals.requestHandle = some d) :
    s.process.globals.requestHandle = some d ∨
    ((s.step (op.asPid pid)).1.world.groups d).opener = (s.step (op.asPid pid)).1.process.self := by
  by_cases quiet : op.isQuiet = true
  · have hsame : op.asPid pid = op := by cases op <;> first | rfl | cases quiet
    rw [hsame] at hd
    exact .inl ((congrArg (·.2.requestHandle) (step_core quiet)).symm.trans hd)
  have howner := step_owner hs h op
  cases op with
  | rinit pid' r => exact .inr ((howner d hd).mpr (rinit_pid pid r s))
  | rshutdown disable reset =>
    exact .inl ((congrArg (·.2.1) (rshutdown_holder disable reset s)).symm.trans hd)
  | gshutdown close => cases (gshutdown_requestHandle close s).symm.trans hd
  | requestHandle => exact .inl ((congrArg (·.2.1) s.requestHandle_holder).symm.trans hd)
  | _ => exact absurd rfl quiet

/-- Starting or stopping the request handle leaves every other group alone. -/
theorem startRequestHandle_groups {d : ℕ} {s : System} (h : s.process.globals.requestHandle ≠ some d)
    (reset : ResetReplies) (enable : Native Status) :
    (s.startRequestHandle reset enable).1.world.groups d = s.world.groups d := by
  unfold startRequestHandle
  split
  · rfl
  next e he =>
    apply withHandle_groups_of_ne
    rintro rfl
    exact h he

theorem rshutdown_groups {d : ℕ} {s : System} (h : s.process.globals.requestHandle ≠ some d)
    (disable : Native Status) (reset : ResetReplies) :
    (s.rshutdown disable reset).1.world.groups d = s.world.groups d := by
  unfold rshutdown
  split
  · rfl
  next e he =>
    apply withHandle_groups_of_ne
    rintro rfl
    exact h he

/-- `RINIT` touches a group of another process by closing descriptors at most. -/
theorem rinit_onlyClosed {pid : ℤ} {s : System} (h : s.Owner pid) {d : ℕ} (hd : d < s.world.next)
    (hother : (s.world.groups d).opener ≠ s.process.self) (r : RinitReplies) :
    (s.world.groups d).OnlyClosed ((s.rinit pid r).1.world.groups d) := by
  have hopened := rinitOpened_onlyClosed hd pid r
  rcases s.rinit_cases pid r with he | he <;> rw [he]
  · exact enterProcess_onlyClosed d pid r.close s
  · rw [startRequestHandle_groups]
    · exact hopened
    · -- the handle that is started belongs to this process
      intro hrequest
      apply hother
      have hself : (s.rinitOpened pid r).process.self = s.process.self :=
        congrArg Prod.fst ((openRequestHandle_settings ..).trans (enterProcess_settings ..))
      rw [← hopened.opener, ← hself]
      exact (rinitOpened_owner h r d hrequest).mpr (rinitOpened_pid pid r s)

/-- `RSHUTDOWN` controls the request handle whoever opened it. -/
theorem rshutdown_controls {s : System} {d : ℕ} {a : Attached} (h : s.Requested d a)
    (disable : Native Status) (reset : ResetReplies) :
    ¬(s.world.groups d).OnlyClosed ((s.rshutdown disable reset).1.world.groups d) := by
  obtain ⟨hd,ha⟩ := rshutdown_requested h disable reset
  rw [(attached_eq_some h.2).2, (attached_eq_some ha).2]
  apply EventGroup.not_onlyClosed .disable
  exact a.requestShutdown_disables disable reset

end System

namespace Family

/-- The process of a member in the common system. -/
def system (f : Family) (m : Member) : System := ⟨m.process,f.world⟩

theorem update_some_cases {α : Type} {f : ℕ → Option α} {k q : ℕ} {v x : α}
    (h : Function.update f k (some v) q = some x) : (q = k ∧ x = v) ∨ f q = some x := by
  by_cases hq : q = k
  · subst hq
    rw [Function.update_self] at h
    exact .inl ⟨rfl,(Option.some.inj h).symm⟩
  · rw [Function.update_of_ne hq] at h
    exact .inr h

/-- Every process is sound, carries its identity, and has a request handle recorded with its own pid
exactly if it opened that handle itself. -/
structure Kin (f : Family) : Prop where
  sound : ∀ {p m}, f.members p = some m → (f.system m).Sound
  self : ∀ {p m}, f.members p = some m → m.process.self = p
  born : ∀ {p m}, f.members p = some m → p < f.next
  owner : ∀ {p m}, f.members p = some m → (f.system m).Owner m.pid
  opener : ∀ {p m d}, f.members p = some m → m.process.globals.requestHandle = some d →
    (f.world.groups d).opener < f.next

theorem start_kin (pid : ℤ) (requestEnable : Bool) (requestMetrics : Option String) (world : World) :
    (start pid requestEnable requestMetrics world).Kin := by
  have hmember : ∀ {p m}, (start pid requestEnable requestMetrics world).members p = some m →
      p = 0 ∧ m = ⟨(System.start 0 requestEnable requestMetrics world).process,pid⟩ := by
    intro p m hm
    replace hm : Function.update (fun _ => none) 0 (some _) p = some m := hm
    rcases update_some_cases hm with h | h
    · exact h
    · cases h
  refine ⟨?_,?_,?_,?_,?_⟩
  · intro p m hm
    obtain ⟨-,rfl⟩ := hmember hm
    exact System.start_sound 0 requestEnable requestMetrics world
  · intro p m hm
    obtain ⟨rfl,rfl⟩ := hmember hm
    rfl
  · intro p m hm
    obtain ⟨rfl,-⟩ := hmember hm
    exact Nat.one_pos
  · intro p m hm d hd
    obtain ⟨-,rfl⟩ := hmember hm
    cases hd
  · intro p m d hm hd
    obtain ⟨-,rfl⟩ := hmember hm
    cases hd

/-- A member after some process took a step: it is that process, or it did not change. -/
theorem step_run {f : Family} {p : ℕ} {m : Member} (hm : f.members p = some m) (op : ProcessOp) :
    (f.step (.run p op)).1 =
      { f with
        members := Function.update f.members p (some ⟨((f.system m).step (op.asPid m.pid)).1.process,m.pid⟩)
        world := ((f.system m).step (op.asPid m.pid)).1.world } := by
  simp only [step, hm]
  rfl

theorem step_fork {f : Family} {p : ℕ} {m : Member} (hm : f.members p = some m) (pid : ℤ) :
    (f.step (.fork p pid)).1 =
      { f with
        members := Function.update f.members f.next (some ⟨{ m.process with self := f.next },pid⟩)
        next := f.next+1 } := by
  simp only [step, hm]

theorem fork_kin {f : Family} (h : f.Kin) {p : ℕ} {m : Member} (hm : f.members p = some m) {pid : ℤ}
    (hpid : m.process.globals.requestHandle = none ∨ m.process.globals.requestHandlePid ≠ pid) :
    (f.step (.fork p pid)).1.Kin := by
  rw [step_fork hm]
  refine ⟨?_,?_,?_,?_,?_⟩
  · intro q x hx
    rcases update_some_cases hx with ⟨rfl,rfl⟩ | hx
    · exact ⟨(h.sound hm).fresh,(h.sound hm).owned⟩
    · exact h.sound hx
  · intro q x hx
    rcases update_some_cases hx with ⟨rfl,rfl⟩ | hx
    · rfl
    · exact h.self hx
  · intro q x hx
    rcases update_some_cases hx with ⟨rfl,rfl⟩ | hx
    · exact Nat.lt_succ_self _
    · exact Nat.lt_succ_of_lt (h.born hx)
  · intro q x hx d hd
    rcases update_some_cases hx with ⟨rfl,rfl⟩ | hx
    · -- the child opened nothing and has another pid
      apply iff_of_false
      · exact Nat.ne_of_lt (h.opener hm hd)
      · rcases hpid with hnone | hpid
        · cases hnone.symm.trans hd
        · exact hpid
    · exact h.owner hx d hd
  · intro q x d hx hd
    rcases update_some_cases hx with ⟨rfl,rfl⟩ | hx
    · exact Nat.lt_succ_of_lt (h.opener hm hd)
    · exact Nat.lt_succ_of_lt (h.opener hx hd)

theorem run_kin {f : Family} (h : f.Kin) {p : ℕ} {m : Member} (hm : f.members p = some m) (op : ProcessOp) :
    (f.step (.run p op)).1.Kin := by
  rw [step_run hm]
  have hs := h.sound hm
  have hstep := System.step_sound hs (op.asPid m.pid)
  have hself : ((f.system m).step (op.asPid m.pid)).1.process.self = p :=
    (congrArg Prod.fst (System.step_settings ..)).trans (h.self hm)
  have hopener : ∀ {q x d}, f.members q = some x → x.process.globals.requestHandle = some d →
      (((f.system m).step (op.asPid m.pid)).1.world.groups d).opener = (f.world.groups d).opener :=
    fun hx hd => System.step_opener (s := f.system m) (System.request_lt (h.sound hx) hd) _
  refine ⟨?_,?_,?_,?_,?_⟩
  · intro q x hx
    rcases update_some_cases hx with ⟨rfl,rfl⟩ | hx
    · exact hstep
    · exact ⟨(h.sound hx).fresh,(h.sound hx).owned.advance (System.step_trades hs.fresh _).next_le⟩
  · intro q x hx
    rcases update_some_cases hx with ⟨rfl,rfl⟩ | hx
    · exact hself
    · exact h.self hx
  · intro q x hx
    rcases update_some_cases hx with ⟨rfl,rfl⟩ | hx
    · exact h.born hm
    · exact h.born hx
  · intro q x hx
    rcases update_some_cases hx with ⟨rfl,rfl⟩ | hx
    · exact System.step_owner hs (h.owner hm) op
    · exact fun d hd => (Eq.congr_left (hopener hx hd)).trans (h.owner hx d hd)
  · intro q x d hx hd
    rcases update_some_cases hx with ⟨rfl,rfl⟩ | hx
    · rcases System.step_request_origin hs (h.owner hm) op hd with hd' | hd'
      · exact Nat.lt_of_le_of_lt (Nat.le_of_eq (hopener hm hd')) (h.opener hm hd')
      · exact Nat.lt_of_le_of_lt (Nat.le_of_eq (hd'.trans hself)) (h.born hm)
    · exact Nat.lt_of_le_of_lt (Nat.le_of_eq (hopener hx hd)) (h.opener hx hd)

theorem step_kin {f : Family} (h : f.Kin) {op : FamilyOp} (hop : f.Careful op) : (f.step op).1.Kin := by
  cases op with
  | fork p pid =>
    cases hm : f.members p with
    | none =>
      have hsame : (f.step (.fork p pid)).1 = f := by simp [step,hm]
      rwa [hsame]
    | some m => exact fork_kin h hm (hop m hm)
  | run p op =>
    cases hm : f.members p with
    | none =>
      have hsame : (f.step (.run p op)).1 = f := by simp [step,hm]
      rwa [hsame]
    | some m => exact run_kin h hm op

/-- A careful step respects the groups of the other processes. -/
theorem step_respects {f : Family} (h : f.Kin) {op : FamilyOp} (hop : f.Careful op) : f.Respects op := by
  cases op with
  | fork p pid => trivial
  | run p op =>
    intro hook d hd hother
    cases hm : f.members p with
    | none =>
      have hsame : (f.step (.run p op)).1 = f := by simp [step,hm]
      rw [hsame]
      exact .refl _
    | some m =>
      rw [step_run hm]
      have hself : (f.system m).process.self = p := h.self hm
      replace hother : ((f.system m).world.groups d).opener ≠ (f.system m).process.self := by
        rw [hself]
        exact hother
      cases op with
      | rinit pid r => exact System.rinit_onlyClosed (h.owner hm) hd hother r
      | rshutdown disable reset =>
        have hrequest : (f.system m).process.globals.requestHandle ≠ some d := by
          intro hrequest
          rcases hop m hm with hnone | hpid
          · cases hnone.symm.trans hrequest
          · exact hother ((h.owner hm d hrequest).mpr hpid)
        have hgroups := System.rshutdown_groups hrequest disable reset
        exact hgroups.symm ▸ .refl _
      | gshutdown close => exact System.gshutdown_onlyClosed d close (f.system m)
      | _ => cases hook

theorem respects_rshutdown_iff {f : Family} (h : f.Kin) {p : ℕ} {m : Member} (hm : f.members p = some m)
    (disable : Native Status) (reset : ResetReplies) :
    f.Respects (.run p (.rshutdown disable reset)) ↔
      m.process.globals.requestHandle = none ∨ m.process.globals.requestHandlePid = m.pid := by
  constructor
  · intro hrespects
    by_contra hnot
    obtain ⟨hhandle,hpid⟩ := not_or.mp hnot
    obtain ⟨d,hd⟩ := Option.ne_none_iff_exists'.mp hhandle
    have hs := h.sound hm
    have hself : m.process.self = p := h.self hm
    obtain ⟨a,ha⟩ := System.attached_of_live (hs.owned.live_of_holds (k := none) hd)
    have hother : (f.world.groups d).opener ≠ p :=
      fun hopener => hpid ((h.owner hm d hd).mp (hopener.trans hself.symm))
    have honly := hrespects rfl d (System.request_lt hs hd) hother
    rw [step_run hm] at honly
    exact System.rshutdown_controls (s := f.system m) ⟨hd,ha⟩ disable reset honly
  · intro hcareful
    apply step_respects h
    intro m' hm'
    cases hm.symm.trans hm'
    exact hcareful

end Family

/-- Inherited event groups in every family of processes and every interleaving of their steps. As long
as no process ends a request with a request handle recorded under another pid, and no child gets the
pid recorded with a handle that it inherits, no hook does more to a group of another process than
closing descriptors. An `RSHUTDOWN` that meets neither condition controls such a group. -/
theorem inherited_groups_only_closed (pid : ℤ) (requestEnable : Bool) (requestMetrics : Option String)
    (world : World) (ops : List FamilyOp)
    (hops : Along Family.step Family.Careful (.start pid requestEnable requestMetrics world) ops) :
    let start := Family.start pid requestEnable requestMetrics world
    let f := final Family.step start ops
    Along Family.step Family.Respects start ops ∧
    ∀ p m disable reset, f.members p = some m → (f.Respects (.run p (.rshutdown disable reset)) ↔
      m.process.globals.requestHandle = none ∨ m.process.globals.requestHandlePid = m.pid) := by
  intro start f
  have hstart := Family.start_kin pid requestEnable requestMetrics world
  refine ⟨?_,?_⟩
  · exact along_of_invariant Family.step (I := Family.Kin) (fun _ _ h hop => Family.step_kin h hop)
      (fun _ _ h hop => Family.step_respects h hop) hstart hops
  · intro p m disable reset hm
    have hf : f.Kin := final_invariant Family.step (I := Family.Kin) (fun _ _ h hop => Family.step_kin h hop) hstart hops
    exact Family.respects_rshutdown_iff hf hm disable reset

/-- A worker that opens its own handle in a `RINIT` of its own. -/
def preloaded : List FamilyOp :=
  [.run 0 (.rinit 7 plainRinit),.run 0 (.rshutdown (answered none) plainReset),.fork 0 8,
    .run 1 (.rinit 8 plainRinit),.run 1 (.rshutdown (answered none) plainReset),
    .run 0 (.gshutdown fun _ => none)]

theorem inherited_groups_only_closed_preloaded :
    Along Family.step Family.Respects (.start 7 true (some "instructions") emptyWorld) preloaded ∧
    ((final Family.step (.start 7 true (some "instructions") emptyWorld) preloaded).world.groups 1).opener = 1 := by
  have hcareful : Along Family.step Family.Careful
      (.start 7 true (some "instructions") emptyWorld) preloaded := by
    refine ⟨trivial,?_,?_,trivial,?_,trivial,trivial⟩
    · intro m hm
      cases hm
      exact .inr rfl
    · intro m hm
      cases hm
      exact .inr (by decide)
    · intro m hm
      cases hm
      exact .inr rfl
  exact ⟨(inherited_groups_only_closed 7 true (some "instructions") emptyWorld preloaded hcareful).1,rfl⟩

/-- A script forks in the middle of a request, and the child ends that request. -/
def forkedRequest : List FamilyOp :=
  [.run 0 (.rinit 7 plainRinit),.run 0 (.elapse 0 fiveEvents),.fork 0 8]

/-- The child's `RSHUTDOWN` stops the counters of its parent and zeroes them. -/
theorem forked_child_controls_parent :
    let start := Family.start 7 true (some "instructions") emptyWorld
    let hook : FamilyOp := .run 1 (.rshutdown (answered none) plainReset)
    let f := final Family.step start forkedRequest
    ¬Along Family.step Family.Respects start (forkedRequest ++ [hook]) ∧
    ((f.world.groups 0).opener = 0 ∧ (f.world.groups 0).enabled = true ∧ (f.world.groups 0).counts 0 = 5) ∧
    ((f.step hook).1.world.groups 0).enabled = false ∧ ((f.step hook).1.world.groups 0).counts 0 = 0 := by
  refine ⟨?_,⟨rfl,rfl,rfl⟩,rfl,rfl⟩
  intro h
  have hrespects := h.2.2.2.1 rfl 0 (by decide) (by decide)
  exact EventGroup.not_onlyClosed .disable (by decide) hrespects

end Perfidious
