import Perfidious.Handle.Open
import Perfidious.Handle.Read
import Perfidious.Library.Run

/-! The handle as a state machine: the methods of `Handle`, the parts of the request hooks that act
on the native handle, and time passing in between. -/
namespace Perfidious
open Library

/-- `perfidious_request_handle_record_error`: the error it would record. -/
def requestError (operation : String) (errorNumber : Errno) : Error where
  exceptionCe := .ioException
  code := errorNumber
  message := [.text "request handle unavailable after ",.text operation,.text " failed: ",
    .strerror errorNumber]

/-- A native error number as a list: nothing for zero. -/
def raisedError (operation : String) (errorNumber : Errno) : List Error :=
  if errorNumber ≠ 0 then [requestError operation errorNumber] else []

namespace Attached

/-- What `RINIT` does to an existing request handle, with the errors it hands to
`perfidious_request_handle_record_error`; the handle is ready if there is none. -/
def requestInit (reset : ResetReplies) (enable : Native Status) (a : Attached) :
    Attached × List Error :=
  let (a,errorNumber) := a.tryReset reset
  if errorNumber ≠ 0 then (a,raisedError "reset" errorNumber)
  else
    let (a,errorNumber) := a.trySetEnabled true enable
    (a,raisedError "enable" errorNumber)

/-- What `RSHUTDOWN` does to an existing request handle. -/
def requestShutdown (disable : Native Status) (reset : ResetReplies) (a : Attached) :
    Attached × List Error :=
  let (a,disableError) := a.trySetEnabled false disable
  let (a,resetError) := a.tryReset reset
  (a,raisedError "disable" disableError ++ raisedError "reset" resetError)

end Attached

/-- The methods of `Handle` that act on the native handle, with the native answers they meet. -/
inductive Method
  | enable (r : Native Status)
  | disable (r : Native Status)
  | reset (r : ResetReplies)
  | read (r : PausedReplies)
  | readArray (r : PausedReplies)
  | rawStream (idx : ℤ) (r : StreamReplies)

/-- What happens to a native handle while it is open. -/
inductive HandleOp
  | method (m : Method)
  | requestInit (reset : ResetReplies) (enable : Native Status)
  | requestShutdown (disable : Native Status) (reset : ResetReplies)
  | elapse (t : Tick)

/-- What comes of it: a method's outcome, or the errors a hook raised. -/
inductive HandleOutcome
  | method (o : MethodOutcome)
  | hook (raised : List Error)
  | elapsed
  deriving DecidableEq, Repr

def Attached.call (a : Attached) : Method → Attached × MethodOutcome
  | .enable r => a.handleEnable r
  | .disable r => a.handleDisable r
  | .reset r => a.handleReset r
  | .read r => a.handleRead r
  | .readArray r => a.handleReadArray r
  | .rawStream idx r => a.handleRawStream idx r

def Attached.step (a : Attached) : HandleOp → Attached × HandleOutcome
  | .method m => ((a.call m).1,.method (a.call m).2)
  | .requestInit reset enable => ((a.requestInit reset enable).1,.hook (a.requestInit reset enable).2)
  | .requestShutdown disable reset =>
    ((a.requestShutdown disable reset).1,.hook (a.requestShutdown disable reset).2)
  | .elapse t => ({ a with group := a.group.elapse t },.elapsed)

namespace Attached

theorem readToArrayWithTimes_fst (r : Native ReadAnswer) (a : Attached) :
    (a.readToArrayWithTimes r).1 = ⟨a.handle,(a.group.elapse r.elapsed).issue .read⟩ := by
  unfold readToArrayWithTimes
  split <;> rfl

/-- What `readToArray` and `readToResult` have in common: they read the group once. -/
def ReadsOnce (read : Native ReadAnswer → Attached → Attached × Except Error Value) : Prop :=
  ∀ r a, (read r a).1 = ⟨a.handle,(a.group.elapse r.elapsed).issue .read⟩

theorem readToArray_readsOnce : ReadsOnce readToArray := fun r a => readToArrayWithTimes_fst r a

theorem readToResult_readsOnce : ReadsOnce readToResult := fun r a => readToArrayWithTimes_fst r a

/-- The state in which a paused read leaves the handle. -/
theorem readPaused_fst {read : Native ReadAnswer → Attached → Attached × Except Error Value}
    (r : PausedReplies) (a : Attached) :
    (readPaused read r a).1 =
      if a.handle.enabled then
        ((read r.read (a.disable r.disable).1).1.enable r.enable).1
      else (read r.read a).1 := by
  unfold readPaused
  dsimp only
  split <;> split <;> rfl

section Kept
variable {P : Attached → Prop}

/-- A reset is made of two control requests and of what happens between them. -/
theorem tryReset_kept (hset : ∀ {a} enabled r, P a → P (a.trySetEnabled enabled r).1)
    (hbetween : ∀ {a} read reset, P a → P (a.resetBetween read reset).1) {a : Attached} (ha : P a)
    (r : ResetReplies) : P (a.tryReset r).1 := by
  unfold tryReset
  split
  · exact ha
  split
  · have hpaused := hset false r.disable ha
    dsimp only
    split
    · exact hpaused
    · exact hset true r.enable (hbetween r.read r.reset hpaused)
  · exact hbetween r.read r.reset ha

/-- A paused read is made of two control requests and of one group read. -/
theorem readPaused_kept (hset : ∀ {a} enabled r, P a → P (a.trySetEnabled enabled r).1)
    (hgroup : ∀ {a} t, P a → P ⟨a.handle,(a.group.elapse t).issue .read⟩)
    {read : Native ReadAnswer → Attached → Attached × Except Error Value} (hread : ReadsOnce read)
    {a : Attached} (ha : P a) (r : PausedReplies) : P (readPaused read r a).1 := by
  have honce : ∀ {b}, P b → P (read r.read b).1 := by
    intro b hb
    rw [hread]
    exact hgroup r.read.elapsed hb
  rw [readPaused_fst]
  split
  · exact hset true r.enable (honce (hset false r.disable ha))
  · exact honce ha

/-- A property of handles that all native steps keep. -/
structure Kept (P : Attached → Prop) : Prop where
  setEnabled : ∀ {a} enabled r, P a → P (a.trySetEnabled enabled r).1
  reset : ∀ {a} r, P a → P (a.tryReset r).1
  read : ∀ {a} t, P a → P ⟨a.handle,(a.group.elapse t).issue .read⟩
  dup : ∀ {a}, P a → P ⟨a.handle,a.group.issue .dup⟩
  elapse : ∀ {a} t, P a → P ⟨a.handle,a.group.elapse t⟩

theorem Kept.call (h : Kept P) {a : Attached} (ha : P a) (m : Method) : P (a.call m).1 := by
  cases m with
  | enable r => exact h.setEnabled true r ha
  | disable r => exact h.setEnabled false r ha
  | reset r => exact h.reset r ha
  | read r => exact readPaused_kept h.setEnabled h.read readToResult_readsOnce ha r
  | readArray r => exact readPaused_kept h.setEnabled h.read readToArray_readsOnce ha r
  | rawStream idx r =>
    change P (a.handleRawStream idx r).1
    unfold handleRawStream
    split
    · exact ha
    · dsimp only
      split
      · exact h.dup ha
      · split <;> exact h.dup ha

/-- Every operation is made of native steps. -/
theorem Kept.step (h : Kept P) {a : Attached} (ha : P a) (op : HandleOp) : P (a.step op).1 := by
  cases op with
  | method m => exact h.call ha m
  | requestInit reset enable =>
    change P (a.requestInit reset enable).1
    unfold requestInit
    dsimp only
    split
    · exact h.reset reset ha
    · exact h.setEnabled true enable (h.reset reset ha)
  | requestShutdown disable reset => exact h.reset reset (h.setEnabled false disable ha)
  | elapse t => exact h.elapse t ha

end Kept

/-- The enabled flag mirrors the kernel. -/
def InSync (a : Attached) : Prop := a.handle.enabled = a.group.enabled

theorem trySetEnabled_inSync {a : Attached} (h : a.InSync) (enabled : Bool) (r : Native Status) :
    (a.trySetEnabled enabled r).1.InSync := by
  cases hr : r.answer with
  | none =>
    rw [trySetEnabled_of_none hr]
    rfl
  | some errno =>
    rw [trySetEnabled_of_some hr]
    simpa [InSync,EventGroup.issue] using h

theorem resetBetween_inSync {a : Attached} (h : a.InSync) (read : Native ReadAnswer)
    (reset : Native Status) : (a.resetBetween read reset).1.InSync := by
  by_cases hread : read.answer = .full
  case neg =>
    obtain ⟨n,-,hunread⟩ := resetBetween_of_unread hread reset
    simpa [hunread,InSync,EventGroup.issue,afterRead] using h
  cases hreset : reset.answer with
  | none => simpa [resetBetween_of_none hread hreset,InSync,EventGroup.issue,EventGroup.control,afterRead] using h
  | some errno => simpa [resetBetween_of_some hread hreset,InSync,EventGroup.issue,afterRead] using h

/-- Every native step keeps the flag in step with the kernel. -/
theorem inSync_kept : Kept InSync where
  setEnabled enabled r h := trySetEnabled_inSync h enabled r
  reset r h := tryReset_kept (P := InSync) (fun enabled r h => trySetEnabled_inSync h enabled r)
    (fun read reset h => resetBetween_inSync h read reset) h r
  read t h := by simpa [InSync,EventGroup.issue] using h
  dup h := h
  elapse t h := by simpa [InSync] using h

/-- What no operation changes: the descriptors, ids and names, and the group they belong to. -/
def fixed (a : Attached) : (Metric × List Metric × Bool) × List UInt64 × ℕ :=
  ((a.handle.leader,a.handle.members,a.handle.persist),a.group.ids,a.group.opener)

theorem trySetEnabled_fixed (a : Attached) (enabled : Bool) (r : Native Status) :
    (a.trySetEnabled enabled r).1.fixed = a.fixed := by
  cases hr : r.answer with
  | none => simp [trySetEnabled_of_none hr,fixed,EventGroup.issue]
  | some errno => simp [trySetEnabled_of_some hr,fixed,EventGroup.issue]

theorem resetBetween_fixed (a : Attached) (read : Native ReadAnswer) (reset : Native Status) :
    (a.resetBetween read reset).1.fixed = a.fixed := by
  by_cases hread : read.answer = .full
  case neg =>
    obtain ⟨n,-,hunread⟩ := resetBetween_of_unread hread reset
    simp [hunread,fixed,EventGroup.issue,afterRead]
  cases hreset : reset.answer with
  | none => simp [resetBetween_of_none hread hreset,fixed,EventGroup.issue,EventGroup.control,afterRead]
  | some errno => simp [resetBetween_of_some hread hreset,fixed,EventGroup.issue,afterRead]

theorem fixed_kept (x : (Metric × List Metric × Bool) × List UInt64 × ℕ) :
    Kept fun a => a.fixed = x where
  setEnabled enabled r h := (trySetEnabled_fixed _ enabled r).trans h
  reset r h := tryReset_kept (P := fun a => a.fixed = x)
    (fun enabled r h => (trySetEnabled_fixed _ enabled r).trans h)
    (fun read reset h => (resetBetween_fixed _ read reset).trans h) h r
  read t h := by simpa [fixed,EventGroup.issue] using h
  dup h := h
  elapse t h := by simpa [fixed] using h

theorem call_fixed (a : Attached) (m : Method) : (a.call m).1.fixed = a.fixed :=
  (fixed_kept a.fixed).call rfl m

theorem step_fixed (a : Attached) (op : HandleOp) : (a.step op).1.fixed = a.fixed :=
  (fixed_kept a.fixed).step rfl op

/-- The ids stored in the handle are those of the group, and the members bear the given names. -/
def Names (names : List String) (a : Attached) : Prop :=
  a.group.ids = a.handle.metrics.map Metric.id ∧ a.handle.members.map Metric.name = names.map some

theorem names_of_fixed {names : List String} {a b : Attached} (h : b.fixed = a.fixed)
    (ha : a.Names names) : b.Names names := by
  simp only [fixed, Prod.mk.injEq] at h
  obtain ⟨⟨hl,hm,-⟩,hi,-⟩ := h
  exact ⟨by rw [hi,ha.1,Handle.metrics,Handle.metrics,hl,hm],by rw [hm]; exact ha.2⟩

/-- A full record of its own group passes the id checks. -/
theorem decodeRecord_names {names : List String} {a : Attached} (ha : a.Names names)
    (g : EventGroup) (hg : g.ids = a.group.ids) :
    a.handle.decodeRecord g.readFormat =
      (decodeNamed (names.map some) (fun i => g.counts (i+1)) []).map fun values =>
        ⟨UInt64.ofNat g.timeEnabled,UInt64.ofNat g.timeRunning,values⟩ := by
  unfold Handle.decodeRecord EventGroup.readFormat
  simp only [hg, ha.1, Handle.metrics, List.map_cons, List.mapIdx_cons, List.zip_cons_cons, decode,
    ne_eq, not_true_eq_false, if_false]
  rw [decodeMembers_matching a.handle.members (fun i => g.counts (i+1)), ha.2]
  cases decodeNamed (names.map some) (fun i => g.counts (i+1)) [] <;> rfl

/-- Counts only grow, no count is zeroed, no `RESET` is issued and the baselines stay. -/
def Unreset (a b : Attached) : Prop :=
  (∀ i, a.group.counts i ≤ b.group.counts i) ∧
  b.group.zeroedEnabled = a.group.zeroedEnabled ∧ b.group.zeroedRunning = a.group.zeroedRunning ∧
  b.group.calls.count (.control .reset) = a.group.calls.count (.control .reset) ∧
  b.handle.timeEnabledAtReset = a.handle.timeEnabledAtReset ∧
  b.handle.timeRunningAtReset = a.handle.timeRunningAtReset

theorem Unreset.refl (a : Attached) : Unreset a a := ⟨fun _ => le_rfl,rfl,rfl,rfl,rfl,rfl⟩

theorem Unreset.trans {a b c : Attached} (hab : Unreset a b) (hbc : Unreset b c) : Unreset a c := by
  obtain ⟨hcount,he,hr,hcalls,hbe,hbr⟩ := hab
  obtain ⟨hcount',he',hr',hcalls',hbe',hbr'⟩ := hbc
  exact ⟨fun i => (hcount i).trans (hcount' i),he'.trans he,hr'.trans hr,hcalls'.trans hcalls,
    hbe'.trans hbe,hbr'.trans hbr⟩

theorem elapse_counts_le (g : EventGroup) (t : Tick) (i : ℕ) : g.counts i ≤ (g.elapse t).counts i := by
  unfold EventGroup.elapse
  split
  · exact Nat.le_add_right _ _
  · exact le_rfl

theorem trySetEnabled_unreset (a : Attached) (enabled : Bool) (r : Native Status) :
    Unreset a (a.trySetEnabled enabled r).1 := by
  have hcall : (NativeCall.control (if enabled then .enable else .disable) == .control .reset) =
      false := by
    cases enabled <;> rfl
  cases hr : r.answer with
  | none =>
    rw [trySetEnabled_of_none hr]
    exact ⟨fun i => elapse_counts_le _ _ i,by simp [EventGroup.issue],by simp [EventGroup.issue],
      by simp [EventGroup.issue,List.count_singleton,hcall],rfl,rfl⟩
  | some errno =>
    rw [trySetEnabled_of_some hr]
    exact ⟨fun i => elapse_counts_le _ _ i,by simp [EventGroup.issue],by simp [EventGroup.issue],
      by simp [EventGroup.issue,List.count_singleton,hcall],rfl,rfl⟩

theorem readPaused_unreset {read : Native ReadAnswer → Attached → Attached × Except Error Value}
    (hread : ReadsOnce read) (a : Attached) (r : PausedReplies) :
    Unreset a (readPaused read r a).1 := by
  apply readPaused_kept (P := Unreset a) ?_ ?_ hread (.refl a)
  · exact fun enabled r h => h.trans (trySetEnabled_unreset _ enabled r)
  · intro b t h
    refine h.trans ⟨fun i => elapse_counts_le _ _ i,?_⟩
    simp [EventGroup.issue]

/-- A paused read restores the flag, unless the group was paused and could not be resumed; then it
throws. -/
theorem readPaused_enabled {read : Native ReadAnswer → Attached → Attached × Except Error Value}
    (hread : ReadsOnce read) (a : Attached) (r : PausedReplies) :
    if a.handle.enabled = true ∧ r.disable.answer = none ∧ r.enable.answer ≠ none then
      (readPaused read r a).1.handle.enabled = false ∧ (readPaused read r a).2.thrown ≠ []
    else (readPaused read r a).1.handle.enabled = a.handle.enabled := by
  by_cases hen : a.handle.enabled = true
  case neg =>
    rw [if_neg fun h => hen h.1, readPaused_fst, if_neg hen, hread]
  have hafter : ∀ b : Attached, (read r.read b).1.handle = b.handle := fun b => by rw [hread]
  rw [readPaused_fst, if_pos hen]
  unfold disable enable
  dsimp only
  cases henable : r.enable.answer with
  | none =>
    -- the group is resumed, paused or not
    rw [if_neg fun h => h.2.2 rfl, trySetEnabled_of_none henable, hen]
  | some errno =>
    rw [trySetEnabled_of_some henable, hafter]
    cases hdisable : r.disable.answer with
    | none =>
      rw [if_pos ⟨hen,rfl,by simp⟩, trySetEnabled_of_none hdisable]
      refine ⟨rfl,?_⟩
      unfold readPaused enable
      rw [if_pos hen]
      simp only [trySetEnabled_of_some henable]
      split <;> simp [reportIoctlResult,nonzeroErrno_ne_zero]
    | some errno' => rw [if_neg fun h => by simp at h, trySetEnabled_of_some hdisable]

end Attached

/-- The enabled flag mirrors the kernel after every operation on a handle that
`perfidious_handle_try_open_ex` returned, whatever fails. `Handle::read` and `Handle::readArray`
never zero a count or touch the baselines, and they restore the flag unless the group was paused
and could not be resumed, which throws. -/
theorem enabled_mirrors_kernel (opener : ℕ) (names : List String) (pid cpu : ℤ) (persist : Bool)
    (r : OpenReplies) (h : Handle) (calls : List HandleCall)
    (hopen : tryOpenEx names pid cpu persist r = (.ok h,calls)) (ops : List HandleOp) :
    let a := final Attached.step ⟨h,h.openedGroup opener⟩ ops
    a.handle.enabled = a.group.enabled ∧
    ∀ read ∈ [Attached.handleRead,Attached.handleReadArray], ∀ replies : PausedReplies,
      let b := (read replies a).1
      ((∀ i, a.group.counts i ≤ b.group.counts i) ∧
        b.group.zeroedEnabled = a.group.zeroedEnabled ∧
        b.group.zeroedRunning = a.group.zeroedRunning ∧
        b.group.calls.count (.control .reset) = a.group.calls.count (.control .reset) ∧
        b.handle.timeEnabledAtReset = a.handle.timeEnabledAtReset ∧
        b.handle.timeRunningAtReset = a.handle.timeRunningAtReset) ∧
      if a.handle.enabled = true ∧ replies.disable.answer = none ∧ replies.enable.answer ≠ none then
        b.handle.enabled = false ∧ (read replies a).2.thrown ≠ []
      else b.handle.enabled = a.handle.enabled := by
  intro a
  have hstart : (⟨h,h.openedGroup opener⟩ : Attached).InSync := (tryOpenEx_ok hopen).1.1
  have hrun : a.InSync :=
    final_invariant_all Attached.step (I := Attached.InSync) (fun _ op hi => Attached.inSync_kept.step hi op)
      ops hstart
  refine ⟨hrun,fun read hread replies => ?_⟩
  simp only [List.mem_cons, List.not_mem_nil, or_false] at hread
  rcases hread with rfl | rfl
  · exact ⟨Attached.readPaused_unreset Attached.readToResult_readsOnce a replies,
      Attached.readPaused_enabled Attached.readToResult_readsOnce a replies⟩
  · exact ⟨Attached.readPaused_unreset Attached.readToArray_readsOnce a replies,
      Attached.readPaused_enabled Attached.readToArray_readsOnce a replies⟩

/-- An answer that comes at once. -/
def answered {α : Type} (answer : α) : Native α := ⟨.none,answer⟩

/-- A group of one event, opened without a failure. -/
def plainOpen : OpenReplies where
  leader := ⟨none,.ok 3,.ok 10⟩
  member i := ⟨none,.ok (4+i),.ok (11 + UInt64.ofNat i)⟩
  close _ := none

def plainHandle : Handle := ⟨⟨3,10,none⟩,[⟨4,11,some "instructions"⟩],false,true,0,0⟩

def plainCalls : List HandleCall :=
  [.perfEventOpen 0 (-1) (-1) true,.ioctlId 3,.encode "instructions",.perfEventOpen 0 (-1) 3 false,
    .ioctlId 4,.takeName "instructions"]

/-- A read that cannot resume the group leaves it disabled on both sides. -/
theorem enabled_mirrors_kernel_resume_failure :
    let a := final Attached.step ⟨plainHandle,plainHandle.openedGroup 1⟩
      [.method (.enable (answered none)),
        .method (.read ⟨answered none,answered .full,answered (some EIO)⟩)]
    a.handle.enabled = a.group.enabled ∧ a.group.enabled = false :=
  ⟨(enabled_mirrors_kernel 1 ["instructions"] 0 (-1) true plainOpen plainHandle plainCalls rfl _).1,
    rfl⟩

end Perfidious
