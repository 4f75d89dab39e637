import Perfidious.Request.Ownership

/-! Errors of the request hooks. A hook cannot throw, so its first error waits in the module globals
until `Perfidious\request_handle()` throws it. -/
namespace Perfidious
open Library

/-- Recording several errors keeps the pending one, or else the first of them. -/
theorem foldl_recordError (slot : Option Error) (es : List Error) :
    es.foldl recordError slot = slot.or es.head? := by
  induction es generalizing slot with
  | nil => simp
  | cons e es ih =>
    rw [List.foldl_cons, ih]
    cases slot <;> rfl

namespace System

def slot (s : System) : Option Error := s.process.globals.requestHandleError

/-- What no operation changes: the process and its INI settings. -/
def settings (s : System) : ℕ × Bool × Option String :=
  (s.process.self,s.process.globals.requestEnable,s.process.globals.requestMetrics)

theorem settings_of_core {s t : System} (h : s.core = t.core) : s.settings = t.settings :=
  congrArg (fun c : ℕ × Globals => (c.1,c.2.requestEnable,c.2.requestMetrics)) h

theorem withHandle_settings {α : Type} (d : ℕ) (f : Attached → Attached × α) (lost : α) (s : System) :
    (s.withHandle d f lost).1.settings = s.settings := settings_of_core (withHandle_core ..)

theorem tryClose_settings (d : ℕ) (r : ℕ → Status) (s : System) :
    (s.tryClose d r).1.settings = s.settings := settings_of_core (tryClose_core ..)

/-- The operations of a script leave the globals alone, except for `request_handle()`. -/
theorem step_core {s : System} {op : ProcessOp} (quiet : op.isQuiet = true) :
    (s.step op).1.core = s.core := by
  cases op with
  | rinit pid r => cases quiet
  | rshutdown disable reset => cases quiet
  | gshutdown close => cases quiet
  | requestHandle => cases quiet
  | «open» args cap r =>
    simp only [step]
    rcases s.open_cases args cap r with ⟨e,he⟩ | ⟨h,he⟩ <;> rw [he]
    rfl
  | new => rfl
  | method w m =>
    change (s.callMethod w m).1.core = _
    unfold callMethod
    split
    · rfl
    split
    · rfl
    · exact withHandle_core ..
  | close w r => exact (s.close_disposed w r).core
  | destroy w r => exact (s.destroy_disposed w r).core
  | elapse d t => rfl

theorem gshutdown_settings (close : ℕ → Status) (s : System) :
    (s.gshutdown close).settings = s.settings := by
  unfold gshutdown
  split
  · rfl
  · exact tryClose_settings ..

theorem enterProcess_settings (pid : ℤ) (close : ℕ → Status) (s : System) :
    (s.enterProcess pid close).settings = s.settings := by
  rw [enterProcess_eq]
  split
  · rw [changeProcess_eq]
    exact gshutdown_settings ..
  · rfl

theorem openRequestHandle_settings (r : OpenReplies) (s : System) :
    (s.openRequestHandle r).1.settings = s.settings := by
  rcases s.openRequestHandle_cases r with ⟨-,he⟩ | ⟨-,e,he⟩ | ⟨-,metrics,h,-,-,he⟩ <;> rw [he] <;> rfl

theorem startRequestHandle_settings (reset : ResetReplies) (enable : Native Status) (s : System) :
    (s.startRequestHandle reset enable).1.settings = s.settings := by
  unfold startRequestHandle
  split
  · rfl
  · exact withHandle_settings ..

theorem step_settings (s : System) (op : ProcessOp) : (s.step op).1.settings = s.settings := by
  by_cases quiet : op.isQuiet = true
  · exact settings_of_core (step_core quiet)
  cases op with
  | rinit pid r =>
    change (s.rinit pid r).1.settings = _
    unfold rinit
    dsimp only
    split
    · exact enterProcess_settings ..
    · exact (startRequestHandle_settings ..).trans
        ((openRequestHandle_settings ..).trans (enterProcess_settings ..))
  | rshutdown disable reset =>
    change (s.rshutdown disable reset).1.settings = _
    unfold rshutdown
    split
    · rfl
    · exact withHandle_settings ..
  | gshutdown close => exact gshutdown_settings close s
  | requestHandle =>
    simp only [step]
    rcases s.requestHandle_cases with ⟨-,e,-,he⟩ | ⟨-,-,-,d,-,he⟩ | ⟨-,he⟩ <;> rw [he] <;> rfl
  | _ => exact absurd rfl quiet

theorem final_settings (s : System) (ops : List ProcessOp) : (final step s ops).settings = s.settings :=
  final_invariant_all step (I := fun t => t.settings = s.settings)
    (fun t op h => (t.step_settings op).trans h) ops rfl

/-- The slot after the first part of `RINIT`. -/
theorem enterProcess_slot (pid : ℤ) (close : ℕ → Status) (s : System) :
    (s.enterProcess pid close).slot =
      if s.process.globals.requestHandlePid ≠ pid then none else s.slot := by
  rw [enterProcess_eq]
  split
  · rw [changeProcess_eq]
    rfl
  · rfl

theorem openRequestHandle_slot (r : OpenReplies) (s : System) :
    (s.openRequestHandle r).1.slot = s.slot.or (s.openRequestHandle r).2.head? := by
  rcases s.openRequestHandle_cases r with ⟨-,he⟩ | ⟨-,e,he⟩ | ⟨-,metrics,h,-,-,he⟩ <;> rw [he]
  · simp
  · exact foldl_recordError s.slot [e]
  · simp only [List.head?_nil, Option.or_none]
    rfl

theorem startRequestHandle_slot (reset : ResetReplies) (enable : Native Status) (s : System) :
    (s.startRequestHandle reset enable).1.slot =
      s.slot.or (s.startRequestHandle reset enable).2.head? := by
  unfold startRequestHandle
  split
  · simp
  next d _ =>
    rw [← foldl_recordError]
    have hcore := s.withHandle_core d (Attached.requestInit reset enable) []
    exact congrArg (List.foldl recordError · _) (congrArg (·.2.requestHandleError) hcore)

/-- `RINIT` empties the slot on a process change and then records what it raises. -/
theorem rinit_slot (pid : ℤ) (r : RinitReplies) (s : System) :
    (s.rinit pid r).1.slot =
      (if s.process.globals.requestHandlePid ≠ pid then none else s.slot).or (s.rinit pid r).2.head? := by
  rw [← enterProcess_slot pid r.close]
  unfold rinit
  dsimp only
  split
  · simp
  · dsimp only
    rw [startRequestHandle_slot, openRequestHandle_slot, List.head?_append, Option.or_assoc]

theorem rshutdown_slot (disable : Native Status) (reset : ResetReplies) (s : System) :
    (s.rshutdown disable reset).1.slot = s.slot.or (s.rshutdown disable reset).2.head? := by
  unfold rshutdown
  split
  · simp only [List.head?_nil, Option.or_none]
    rfl
  next d _ =>
    rw [← foldl_recordError]
    have hcore := s.withHandle_core d (Attached.requestShutdown disable reset) []
    exact congrArg (List.foldl recordError · _) (congrArg (·.2.requestHandleError) hcore)

theorem gshutdown_slot (close : ℕ → Status) (s : System) : (s.gshutdown close).slot = s.slot := by
  unfold gshutdown
  split
  · rfl
  next d _ => exact congrArg (·.2.requestHandleError) (s.tryClose_core d close)

end System

/-- The lifecycle errors of a hook. -/
def Outcome.raised : Outcome → List Error
  | .hook raised => raised
  | _ => []

/-- What `request_handle()` threw. -/
def ProcessOp.thrown : ProcessOp → Outcome → List Error
  | .requestHandle,.call o => o.thrown
  | _,_ => []

namespace System

/-- The lifecycle errors since the last throw of `request_handle()` or process change, before the
operation raises its own. -/
def unthrown (s : System) (since : List Error) (op : ProcessOp) : List Error :=
  match op with
  | .rinit pid _ => if s.process.globals.requestHandlePid ≠ pid then [] else since
  | op => if op.thrown (s.step op).2 = [] then since else []

/-- A process observed: the errors since the last throw or process change, and in each step the
errors it raises and throws. -/
def watch (x : System × List Error) (op : ProcessOp) :
    (System × List Error) × List Error × List Error :=
  let (s,o) := x.1.step op
  ((s,x.1.unthrown x.2 op ++ o.raised),(o.raised,op.thrown o))

theorem final_watch (s : System) (since : List Error) (ops : List ProcessOp) :
    (final watch (s,since) ops).1 = final step s ops := by
  induction ops generalizing s since with
  | nil => rfl
  | cons op ops ih => exact ih _ _

/-- The slot holds the earliest error since the last throw or process change. -/
def Pending (x : System × List Error) : Prop :=
  x.1.process.globals.requestEnable = true ∧ x.1.slot = x.2.head?

/-- What `request_handle()` does with the slot. -/
theorem requestHandle_slot {s : System} (h : s.process.globals.requestEnable = true) :
    s.requestHandle.2.thrown = s.slot.toList ∧ s.requestHandle.1.slot = none ∧
    ((∃ w, s.requestHandle.2 = ⟨[],.object w⟩) ↔ s.slot = none ∧
      s.process.globals.requestHandle ≠ none ∧ s.process.globals.requestHandleReady = true) := by
  unfold slot
  rcases s.requestHandle_cases with ⟨-,e,hslot,he⟩ | ⟨-,hslot,hready,d,hd,he⟩ | ⟨hnot,he⟩ <;> rw [he]
  · simp [hslot,mapGlobals]
  · simp [hslot,hready,hd,newObject,setObject]
  · obtain ⟨hslot,hd | hr⟩ := hnot h
    · simp [hslot,hd]
    · simp [hslot,hr]

theorem step_enable (s : System) (op : ProcessOp) :
    (s.step op).1.process.globals.requestEnable = s.process.globals.requestEnable :=
  congrArg (·.2.1) (s.step_settings op)

/-- An operation that leaves the globals alone neither raises nor throws lifecycle errors. -/
theorem watch_quiet {op : ProcessOp} (quiet : op.isQuiet = true) (s : System) (since : List Error) :
    watch (s,since) op = (((s.step op).1,since),([],[])) := by
  cases op with
  | rinit pid r => cases quiet
  | rshutdown disable reset => cases quiet
  | gshutdown close => cases quiet
  | requestHandle => cases quiet
  | _ => simp [watch,unthrown,step,Outcome.raised,ProcessOp.thrown]

theorem watch_pending {x : System × List Error} (h : Pending x) (op : ProcessOp) :
    Pending (watch x op).1 := by
  obtain ⟨s,since⟩ := x
  obtain ⟨henable,hslot⟩ := h
  refine ⟨(s.step_enable op).trans henable,?_⟩
  replace hslot : s.slot = since.head? := hslot
  by_cases quiet : op.isQuiet = true
  · rw [watch_quiet quiet]
    exact (congrArg (·.2.requestHandleError) (step_core quiet)).trans hslot
  change (s.step op).1.slot = (s.unthrown since op ++ (s.step op).2.raised).head?
  rw [List.head?_append]
  cases op with
  | rinit pid r =>
    apply (s.rinit_slot pid r).trans
    by_cases hpid : s.process.globals.requestHandlePid = pid
    · simp [unthrown,hpid,step,Outcome.raised,hslot]
    · simp [unthrown,hpid,step,Outcome.raised]
  | rshutdown disable reset =>
    apply (s.rshutdown_slot disable reset).trans
    simp [unthrown,step,Outcome.raised,ProcessOp.thrown,hslot]
  | gshutdown close =>
    apply (s.gshutdown_slot close).trans
    simp [unthrown,step,Outcome.raised,ProcessOp.thrown,hslot]
  | requestHandle =>
    obtain ⟨hthrown,hempty,-⟩ := requestHandle_slot henable
    apply hempty.trans
    simp only [unthrown, step, ProcessOp.thrown, hthrown, Outcome.raised]
    cases hs : s.slot with
    | none => simp [← hslot,hs]
    | some e => simp
  | _ => exact absurd rfl quiet

/-- What a step throws was raised and not thrown before. -/
theorem watch_sublist {x : System × List Error} (h : Pending x) (op : ProcessOp) :
    ((watch x op).2.2 ++ (watch x op).1.2).Sublist (x.2 ++ (watch x op).2.1) := by
  obtain ⟨s,since⟩ := x
  obtain ⟨henable,hslot⟩ := h
  by_cases quiet : op.isQuiet = true
  · rw [watch_quiet quiet]
    simp
  change (op.thrown (s.step op).2 ++ (s.unthrown since op ++ (s.step op).2.raised)).Sublist
    (since ++ (s.step op).2.raised)
  cases op with
  | rinit pid r =>
    have hkeep : (s.unthrown since (.rinit pid r)).Sublist since := by
      change (if s.process.globals.requestHandlePid ≠ pid then [] else since).Sublist since
      split
      · exact List.nil_sublist _
      · exact List.Sublist.refl _
    exact hkeep.append_right _
  | rshutdown disable reset => exact List.Sublist.refl _
  | gshutdown close => exact List.Sublist.refl _
  | requestHandle =>
    obtain ⟨hthrown,-,-⟩ := requestHandle_slot henable
    replace hslot : s.slot = since.head? := hslot
    simp only [unthrown, step, ProcessOp.thrown, hthrown, Outcome.raised, hslot]
    cases since <;> simp
  | _ => exact absurd rfl quiet

/-- The operations that can take a pending error out of the slot. -/
def Empties (s : System) : ProcessOp → Prop
  | .rinit pid _ => s.process.globals.requestHandlePid ≠ pid
  | .requestHandle => True
  | _ => False

/-- Nothing else removes or replaces it, be it a later error or a later success. -/
theorem step_slot_some {s : System} {e : Error} (h : s.slot = some e) {op : ProcessOp}
    (hop : ¬s.Empties op) : (s.step op).1.slot = some e := by
  by_cases quiet : op.isQuiet = true
  · exact (congrArg (·.2.requestHandleError) (step_core quiet)).trans h
  cases op with
  | rinit pid r =>
    replace hop : ¬s.process.globals.requestHandlePid ≠ pid := hop
    apply (s.rinit_slot pid r).trans
    rw [if_neg hop, h, Option.some_or]
  | rshutdown disable reset =>
    apply (s.rshutdown_slot disable reset).trans
    rw [h, Option.some_or]
  | gshutdown close => exact (s.gshutdown_slot close).trans h
  | requestHandle => exact absurd trivial hop
  | _ => exact absurd rfl quiet

/-- A script raises no lifecycle errors. -/
theorem step_slot_none {s : System} (henable : s.process.globals.requestEnable = true)
    (h : s.slot = none) {op : ProcessOp} (hop : op.isHook = false) : (s.step op).1.slot = none := by
  by_cases quiet : op.isQuiet = true
  · exact (congrArg (·.2.requestHandleError) (step_core quiet)).trans h
  cases op with
  | rinit pid r => cases hop
  | rshutdown disable reset => cases hop
  | gshutdown close => cases hop
  | requestHandle => exact (requestHandle_slot henable).2.1
  | _ => exact absurd rfl quiet

theorem final_slot_none {s : System} (henable : s.process.globals.requestEnable = true)
    (h : s.slot = none) {ops : List ProcessOp} (hops : ∀ op ∈ ops, op.isHook = false) :
    (final step s ops).process.globals.requestEnable = true ∧ (final step s ops).slot = none := by
  induction ops generalizing s with
  | nil => exact ⟨henable,h⟩
  | cons op ops ih =>
    obtain ⟨hop,hops⟩ := List.forall_mem_cons.mp hops
    exact ih ((s.step_enable op).trans henable) (step_slot_none henable h hop) hops

end System

/-- Deferred lifecycle errors, in every run of a process with requests enabled. The slot holds the
earliest error since the last throw or process change; `request_handle()` throws exactly that one and
leaves the slot empty; then it returns a handle, for the rest of the request, exactly when there is
one that is ready. Later errors and successes leave a pending error alone, a process change drops
it, and what was thrown over the whole run was raised in that order and never twice. -/
theorem deferred_errors_delivered_once (self : ℕ) (requestMetrics : Option String) (world : World)
    (ops : List ProcessOp) :
    let start := System.start self true requestMetrics world
    let x := final System.watch (start,[]) ops
    let s := x.1
    s = final System.step start ops ∧
    (s.slot = x.2.head? ∧ s.requestHandle.2.thrown = x.2.head?.toList ∧ s.requestHandle.1.slot = none) ∧
    (∀ more, (∀ op ∈ more, op.isHook = false) →
      let t := final System.step s.requestHandle.1 more
      t.slot = none ∧ ((∃ w, t.requestHandle.2 = ⟨[],.object w⟩) ↔
        t.process.globals.requestHandle ≠ none ∧ t.process.globals.requestHandleReady = true)) ∧
    (∀ e more, s.slot = some e → Along System.step (fun t op => ¬t.Empties op) s more →
      (final System.step s more).slot = some e) ∧
    (∀ pid r, s.process.globals.requestHandlePid ≠ pid →
      (s.rinit pid r).1.slot = (s.rinit pid r).2.head?) ∧
    ((outputs System.watch (start,[]) ops).flatMap Prod.snd).Sublist
      ((outputs System.watch (start,[]) ops).flatMap Prod.fst) := by
  intro start x s
  have hstart : System.Pending (start,[]) := ⟨rfl,rfl⟩
  have hrun : System.Pending x :=
    final_invariant_all System.watch (I := System.Pending) (fun _ op h => System.watch_pending h op)
      ops hstart
  obtain ⟨henable,hslot⟩ := hrun
  obtain ⟨hthrown,hempty,-⟩ := System.requestHandle_slot henable
  refine ⟨System.final_watch start [] ops,⟨hslot,by rw [hthrown, hslot],hempty⟩,?_,?_,?_,?_⟩
  · intro more hmore t
    obtain ⟨htenable,ht⟩ :=
      System.final_slot_none ((s.step_enable .requestHandle).trans henable) hempty hmore
    refine ⟨ht,(System.requestHandle_slot htenable).2.2.trans ?_⟩
    exact and_iff_right ht
  · intro e more he hmore
    exact final_invariant System.step (I := fun t : System => t.slot = some e)
      (fun t op h hop => System.step_slot_some h hop) he hmore
  · intro pid r hpid
    rw [System.rinit_slot, if_pos hpid, Option.none_or]
  · exact outputs_sublist System.watch (I := System.Pending) Prod.snd Prod.fst Prod.snd
      (fun _ op h => System.watch_pending h op) (fun _ op h => System.watch_sublist h op) hstart ops

/-- A `RINIT` in which `perf_event_open` fails for the leader. -/
def deniedRinit : System.RinitReplies :=
  { plainRinit with «open» := { plainOpen with leader := ⟨none,.error 13,.ok 10⟩ } }

/-- The second request throws what the first one could not, not its own failed reset. -/
theorem deferred_errors_delivered_once_denied :
    let s := final System.step (.start 1 true (some "instructions") emptyWorld)
      [.rinit 7 deniedRinit,.rshutdown (answered none) plainReset,
        .rinit 7 { plainRinit with reset := { plainReset with read := answered (.failed EIO) } }]
    s.requestHandle.2.thrown = [perfEventOpenError "perf::PERF_COUNT_SW_DUMMY" 13] := by
  have h := deferred_errors_delivered_once 1 (some "instructions") emptyWorld
    [.rinit 7 deniedRinit,.rshutdown (answered none) plainReset,
      .rinit 7 { plainRinit with reset := { plainReset with read := answered (.failed EIO) } }]
  exact h.2.1.2.1

end Perfidious
