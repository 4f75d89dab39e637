import Perfidious.Handle.Reset
import Perfidious.Request.Ready

/-! What `RINIT` leaves of the request handle: between the hooks the handle is a machine of its own, and
a `RINIT` that makes it ready has it count from zero. -/
namespace Perfidious
open Library

def HandleOutcome.toOutcome : HandleOutcome → Outcome
  | .method o => .call ⟨o.thrown,.value o.value⟩
  | .hook raised => .hook raised
  | .elapsed => .passed

namespace Attached

/-- A handle that was reset and then enabled. The counts were zeroed when the reset stopped them, and
the times at that moment are the baselines; what has been counted since then got through before the
last `ENABLE` took effect, on a group that the reset had resumed. -/
structure Restarted (reset : ResetReplies) (enable : Native Status) (a b : Attached) : Prop where
  counts : ∀ i, b.group.counts i = if a.handle.enabled then enable.elapsed.counts i else 0
  zeroedEnabled : b.group.zeroedEnabled = (a.boundary reset).timeEnabled
  zeroedRunning : b.group.zeroedRunning = (a.boundary reset).timeRunning
  timeEnabledAtReset : b.handle.timeEnabledAtReset = UInt64.ofNat (a.boundary reset).timeEnabled
  timeRunningAtReset : b.handle.timeRunningAtReset = UInt64.ofNat (a.boundary reset).timeRunning

theorem Started.restarted {reset : ResetReplies} {enable : Native Status} {a b : Attached}
    (h : Started reset enable a b) (hsync : a.InSync) : Restarted reset enable a b := by
  obtain ⟨hreset,henable⟩ := h
  have hcase := tryReset_cases hsync reset
  generalize a.tryReset reset = out at hreset henable hcase
  obtain ⟨c,errorNumber⟩ := out
  cases hreset
  obtain ⟨hrecord,-,hgroup⟩ := hcase.success hsync
  simp only [record, zeroed, Record.mk.injEq] at hrecord
  obtain ⟨hcounts,hzeroE,hzeroR,hbaseE,hbaseR⟩ := hrecord
  cases hr : enable.answer with
  | some errno =>
    rw [trySetEnabled_of_some hr] at henable
    exact absurd (congrArg Prod.snd henable) (nonzeroErrno_ne_zero errno)
  | none =>
    rw [trySetEnabled_of_none hr] at henable
    cases henable
    refine ⟨fun i => ?_,?_,?_,hbaseE,hbaseR⟩
    · change (c.group.elapse enable.elapsed).counts i = _
      unfold EventGroup.elapse
      rw [hgroup]
      split
      · simp [hcounts]
      · exact congrFun hcounts i
    · simpa [EventGroup.issue] using hzeroE
    · simpa [EventGroup.issue] using hzeroR

/-- `RINIT` reports nothing exactly if no step of the reset and not the `ENABLE` fails. -/
theorem requestInit_quiet_iff {a : Attached} (hsync : a.InSync) (reset : ResetReplies)
    (enable : Native Status) : (a.requestInit reset enable).2 = [] ↔
      (∀ code ∈ reset.codes a.handle.enabled, code = 0) ∧ enable.answer = none := by
  have hnumber : (a.tryReset reset).2 = 0 ↔ ∀ code ∈ reset.codes a.handle.enabled, code = 0 := by
    rw [tryReset_errorNumber hsync]
    exact firstError_eq_zero_iff _
  unfold requestInit
  dsimp only
  by_cases hreset : (a.tryReset reset).2 = 0
  · rw [if_neg (not_not.mpr hreset)]
    cases hr : enable.answer with
    | none =>
      rw [trySetEnabled_of_none hr]
      simpa [raisedError] using hnumber.mp hreset
    | some errno =>
      rw [trySetEnabled_of_some hr]
      simp [raisedError,nonzeroErrno_ne_zero]
  · rw [if_pos hreset]
    simp [raisedError,hreset,← hnumber]

end Attached

namespace System

theorem store_attached_of_ne {d e : ℕ} (h : d ≠ e) (a : Attached) (s : System) :
    (s.store e a).attached d = s.attached d := by
  simp [store,attached,Function.update_of_ne h]

theorem withHandle_attached_of_ne {α : Type} {d e : ℕ} (h : d ≠ e) (f : Attached → Attached × α)
    (lost : α) (s : System) : (s.withHandle e f lost).1.attached d = s.attached d := by
  unfold withHandle
  split
  · rfl
  · exact store_attached_of_ne h _ s

theorem tryClose_attached_of_ne {d e : ℕ} (h : d ≠ e) (r : ℕ → Status) (s : System) :
    (s.tryClose e r).1.attached d = s.attached d := by
  unfold tryClose
  split
  · rfl
  · simp [attached,Function.update_of_ne h]

theorem allocate_attached_of_ne {d : ℕ} {s : System} (h : d ≠ s.world.next) (x : Handle) :
    (s.allocate x).attached d = s.attached d := by
  simp [allocate,attached,Function.update_of_ne h]

theorem allocate_attached (x : Handle) (s : System) :
    (s.allocate x).attached s.world.next = some ⟨x,x.openedGroup s.process.self⟩ := by
  simp [allocate,attached]

/-- What an operation of a script does to the native handle `d`. -/
def effect (d : ℕ) (s : System) : ProcessOp → Option HandleOp
  | .method w m => if (s.process.objects w).bind HandleObj.handle = some d then some (.method m) else none
  | .elapse e t => if e = d then some (.elapse t) else none
  | _ => none

/-- Closing an object leaves the request handle alone. -/
theorem Disposed.attached {s t : System} {w : ℕ} {r : ℕ → Status} (h : s.Disposed w r t)
    (hs : s.ledger.Sound) {d : ℕ} (hd : s.process.globals.requestHandle = some d) :
    t.attached d = s.attached d := by
  cases h with
  | idle hnone => rfl
  | dropped found left hnone => rfl
  | closed found left howned =>
    refine (tryClose_attached_of_ne ?_ r _).trans rfl
    rintro rfl
    have hrequest : s.ledger.holds none = some d := hd
    cases hs.unique hrequest howned

/-- Between the hooks the request handle is a machine of its own, driven by the effects. -/
theorem step_effect {s : System} (hs : s.Sound) {d : ℕ} {a : Attached} (hd : s.Requested d a)
    {op : ProcessOp} (hop : op.isHook = false) :
    (s.effect d op = none ∧ (s.step op).1.Requested d a) ∨
    ∃ e, s.effect d op = some e ∧ (s.step op).1.Requested d (a.step e).1 ∧
      (s.step op).2 = (a.step e).2.toOutcome := by
  have hhandle := (step_available (s := s) hop).1.trans hd.1
  have ha := hd.2
  cases op with
  | rinit pid r => cases hop
  | rshutdown disable reset => cases hop
  | gshutdown close => cases hop
  | requestHandle =>
    refine .inl ⟨rfl,hhandle,?_⟩
    simp only [step]
    rcases s.requestHandle_cases with ⟨-,e,-,he⟩ | ⟨-,-,-,e,-,he⟩ | ⟨-,he⟩ <;> rw [he] <;> exact ha
  | «open» args cap r =>
    refine .inl ⟨rfl,hhandle,?_⟩
    have hlt : d < s.world.next := hs.owned.lt_next (hs.owned.live_of_holds (k := none) hd.1)
    simp only [step]
    rcases s.open_cases args cap r with ⟨e,he⟩ | ⟨h,he⟩ <;> rw [he]
    · exact ha
    · exact (allocate_attached_of_ne (Nat.ne_of_lt hlt) h).trans ha
  | new => exact .inl ⟨rfl,hhandle,ha⟩
  | method w m =>
    unfold effect
    simp only [step] at hhandle ⊢
    unfold callMethod at hhandle ⊢
    cases hw : s.process.objects w with
    | none => exact .inl ⟨by simp,hd⟩
    | some obj =>
      obtain ⟨handle,borrowed⟩ := obj
      rw [hw] at hhandle
      cases handle with
      | none => exact .inl ⟨by simp,hd⟩
      | some e =>
        by_cases he : e = d
        · subst he
          refine .inr ⟨.method m,by simp,?_⟩
          dsimp only at hhandle ⊢
          rw [withHandle_some ha] at hhandle ⊢
          exact ⟨⟨hhandle,store_attached e _ s⟩,rfl⟩
        · refine .inl ⟨by simp [he],hhandle,?_⟩
          exact (withHandle_attached_of_ne (Ne.symm he) _ _ s).trans ha
  | close w r => exact .inl ⟨rfl,hhandle,((s.close_disposed w r).attached hs.owned hd.1).trans ha⟩
  | destroy w r => exact .inl ⟨rfl,hhandle,((s.destroy_disposed w r).attached hs.owned hd.1).trans ha⟩
  | elapse e t =>
    unfold effect
    by_cases he : e = d
    · subst he
      refine .inr ⟨.elapse t,by simp,⟨hhandle,?_⟩,rfl⟩
      obtain ⟨hh,hg⟩ := attached_eq_some ha
      simp [step,attached,hh,hg,Attached.step]
    · refine .inl ⟨by simp [he],hhandle,?_⟩
      refine Eq.trans ?_ ha
      simp [step,attached,Function.update_of_ne (Ne.symm he)]

/-- The request handle, if there is one, has the property. -/
def Requests (P : Attached → Prop) (s : System) : Prop := ∀ d a, s.Requested d a → P a

theorem enterProcess_requests {P : Attached → Prop} {s : System} (h : s.Requests P) (pid : ℤ)
    (close : ℕ → Status) : (s.enterProcess pid close).Requests P := by
  intro d a ha
  rw [enterProcess_eq] at ha
  split at ha
  · -- the handle of the old process is gone
    rw [changeProcess_eq] at ha
    cases (gshutdown_requestHandle close _).symm.trans ha.1
  · exact h d a ha

theorem openRequestHandle_requests {P : Attached → Prop} {s : System} (h : s.Requests P) (r : OpenReplies)
    (hopen : ∀ metrics x, s.process.globals.requestMetrics = some metrics →
      (tryOpenEx (phpExplode (maxEventNames+1) metrics) 0 (-1) true r).1 = .ok x →
      P ⟨x,x.openedGroup s.process.self⟩) : (s.openRequestHandle r).1.Requests P := by
  intro d a ha
  rcases s.openRequestHandle_cases r with ⟨-,he⟩ | ⟨-,e,he⟩ | ⟨-,metrics,x,hm,hx,he⟩ <;> rw [he] at ha
  · exact h d a ha
  · exact h d a ha
  · obtain ⟨hd,ha⟩ := ha
    cases hd
    cases (allocate_attached x s).symm.trans ha
    exact hopen metrics x hm hx

/-- The request handle before a hook that neither opens nor closes one. -/
theorem requested_of_hook {s t : System} (hs : s.ledger.Sound) {d : ℕ} {b : Attached} (hb : t.Requested d b)
    (hledger : t.ledger = s.ledger) {f : Attached → Attached}
    (hf : ∀ {a}, s.Requested d a → t.Requested d (f a)) : ∃ a, s.Requested d a ∧ b = f a := by
  have hd : s.process.globals.requestHandle = some d :=
    (congrArg (fun l => l.holds none) hledger).symm.trans hb.1
  obtain ⟨a,ha⟩ := attached_of_live (hs.live_of_holds (k := none) hd)
  exact ⟨a,⟨hd,ha⟩,Option.some.inj (hb.2.symm.trans (hf ⟨hd,ha⟩).2)⟩

theorem rshutdown_requested {s : System} {d : ℕ} {a : Attached} (h : s.Requested d a)
    (disable : Native Status) (reset : ResetReplies) :
    (s.rshutdown disable reset).1.Requested d (a.requestShutdown disable reset).1 := by
  obtain ⟨hd,ha⟩ := h
  unfold rshutdown
  rw [hd]
  dsimp only
  rw [withHandle_some ha]
  exact ⟨hd,store_attached d _ s⟩

theorem rinitOpened_requests {P : Attached → Prop} {s : System} (h : s.Requests P)
    (hopen : ∀ metrics r x, s.process.globals.requestMetrics = some metrics →
      (tryOpenEx (phpExplode (maxEventNames+1) metrics) 0 (-1) true r).1 = .ok x →
      P ⟨x,x.openedGroup s.process.self⟩) (pid : ℤ) (r : RinitReplies) :
    (s.rinitOpened pid r).Requests P := by
  have hsettings := s.enterProcess_settings pid r.close
  apply openRequestHandle_requests (enterProcess_requests h pid r.close)
  intro metrics x hm hx
  have hself : (s.enterProcess pid r.close).process.self = s.process.self := congrArg Prod.fst hsettings
  rw [hself]
  exact hopen metrics r.open x ((congrArg (·.2.2) hsettings).symm.trans hm) hx

/-- A property of request handles that the handle operations keep, and that holds when the handle is
opened, is kept by every operation of the process. -/
theorem step_requests {P : Attached → Prop} (hstep : ∀ a op, P a → P (Attached.step a op).1) {s : System}
    (hs : s.Sound)
    (hopen : ∀ metrics r x, s.process.globals.requestMetrics = some metrics →
      (tryOpenEx (phpExplode (maxEventNames+1) metrics) 0 (-1) true r).1 = .ok x →
      P ⟨x,x.openedGroup s.process.self⟩)
    (h : s.Requests P) (op : ProcessOp) : (s.step op).1.Requests P := by
  by_cases hop : op.isHook = true
  · cases op with
    | rinit pid r =>
      have henter := enterProcess_requests h pid r.close
      have hopened := rinitOpened_requests h hopen pid r
      intro d b hb
      by_cases henable : (s.enterProcess pid r.close).process.globals.requestEnable = true
      · have hrinit : (s.step (.rinit pid r)).1 =
            ((s.rinitOpened pid r).startRequestHandle r.reset r.enable).1 := by
          simp [step,rinit,henable,rinitOpened]
        rw [hrinit] at hb
        obtain ⟨a,ha,rfl⟩ := requested_of_hook (rinitOpened_sound hs.owned pid r) hb
          (startRequestHandle_ledger ..) (fun ha => (startRequestHandle_requested ha r.reset r.enable).1)
        exact hstep a (.requestInit r.reset r.enable) (hopened d a ha)
      · have hrinit : (s.step (.rinit pid r)).1 = s.enterProcess pid r.close := by
          simp [step,rinit,henable]
        rw [hrinit] at hb
        exact henter d b hb
    | rshutdown disable reset =>
      intro d b hb
      obtain ⟨a,ha,rfl⟩ := requested_of_hook hs.owned hb
        (rshutdown_ledger ..) (fun ha => rshutdown_requested ha disable reset)
      exact hstep a (.requestShutdown disable reset) (h d a ha)
    | gshutdown close =>
      intro d a ha
      cases (gshutdown_requestHandle close s).symm.trans ha.1
    | _ => cases hop
  · intro d b hb
    have hd := (step_available (s := s) (Bool.eq_false_iff.mpr hop)).1.symm.trans hb.1
    obtain ⟨a,ha⟩ := attached_of_live (hs.owned.live_of_holds (k := none) hd)
    rcases step_effect hs ⟨hd,ha⟩ (Bool.eq_false_iff.mpr hop) with ⟨-,hnext⟩ | ⟨e,-,hnext,-⟩
    · cases hnext.2.symm.trans hb.2
      exact h d _ ⟨hd,ha⟩
    · cases hnext.2.symm.trans hb.2
      exact hstep a e (h d a ⟨hd,ha⟩)

/-- A handle agrees with the kernel when it is opened. -/
theorem opened_inSync (self : ℕ) {metrics : String} {r : OpenReplies} {x : Handle}
    (hx : (tryOpenEx (phpExplode (maxEventNames+1) metrics) 0 (-1) true r).1 = .ok x) :
    (⟨x,x.openedGroup self⟩ : Attached).InSync := (tryOpenEx_ok (Prod.ext hx rfl)).1.1

/-- The flag of the request handle mirrors the kernel in every run, also where `RINIT` resets it. -/
theorem rinitOpened_inSync (self : ℕ) (requestEnable : Bool) (requestMetrics : Option String)
    (world : World) (ops : List ProcessOp) (pid : ℤ) (r : RinitReplies) :
    ((final step (start self requestEnable requestMetrics world) ops).rinitOpened pid r).Requests
      Attached.InSync := by
  have hrun : (final step (start self requestEnable requestMetrics world) ops).Sound ∧
      (final step (start self requestEnable requestMetrics world) ops).Requests Attached.InSync := by
    apply final_invariant_all step (I := fun s : System => s.Sound ∧ s.Requests Attached.InSync)
    · rintro s op ⟨hs,hsync⟩
      exact ⟨step_sound hs op,step_requests (P := Attached.InSync)
        (fun a op ha => Attached.inSync_kept.step ha op) hs (fun _ _ _ _ hx => opened_inSync _ hx) hsync op⟩
    · exact ⟨start_sound self requestEnable requestMetrics world,fun d a ha => by cases ha.1⟩
  exact rinitOpened_requests (P := Attached.InSync) hrun.2 (fun _ _ _ _ hx => opened_inSync _ hx) pid r

/-- Whether `RINIT` makes the request handle ready that it has found or opened. -/
theorem rinit_ready_iff {s : System} (henable : s.process.globals.requestEnable = true) {pid : ℤ}
    {r : RinitReplies} {d : ℕ} {a : Attached} (ha : (s.rinitOpened pid r).Requested d a)
    (hsync : a.InSync) :
    (s.rinit pid r).1.process.globals.requestHandleReady = true ↔
      (∀ code ∈ r.reset.codes a.handle.enabled, code = 0) ∧ r.enable.answer = none := by
  rw [rinit_enabled henable, (startRequestHandle_requested ha r.reset r.enable).2.2, List.isEmpty_iff]
  exact Attached.requestInit_quiet_iff hsync r.reset r.enable

end System

/-- No silent loss of the request handle. When `RINIT` returns in a process with requests enabled and
metrics configured, the handle is ready, having been reset and enabled by it so that it counts from
zero, or an error waits; a handle that was found or opened is ready unless its reset or its enabling
failed. So the first `request_handle()` of the request returns a usable borrowed object, or throws the
error that waits. An object is returned only in a request whose own `RINIT` reset and enabled the
handle. -/
theorem request_handle_never_lost (self : ℕ) (metrics : String) (world : World) (ops : List ProcessOp)
    (pid : ℤ) (r : System.RinitReplies) :
    let start := System.start self true (some metrics) world
    let s := final System.step start ops
    let t := (s.rinit pid r).1
    ((t.process.globals.requestHandleReady = true ∧ ∃ d a b, (s.rinitOpened pid r).Requested d a ∧
        a.Started r.reset r.enable b ∧ a.Restarted r.reset r.enable b ∧ t.Requested d b ∧
        b.handle.enabled = true ∧ b.group.enabled = true) ∨
      ∃ e, t.slot = some e) ∧
    (∀ d a, (s.rinitOpened pid r).Requested d a → (t.process.globals.requestHandleReady = true ↔
      (∀ code ∈ r.reset.codes a.handle.enabled, code = 0) ∧ r.enable.answer = none)) ∧
    (∀ script, (∀ op ∈ script, op.isQuiet = true) →
      let u := final System.step t script
      (∃ e, t.slot = some e ∧ u.requestHandle.2 = ⟨[e],.null⟩) ∨
      t.slot = none ∧ ∃ w d a, u.requestHandle.2 = ⟨[],.object w⟩ ∧
        u.requestHandle.1.process.objects w = some ⟨some d,true⟩ ∧ u.requestHandle.1.Requested d a) ∧
    ∀ w, s.requestHandle.2 = ⟨[],.object w⟩ →
      ∃ pre pid' r' mid, ops = pre ++ .rinit pid' r' :: mid ∧ (∀ op ∈ mid, op.isHook = false) ∧
        ∃ d a b, ((final System.step start pre).rinitOpened pid' r').Requested d a ∧
          a.Started r'.reset r'.enable b ∧ a.Restarted r'.reset r'.enable b ∧
          ((final System.step start pre).rinit pid' r').1.Requested d b ∧
          s.process.globals.requestHandle = some d := by
  intro start s t
  have hstart : start.Sound := System.start_sound self true (some metrics) world
  have hs : s.Sound := System.final_sound hstart ops
  have hsettings : s.settings = start.settings := System.final_settings start ops
  have henable : s.process.globals.requestEnable = true := congrArg (·.2.1) hsettings
  have hmetrics : s.process.globals.requestMetrics = some metrics := congrArg (·.2.2) hsettings
  have hsync := System.rinitOpened_inSync self true (some metrics) world
  have hready := System.rinit_ready_or_error hs.owned henable hmetrics pid r
  refine ⟨?_,fun d a ha => System.rinit_ready_iff henable ha (hsync ops pid r d a ha),?_,?_⟩
  · apply hready.imp_left
    rintro ⟨hr,d,a,b,ha,hab,hb⟩
    exact ⟨hr,d,a,b,ha,hab,hab.restarted (hsync ops pid r d a ha),hb,hab.enabled⟩
  · intro script hscript u
    have hcore : u.core = t.core := System.final_core hscript
    have hslot : u.slot = t.slot := congrArg (·.2.requestHandleError) hcore
    have hu : u.Sound := System.final_sound (System.step_sound hs (.rinit pid r)) script
    have huenable : u.process.globals.requestEnable = true :=
      (congrArg (·.2.requestEnable) hcore).trans ((s.step_enable (.rinit pid r)).trans henable)
    rcases u.requestHandle_cases with ⟨-,e,hwaits,he⟩ | ⟨-,hempty,-,d,hd,he⟩ | ⟨hnot,-⟩
    · exact .inl ⟨e,hslot.symm.trans hwaits,by rw [he]⟩
    · obtain ⟨a,ha⟩ := System.attached_of_live (hu.owned.live_of_holds (k := none) hd)
      rw [he]
      exact .inr ⟨hslot.symm.trans hempty,_,d,a,rfl,Function.update_self ..,hd,ha⟩
    · -- the slot is empty and no handle is ready
      exfalso
      obtain ⟨hempty,hnot⟩ := hnot huenable
      rcases hready with ⟨hr,d,-,b,-,-,hb⟩ | ⟨e,he⟩
      · rcases hnot with hnone | hnr
        · have := (congrArg (·.2.requestHandle) hcore).trans hb.1
          simp [System.core,hnone] at this
        · have := (congrArg (·.2.requestHandleReady) hcore).trans hr
          simp [System.core,hnr] at this
      · cases hempty.symm.trans (hslot.trans he)
  · intro w hw
    have hav : s.Available := by
      rcases s.requestHandle_cases with ⟨-,e,-,he⟩ | ⟨-,-,hr,d,hd,-⟩ | ⟨-,he⟩
      · rw [he] at hw
        cases hw
      · exact ⟨hr,by simp [hd]⟩
      · rw [he] at hw
        cases hw
    have hnot : ¬start.Available := fun h => by cases h.1
    obtain ⟨pre,pid',r',mid,hops,hmid,d,a,b,ha,hab,hb,hd⟩ := System.available_since hstart hnot hav
    exact ⟨pre,pid',r',mid,hops,hmid,d,a,b,ha,hab,hab.restarted (hsync pre pid' r' d a ha),hb,hd⟩

/-- The second `RINIT` cannot reset the handle; its request throws that error. -/
theorem request_handle_never_lost_failed_reset :
    let s := final System.step (.start 1 true (some "instructions") emptyWorld)
      [.rinit 7 plainRinit,.rshutdown (answered none) plainReset]
    let r : System.RinitReplies := { plainRinit with reset := { plainReset with malloc := false } }
    let u := final System.step (s.rinit 7 r).1 [.new]
    u.requestHandle.2 = ⟨[requestError "reset" ENOMEM],.null⟩ := by
  intro s r u
  have hslot : (s.rinit 7 r).1.slot = some (requestError "reset" ENOMEM) := rfl
  obtain ⟨-,-,hcall,-⟩ := request_handle_never_lost 1 "instructions" emptyWorld
    [.rinit 7 plainRinit,.rshutdown (answered none) plainReset] 7 r
  rcases hcall [.new] (by simp [ProcessOp.isQuiet,ProcessOp.isHook]) with ⟨e,he,hthrown⟩ | ⟨hnone,-⟩
  · cases hslot.symm.trans he
    exact hthrown
  · cases hslot.symm.trans hnone

end Perfidious
