import Perfidious.Request.Ownership

/-! Closing native handles: a handle is closed once, and with it every descriptor of its group. -/
namespace Perfidious
open Library

namespace Attached

/-- No descriptor of the group was closed, and there is one for each of its events. -/
structure Intact (a : Attached) : Prop where
  unclosed : a.group.calls.count .close = 0
  events : a.group.ids.length = a.handle.metrics.length

theorem trySetEnabled_intact {a : Attached} (h : a.Intact) (enabled : Bool) (r : Native Status) :
    (a.trySetEnabled enabled r).1.Intact := by
  cases hr : r.answer with
  | none =>
    rw [trySetEnabled_of_none hr]
    exact ⟨by simp [EventGroup.issue,h.unclosed],by simpa [EventGroup.issue,Handle.metrics] using h.events⟩
  | some errno =>
    rw [trySetEnabled_of_some hr]
    exact ⟨by simp [EventGroup.issue,h.unclosed],by simpa [EventGroup.issue] using h.events⟩

theorem resetBetween_intact {a : Attached} (h : a.Intact) (read : Native ReadAnswer)
    (reset : Native Status) : (a.resetBetween read reset).1.Intact := by
  have hread : Intact ⟨a.handle,a.afterRead read⟩ :=
    ⟨by simp [afterRead,EventGroup.issue,h.unclosed],by simpa [afterRead,EventGroup.issue] using h.events⟩
  by_cases hfull : read.answer = .full
  case neg =>
    obtain ⟨n,-,hunread⟩ := resetBetween_of_unread hfull reset
    rw [hunread]
    exact hread
  cases hreset : reset.answer with
  | none =>
    rw [resetBetween_of_none hfull hreset]
    exact ⟨by simpa [EventGroup.issue,EventGroup.control] using hread.unclosed,
      by simpa [EventGroup.issue,EventGroup.control,Handle.metrics] using hread.events⟩
  | some errno =>
    rw [resetBetween_of_some hfull hreset]
    exact ⟨by simpa [EventGroup.issue] using hread.unclosed,by simpa [EventGroup.issue] using hread.events⟩

theorem intact_kept : Kept Intact where
  setEnabled enabled r h := trySetEnabled_intact h enabled r
  reset r h := tryReset_kept (P := Intact) (fun enabled r h => trySetEnabled_intact h enabled r)
    (fun read reset h => resetBetween_intact h read reset) h r
  read t h := ⟨by simp [EventGroup.issue,h.unclosed],by simpa [EventGroup.issue] using h.events⟩
  dup h := ⟨by simp [EventGroup.issue,h.unclosed],h.events⟩
  elapse t h := ⟨by simpa using h.unclosed,by simpa using h.events⟩

end Attached

namespace System

/-- The descriptors behind a handle pointer: all are open while the handle is in memory, and all are
closed when it went through `perfidious_handle_try_close`. -/
structure Tallied (d : ℕ) (s : System) : Prop where
  live : ∀ a, s.attached d = some a → a.Intact
  closed : s.process.closes d ≠ 0 → (s.world.groups d).calls.count .close = (s.world.groups d).ids.length

section Tally
variable {α : Type} {d : ℕ} {s : System}

theorem Tallied.withHandle (h : s.Tallied d) (hs : s.ledger.Sound) {f : Attached → Attached × α}
    (hf : ∀ a, a.Intact → (f a).1.Intact) (e : ℕ) (lost : α) : (s.withHandle e f lost).1.Tallied d := by
  cases ha : s.attached e with
  | none =>
    have heq : (s.withHandle e f lost).1 = { s with process := { s.process with misused := true } } := by
      simp [System.withHandle,ha]
    rw [heq]
    exact ⟨h.live,h.closed⟩
  | some a =>
    have heq : (s.withHandle e f lost).1 = s.store e (f a).1 := by simp [System.withHandle,ha]
    rw [heq]
    by_cases hd : d = e
    · subst hd
      have hlive : s.ledger.live d = true := by simp [ledger,(attached_eq_some ha).1]
      refine ⟨fun b hb => ?_,fun hclosed => absurd (hs.closes_of_live hlive) hclosed⟩
      have hstored : (s.store d (f a).1).attached d = some (f a).1 := by simp [store,attached]
      cases hstored.symm.trans hb
      exact hf a (h.live a ha)
    · have hother : (s.store e (f a).1).attached d = s.attached d := by
        simp [store,attached,Function.update_of_ne hd]
      refine ⟨fun b hb => h.live b (hother.symm.trans hb),fun hclosed => ?_⟩
      have hgroup : (s.store e (f a).1).world.groups d = s.world.groups d := Function.update_of_ne hd _ _
      rw [hgroup]
      exact h.closed hclosed

theorem Tallied.tryClose (h : s.Tallied d) {e : ℕ} (he : s.ledger.live e = true) (r : ℕ → Status) :
    (s.tryClose e r).1.Tallied d := by
  have hlive : (s.process.handles e).isSome = true := he
  cases ha : s.attached e with
  | none =>
    rw [attached_eq_none_iff] at ha
    simp [ha] at hlive
  | some a =>
    unfold System.tryClose
    rw [ha]
    by_cases hd : d = e
    · subst hd
      refine ⟨fun b hb => by simp [attached] at hb,fun _ => ?_⟩
      have hintact := h.live a ha
      dsimp only
      rw [Function.update_self, tryClose_onGroup, List.count_append, List.count_replicate_self,
        hintact.unclosed, hintact.events, Nat.zero_add]
    · refine ⟨fun b hb => h.live b ?_,fun hclosed => ?_⟩
      · simpa [attached,Function.update_of_ne hd] using hb
      · dsimp only at hclosed ⊢
        rw [Function.update_of_ne hd] at hclosed ⊢
        exact h.closed hclosed

theorem Tallied.allocate (h : s.Tallied d) (hs : s.ledger.Sound) (x : Handle) :
    (s.allocate x).Tallied d := by
  by_cases hd : d = s.world.next
  · subst hd
    have hnever : s.process.closes s.world.next = 0 := (hs.beyond (Nat.le_refl _)).2
    refine ⟨fun a ha => ?_,fun hclosed => absurd hnever hclosed⟩
    have hnew : (s.allocate x).attached s.world.next = some ⟨x,x.openedGroup s.process.self⟩ := by
      simp [System.allocate,attached]
    cases hnew.symm.trans ha
    exact ⟨rfl,List.length_map _⟩
  · refine ⟨fun a ha => h.live a ?_,fun hclosed => ?_⟩
    · simpa [System.allocate,attached,Function.update_of_ne hd] using ha
    · have hgroup : (s.allocate x).world.groups d = s.world.groups d := Function.update_of_ne hd _ _
      rw [hgroup]
      exact h.closed hclosed

theorem Tallied.gshutdown (h : s.Tallied d) (hs : s.ledger.Sound) (close : ℕ → Status) :
    (s.gshutdown close).Tallied d := by
  unfold System.gshutdown
  split
  · exact h
  next e he =>
    have hclosed := h.tryClose (hs.live_of_holds (k := none) he) close
    exact ⟨hclosed.live,hclosed.closed⟩

theorem Tallied.enterProcess (h : s.Tallied d) (hs : s.ledger.Sound) (pid : ℤ) (close : ℕ → Status) :
    (s.enterProcess pid close).Tallied d := by
  have hready : (s.mapGlobals fun g => { g with requestHandleReady := false }).Tallied d := ⟨h.live,h.closed⟩
  have hledger : (s.mapGlobals fun g => { g with requestHandleReady := false }).ledger = s.ledger :=
    mapGlobals_ledger (fun _ => rfl) s
  rw [enterProcess_eq]
  split
  · rw [changeProcess_eq]
    have hclosed := hready.gshutdown (hledger ▸ hs) close
    exact ⟨hclosed.live,hclosed.closed⟩
  · exact hready

theorem Tallied.openRequestHandle (h : s.Tallied d) (hs : s.ledger.Sound) (r : OpenReplies) :
    (s.openRequestHandle r).1.Tallied d := by
  rcases s.openRequestHandle_cases r with ⟨-,he⟩ | ⟨-,e,he⟩ | ⟨-,metrics,x,-,-,he⟩ <;> rw [he]
  · exact h
  · exact ⟨h.live,h.closed⟩
  · have hopened := h.allocate hs x
    exact ⟨hopened.live,hopened.closed⟩

theorem Tallied.startRequestHandle (h : s.Tallied d) (hs : s.ledger.Sound) (reset : ResetReplies)
    (enable : Native Status) : (s.startRequestHandle reset enable).1.Tallied d := by
  unfold System.startRequestHandle
  split
  · exact h
  next e _ =>
    have hstarted := h.withHandle hs (f := Attached.requestInit reset enable)
      (fun a ha => Attached.intact_kept.step ha (.requestInit reset enable)) e []
    exact ⟨hstarted.live,hstarted.closed⟩

theorem Tallied.rinit (h : s.Tallied d) (hs : s.ledger.Sound) (pid : ℤ) (r : RinitReplies) :
    (s.rinit pid r).1.Tallied d := by
  have henter := h.enterProcess hs pid r.close
  have hsound := enterProcess_sound hs pid r.close
  unfold System.rinit
  dsimp only
  split
  · exact henter
  · exact (henter.openRequestHandle hsound r.open).startRequestHandle
      (openRequestHandle_sound hsound r.open) r.reset r.enable

theorem Disposed.tallied {t : System} {w : ℕ} {r : ℕ → Status} (hdisposed : s.Disposed w r t)
    (h : s.Tallied d) (hs : s.ledger.Sound) : t.Tallied d := by
  cases hdisposed with
  | idle hnone => exact h
  | dropped found left hnone => exact ⟨h.live,h.closed⟩
  | @closed obj x e found left howned =>
    have hset : (s.setObject w x).Tallied d := ⟨h.live,h.closed⟩
    have hlive : (s.setObject w x).ledger.live e = true := hs.live_of_holds howned
    exact hset.tryClose hlive r

theorem step_tallied (h : s.Tallied d) (hs : s.ledger.Sound) (op : ProcessOp) : (s.step op).1.Tallied d := by
  cases op with
  | rinit pid r => exact h.rinit hs pid r
  | rshutdown disable reset =>
    change (s.rshutdown disable reset).1.Tallied d
    unfold System.rshutdown
    split
    · exact ⟨h.live,h.closed⟩
    next e _ =>
      have hended := h.withHandle hs (f := Attached.requestShutdown disable reset)
        (fun a ha => Attached.intact_kept.step ha (.requestShutdown disable reset)) e []
      exact ⟨hended.live,hended.closed⟩
  | gshutdown close => exact h.gshutdown hs close
  | requestHandle =>
    simp only [step]
    rcases s.requestHandle_cases with ⟨-,e,-,he⟩ | ⟨-,-,-,e,-,he⟩ | ⟨-,he⟩ <;> rw [he]
    · exact ⟨h.live,h.closed⟩
    · exact ⟨h.live,h.closed⟩
    · exact h
  | «open» args cap r =>
    simp only [step]
    rcases s.open_cases args cap r with ⟨e,he⟩ | ⟨x,he⟩ <;> rw [he]
    · exact h
    · have hopened := h.allocate hs x
      exact ⟨hopened.live,hopened.closed⟩
  | new => exact ⟨h.live,h.closed⟩
  | method w m =>
    change (s.callMethod w m).1.Tallied d
    unfold System.callMethod
    split
    · exact h
    split
    · exact h
    next e _ => exact h.withHandle hs (f := fun a => a.call m) (fun a ha => Attached.intact_kept.call ha m) e _
  | close w r => exact (s.close_disposed w r).tallied h hs
  | destroy w r => exact (s.destroy_disposed w r).tallied h hs
  | elapse e t =>
    have hcalls : ∀ c, ((s.step (.elapse e t)).1.world.groups c).calls = (s.world.groups c).calls ∧
        ((s.step (.elapse e t)).1.world.groups c).ids = (s.world.groups c).ids := by
      intro c
      by_cases hc : c = e
      · subst hc
        simp [step]
      · simp [step,Function.update_of_ne hc]
    refine ⟨fun a ha => ?_,fun hclosed => ?_⟩
    · obtain ⟨hhandle,hgroup⟩ := attached_eq_some ha
      have hold : s.attached d = some ⟨a.handle,s.world.groups d⟩ := by
        have hkept : s.process.handles d = some a.handle := hhandle
        simp [attached,hkept]
      obtain ⟨hunclosed,hevents⟩ := h.live _ hold
      rw [← (hcalls d).1, hgroup] at hunclosed
      rw [← (hcalls d).2, hgroup] at hevents
      exact ⟨hunclosed,hevents⟩
    · rw [(hcalls d).1, (hcalls d).2]
      exact h.closed hclosed

end Tally

theorem start_tallied (self : ℕ) (requestEnable : Bool) (requestMetrics : Option String) (world : World)
    (d : ℕ) : (start self requestEnable requestMetrics world).Tallied d :=
  ⟨fun _ ha => (by cases ha),fun hclosed => absurd rfl hclosed⟩

theorem final_tallied {d : ℕ} {s : System} (h : s.Sound) (ht : s.Tallied d) (ops : List ProcessOp) :
    (final step s ops).Tallied d :=
  (final_invariant_all step (I := fun s => s.Sound ∧ s.Tallied d)
    (fun _ op h => ⟨step_sound h.1 op,step_tallied h.2 h.1.owned op⟩) ops ⟨h,ht⟩).2

/-- A handle that went through `perfidious_handle_try_close`: it was freed, and every descriptor of its
group was closed. -/
structure ClosedOnce (d : ℕ) (s : System) : Prop where
  once : s.process.closes d = 1
  freed : s.process.handles d = none
  descriptors : (s.world.groups d).calls.count .close = (s.world.groups d).ids.length

theorem closedOnce_of_closes {s : System} (h : s.Sound) {d : ℕ} (ht : s.Tallied d)
    (hd : s.ledger.closes d = 1) : s.ClosedOnce d := by
  have hclosed : s.process.closes d = 1 := hd
  refine ⟨hd,?_,ht.closed (by omega)⟩
  cases hh : s.process.handles d with
  | none => rfl
  | some x =>
    have := h.owned.closes_of_live (d := d) (by simp [ledger,hh])
    omega

theorem holds_object_iff {s : System} {w d : ℕ} :
    s.ledger.holds (some w) = some d ↔ s.process.objects w = some ⟨some d,false⟩ := by
  change (s.process.objects w).bind HandleObj.owned = some d ↔ _
  cases s.process.objects w with
  | none => simp
  | some obj =>
    obtain ⟨handle,borrowed⟩ := obj
    cases borrowed <;> simp [HandleObj.owned]

/-- An object keeps the handle it owns until the handle is closed. -/
theorem final_settled {s : System} (h : s.Sound) {w d : ℕ} (ht : s.Tallied d)
    (hw : s.process.objects w = some ⟨some d,false⟩) (later : List ProcessOp) :
    let t := final step s later
    t.process.objects w = some ⟨some d,false⟩ ∨ t.ClosedOnce d := by
  have hrun : ∀ {t : System}, t.Sound ∧ (t.ledger.holds (some w) = some d ∨ t.ledger.closes d = 1) →
      ∀ op, (t.step op).1.Sound ∧
        ((t.step op).1.ledger.holds (some w) = some d ∨ (t.step op).1.ledger.closes d = 1) :=
    fun ht op => ⟨step_sound ht.1 op,(step_trades ht.1.fresh op).settled ht.1.owned ht.2⟩
  obtain ⟨hsound,hsettled⟩ := final_invariant_all step
    (I := fun t => t.Sound ∧ (t.ledger.holds (some w) = some d ∨ t.ledger.closes d = 1))
    (fun _ op ht => hrun ht op) later ⟨h,.inl (holds_object_iff.mpr hw)⟩
  exact hsettled.imp holds_object_iff.mp (closedOnce_of_closes hsound (final_tallied h ht later))

/-- Closing or ending an object closes the handle it owns, whatever `close(2)` answers. -/
theorem release_closedOnce {s t : System} (ht : t.Sound) (h : s.Sound) {w d : ℕ} (htally : t.Tallied d)
    (hd : s.process.objects w = some ⟨some d,false⟩ ∨ s.ClosedOnce d)
    (he : t.ledger = s.ledger.release (some w)) : t.ClosedOnce d := by
  have htrade : s.ledger.Trades t.ledger := he ▸ .release (some w) .refl
  apply closedOnce_of_closes ht htally
  rcases htrade.settled h.owned (hd.imp holds_object_iff.mpr ClosedOnce.once) with hw | hc
  · rw [he, Ledger.release_holds_self] at hw
    cases hw
  · exact hc

/-- Between the two states only the object itself differs. -/
def OnlyObject (w : ℕ) (s t : System) : Prop :=
  t.process.handles = s.process.handles ∧ t.process.closes = s.process.closes ∧ t.world = s.world ∧
  t.process.globals = s.process.globals ∧ ∀ v, v ≠ w → t.process.objects v = s.process.objects v

theorem Disposed.onlyObject {s t : System} {w : ℕ} {r : ℕ → Status} (h : s.Disposed w r t)
    (hborrowed : s.Obtained w true) : OnlyObject w s t := by
  cases h with
  | idle hnone => exact ⟨rfl,rfl,rfl,rfl,fun _ _ => rfl⟩
  | dropped found left hnone => exact ⟨rfl,rfl,rfl,rfl,fun v hv => Function.update_of_ne hv _ _⟩
  | closed found left howned =>
    -- a borrowed object owns nothing
    rw [holds_object found, HandleObj.owned, if_pos (hborrowed.2 _ found)] at howned
    cases howned

end System

/-- Ownership of native handles. However a process goes on, every handle is closed at most once, then
down to the last descriptor, and none is used afterwards; a borrowed object never closes the handle; an
object from `Perfidious\open` closes its handle when it is closed or destroyed; only a process change or
`GSHUTDOWN` closes the request handle; and the methods of a closed object throw without touching
anything. -/
theorem native_handles_closed_once (self : ℕ) (requestEnable : Bool) (requestMetrics : Option String)
    (world : World) (ops : List ProcessOp)
    (hops : Along System.step System.ObjectsGone (.start self requestEnable requestMetrics world) ops) :
    let s := final System.step (.start self requestEnable requestMetrics world) ops
    ((∀ d, s.process.closes d ≤ 1) ∧ (∀ d, s.process.closes d = 1 → s.ClosedOnce d) ∧
      s.process.misused = false ∧ ∀ w d borrowed, s.process.objects w = some ⟨some d,borrowed⟩ →
        ∃ a, s.attached d = some a) ∧
    (∀ w, s.requestHandle.2 = ⟨[],.object w⟩ → ∀ later r,
      let t := final System.step s.requestHandle.1 later
      System.OnlyObject w t (t.close w r).1 ∧ System.OnlyObject w t (t.destroy w r).1) ∧
    (∀ args cap r w, (s.open args cap r).2 = ⟨[],.object w⟩ →
      ∃ d, (s.open args cap r).1.process.objects w = some ⟨some d,false⟩ ∧ ∀ later r',
        let t := final System.step (s.open args cap r).1 later
        (t.process.objects w = some ⟨some d,false⟩ ∨ t.ClosedOnce d) ∧
        (t.close w r').1.ClosedOnce d ∧ (t.destroy w r').1.ClosedOnce d) ∧
    (∀ d op, s.process.globals.requestHandle = some d →
      (s.step op).1.process.closes d ≠ s.process.closes d → s.Retires op) ∧
    ∀ w borrowed m, s.process.objects w = some ⟨none,borrowed⟩ →
      ∃ e, e.exceptionCe = .closedException ∧ s.callMethod w m = (s,⟨[e],.null⟩) := by
  intro s
  have hstart := System.start_sound self requestEnable requestMetrics world
  have hrun : s.Sound ∧ s.Lent := by
    apply final_invariant System.step (I := fun s => s.Sound ∧ s.Lent) (P := System.ObjectsGone) ?_ ?_ hops
    · exact fun t op ht hop => ⟨System.step_sound ht.1 op,System.step_lent ht.2 ht.1.fresh ht.1.owned hop⟩
    · refine ⟨hstart,?_,rfl⟩
      intro w d hw
      cases hw
  obtain ⟨hs,hl⟩ := hrun
  have htally : ∀ d, s.Tallied d := fun d => System.final_tallied hstart (System.start_tallied ..) ops
  refine ⟨⟨hs.owned.closes_le,fun d => System.closedOnce_of_closes hs (htally d),hl.unmisused,?_⟩,?_,?_,?_,?_⟩
  · exact fun w d borrowed hw => System.attached_of_live (hl.live hs.owned hw)
  · intro w hw later r
    have hobt : s.requestHandle.1.Obtained w true := by
      rcases s.requestHandle_cases with ⟨-,e,-,he⟩ | ⟨-,-,-,d,-,he⟩ | ⟨-,he⟩ <;> rw [he] at hw ⊢ <;> cases hw
      refine ⟨Nat.lt_succ_self _,fun obj hobj => ?_⟩
      replace hobj : Function.update _ _ _ _ = _ := hobj
      rw [Function.update_self] at hobj
      cases hobj
      rfl
    have hlater := final_invariant_all System.step (I := System.Obtained w true)
      (fun _ op ht => System.step_obtained ht op) later hobt
    exact ⟨(System.close_disposed w r _).onlyObject hlater,(System.destroy_disposed w r _).onlyObject hlater⟩
  · intro args cap r w hw
    have hopened := System.step_sound hs (.open args cap r)
    have hobj : ∃ d, (s.open args cap r).1.process.objects w = some ⟨some d,false⟩ := by
      rcases s.open_cases args cap r with ⟨e,he⟩ | ⟨h,he⟩ <;> rw [he] at hw ⊢ <;> cases hw
      exact ⟨s.world.next,Function.update_self ..⟩
    obtain ⟨d,hd⟩ := hobj
    refine ⟨d,hd,fun later r' => ?_⟩
    have hkept := System.step_tallied (htally d) hs.owned (.open args cap r)
    have ht := System.final_sound hopened later
    have hlater := System.final_tallied hopened hkept later
    have hsettled := System.final_settled hopened hkept hd later
    exact ⟨hsettled,
      System.release_closedOnce (System.step_sound ht (.close w r')) ht
        (System.step_tallied hlater ht.owned (.close w r')) hsettled (System.close_disposed ..).ledger,
      System.release_closedOnce (System.step_sound ht (.destroy w r')) ht
        (System.step_tallied hlater ht.owned (.destroy w r')) hsettled (System.destroy_disposed ..).ledger⟩
  · intro d op hd hne
    by_contra hop
    exact hne (System.step_request hs.fresh hs.owned hd hop).2
  · intro w borrowed m hw
    refine ⟨handleClosed,rfl,?_⟩
    unfold System.callMethod
    rw [hw]

/-- A request with a borrowed and an owned object; closing the owned one reports an error. -/
def plainRequest : List ProcessOp :=
  [.rinit 7 plainRinit,.requestHandle,.open ⟨[some "cycles"],0,-1⟩ none plainOpen,.close 0 fun _ => none,
    .method 1 (.enable (answered none)),.close 1 fun _ => some EIO,.destroy 0 fun _ => none,
    .destroy 1 fun _ => none,.rshutdown (answered none) plainReset,.gshutdown fun _ => none]

theorem native_handles_closed_once_request :
    let s := final System.step (.start 1 true (some "instructions") emptyWorld) plainRequest
    (∀ d, s.process.closes d ≤ 1) ∧ s.ClosedOnce 0 ∧ s.ClosedOnce 1 ∧ s.process.misused = false := by
  have hgone : Along System.step System.ObjectsGone
      (.start 1 true (some "instructions") emptyWorld) plainRequest := by
    refine ⟨fun _ => rfl,trivial,trivial,trivial,trivial,trivial,trivial,trivial,trivial,?_,trivial⟩
    intro w
    match w with
    | 0 => rfl
    | 1 => rfl
    | w+2 => rfl
  have h := native_handles_closed_once 1 true (some "instructions") emptyWorld plainRequest hgone
  exact ⟨h.1.1,h.1.2.1 0 rfl,h.1.2.1 1 rfl,h.1.2.2.1⟩

end Perfidious
