import Mathlib.Data.List.Induction
import Perfidious.Request.Deferred

/-! When the request handle is ready: what `RINIT` leaves behind, and what `request_handle()` makes
of it in the rest of the request. -/
namespace Perfidious
open Library

namespace Attached

/-- `RINIT` reset a handle successfully and then enabled it. -/
def Started (reset : ResetReplies) (enable : Native Status) (a b : Attached) : Prop :=
  (a.tryReset reset).2 = 0 ∧ (a.tryReset reset).1.trySetEnabled true enable = (b,0)

theorem Started.enabled {reset : ResetReplies} {enable : Native Status} {a b : Attached}
    (h : Started reset enable a b) : b.handle.enabled = true ∧ b.group.enabled = true := by
  obtain ⟨-,hb⟩ := h
  cases hr : enable.answer with
  | none =>
    rw [trySetEnabled_of_none hr] at hb
    cases hb
    exact ⟨rfl,rfl⟩
  | some errno =>
    rw [trySetEnabled_of_some hr] at hb
    exact absurd (congrArg Prod.snd hb) (nonzeroErrno_ne_zero errno)

/-- `RINIT` starts the handle or raises an error. -/
theorem requestInit_cases (reset : ResetReplies) (enable : Native Status) (a : Attached) :
    ((a.requestInit reset enable).2 = [] ∧ Started reset enable a (a.requestInit reset enable).1) ∨
    ∃ e, (a.requestInit reset enable).2 = [e] := by
  unfold requestInit Started
  dsimp only
  by_cases hreset : (a.tryReset reset).2 = 0
  · rw [if_neg (not_not.mpr hreset)]
    cases hr : enable.answer with
    | none =>
      rw [trySetEnabled_of_none hr]
      exact .inl ⟨rfl,hreset,rfl⟩
    | some errno =>
      rw [trySetEnabled_of_some hr]
      exact .inr ⟨_,if_pos (nonzeroErrno_ne_zero errno)⟩
  · rw [if_pos hreset]
    exact .inr ⟨_,if_pos hreset⟩

end Attached

namespace System

/-- The state in which `RINIT` finds the request handle, if any. -/
def rinitOpened (pid : ℤ) (r : RinitReplies) (s : System) : System :=
  ((s.enterProcess pid r.close).openRequestHandle r.open).1

theorem rinitOpened_sound {s : System} (h : s.ledger.Sound) (pid : ℤ) (r : RinitReplies) :
    (s.rinitOpened pid r).ledger.Sound :=
  openRequestHandle_sound (enterProcess_sound h pid r.close) r.open

theorem rinit_enabled {s : System} (h : s.process.globals.requestEnable = true) (pid : ℤ)
    (r : RinitReplies) :
    (s.rinit pid r).1 = ((s.rinitOpened pid r).startRequestHandle r.reset r.enable).1 := by
  have he : (s.enterProcess pid r.close).process.globals.requestEnable = true :=
    (congrArg (·.2.1) (s.enterProcess_settings pid r.close)).trans h
  unfold rinit
  simp [he,rinitOpened]

/-- The request handle of a process, with what is behind its pointer. -/
def Requested (s : System) (d : ℕ) (a : Attached) : Prop :=
  s.process.globals.requestHandle = some d ∧ s.attached d = some a

theorem store_attached (d : ℕ) (a : Attached) (s : System) : (s.store d a).attached d = some a := by
  simp [store,attached]

/-- The last part of `RINIT` on an existing request handle. -/
theorem startRequestHandle_requested {s : System} {d : ℕ} {a : Attached} (h : s.Requested d a)
    (reset : ResetReplies) (enable : Native Status) :
    (s.startRequestHandle reset enable).1.Requested d (a.requestInit reset enable).1 ∧
    (s.startRequestHandle reset enable).2 = (a.requestInit reset enable).2 ∧
    (s.startRequestHandle reset enable).1.process.globals.requestHandleReady =
      (a.requestInit reset enable).2.isEmpty := by
  obtain ⟨hd,ha⟩ := h
  unfold startRequestHandle
  rw [hd]
  dsimp only
  rw [withHandle_some ha]
  exact ⟨⟨hd,store_attached d _ s⟩,rfl,rfl⟩

/-- With metrics configured `RINIT` finds a request handle, or there is an error to report. -/
theorem rinitOpened_cases {s : System} (h : s.ledger.Sound) {metrics : String}
    (hm : s.process.globals.requestMetrics = some metrics) (pid : ℤ) (r : RinitReplies) :
    (∃ d a, (s.rinitOpened pid r).Requested d a) ∨
    ((s.rinitOpened pid r).process.globals.requestHandle = none ∧ ∃ e, (s.rinitOpened pid r).slot = some e) := by
  have hm' : (s.enterProcess pid r.close).process.globals.requestMetrics = some metrics :=
    (congrArg (·.2.2) (s.enterProcess_settings pid r.close)).trans hm
  have hs := rinitOpened_sound h pid r
  have hlive : ∀ d, (s.rinitOpened pid r).process.globals.requestHandle = some d →
      ∃ d a, (s.rinitOpened pid r).Requested d a := by
    intro d hd
    obtain ⟨a,ha⟩ := attached_of_live (hs.live_of_holds (k := none) hd)
    exact ⟨d,a,hd,ha⟩
  have hslot := openRequestHandle_slot r.open (s.enterProcess pid r.close)
  have hcases := openRequestHandle_cases r.open (s.enterProcess pid r.close)
  rcases hcases with ⟨hh | hnone,he⟩ | ⟨hnone,e,he⟩ | ⟨-,metrics',h,-,-,he⟩
  · obtain ⟨d,hd⟩ := Option.ne_none_iff_exists'.mp hh
    refine .inl (hlive d ?_)
    unfold rinitOpened
    rw [he]
    exact hd
  · simp [hm'] at hnone
  · refine .inr ⟨?_,?_⟩
    · unfold rinitOpened
      rw [he]
      exact hnone
    · unfold rinitOpened
      rw [hslot, he]
      cases (s.enterProcess pid r.close).slot with
      | none => exact ⟨e,rfl⟩
      | some e' => exact ⟨e',rfl⟩
  · refine .inl (hlive (s.enterProcess pid r.close).world.next ?_)
    unfold rinitOpened
    rw [he]
    rfl

/-- After `RINIT` the request handle was reset and enabled and is ready, or an error waits. -/
theorem rinit_ready_or_error {s : System} (h : s.ledger.Sound)
    (henable : s.process.globals.requestEnable = true) {metrics : String}
    (hm : s.process.globals.requestMetrics = some metrics) (pid : ℤ) (r : RinitReplies) :
    ((s.rinit pid r).1.process.globals.requestHandleReady = true ∧ ∃ d a b,
      (s.rinitOpened pid r).Requested d a ∧ a.Started r.reset r.enable b ∧
      (s.rinit pid r).1.Requested d b) ∨
    ∃ e, (s.rinit pid r).1.slot = some e := by
  rw [rinit_enabled henable]
  rcases rinitOpened_cases h hm pid r with ⟨d,a,ha⟩ | ⟨hnone,e,he⟩
  · obtain ⟨hb,herr,hready⟩ := startRequestHandle_requested ha r.reset r.enable
    rcases a.requestInit_cases r.reset r.enable with ⟨hnil,hstart⟩ | ⟨e,he⟩
    · refine .inl ⟨by rw [hready, hnil]; rfl,d,a,_,ha,hstart,hb⟩
    · right
      rw [startRequestHandle_slot, herr, he]
      cases (s.rinitOpened pid r).slot with
      | none => exact ⟨e,rfl⟩
      | some e' => exact ⟨e',rfl⟩
  · refine .inr ⟨e,?_⟩
    unfold startRequestHandle
    rw [hnone]
    exact he

/-- `request_handle()` can return an object. -/
def Available (s : System) : Prop :=
  s.process.globals.requestHandleReady = true ∧ s.process.globals.requestHandle ≠ none

/-- Between the hooks neither the request handle nor its readiness changes. -/
theorem step_available {s : System} {op : ProcessOp} (hop : op.isHook = false) :
    (s.step op).1.process.globals.requestHandle = s.process.globals.requestHandle ∧
    (s.step op).1.process.globals.requestHandleReady = s.process.globals.requestHandleReady := by
  by_cases quiet : op.isQuiet = true
  · have hcore := step_core (s := s) quiet
    exact ⟨congrArg (·.2.requestHandle) hcore,congrArg (·.2.requestHandleReady) hcore⟩
  cases op with
  | rinit pid r => cases hop
  | rshutdown disable reset => cases hop
  | gshutdown close => cases hop
  | requestHandle =>
    simp only [step]
    rcases s.requestHandle_cases with ⟨-,e,-,he⟩ | ⟨-,-,-,d,-,he⟩ | ⟨-,he⟩ <;> rw [he] <;> exact ⟨rfl,rfl⟩
  | _ => exact absurd rfl quiet

theorem enterProcess_ready (pid : ℤ) (close : ℕ → Status) (s : System) :
    (s.enterProcess pid close).process.globals.requestHandleReady = false := by
  have hclose : ∀ t : System, (t.gshutdown close).process.globals.requestHandleReady =
      t.process.globals.requestHandleReady := by
    intro t
    unfold gshutdown
    split
    · rfl
    next d _ => exact congrArg (·.2.requestHandleReady) (t.tryClose_core d close)
  rw [enterProcess_eq]
  split
  · rw [changeProcess_eq]
    exact hclose _
  · rfl

theorem openRequestHandle_ready (r : OpenReplies) (s : System) :
    (s.openRequestHandle r).1.process.globals.requestHandleReady =
      s.process.globals.requestHandleReady := by
  rcases s.openRequestHandle_cases r with ⟨-,he⟩ | ⟨-,e,he⟩ | ⟨-,metrics,h,-,-,he⟩ <;> rw [he] <;> rfl

/-- Only a `RINIT` that reset and enabled the request handle makes it ready. -/
theorem rinit_started {s : System} (h : s.ledger.Sound) {pid : ℤ} {r : RinitReplies}
    (hready : (s.rinit pid r).1.process.globals.requestHandleReady = true) :
    ∃ d a b, (s.rinitOpened pid r).Requested d a ∧ a.Started r.reset r.enable b ∧
      (s.rinit pid r).1.Requested d b := by
  by_cases henable : s.process.globals.requestEnable = true
  · rw [rinit_enabled henable] at hready ⊢
    cases hd : (s.rinitOpened pid r).process.globals.requestHandle with
    | none =>
      have hnot : (s.rinitOpened pid r).process.globals.requestHandleReady = false :=
        (openRequestHandle_ready ..).trans (enterProcess_ready ..)
      unfold startRequestHandle at hready
      rw [hd] at hready
      simp [hnot] at hready
    | some d =>
      obtain ⟨a,ha⟩ := attached_of_live ((rinitOpened_sound h pid r).live_of_holds (k := none) hd)
      obtain ⟨hb,-,hempty⟩ := startRequestHandle_requested ⟨hd,ha⟩ r.reset r.enable
      rcases a.requestInit_cases r.reset r.enable with ⟨-,hstart⟩ | ⟨e,he⟩
      · exact ⟨d,a,_,⟨hd,ha⟩,hstart,hb⟩
      · simp [hempty,he] at hready
  · have henable' : (s.enterProcess pid r.close).process.globals.requestEnable = false :=
      (congrArg (·.2.1) (s.enterProcess_settings pid r.close)).trans (Bool.eq_false_iff.mpr henable)
    have hnot : (s.rinit pid r).1 = s.enterProcess pid r.close := by
      unfold rinit
      simp [henable']
    simp [hnot,enterProcess_ready] at hready

theorem not_available_rshutdown (disable : Native Status) (reset : ResetReplies) (s : System) :
    ¬(s.rshutdown disable reset).1.Available := by
  intro h
  have := h.1
  revert this
  unfold rshutdown
  split <;> simp [mapGlobals]

theorem gshutdown_requestHandle (close : ℕ → Status) (s : System) :
    (s.gshutdown close).process.globals.requestHandle = none := by
  have h := congrArg (fun l => l.holds none) (s.gshutdown_ledger close)
  exact h.trans (Ledger.release_holds_self none)

/-- An available request handle was started by the `RINIT` of the same request. -/
theorem available_since {s : System} (h : s.Sound) (hnot : ¬s.Available) {ops : List ProcessOp}
    (hav : (final step s ops).Available) :
    ∃ pre pid r mid, ops = pre ++ .rinit pid r :: mid ∧ (∀ op ∈ mid, op.isHook = false) ∧
      ∃ d a b, ((final step s pre).rinitOpened pid r).Requested d a ∧ a.Started r.reset r.enable b ∧
        ((final step s pre).rinit pid r).1.Requested d b ∧
        (final step s ops).process.globals.requestHandle = some d := by
  induction ops using List.reverseRecOn with
  | nil => exact absurd hav hnot
  | append_singleton ops op ih =>
    have hlast : final step s (ops ++ [op]) = ((final step s ops).step op).1 := by
      rw [final_append]
      rfl
    rw [hlast] at hav ⊢
    by_cases hop : op.isHook = true
    · cases op with
      | rinit pid r =>
        obtain ⟨d,a,b,ha,hstart,hb⟩ := rinit_started (final_sound h ops).owned hav.1
        exact ⟨ops,pid,r,[],rfl,by simp,d,a,b,ha,hstart,hb,hb.1⟩
      | rshutdown disable reset => exact absurd hav (not_available_rshutdown disable reset _)
      | gshutdown close => exact absurd (gshutdown_requestHandle close _) hav.2
      | _ => cases hop
    · -- a script operation continues the request
      obtain ⟨hhandle,hready⟩ := step_available (s := final step s ops) (Bool.eq_false_iff.mpr hop)
      unfold Available at hav
      rw [hhandle, hready] at hav
      obtain ⟨pre,pid,r,mid,hops,hmid,d,a,b,ha,hstart,hb,hd⟩ := ih hav
      refine ⟨pre,pid,r,mid ++ [op],by simp [hops],?_,d,a,b,ha,hstart,hb,hhandle.trans hd⟩
      intro op' hop'
      rcases List.mem_append.mp hop' with h' | h'
      · exact hmid op' h'
      · cases List.mem_singleton.mp h'
        exact Bool.eq_false_iff.mpr hop

theorem final_core {s : System} {ops : List ProcessOp} (hops : ∀ op ∈ ops, op.isQuiet = true) :
    (final step s ops).core = s.core := by
  induction ops generalizing s with
  | nil => rfl
  | cons op ops ih =>
    obtain ⟨hop,hops⟩ := List.forall_mem_cons.mp hops
    exact (ih hops).trans (step_core hop)

end System

end Perfidious
