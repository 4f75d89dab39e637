import Perfidious.Library.Component
import Perfidious.Request.Fork

/-! The life of a native handle. From the moment it is opened until it is closed, the methods called
through any of its objects, the request hooks and time passing drive it as if it were alone. -/
namespace Perfidious
open Library

/-- A handle on its own, with its outcomes as the process shows them. -/
def Attached.respond (a : Attached) (op : HandleOp) : Attached × Outcome :=
  ((a.step op).1,(a.step op).2.toOutcome)

namespace System

/-- What an operation of the process does to the native handle `d`. A `RINIT` reaches the request
handle only with requests enabled. -/
def reaches (d : ℕ) (s : System) : ProcessOp → Option HandleOp
  | .rinit _ r =>
    if s.process.globals.requestEnable = true ∧ s.process.globals.requestHandle = some d then
      some (.requestInit r.reset r.enable)
    else none
  | .rshutdown disable reset =>
    if s.process.globals.requestHandle = some d then some (.requestShutdown disable reset) else none
  | op => s.effect d op

/-- What a process does to the native handle `d`, with what came of it. -/
def life (d : ℕ) : System → List ProcessOp → List (HandleOp × Outcome) :=
  reached step (reaches d) fun _ o => o

section Attachment
variable {d : ℕ} {s : System}

theorem live_of_attached {a : Attached} (h : s.attached d = some a) : s.ledger.live d = true := by
  simp [ledger,(attached_eq_some h).1]

/-- A pointer that was closed counts as closed. -/
theorem tryClose_closes (r : ℕ → Status) : (s.tryClose d r).1.process.closes d ≠ 0 := by
  have h := congrArg (fun l => l.closes d) (s.tryClose_ledger d r)
  simp only [Function.update_self] at h
  intro hopen
  exact Nat.succ_ne_zero _ (h.symm.trans hopen)

theorem Disposed.attached_of_open {t : System} {w : ℕ} {r : ℕ → Status} (h : s.Disposed w r t)
    (hopen : t.process.closes d = 0) : t.attached d = s.attached d := by
  cases h with
  | idle hnone => rfl
  | dropped found left hnone => rfl
  | @closed obj x e found left howned =>
    refine (tryClose_attached_of_ne ?_ r _).trans rfl
    rintro rfl
    exact tryClose_closes r hopen

theorem gshutdown_attached (close : ℕ → Status) (hd : s.process.globals.requestHandle ≠ some d) :
    (s.gshutdown close).attached d = s.attached d := by
  unfold gshutdown
  split
  · rfl
  next e he =>
    refine (tryClose_attached_of_ne ?_ close s).trans rfl
    rintro rfl
    exact hd he

theorem openRequestHandle_attached (hd : d < s.world.next) (r : OpenReplies) :
    (s.openRequestHandle r).1.attached d = s.attached d := by
  rcases s.openRequestHandle_cases r with ⟨-,he⟩ | ⟨-,e,he⟩ | ⟨-,metrics,h,-,-,he⟩ <;> rw [he]
  · rfl
  · exact allocate_attached_of_ne (Nat.ne_of_lt hd) h

theorem startRequestHandle_attached (hd : s.process.globals.requestHandle ≠ some d) (reset : ResetReplies)
    (enable : Native Status) : (s.startRequestHandle reset enable).1.attached d = s.attached d := by
  unfold startRequestHandle
  split
  · rfl
  next e he =>
    refine (withHandle_attached_of_ne ?_ _ _ s).trans rfl
    rintro rfl
    exact hd he

theorem rshutdown_attached (hd : s.process.globals.requestHandle ≠ some d) (disable : Native Status)
    (reset : ResetReplies) : (s.rshutdown disable reset).1.attached d = s.attached d := by
  unfold rshutdown
  split
  · rfl
  next e he =>
    refine (withHandle_attached_of_ne ?_ _ _ s).trans rfl
    rintro rfl
    exact hd he

end Attachment

/-- What the handle `d` goes through when an operation of the process is over: nothing if it was not
reached, and otherwise its own step. -/
def Lived (d : ℕ) (s : System) (a : Attached) (op : ProcessOp) : Prop :=
  (s.reaches d op = none ∧ (s.step op).1.attached d = some a) ∨
  ∃ e, s.reaches d op = some e ∧ (s.step op).1.attached d = some (a.respond e).1 ∧
    (s.step op).2 = (a.respond e).2

/-- A handle that `RINIT` leaves open was not that of another process. -/
theorem rinit_pid_of_open {d : ℕ} {s : System} {pid : ℤ} {r : RinitReplies}
    (hd : s.process.globals.requestHandle = some d) (hopen : (s.rinit pid r).1.process.closes d = 0) :
    s.process.globals.requestHandlePid = pid := by
  by_contra hpid
  have hnever : (s.ledger.release none).closes d ≠ 0 := by
    have hholds : s.ledger.holds none = some d := hd
    rw [Ledger.release_of_some hholds]
    simp
  have hr := s.rinit_ledger pid r
  dsimp only at hr
  rw [if_pos hpid] at hr
  rcases hr with he | ⟨-,he⟩
  · exact hnever (he ▸ hopen)
  · exact hnever ((congrArg (fun l => l.closes d) he).symm.trans hopen)

theorem rinit_disabled {s : System} (h : s.process.globals.requestEnable ≠ true) (pid : ℤ)
    (r : RinitReplies) : (s.rinit pid r).1 = s.enterProcess pid r.close := by
  have henable : (s.enterProcess pid r.close).process.globals.requestEnable = false :=
    (congrArg (·.2.1) (s.enterProcess_settings pid r.close)).trans (Bool.eq_false_iff.mpr h)
  unfold rinit
  simp [henable]

/-- `RINIT` in the process that opened the request handle starts it and does nothing else. -/
theorem rinit_lived_request {d : ℕ} {s : System} {a : Attached} (h : s.Requested d a) {pid : ℤ}
    (hpid : s.process.globals.requestHandlePid = pid) (r : RinitReplies) : s.Lived d a (.rinit pid r) := by
  have henter : s.enterProcess pid r.close =
      s.mapGlobals fun g => { g with requestHandleReady := false } := by
    rw [enterProcess_eq, if_neg (not_not.mpr hpid)]
  by_cases he : s.process.globals.requestEnable = true
  · have hreq : (s.enterProcess pid r.close).Requested d a := henter ▸ h
    have hnothing : (s.enterProcess pid r.close).openRequestHandle r.open =
        (s.enterProcess pid r.close,[]) := by
      rcases openRequestHandle_cases r.open (s.enterProcess pid r.close) with
        ⟨-,h⟩ | ⟨hnone,-⟩ | ⟨hnone,-⟩
      · exact h
      · cases hnone.symm.trans hreq.1
      · cases hnone.symm.trans hreq.1
    have hrinit : s.rinit pid r =
        (s.enterProcess pid r.close).startRequestHandle r.reset r.enable := by
      have henable : (s.enterProcess pid r.close).process.globals.requestEnable = true := henter ▸ he
      unfold rinit
      dsimp only
      rw [henable, hnothing]
      rfl
    obtain ⟨hb,herr,-⟩ := startRequestHandle_requested hreq r.reset r.enable
    refine .inr ⟨_,if_pos ⟨he,h.1⟩,?_,?_⟩
    · simp only [step, hrinit]
      exact hb.2
    · simp only [step, hrinit, herr]
      rfl
  · refine .inl ⟨if_neg fun h => he h.1,?_⟩
    simp only [step, rinit_disabled he, henter]
    exact h.2

/-- Whatever `RINIT` closes, opens and starts, it leaves every other handle alone. -/
theorem rinit_lived_other {d : ℕ} {s : System} {a : Attached} (ha : s.attached d = some a)
    (hlt : d < s.world.next) (hd : s.process.globals.requestHandle ≠ some d) (pid : ℤ)
    (r : RinitReplies) : s.Lived d a (.rinit pid r) := by
  refine .inl ⟨if_neg fun h => hd h.2,?_⟩
  let t := s.mapGlobals fun g => { g with requestHandleReady := false }
  have htd : t.process.globals.requestHandle ≠ some d := hd
  have hta : t.attached d = some a := ha
  have henter : (s.enterProcess pid r.close).attached d = some a ∧
      (s.enterProcess pid r.close).process.globals.requestHandle ≠ some d := by
    rw [enterProcess_eq]
    split
    · rw [changeProcess_eq]
      refine ⟨(gshutdown_attached r.close htd).trans hta,fun h => ?_⟩
      cases (gshutdown_requestHandle r.close _).symm.trans h
    · exact ⟨hta,htd⟩
  have hlt' : d < (s.enterProcess pid r.close).world.next := (enterProcess_next pid r.close s).symm ▸ hlt
  have hopened : (s.rinitOpened pid r).process.globals.requestHandle ≠ some d := by
    unfold rinitOpened
    rcases openRequestHandle_cases r.open (s.enterProcess pid r.close) with
      ⟨-,he⟩ | ⟨-,e,he⟩ | ⟨-,metrics,h,-,-,he⟩ <;> rw [he]
    · exact henter.2
    · exact henter.2
    · exact fun h => Nat.ne_of_gt hlt' (Option.some.inj h)
  by_cases he : s.process.globals.requestEnable = true
  · simp only [step]
    rw [rinit_enabled he, startRequestHandle_attached hopened]
    exact (openRequestHandle_attached hlt' r.open).trans henter.1
  · simp only [step]
    rw [rinit_disabled he]
    exact henter.1

theorem step_lived {d : ℕ} {s : System} (hs : s.Sound) {a : Attached} (ha : s.attached d = some a)
    {op : ProcessOp} (hopen : (s.step op).1.process.closes d = 0) : s.Lived d a op := by
  have hlt : d < s.world.next := hs.owned.lt_next (live_of_attached ha)
  cases op with
  | rinit pid r =>
    by_cases hd : s.process.globals.requestHandle = some d
    · exact rinit_lived_request ⟨hd,ha⟩ (rinit_pid_of_open hd hopen) r
    · exact rinit_lived_other ha hlt hd pid r
  | rshutdown disable reset =>
    by_cases hd : s.process.globals.requestHandle = some d
    · refine .inr ⟨_,if_pos hd,(rshutdown_requested ⟨hd,ha⟩ disable reset).2,?_⟩
      change Outcome.hook (s.rshutdown disable reset).2 = _
      unfold rshutdown
      rw [hd]
      dsimp only
      rw [withHandle_some ha]
      rfl
    · exact .inl ⟨if_neg hd,(rshutdown_attached hd disable reset).trans ha⟩
  | gshutdown close =>
    refine .inl ⟨rfl,(gshutdown_attached close ?_).trans ha⟩
    intro hd
    have hclosed : (s.gshutdown close).process.closes d ≠ 0 := by
      have h := congrArg (fun l => l.closes d) (s.gshutdown_ledger close)
      rw [Ledger.release_of_some (k := none) hd] at h
      simp only [Function.update_self] at h
      intro hopen
      exact Nat.succ_ne_zero _ (h.symm.trans hopen)
    exact hclosed hopen
  | requestHandle =>
    refine .inl ⟨rfl,?_⟩
    simp only [step]
    rcases s.requestHandle_cases with ⟨-,e,-,he⟩ | ⟨-,-,-,e,-,he⟩ | ⟨-,he⟩ <;> rw [he] <;> exact ha
  | «open» args cap r =>
    refine .inl ⟨rfl,?_⟩
    simp only [step]
    rcases s.open_cases args cap r with ⟨e,he⟩ | ⟨h,he⟩ <;> rw [he]
    · exact ha
    · exact (allocate_attached_of_ne (Nat.ne_of_lt hlt) h).trans ha
  | new => exact .inl ⟨rfl,ha⟩
  | method w m =>
    unfold Lived reaches effect
    simp only [step]
    unfold callMethod
    cases hw : s.process.objects w with
    | none => exact .inl ⟨by simp,ha⟩
    | some obj =>
      obtain ⟨handle,borrowed⟩ := obj
      cases handle with
      | none => exact .inl ⟨by simp,ha⟩
      | some e =>
        by_cases he : e = d
        · subst he
          refine .inr ⟨.method m,by simp,?_⟩
          dsimp only
          rw [withHandle_some ha]
          exact ⟨store_attached e _ s,rfl⟩
        · exact .inl ⟨by simp [he],(withHandle_attached_of_ne (Ne.symm he) _ _ s).trans ha⟩
  | close w r => exact .inl ⟨rfl,((s.close_disposed w r).attached_of_open hopen).trans ha⟩
  | destroy w r => exact .inl ⟨rfl,((s.destroy_disposed w r).attached_of_open hopen).trans ha⟩
  | elapse e t =>
    unfold Lived reaches effect
    by_cases he : e = d
    · subst he
      obtain ⟨hh,hg⟩ := attached_eq_some ha
      exact .inr ⟨.elapse t,by simp,by simp [step,attached,hh,hg,Attached.respond,Attached.step],rfl⟩
    · refine .inl ⟨by simp [he],Eq.trans ?_ ha⟩
      simp [step,attached,Function.update_of_ne (Ne.symm he)]

/-- Until it is closed, a native handle is a component of its process. -/
theorem handle_component (d : ℕ) :
    Component step (reaches d) (fun _ o => o) Attached.respond Sound
      (fun s op => (s.step op).1.process.closes d = 0) fun s a => s.attached d = some a where
  keeps hs _ := step_sound hs _
  passes := by
    intro s op a hs hopen ha hr
    rcases step_lived hs ha hopen with ⟨-,hnext⟩ | ⟨e,he,-⟩
    · exact hnext
    · cases hr.symm.trans he
  moves := by
    intro s op a k hs hopen ha hr
    rcases step_lived hs ha hopen with ⟨hnone,-⟩ | ⟨e,he,hnext,hout⟩
    · cases hnone.symm.trans hr
    · cases hr.symm.trans he
      exact ⟨hnext,hout⟩

/-- A handle that is open at the end of a run was open all along. -/
theorem along_of_open {d : ℕ} {s : System} (hs : s.Sound) {ops : List ProcessOp}
    (hopen : (final step s ops).process.closes d = 0) :
    Along step (fun s op => (s.step op).1.process.closes d = 0) s ops := by
  have hmono : ∀ {s : System}, s.Sound → ∀ ops : List ProcessOp,
      s.process.closes d ≤ (final step s ops).process.closes d := by
    intro s hs ops
    induction ops generalizing s with
    | nil => exact Nat.le_refl _
    | cons op ops ih =>
      exact ((step_trades hs.fresh op).closes_mono d).trans (ih (step_sound hs op))
  induction ops generalizing s with
  | nil => trivial
  | cons op ops ih =>
    have hnext := step_sound hs op
    exact ⟨Nat.eq_zero_of_le_zero (hopen ▸ hmono hnext ops),ih hnext hopen⟩

end System

/-- Native handles are independent. In any run of a process, as long as a native handle was not closed,
what its callers and the request hooks got from it is what the handle alone would have given them,
whichever objects the calls went through and whatever happened to other handles in between, and the
handle and its group end up as they would have alone. -/
theorem handles_independent (self : ℕ) (requestEnable : Bool) (requestMetrics : Option String)
    (world : World) (before after : List ProcessOp) (d : ℕ) (a : Attached) :
    let s := final System.step (System.start self requestEnable requestMetrics world) before
    s.attached d = some a → (final System.step s after).process.closes d = 0 →
    (s.life d after).map Prod.snd = outputs Attached.respond a ((s.life d after).map Prod.fst) ∧
    (final System.step s after).attached d =
      some (final Attached.respond a ((s.life d after).map Prod.fst)) := by
  intro s ha hopen
  have hs : s.Sound := System.final_sound (System.start_sound ..) before
  exact (System.handle_component d).run hs (System.along_of_open hs hopen) ha

/-- The request handle, with an object that borrows it, and an opened handle with its own. -/
def twoHandles : System :=
  final System.step (.start 1 true (some "instructions") emptyWorld)
    [.rinit 7 plainRinit,.requestHandle,.open ⟨[some "cycles"],0,-1⟩ none plainOpen]

/-- Both count events and are read, the request handle through a second object. -/
def interleaved : List ProcessOp :=
  [.elapse 0 fiveEvents,.method 1 (.enable (answered none)),.elapse 1 fiveEvents,
    .method 1 (.readArray plainPaused),.requestHandle,.method 2 (.readArray plainPaused),
    .close 1 fun _ => none,.rshutdown (answered none) plainReset]

theorem handles_independent_interleaved :
    (∃ a, twoHandles.attached 0 = some a ∧ (twoHandles.life 0 interleaved).map Prod.snd =
      outputs Attached.respond a ((twoHandles.life 0 interleaved).map Prod.fst)) ∧
    (twoHandles.life 0 interleaved).map Prod.snd =
      [.passed,.call ⟨[],.value (.array [(.string "instructions",5)])⟩,.hook []] := by
  have h := fun a => handles_independent 1 true (some "instructions") emptyWorld
    [.rinit 7 plainRinit,.requestHandle,.open ⟨[some "cycles"],0,-1⟩ none plainOpen] interleaved 0 a
  exact ⟨⟨_,rfl,(h _ rfl rfl).1⟩,rfl⟩

end Perfidious
