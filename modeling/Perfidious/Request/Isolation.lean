import Mathlib.Data.List.Forall2
import Perfidious.Handle.Alike
import Perfidious.Request.Renewed

/-! Isolation of requests. The request handle survives from one request to the next, but what a script
reads from it depends only on what happened since the `RINIT` of its own request. -/
namespace Perfidious
open Library

/-- Nothing is counted meanwhile. -/
def Tick.Silent (t : Tick) : Prop := ∀ i, t.counts i = 0

/-- Nothing is counted during a reset. -/
def ResetReplies.Atomic (r : ResetReplies) : Prop :=
  r.disable.elapsed.Silent ∧ r.read.elapsed.Silent ∧ r.reset.elapsed.Silent ∧ r.enable.elapsed.Silent

def System.RinitReplies.Atomic (r : System.RinitReplies) : Prop :=
  r.reset.Atomic ∧ r.enable.elapsed.Silent

namespace Attached

/-- No count is left. -/
def Zeroed (a : Attached) : Prop := ∀ i, a.group.counts i = 0

theorem trySetEnabled_zeroed {a : Attached} (h : a.Zeroed) (enabled : Bool) {r : Native Status}
    (hr : r.elapsed.Silent) : (a.trySetEnabled enabled r).1.Zeroed := by
  have ht : ∀ i, (a.group.elapse r.elapsed).counts i = 0 := by
    intro i
    unfold EventGroup.elapse
    split
    · simp [h i,hr i]
    · exact h i
  cases ha : r.answer with
  | none =>
    rw [trySetEnabled_of_none ha]
    exact ht
  | some errno =>
    rw [trySetEnabled_of_some ha]
    exact ht

theorem resetBetween_zeroed {a : Attached} {read : Native ReadAnswer} {reset : Native Status}
    (h : (a.resetBetween read reset).2 = 0) : (a.resetBetween read reset).1.Zeroed := by
  by_cases hread : read.answer = .full
  case neg =>
    obtain ⟨n,hn,hunread⟩ := resetBetween_of_unread hread reset
    rw [hunread] at h
    exact absurd h hn
  cases hreset : reset.answer with
  | none =>
    rw [resetBetween_of_none hread hreset]
    exact fun _ => rfl
  | some errno =>
    rw [resetBetween_of_some hread hreset] at h
    exact absurd h (nonzeroErrno_ne_zero errno)

/-- A successful reset leaves no counts. -/
theorem tryReset_zeroed {a : Attached} {r : ResetReplies} (hr : r.Atomic) (h : (a.tryReset r).2 = 0) :
    (a.tryReset r).1.Zeroed := by
  unfold tryReset at h ⊢
  split at h
  · cases h
  next hmalloc =>
    rw [if_neg hmalloc]
    split at h
    next hen =>
      rw [if_pos hen]
      dsimp only at h ⊢
      split at h
      next hne => exact absurd h hne
      next hne =>
        rw [if_neg hne]
        apply trySetEnabled_zeroed _ true hr.2.2.2
        apply resetBetween_zeroed
        by_contra hb
        rw [if_neg hb] at h
        exact hb h
    next hen =>
      rw [if_neg hen]
      exact resetBetween_zeroed h

theorem Started.zeroed {reset : ResetReplies} {enable : Native Status} {a b : Attached}
    (h : Started reset enable a b) (hr : reset.Atomic) (he : enable.elapsed.Silent) : b.Zeroed := by
  have hb := trySetEnabled_zeroed (tryReset_zeroed hr h.1) true he
  rwa [h.2] at hb

end Attached

namespace System

/-- The operations of a script that act on the native handle `d`, with what came of each. -/
def observed (d : ℕ) : System → List ProcessOp → List (HandleOp × Outcome)
  | _,[] => []
  | s,op::ops =>
    match s.effect d op with
    | none => observed d (s.step op).1 ops
    | some e => (e,(s.step op).2) :: observed d (s.step op).1 ops

/-- What a script observes is a run of the handle machine. -/
theorem observed_run {s : System} (hs : s.Sound) {d : ℕ} {a : Attached} (hd : s.Requested d a)
    {script : List ProcessOp} (hscript : ∀ op ∈ script, op.isHook = false) :
    s.observed d script =
      (outputs Attached.logged a ((s.observed d script).map Prod.fst)).map
        (Prod.map id HandleOutcome.toOutcome) ∧
    (final step s script).Requested d (final Attached.logged a ((s.observed d script).map Prod.fst)) := by
  induction script generalizing s a with
  | nil => exact ⟨rfl,hd⟩
  | cons op script ih =>
    obtain ⟨hop,hscript⟩ := List.forall_mem_cons.mp hscript
    unfold observed
    rcases step_effect hs hd hop with ⟨he,hnext⟩ | ⟨e,he,hnext,hout⟩
    · rw [he]
      exact ih (step_sound hs op) hnext hscript
    · rw [he]
      obtain ⟨hrun,hlast⟩ := ih (step_sound hs op) hnext hscript
      refine ⟨?_,hlast⟩
      simp only [List.map_cons, outputs_cons]
      exact List.cons_eq_cons.mpr ⟨congrArg (Prod.mk e) hout,hrun⟩

/-- The names of the events of the request handle. -/
def requestNames (requestMetrics : Option String) : List String :=
  (requestMetrics.map (phpExplode (maxEventNames+1))).getD []

/-- The request handle of any run bears the configured names. -/
theorem final_requests_names (self : ℕ) (requestEnable : Bool) (requestMetrics : Option String)
    (world : World) (ops : List ProcessOp) :
    let s := final step (start self requestEnable requestMetrics world) ops
    s.Sound ∧ s.settings = (self,requestEnable,requestMetrics) ∧
      s.Requests (Attached.Names (requestNames requestMetrics)) := by
  apply final_invariant_all step (I := fun s : System => s.Sound ∧
    s.settings = (self,requestEnable,requestMetrics) ∧ s.Requests (Attached.Names (requestNames requestMetrics)))
  · rintro s op ⟨hs,hsettings,hnames⟩
    refine ⟨step_sound hs op,(s.step_settings op).trans hsettings,?_⟩
    apply step_requests (fun a op ha => Attached.names_of_fixed (Attached.step_fixed a op) ha) hs ?_ hnames
    intro metrics r x hm hx
    have hconfigured : requestMetrics = some metrics := (congrArg (·.2.2) hsettings).symm.trans hm
    subst hconfigured
    exact ⟨rfl,(tryOpenEx_ok (Prod.ext hx rfl)).2.1⟩
  · exact ⟨start_sound self requestEnable requestMetrics world,rfl,fun d a ha => by cases ha.1⟩

/-- `RINIT` succeeded in resetting and enabling the request handle `d`: its group counts, from zero. -/
def Renewed (s : System) (pid : ℤ) (r : RinitReplies) (d : ℕ) (b : Attached) : Prop :=
  ∃ a, (s.rinitOpened pid r).Requested d a ∧ a.Started r.reset r.enable b ∧
    (s.rinit pid r).1.Requested d b ∧ b.handle.enabled = true ∧ b.group.enabled = true ∧ b.Zeroed

theorem rinit_renewed {s : System} (h : s.ledger.Sound) {pid : ℤ} {r : RinitReplies} (hr : r.Atomic)
    (hready : (s.rinit pid r).1.process.globals.requestHandleReady = true) :
    ∃ d b, s.Renewed pid r d b := by
  obtain ⟨d,a,b,ha,hab,hb⟩ := rinit_started h hready
  exact ⟨d,b,a,ha,hab,hb,hab.enabled.1,hab.enabled.2,hab.zeroed hr.1 hr.2⟩

end System

/-- The same operation on the request handle, with outcomes that agree except for time totals. -/
def SameCounts (x x' : HandleOp × Outcome) : Prop :=
  x.1 = x'.1 ∧ ∃ o o' : HandleOutcome, x.2 = o.toOutcome ∧ x'.2 = o'.toOutcome ∧ x.1.Agree o o'

/-- Isolation of requests. Take any two histories of a process that both end in a `RINIT` that leaves
the request handle ready, the hooks being atomic for counted events. Then the group counts, every
count was zeroed in that `RINIT`, and if from then on the scripts, events and native failures act alike
on the request handle, the scripts see the same counts and the groups hold the same counts. -/
theorem requests_isolated (self : ℕ) (requestEnable : Bool) (requestMetrics : Option String) (world : World)
    (history₁ history₂ : List ProcessOp) (pid₁ pid₂ : ℤ) (r₁ r₂ : System.RinitReplies)
    (h₁ : r₁.Atomic) (h₂ : r₂.Atomic) :
    let start := System.start self requestEnable requestMetrics world
    let s₁ := final System.step start history₁
    let s₂ := final System.step start history₂
    let t₁ := (s₁.rinit pid₁ r₁).1
    let t₂ := (s₂.rinit pid₂ r₂).1
    t₁.process.globals.requestHandleReady = true → t₂.process.globals.requestHandleReady = true →
    ∃ d₁ b₁ d₂ b₂, s₁.Renewed pid₁ r₁ d₁ b₁ ∧ s₂.Renewed pid₂ r₂ d₂ b₂ ∧
      ∀ script₁ script₂, (∀ op ∈ script₁, op.isHook = false) → (∀ op ∈ script₂, op.isHook = false) →
        (t₁.observed d₁ script₁).map Prod.fst = (t₂.observed d₂ script₂).map Prod.fst →
        List.Forall₂ SameCounts (t₁.observed d₁ script₁) (t₂.observed d₂ script₂) ∧
        ∃ c₁ c₂, (final System.step t₁ script₁).Requested d₁ c₁ ∧
          (final System.step t₂ script₂).Requested d₂ c₂ ∧ c₁.group.counts = c₂.group.counts := by
  intro start s₁ s₂ t₁ t₂ hready₁ hready₂
  obtain ⟨hs₁,-,-⟩ := System.final_requests_names self requestEnable requestMetrics world history₁
  obtain ⟨hs₂,-,-⟩ := System.final_requests_names self requestEnable requestMetrics world history₂
  obtain ⟨d₁,b₁,hb₁⟩ := System.rinit_renewed hs₁.owned h₁ hready₁
  obtain ⟨d₂,b₂,hb₂⟩ := System.rinit_renewed hs₂.owned h₂ hready₂
  refine ⟨d₁,b₁,d₂,b₂,hb₁,hb₂,?_⟩
  intro script₁ script₂ hscript₁ hscript₂ hsame
  obtain ⟨-,-,-,hreq₁,hflag₁,hgroup₁,hzero₁⟩ := hb₁
  obtain ⟨-,-,-,hreq₂,hflag₂,hgroup₂,hzero₂⟩ := hb₂
  -- the two `RINIT`s are the last steps of two longer runs
  have hnames : ∀ history pid r, System.Requests (Attached.Names (System.requestNames requestMetrics))
      ((final System.step start history).rinit pid r).1 := by
    intro history pid r
    have h := System.final_requests_names self requestEnable requestMetrics world (history ++ [.rinit pid r])
    rw [final_append] at h
    exact h.2.2
  have htwins : Attached.Twins (System.requestNames requestMetrics) b₁ b₂ :=
    ⟨⟨hflag₁.trans hflag₂.symm,hgroup₁.trans hgroup₂.symm,funext fun i => (hzero₁ i).trans (hzero₂ i).symm⟩,
      hnames history₁ pid₁ r₁ d₁ b₁ hreq₁,hnames history₂ pid₂ r₂ d₂ b₂ hreq₂⟩
  have ht₁ : t₁.Sound := System.step_sound hs₁ (.rinit pid₁ r₁)
  have ht₂ : t₂.Sound := System.step_sound hs₂ (.rinit pid₂ r₂)
  obtain ⟨hrun₁,hlast₁⟩ := System.observed_run ht₁ hreq₁ hscript₁
  obtain ⟨hrun₂,hlast₂⟩ := System.observed_run ht₂ hreq₂ hscript₂
  rw [hsame] at hrun₁ hlast₁
  generalize (t₂.observed d₂ script₂).map Prod.fst = effects at hrun₁ hlast₁ hrun₂ hlast₂
  have hops : List.Forall₂ Eq effects effects := List.forall₂_same.mpr fun op _ => rfl
  refine ⟨?_,_,_,hlast₁,hlast₂,?_⟩
  · rw [hrun₁, hrun₂, List.forall₂_map_left_iff, List.forall₂_map_right_iff]
    apply outputs_forall₂ Attached.logged Attached.logged (J := Eq)
      (R := Attached.Twins (System.requestNames requestMetrics)) ?_ htwins hops
    intro a b op op' hab hop
    subst hop
    obtain ⟨hnext,hagree⟩ := hab.step op
    exact ⟨hnext,rfl,_,_,rfl,rfl,hagree⟩
  · exact (final_related Attached.logged Attached.logged (J := Eq)
      (R := Attached.Twins (System.requestNames requestMetrics))
      (fun a b op op' hab hop => by subst hop; exact (hab.step op).1) htwins hops).alike.counts

def plainPaused : PausedReplies := ⟨answered none,answered .full,answered none⟩

def fiveEvents : Tick := ⟨10,10,fun _ => 5,Nat.le_refl 10⟩

theorem plainRinit_atomic : plainRinit.Atomic :=
  ⟨⟨fun _ => rfl,fun _ => rfl,fun _ => rfl,fun _ => rfl⟩,fun _ => rfl⟩

/-- A request that counts five events and can neither disable nor reset the handle at its end. -/
def failedShutdown : List ProcessOp :=
  [.rinit 7 plainRinit,.requestHandle,.elapse 0 fiveEvents,
    .rshutdown (answered (some EIO)) { plainReset with malloc := false }]

def requestAfter (history : List ProcessOp) : System :=
  ((final System.step (.start 1 true (some "instructions") emptyWorld) history).rinit 7 plainRinit).1

def readFirst : List ProcessOp := [.requestHandle,.elapse 0 fiveEvents,.method 0 (.readArray plainPaused)]

/-- Here the first call throws. -/
def readSecond : List ProcessOp :=
  [.requestHandle,.requestHandle,.elapse 0 fiveEvents,.method 1 (.readArray plainPaused)]

theorem requests_isolated_failed_shutdown :
    List.Forall₂ SameCounts ((requestAfter []).observed 0 readFirst)
      ((requestAfter failedShutdown).observed 0 readSecond) ∧
    ((requestAfter failedShutdown).observed 0 readSecond).map Prod.snd =
      [.passed,.call ⟨[],.value (.array [(.string "instructions",5)])⟩] := by
  obtain ⟨d₁,b₁,d₂,b₂,⟨-,-,-,hd₁,-⟩,⟨-,-,-,hd₂,-⟩,h⟩ :=
    requests_isolated 1 true (some "instructions") emptyWorld [] failedShutdown 7 7 plainRinit plainRinit
      plainRinit_atomic plainRinit_atomic rfl rfl
  have hzero₁ : d₁ = 0 := Option.some.inj (hd₁.1.symm.trans rfl)
  have hzero₂ : d₂ = 0 := Option.some.inj (hd₂.1.symm.trans rfl)
  subst hzero₁ hzero₂
  have hops₁ : ((requestAfter []).observed 0 readFirst).map Prod.fst =
    [.elapse fiveEvents,.method (.readArray plainPaused)] := rfl
  have hops₂ : ((requestAfter failedShutdown).observed 0 readSecond).map Prod.fst =
    [.elapse fiveEvents,.method (.readArray plainPaused)] := rfl
  have hfirst : ∀ op ∈ readFirst, op.isHook = false := by simp [readFirst,ProcessOp.isHook]
  have hsecond : ∀ op ∈ readSecond, op.isHook = false := by simp [readSecond,ProcessOp.isHook]
  exact ⟨(h readFirst readSecond hfirst hsecond (hops₁.trans hops₂.symm)).1,rfl⟩

end Perfidious
