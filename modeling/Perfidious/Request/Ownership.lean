import Perfidious.Handle.Cleanup
import Perfidious.Library.Ledger
import Perfidious.Request.Process

/-! Who owns a native handle: the module globals own the request handle and a `Handle` object owns
what `Perfidious\open` returned, while a borrowed object owns nothing. -/
namespace Perfidious
open Library

/-- Closing a handle closes one descriptor for each of its metrics. -/
theorem tryClose_onGroup (r : ℕ → Status) (metrics : List Metric) :
    (tryClose r metrics).calls.filterMap HandleCall.onGroup = List.replicate metrics.length .close := by
  have hcalls : ∀ ms : List Metric,
      (ms.flatMap closeCalls).filterMap HandleCall.onGroup = List.replicate ms.length .close := by
    intro ms
    induction ms with
    | nil => rfl
    | cons m ms ih =>
      rw [List.flatMap_cons, List.filterMap_append, ih, closeCalls]
      cases m.name with
      | none => rfl
      | some name => rfl
  rw [tryClose_eq, hcalls, List.length_reverse]

namespace System

variable {α : Type}

/-- The globals, and the identity of the process. -/
def core (s : System) : ℕ × Globals := (s.process.self,s.process.globals)

@[simp] theorem withHandle_core (d : ℕ) (f : Attached → Attached × α) (lost : α) (s : System) :
    (s.withHandle d f lost).1.core = s.core := by
  unfold withHandle
  split <;> rfl

/-- The memory of the `Handle` objects, and the next free object number. -/
def table (s : System) : (ℕ → Option HandleObj) × ℕ := (s.process.objects,s.process.nextObject)

@[simp] theorem withHandle_table (d : ℕ) (f : Attached → Attached × α) (lost : α) (s : System) :
    (s.withHandle d f lost).1.table = s.table := by
  unfold withHandle
  split <;> rfl

@[simp] theorem tryClose_core (d : ℕ) (r : ℕ → Status) (s : System) :
    (s.tryClose d r).1.core = s.core := by
  unfold tryClose
  split <;> rfl

@[simp] theorem tryClose_table (d : ℕ) (r : ℕ → Status) (s : System) :
    (s.tryClose d r).1.table = s.table := by
  unfold tryClose
  split <;> rfl

theorem tryOpen_cases (names : List String) (pid cpu : ℤ) (persist : Bool) (r : OpenReplies)
    (s : System) :
    (∃ e, (tryOpenEx names pid cpu persist r).1 = .error e ∧
      s.tryOpen names pid cpu persist r = (s,.error e)) ∨
    ∃ h, (tryOpenEx names pid cpu persist r).1 = .ok h ∧
      s.tryOpen names pid cpu persist r = (s.allocate h,.ok s.world.next) := by
  unfold tryOpen
  cases (tryOpenEx names pid cpu persist r).1 with
  | error e => exact .inl ⟨e,rfl,rfl⟩
  | ok h => exact .inr ⟨h,rfl,rfl⟩

theorem attached_eq_some {s : System} {d : ℕ} {a : Attached} (h : s.attached d = some a) :
    s.process.handles d = some a.handle ∧ s.world.groups d = a.group := by
  unfold attached at h
  cases hd : s.process.handles d with
  | none => simp [hd] at h
  | some x =>
    rw [hd] at h
    cases h
    exact ⟨rfl,rfl⟩

theorem attached_eq_none_iff {s : System} {d : ℕ} :
    s.attached d = none ↔ s.process.handles d = none := by
  simp [attached]

end System

/-- The native handle an object is responsible for. -/
def HandleObj.owned (obj : HandleObj) : Option ℕ := if obj.borrowed then none else obj.handle

/-- What is left of an object that was closed or has ended: at most an object without a native
handle. -/
def HandleObj.Cleared (obj : HandleObj) (x : Option HandleObj) : Prop :=
  ∀ y, x = some y → y = { obj with handle := none }

theorem HandleObj.Cleared.owned {obj : HandleObj} {x : Option HandleObj} (h : obj.Cleared x) :
    x.bind HandleObj.owned = none := by
  cases x with
  | none => rfl
  | some y =>
    cases h y rfl
    exact ite_self none

namespace System

/-- The owners of a process: the globals, and the `Handle` objects by their numbers. -/
def owns (s : System) : Option ℕ → Option ℕ
  | none => s.process.globals.requestHandle
  | some w => (s.process.objects w).bind HandleObj.owned

def ledger (s : System) : Ledger (Option ℕ) where
  holds := s.owns
  live d := (s.process.handles d).isSome
  closes := s.process.closes
  next := s.world.next

/-- Object numbers from `nextObject` on are unused. -/
def Fresh (s : System) : Prop := ∀ w, s.process.nextObject ≤ w → s.process.objects w = none

theorem mapGlobals_ledger {f : Globals → Globals} (h : ∀ g, (f g).requestHandle = g.requestHandle)
    (s : System) : (s.mapGlobals f).ledger = s.ledger := by
  ext k
  · cases k with
    | none => simp [ledger,owns,mapGlobals,h]
    | some w => rfl
  all_goals rfl

/-- Assigning the request handle. -/
theorem assign_ledger (x : Option ℕ) (s : System) :
    (s.mapGlobals fun g => { g with requestHandle := x }).ledger =
      { s.ledger with holds := Function.update s.ledger.holds none x } := by
  ext k
  · cases k <;> simp [ledger,owns,mapGlobals]
  all_goals rfl

theorem setObject_ledger (w : ℕ) (obj : Option HandleObj) (s : System) :
    (s.setObject w obj).ledger =
      { s.ledger with holds := Function.update s.ledger.holds (some w) (obj.bind HandleObj.owned) } := by
  ext k
  · cases k with
    | none => simp [ledger,owns,setObject]
    | some v =>
      by_cases hv : v = w
      · simp [ledger,owns,setObject,hv]
      · simp [ledger,owns,setObject,hv]
  all_goals rfl

theorem store_ledger {d : ℕ} {a : Attached} {s : System} (h : s.attached d = some a) (b : Attached) :
    (s.store d b).ledger = s.ledger := by
  ext e
  · cases e <;> rfl
  · by_cases he : e = d
    · simp [ledger,store,he,(attached_eq_some h).1]
    · simp [ledger,store,he]
  all_goals rfl

@[simp] theorem withHandle_ledger (d : ℕ) (f : Attached → Attached × α) (lost : α) (s : System) :
    (s.withHandle d f lost).1.ledger = s.ledger := by
  unfold withHandle
  split
  · ext k
    · cases k <;> rfl
    all_goals rfl
  next h => exact store_ledger h _

theorem allocate_ledger (h : Handle) (s : System) :
    (s.allocate h).ledger =
      { s.ledger with live := Function.update s.ledger.live s.world.next true, next := s.world.next+1 } := by
  ext e
  · cases e <;> rfl
  · by_cases he : e = s.world.next
    · simp [ledger,allocate,he]
    · simp [ledger,allocate,he]
  all_goals rfl

theorem tryClose_ledger (d : ℕ) (r : ℕ → Status) (s : System) :
    (s.tryClose d r).1.ledger =
      { s.ledger with
        live := Function.update s.ledger.live d false
        closes := Function.update s.ledger.closes d (s.ledger.closes d + 1) } := by
  unfold tryClose
  split
  next hd =>
    rw [attached_eq_none_iff] at hd
    ext e
    · cases e <;> rfl
    · by_cases he : e = d
      · simp [ledger,he,hd]
      · simp [ledger,he]
    all_goals rfl
  · ext e
    · cases e <;> rfl
    · by_cases he : e = d
      · simp [ledger,he]
      · simp [ledger,he]
    all_goals rfl

theorem changeProcess_eq (pid : ℤ) (close : ℕ → Status) (s : System) :
    s.changeProcess pid close = (s.gshutdown close).mapGlobals fun g =>
      { g with requestHandlePid := pid, requestHandleError := none } := by
  unfold changeProcess gshutdown
  split <;> rfl

/-- Closing the request handle is all that `GSHUTDOWN` does. -/
theorem gshutdown_ledger (close : ℕ → Status) (s : System) :
    (s.gshutdown close).ledger = s.ledger.release none := by
  unfold gshutdown
  split
  next h => rw [Ledger.release_of_none h]
  next d h =>
    rw [assign_ledger, tryClose_ledger, Ledger.release_of_some h]

theorem enterProcess_eq (pid : ℤ) (close : ℕ → Status) (s : System) :
    s.enterProcess pid close =
      if s.process.globals.requestHandlePid ≠ pid then
        (s.mapGlobals fun g => { g with requestHandleReady := false }).changeProcess pid close
      else s.mapGlobals fun g => { g with requestHandleReady := false } := rfl

/-- The ledger after the first part of `RINIT`. -/
theorem enterProcess_ledger (pid : ℤ) (close : ℕ → Status) (s : System) :
    (s.enterProcess pid close).ledger =
      if s.process.globals.requestHandlePid ≠ pid then s.ledger.release none else s.ledger := by
  have hready : (s.mapGlobals fun g => { g with requestHandleReady := false }).ledger = s.ledger :=
    mapGlobals_ledger (fun _ => rfl) s
  rw [enterProcess_eq]
  by_cases hpid : s.process.globals.requestHandlePid ≠ pid
  · rw [if_pos hpid, if_pos hpid, changeProcess_eq, ← hready, ← gshutdown_ledger close]
    exact mapGlobals_ledger (fun _ => rfl) _
  · rw [if_neg hpid, if_neg hpid, hready]

theorem splitAndOpen_cases (metrics : String) (r : OpenReplies) (s : System) :
    (∃ e, s.splitAndOpen metrics r = (s,.error e)) ∨
    ∃ h, (tryOpenEx (phpExplode (maxEventNames+1) metrics) 0 (-1) true r).1 = .ok h ∧
      s.splitAndOpen metrics r = (s.allocate h,.ok s.world.next) := by
  unfold splitAndOpen
  dsimp only
  split
  · exact .inl ⟨_,rfl⟩
  · rcases s.tryOpen_cases (phpExplode (maxEventNames+1) metrics) 0 (-1) true r with
      ⟨e,-,he⟩ | ⟨h,hh,he⟩
    · exact .inl ⟨e,he⟩
    · exact .inr ⟨h,hh,he⟩

/-- Opening the request handle: there is nothing to do, opening fails and records its error, or a
new handle belongs to the globals. -/
theorem openRequestHandle_cases (r : OpenReplies) (s : System) :
    ((s.process.globals.requestHandle ≠ none ∨ s.process.globals.requestMetrics = none) ∧
      s.openRequestHandle r = (s,[])) ∨
    (s.process.globals.requestHandle = none ∧ ∃ e, s.openRequestHandle r =
      (s.mapGlobals fun g => { g with requestHandleError := recordError g.requestHandleError e },[e])) ∨
    (s.process.globals.requestHandle = none ∧ ∃ metrics h,
      s.process.globals.requestMetrics = some metrics ∧
      (tryOpenEx (phpExplode (maxEventNames+1) metrics) 0 (-1) true r).1 = .ok h ∧
      s.openRequestHandle r =
        ((s.allocate h).mapGlobals fun g => { g with requestHandle := some s.world.next },[])) := by
  unfold openRequestHandle
  cases hh : s.process.globals.requestHandle with
  | some d => exact .inl ⟨.inl (by simp),rfl⟩
  | none =>
    cases hm : s.process.globals.requestMetrics with
    | none => exact .inl ⟨.inr rfl,rfl⟩
    | some metrics =>
      rcases s.splitAndOpen_cases metrics r with ⟨e,he⟩ | ⟨h,hopen,he⟩
      · exact .inr (.inl ⟨rfl,e,by simp only [he]⟩)
      · exact .inr (.inr ⟨rfl,metrics,h,rfl,hopen,by simp only [he]⟩)

theorem allocate_assign_ledger (h : Handle) (s : System) :
    ((s.allocate h).mapGlobals fun g => { g with requestHandle := some s.world.next }).ledger =
      s.ledger.acquire none := by
  rw [assign_ledger, allocate_ledger]
  rfl

theorem openRequestHandle_ledger (r : OpenReplies) (s : System) :
    (s.openRequestHandle r).1.ledger = s.ledger ∨
    (s.ledger.holds none = none ∧ (s.openRequestHandle r).1.ledger = s.ledger.acquire none) := by
  rcases s.openRequestHandle_cases r with ⟨-,he⟩ | ⟨-,e,he⟩ | ⟨hnone,metrics,h,-,-,he⟩ <;> rw [he]
  · exact .inl rfl
  · exact .inl (mapGlobals_ledger (fun _ => rfl) s)
  · exact .inr ⟨hnone,allocate_assign_ledger h s⟩

@[simp] theorem startRequestHandle_ledger (reset : ResetReplies) (enable : Native Status) (s : System) :
    (s.startRequestHandle reset enable).1.ledger = s.ledger := by
  unfold startRequestHandle
  split
  · rfl
  next d _ =>
    rw [← withHandle_ledger d (Attached.requestInit reset enable) [] s]
    exact mapGlobals_ledger (fun _ => rfl) _

/-- `RINIT` may close the request handle, on a process change, and then open a new one. -/
theorem rinit_ledger (pid : ℤ) (r : RinitReplies) (s : System) :
    let l := if s.process.globals.requestHandlePid ≠ pid then s.ledger.release none else s.ledger
    (s.rinit pid r).1.ledger = l ∨ (l.holds none = none ∧ (s.rinit pid r).1.ledger = l.acquire none) := by
  dsimp only
  rw [← enterProcess_ledger pid r.close]
  unfold rinit
  dsimp only
  split
  · exact .inl rfl
  · dsimp only
    rw [startRequestHandle_ledger]
    exact openRequestHandle_ledger r.open _

@[simp] theorem rshutdown_ledger (disable : Native Status) (reset : ResetReplies) (s : System) :
    (s.rshutdown disable reset).1.ledger = s.ledger := by
  unfold rshutdown
  split
  · exact mapGlobals_ledger (fun _ => rfl) s
  next d _ =>
    rw [← withHandle_ledger d (Attached.requestShutdown disable reset) [] s]
    exact mapGlobals_ledger (fun _ => rfl) _

theorem newObject_ledger (obj : HandleObj) (s : System) :
    (s.newObject obj).1.ledger =
      { s.ledger with holds :=
          Function.update s.ledger.holds (some s.process.nextObject) obj.owned } :=
  setObject_ledger s.process.nextObject (some obj) s

theorem Fresh.holds {s : System} (h : s.Fresh) : s.ledger.holds (some s.process.nextObject) = none := by
  simp [ledger,owns,h s.process.nextObject le_rfl]

/-- An object that owns nothing does not show in the ledger. -/
theorem newObject_ledger_of_owned {obj : HandleObj} {s : System} (h : s.Fresh) (hobj : obj.owned = none) :
    (s.newObject obj).1.ledger = s.ledger := by
  rw [newObject_ledger, hobj, ← h.holds, Function.update_eq_self]

theorem requestHandle_cases (s : System) :
    (s.process.globals.requestEnable = true ∧ ∃ e, s.process.globals.requestHandleError = some e ∧
      s.requestHandle =
        (s.mapGlobals fun g => { g with requestHandleError := none },⟨[e],.null⟩)) ∨
    (s.process.globals.requestEnable = true ∧ s.process.globals.requestHandleError = none ∧
      s.process.globals.requestHandleReady = true ∧
      ∃ d, s.process.globals.requestHandle = some d ∧
      s.requestHandle = ((s.newObject ⟨some d,true⟩).1,⟨[],.object s.process.nextObject⟩)) ∨
    ((s.process.globals.requestEnable = true → s.process.globals.requestHandleError = none ∧
        (s.process.globals.requestHandle = none ∨ s.process.globals.requestHandleReady = false)) ∧
      s.requestHandle = (s,⟨[],.null⟩)) := by
  unfold requestHandle
  dsimp only
  cases hen : s.process.globals.requestEnable with
  | false => exact .inr (.inr ⟨by simp,rfl⟩)
  | true =>
    cases herr : s.process.globals.requestHandleError with
    | some e => exact .inl ⟨rfl,e,rfl,rfl⟩
    | none =>
      cases hh : s.process.globals.requestHandle with
      | none => exact .inr (.inr ⟨fun _ => ⟨rfl,.inl rfl⟩,rfl⟩)
      | some d =>
        cases hr : s.process.globals.requestHandleReady with
        | true => exact .inr (.inl ⟨rfl,rfl,rfl,d,rfl,rfl⟩)
        | false => exact .inr (.inr ⟨fun _ => ⟨rfl,.inr rfl⟩,rfl⟩)

theorem requestHandle_ledger {s : System} (h : s.Fresh) : s.requestHandle.1.ledger = s.ledger := by
  rcases s.requestHandle_cases with ⟨-,e,-,he⟩ | ⟨-,-,-,d,-,he⟩ | ⟨-,he⟩ <;> rw [he]
  · exact mapGlobals_ledger (fun _ => rfl) s
  · exact newObject_ledger_of_owned h rfl

theorem open_cases (args : OpenArgs) (cap : Option CapReplies) (r : OpenReplies) (s : System) :
    (∃ e, s.open args cap r = (s,⟨[e],.null⟩)) ∨
    ∃ h, s.open args cap r = (((s.allocate h).newObject ⟨some s.world.next,false⟩).1,
      ⟨[],.object s.process.nextObject⟩) := by
  unfold «open»
  split
  · exact .inl ⟨_,rfl⟩
  next names _ =>
    rcases s.tryOpen_cases names args.pid args.cpu false r with ⟨e,-,he⟩ | ⟨h,-,he⟩
    · exact .inl ⟨e,by rw [he]⟩
    · exact .inr ⟨h,by rw [he]; rfl⟩

theorem open_ledger {s : System} (args : OpenArgs) (cap : Option CapReplies) (r : OpenReplies) :
    (s.open args cap r).1.ledger = s.ledger ∨
    (s.open args cap r).1.ledger = s.ledger.acquire (some s.process.nextObject) := by
  rcases s.open_cases args cap r with ⟨e,he⟩ | ⟨h,he⟩ <;> rw [he]
  · exact .inl rfl
  · right
    rw [newObject_ledger, allocate_ledger]
    rfl

@[simp] theorem callMethod_ledger (w : ℕ) (m : Method) (s : System) :
    (s.callMethod w m).1.ledger = s.ledger := by
  unfold callMethod
  split
  · rfl
  split
  · rfl
  · exact withHandle_ledger ..

theorem holds_object {s : System} {w : ℕ} {obj : HandleObj} (h : s.process.objects w = some obj) :
    s.ledger.holds (some w) = obj.owned := by
  simp [ledger,owns,h]

/-- Closing an object, or its end: nothing happens, the object loses a native handle that it does not
own, or the one it owns is closed as well. -/
inductive Disposed (s : System) (w : ℕ) (r : ℕ → Status) : System → Prop
  | idle (nothing : s.ledger.holds (some w) = none) : Disposed s w r s
  | dropped {obj x} (found : s.process.objects w = some obj) (left : obj.Cleared x)
      (nothing : s.ledger.holds (some w) = none) : Disposed s w r (s.setObject w x)
  | closed {obj x d} (found : s.process.objects w = some obj) (left : obj.Cleared x)
      (owned : s.ledger.holds (some w) = some d) : Disposed s w r ((s.setObject w x).tryClose d r).1

theorem close_disposed (w : ℕ) (r : ℕ → Status) (s : System) : s.Disposed w r (s.close w r).1 := by
  unfold close
  split
  next h => exact .idle (by simp [ledger,owns,h])
  next obj h =>
    have hleft : obj.Cleared (some { obj with handle := none }) := fun y hy => (Option.some.inj hy).symm
    split
    next hh => exact .idle (by rw [holds_object h, HandleObj.owned, hh, ite_self])
    next d hd =>
      dsimp only
      split
      next hb => exact .dropped h hleft (by rw [holds_object h, HandleObj.owned, if_pos hb])
      next hb => exact .closed h hleft (by rw [holds_object h, HandleObj.owned, if_neg hb, hd])

theorem destroy_disposed (w : ℕ) (r : ℕ → Status) (s : System) : s.Disposed w r (s.destroy w r).1 := by
  unfold destroy
  split
  next h => exact .idle (by simp [ledger,owns,h])
  next obj h =>
    have hleft : obj.Cleared none := fun y hy => by cases hy
    dsimp only
    split
    next hh => exact .dropped h hleft (by rw [holds_object h, HandleObj.owned, hh, ite_self])
    next d hd =>
      split
      next hb => exact .dropped h hleft (by rw [holds_object h, HandleObj.owned, if_pos hb])
      next hb => exact .closed h hleft (by rw [holds_object h, HandleObj.owned, if_neg hb, hd])

/-- It releases what the object owns. -/
theorem Disposed.ledger {s t : System} {w : ℕ} {r : ℕ → Status} (h : s.Disposed w r t) :
    t.ledger = s.ledger.release (some w) := by
  cases h with
  | idle hnone => rw [Ledger.release_of_none hnone]
  | dropped found left hnone =>
    rw [setObject_ledger, left.owned, ← hnone, Function.update_eq_self, Ledger.release_of_none hnone]
  | closed found left howned =>
    rw [tryClose_ledger, setObject_ledger, left.owned, Ledger.release_of_some howned]

theorem Disposed.core {s t : System} {w : ℕ} {r : ℕ → Status} (h : s.Disposed w r t) :
    t.core = s.core := by
  cases h with
  | idle hnone => rfl
  | dropped found left hnone => rfl
  | closed found left howned => exact tryClose_core ..

/-- It leaves the object without a native handle. -/
theorem Disposed.table {s t : System} {w : ℕ} {r : ℕ → Status} (h : s.Disposed w r t) :
    t.table = s.table ∨ ∃ obj x, s.process.objects w = some obj ∧ obj.Cleared x ∧
      t.table = (Function.update s.process.objects w x,s.process.nextObject) := by
  cases h with
  | idle hnone => exact .inl rfl
  | dropped found left hnone => exact .inr ⟨_,_,found,left,rfl⟩
  | closed found left howned => exact .inr ⟨_,_,found,left,tryClose_table ..⟩

@[simp] theorem gshutdown_table (close : ℕ → Status) (s : System) :
    (s.gshutdown close).table = s.table := by
  unfold gshutdown
  split
  · rfl
  · exact tryClose_table ..

@[simp] theorem rinit_table (pid : ℤ) (r : RinitReplies) (s : System) :
    (s.rinit pid r).1.table = s.table := by
  have henter : (s.enterProcess pid r.close).table = s.table := by
    rw [enterProcess_eq]
    split
    · rw [changeProcess_eq]
      exact gshutdown_table ..
    · rfl
  have hopen : ∀ t : System, (t.openRequestHandle r.open).1.table = t.table := by
    intro t
    rcases t.openRequestHandle_cases r.open with ⟨-,he⟩ | ⟨-,e,he⟩ | ⟨-,metrics,h,-,-,he⟩ <;> rw [he] <;>
      rfl
  have hstart : ∀ t : System, (t.startRequestHandle r.reset r.enable).1.table = t.table := by
    intro t
    unfold startRequestHandle
    split
    · rfl
    · exact withHandle_table ..
  unfold rinit
  dsimp only
  split
  · exact henter
  · exact (hstart _).trans ((hopen _).trans henter)

@[simp] theorem rshutdown_table (disable : Native Status) (reset : ResetReplies) (s : System) :
    (s.rshutdown disable reset).1.table = s.table := by
  unfold rshutdown
  split
  · rfl
  · exact withHandle_table ..

@[simp] theorem callMethod_table (w : ℕ) (m : Method) (s : System) :
    (s.callMethod w m).1.table = s.table := by
  unfold callMethod
  split
  · rfl
  split
  · rfl
  · exact withHandle_table ..

/-- The operations that close the request handle: `GSHUTDOWN`, and `RINIT` in a new process. -/
def Retires (s : System) : ProcessOp → Prop
  | .rinit pid _ => s.process.globals.requestHandlePid ≠ pid
  | .gshutdown _ => True
  | _ => False

/-- What an operation does to ownership: nothing, an object acquires or releases a native handle, the
globals release theirs, after which they may acquire another, or they acquire one. -/
theorem step_ledger {s : System} (h : s.Fresh) (op : ProcessOp) :
    (s.step op).1.ledger = s.ledger ∨
    (∃ w, s.ledger.holds (some w) = none ∧ (s.step op).1.ledger = s.ledger.acquire (some w)) ∨
    (∃ w, (s.step op).1.ledger = s.ledger.release (some w)) ∨
    (s.Retires op ∧ ((s.step op).1.ledger = s.ledger.release none ∨
      (s.step op).1.ledger = (s.ledger.release none).acquire none)) ∨
    (s.ledger.holds none = none ∧ (s.step op).1.ledger = s.ledger.acquire none) := by
  cases op with
  | rinit pid r =>
    have hr := s.rinit_ledger pid r
    dsimp only at hr
    simp only [step]
    by_cases hpid : s.process.globals.requestHandlePid ≠ pid
    · rw [if_pos hpid] at hr
      exact .inr (.inr (.inr (.inl ⟨hpid,hr.imp_right And.right⟩)))
    · rw [if_neg hpid] at hr
      exact hr.imp_right fun hr => .inr (.inr (.inr hr))
  | rshutdown disable reset => exact .inl (s.rshutdown_ledger disable reset)
  | gshutdown close => exact .inr (.inr (.inr (.inl ⟨trivial,.inl (s.gshutdown_ledger close)⟩)))
  | requestHandle => exact .inl (requestHandle_ledger h)
  | «open» args cap r =>
    exact (s.open_ledger args cap r).imp_right fun he => .inl ⟨_,h.holds,he⟩
  | new => exact .inl (newObject_ledger_of_owned h rfl)
  | method w m => exact .inl (s.callMethod_ledger w m)
  | close w r => exact .inr (.inr (.inl ⟨w,(s.close_disposed w r).ledger⟩))
  | destroy w r => exact .inr (.inr (.inl ⟨w,(s.destroy_disposed w r).ledger⟩))
  | elapse d t => exact .inl rfl

/-- Every operation of a process is a sequence of trades between its owners. -/
theorem step_trades {s : System} (h : s.Fresh) (op : ProcessOp) :
    s.ledger.Trades (s.step op).1.ledger := by
  rcases step_ledger h op with he | ⟨w,hw,he⟩ | ⟨w,he⟩ | ⟨-,he | he⟩ | ⟨hnone,he⟩ <;> rw [he]
  · exact .refl
  · exact .acquire _ .refl hw
  · exact .release _ .refl
  · exact .release _ .refl
  · exact .acquire _ (.release _ .refl) (Ledger.release_holds_self none)
  · exact .acquire _ .refl hnone

/-- No other operation closes the request handle. -/
theorem step_request {s : System} (h : s.Fresh) (hs : s.ledger.Sound) {d : ℕ}
    (hd : s.process.globals.requestHandle = some d) {op : ProcessOp} (hop : ¬s.Retires op) :
    (s.step op).1.process.globals.requestHandle = some d ∧
    (s.step op).1.process.closes d = s.process.closes d := by
  change (s.step op).1.ledger.holds none = some d ∧ (s.step op).1.ledger.closes d = s.ledger.closes d
  replace hd : s.ledger.holds none = some d := hd
  rcases step_ledger h op with he | ⟨w,hw,he⟩ | ⟨w,he⟩ | ⟨hr,-⟩ | ⟨hnone,-⟩
  · rw [he]
    exact ⟨hd,rfl⟩
  · rw [he, Ledger.acquire_holds_of_ne (by simp)]
    exact ⟨hd,rfl⟩
  · rw [he, Ledger.release_holds_of_ne (by simp)]
    refine ⟨hd,Ledger.release_closes_of_ne fun hw => ?_⟩
    cases hs.unique hd hw
  · exact absurd hr hop
  · simp [hd] at hnone

/-- What an operation does to the objects: nothing, a new object appears, which is borrowed only
from the request handle, or one object loses its native handle or ends. -/
theorem step_table_cases (s : System) (op : ProcessOp) :
    (s.step op).1.table = s.table ∨
    (∃ obj, (obj.borrowed = true → obj.handle = s.process.globals.requestHandle) ∧
      (s.step op).1.table =
        (Function.update s.process.objects s.process.nextObject (some obj),s.process.nextObject+1)) ∨
    ∃ w obj x, s.process.objects w = some obj ∧ obj.Cleared x ∧
      (s.step op).1.table = (Function.update s.process.objects w x,s.process.nextObject) := by
  cases op with
  | rinit pid r => exact .inl (s.rinit_table pid r)
  | rshutdown disable reset => exact .inl (s.rshutdown_table disable reset)
  | gshutdown close => exact .inl (s.gshutdown_table close)
  | requestHandle =>
    simp only [step]
    rcases s.requestHandle_cases with ⟨-,e,-,he⟩ | ⟨-,-,-,d,hd,he⟩ | ⟨-,he⟩ <;> rw [he]
    · exact .inl rfl
    · exact .inr (.inl ⟨⟨some d,true⟩,fun _ => hd.symm,rfl⟩)
    · exact .inl rfl
  | «open» args cap r =>
    simp only [step]
    rcases s.open_cases args cap r with ⟨e,he⟩ | ⟨h,he⟩ <;> rw [he]
    · exact .inl rfl
    · exact .inr (.inl ⟨⟨some s.world.next,false⟩,by simp,rfl⟩)
  | new => exact .inr (.inl ⟨⟨none,false⟩,by simp,rfl⟩)
  | method w m => exact .inl (s.callMethod_table w m)
  | close w r =>
    exact (s.close_disposed w r).table.imp_right fun h => .inr ⟨w,h⟩
  | destroy w r =>
    exact (s.destroy_disposed w r).table.imp_right fun h => .inr ⟨w,h⟩
  | elapse d t => exact .inl rfl

theorem table_eq {s : System} {objects : ℕ → Option HandleObj} {next : ℕ} (h : s.table = (objects,next)) :
    s.process.objects = objects ∧ s.process.nextObject = next := by
  cases h
  exact ⟨rfl,rfl⟩

theorem step_fresh {s : System} (h : s.Fresh) (op : ProcessOp) : (s.step op).1.Fresh := by
  intro v hv
  rcases s.step_table_cases op with ht | ⟨obj,-,ht⟩ | ⟨w,obj,x,hw,-,ht⟩ <;>
    obtain ⟨hobj,hnext⟩ := table_eq ht <;> rw [hnext] at hv <;> rw [hobj]
  · exact h v hv
  · rw [Function.update_of_ne (by omega)]
    exact h v (by omega)
  · have hvw : v ≠ w := by
      rintro rfl
      simp [h v hv] at hw
    rw [Function.update_of_ne hvw]
    exact h v hv

/-- An object that exists keeps the way in which it was obtained until it ends. -/
def Obtained (w : ℕ) (borrowed : Bool) (s : System) : Prop :=
  w < s.process.nextObject ∧ ∀ obj, s.process.objects w = some obj → obj.borrowed = borrowed

theorem step_obtained {w : ℕ} {borrowed : Bool} {s : System} (h : s.Obtained w borrowed)
    (op : ProcessOp) : (s.step op).1.Obtained w borrowed := by
  obtain ⟨hlt,hobt⟩ := h
  unfold Obtained
  rcases s.step_table_cases op with ht | ⟨obj,-,ht⟩ | ⟨v,obj,x,hv,hx,ht⟩ <;>
    obtain ⟨hobj,hnext⟩ := table_eq ht <;> rw [hnext, hobj]
  · exact ⟨hlt,hobt⟩
  · rw [Function.update_of_ne (by omega)]
    exact ⟨by omega,hobt⟩
  · refine ⟨hlt,fun y hy => ?_⟩
    by_cases hwv : w = v
    · subst hwv
      rw [Function.update_self] at hy
      rw [hx y hy]
      exact hobt obj hv
    · rw [Function.update_of_ne hwv] at hy
      exact hobt y hy

theorem attached_of_live {s : System} {d : ℕ} (h : s.ledger.live d = true) : ∃ a, s.attached d = some a := by
  apply Option.ne_none_iff_exists'.mp
  rw [Ne, attached_eq_none_iff]
  intro hd
  simp [ledger,hd] at h

theorem withHandle_some {d : ℕ} {s : System} {a : Attached} (h : s.attached d = some a)
    (f : Attached → Attached × α) (lost : α) : s.withHandle d f lost = (s.store d (f a).1,(f a).2) := by
  simp [withHandle,h]

/-- Going through a live handle pointer is no misuse. -/
theorem withHandle_misused {d : ℕ} {s : System} (h : s.ledger.live d = true)
    (f : Attached → Attached × α) (lost : α) :
    (s.withHandle d f lost).1.process.misused = s.process.misused := by
  obtain ⟨a,ha⟩ := attached_of_live h
  rw [withHandle_some ha]
  rfl

theorem tryClose_misused {d : ℕ} {s : System} (h : s.ledger.live d = true) (r : ℕ → Status) :
    (s.tryClose d r).1.process.misused = s.process.misused := by
  obtain ⟨a,ha⟩ := attached_of_live h
  simp [tryClose,ha]

theorem gshutdown_misused {s : System} (h : s.ledger.Sound) (close : ℕ → Status) :
    (s.gshutdown close).process.misused = s.process.misused := by
  unfold gshutdown
  split
  · rfl
  next d hd => exact tryClose_misused (h.live_of_holds (k := none) hd) close

theorem startRequestHandle_misused {s : System} (h : s.ledger.Sound) (reset : ResetReplies)
    (enable : Native Status) :
    (s.startRequestHandle reset enable).1.process.misused = s.process.misused := by
  unfold startRequestHandle
  split
  · rfl
  next d hd => exact withHandle_misused (h.live_of_holds (k := none) hd) _ _

theorem openRequestHandle_sound {s : System} (h : s.ledger.Sound) (r : OpenReplies) :
    (s.openRequestHandle r).1.ledger.Sound := by
  rcases s.openRequestHandle_ledger r with he | ⟨hnone,he⟩ <;> rw [he]
  · exact h
  · exact h.acquire hnone

theorem enterProcess_sound {s : System} (h : s.ledger.Sound) (pid : ℤ) (close : ℕ → Status) :
    (s.enterProcess pid close).ledger.Sound := by
  rw [enterProcess_ledger]
  split
  · exact h.release none
  · exact h

theorem rinit_misused {s : System} (h : s.ledger.Sound) (pid : ℤ) (r : RinitReplies) :
    (s.rinit pid r).1.process.misused = s.process.misused := by
  have henter : (s.enterProcess pid r.close).process.misused = s.process.misused := by
    have hready : (s.mapGlobals fun g => { g with requestHandleReady := false }).ledger = s.ledger :=
      mapGlobals_ledger (fun _ => rfl) s
    rw [enterProcess_eq]
    split
    · rw [changeProcess_eq]
      exact gshutdown_misused (hready ▸ h) r.close
    · rfl
  have hopen : ∀ t : System, (t.openRequestHandle r.open).1.process.misused = t.process.misused := by
    intro t
    rcases t.openRequestHandle_cases r.open with ⟨-,he⟩ | ⟨-,e,he⟩ | ⟨-,metrics,h,-,-,he⟩ <;> rw [he] <;>
      rfl
  unfold rinit
  dsimp only
  split
  · exact henter
  · rw [startRequestHandle_misused (openRequestHandle_sound (enterProcess_sound h pid r.close) r.open),
      hopen, henter]

/-- Every borrowed object refers to the request handle, and no freed handle was ever accessed. -/
structure Lent (s : System) : Prop where
  requested : ∀ {w d}, s.process.objects w = some ⟨some d,true⟩ →
    s.process.globals.requestHandle = some d
  unmisused : s.process.misused = false

/-- The promise of PHP: the objects of a request are gone before the next `RINIT` or `GSHUTDOWN`. -/
def ObjectsGone (s : System) : ProcessOp → Prop
  | .rinit _ _ => ∀ w, s.process.objects w = none
  | .gshutdown _ => ∀ w, s.process.objects w = none
  | _ => True

/-- The native handle of every object is live. -/
theorem Lent.live {s : System} (h : s.Lent) (hs : s.ledger.Sound) {w d : ℕ} {borrowed : Bool}
    (hw : s.process.objects w = some ⟨some d,borrowed⟩) : s.ledger.live d = true := by
  cases borrowed with
  | true => exact hs.live_of_holds (k := none) (h.requested hw)
  | false => exact hs.live_of_holds (k := some w) (by simp [ledger,owns,hw,HandleObj.owned])

theorem Disposed.misused {s t : System} {w : ℕ} {r : ℕ → Status} (h : s.Disposed w r t)
    (hs : s.ledger.Sound) : t.process.misused = s.process.misused := by
  cases h with
  | idle hnone => rfl
  | dropped found left hnone => rfl
  | closed found left howned =>
    apply tryClose_misused
    rw [setObject_ledger]
    exact hs.live_of_holds howned

theorem step_misused {s : System} (h : s.Lent) (hs : s.ledger.Sound) (op : ProcessOp) :
    (s.step op).1.process.misused = s.process.misused := by
  cases op with
  | rinit pid r => exact rinit_misused hs pid r
  | rshutdown disable reset =>
    change (s.rshutdown disable reset).1.process.misused = _
    unfold rshutdown
    split
    · rfl
    next d hd => exact withHandle_misused (hs.live_of_holds (k := none) hd) _ _
  | gshutdown close => exact gshutdown_misused hs close
  | requestHandle =>
    simp only [step]
    rcases s.requestHandle_cases with ⟨-,e,-,he⟩ | ⟨-,-,-,d,hd,he⟩ | ⟨-,he⟩ <;> rw [he] <;> rfl
  | «open» args cap r =>
    simp only [step]
    rcases s.open_cases args cap r with ⟨e,he⟩ | ⟨h,he⟩
    · rw [he]
    · rw [he]
      rfl
  | new => rfl
  | method w m =>
    change (s.callMethod w m).1.process.misused = _
    unfold callMethod
    split
    · rfl
    next obj hobj =>
      split
      · rfl
      next d hd =>
        obtain ⟨handle,borrowed⟩ := obj
        cases hd
        exact withHandle_misused (h.live hs hobj) _ _
  | close w r => exact (s.close_disposed w r).misused hs
  | destroy w r => exact (s.destroy_disposed w r).misused hs
  | elapse d t => rfl

/-- A borrowed object refers to what the request handle was before the operation. -/
theorem step_requested {s : System} (h : s.Lent) {op : ProcessOp} {w d : ℕ}
    (hw : (s.step op).1.process.objects w = some ⟨some d,true⟩) :
    s.process.globals.requestHandle = some d := by
  rcases s.step_table_cases op with ht | ⟨obj,hnew,ht⟩ | ⟨v,obj,x,hv,hx,ht⟩ <;>
    rw [(table_eq ht).1] at hw
  · exact h.requested hw
  · by_cases hwn : w = s.process.nextObject
    · subst hwn
      rw [Function.update_self] at hw
      cases hw
      exact (hnew rfl).symm
    · rw [Function.update_of_ne hwn] at hw
      exact h.requested hw
  · by_cases hwv : w = v
    · subst hwv
      rw [Function.update_self] at hw
      cases hx _ hw
    · rw [Function.update_of_ne hwv] at hw
      exact h.requested hw

theorem step_lent {s : System} (h : s.Lent) (hf : s.Fresh) (hs : s.ledger.Sound) {op : ProcessOp}
    (hop : s.ObjectsGone op) : (s.step op).1.Lent := by
  refine ⟨?_,(step_misused h hs op).trans h.unmisused⟩
  intro w d hw
  have hd := step_requested h hw
  by_cases hr : s.Retires op
  · -- nothing is lent while the request handle is closed
    exfalso
    cases op with
    | rinit pid r =>
      have ht := s.rinit_table pid r
      rw [show (s.step (.rinit pid r)).1.process.objects = s.process.objects from congrArg Prod.fst ht,
        hop w] at hw
      cases hw
    | gshutdown close =>
      have ht := s.gshutdown_table close
      rw [show (s.step (.gshutdown close)).1.process.objects = s.process.objects from congrArg Prod.fst ht,
        hop w] at hw
      cases hw
    | _ => exact hr
  · exact (step_request hf hs hd hr).1

/-- What holds of every process, whatever its scripts do with their objects. -/
structure Sound (s : System) : Prop where
  fresh : s.Fresh
  owned : s.ledger.Sound

theorem step_sound {s : System} (h : s.Sound) (op : ProcessOp) : (s.step op).1.Sound :=
  ⟨step_fresh h.fresh op,(step_trades h.fresh op).sound h.owned⟩

theorem start_sound (self : ℕ) (requestEnable : Bool) (requestMetrics : Option String) (world : World) :
    (start self requestEnable requestMetrics world).Sound := by
  refine ⟨fun _ _ => rfl,?_⟩
  have hnone : ∀ k, (start self requestEnable requestMetrics world).ledger.holds k = none := by
    intro k
    cases k <;> rfl
  refine ⟨?_,?_,?_,?_,?_,?_⟩
  · intro k d h
    simp [hnone] at h
  · intro k k' d h
    simp [hnone] at h
  · intro d h
    cases h
  · exact fun _ => rfl
  · exact fun _ => Nat.zero_le _
  · exact fun _ => ⟨rfl,rfl⟩

theorem final_sound {s : System} (h : s.Sound) (ops : List ProcessOp) : (final step s ops).Sound :=
  final_invariant_all step (I := Sound) (fun _ op h => step_sound h op) ops h

end System

end Perfidious
