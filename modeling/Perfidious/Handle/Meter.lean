import Perfidious.Handle.Alike
import Perfidious.Library.Refine

/-! What a handle is for: a meter that is switched on and off, cleared and read. The meter knows no
descriptors, baselines or answers of the kernel, only the time that passes and what a caller sees of an
operation: whether it threw, and what it returned. -/
namespace Perfidious
open Library

/-- The events that have passed while the meter was on, since it was last cleared, and the times since
it was set up. The positions are those of the group, the leader first. -/
structure Meter where
  on : Bool
  timeEnabled : ℕ
  timeRunning : ℕ
  counts : ℕ → ℕ

namespace Meter

def start : Meter := ⟨false,0,0,fun _ => 0⟩

def pass (t : Tick) (m : Meter) : Meter :=
  if m.on then
    { m with
      timeEnabled := m.timeEnabled + t.enabledTime
      timeRunning := m.timeRunning + t.runningTime
      counts := fun i => m.counts i + t.counts i }
  else m

def switch (on : Bool) (m : Meter) : Meter := { m with on := on }

/-- Times are not cleared. -/
def clear (m : Meter) : Meter := { m with counts := fun _ => 0 }

/-- Numbers that 64 bits can hold. -/
structure Fits (m : Meter) : Prop where
  enabled : m.timeEnabled < 2^64
  running : m.timeRunning < 2^64
  counts : ∀ i, m.counts i < 2^64

/-- What the meter shows under the names of its events. -/
def array (names : List String) (m : Meter) : PhpArray :=
  (names.mapIdx fun i name => (symtableKey name,(m.counts (i+1) : ℤ))).foldl
    (fun a e => update a e.1 e.2) []

def result (names : List String) (m : Meter) : ReadResult :=
  ⟨m.timeEnabled,m.timeRunning,m.array names⟩

/-- Switching has its effect if and only if it does not throw. -/
inductive Switched (on : Bool) (before : Tick) (m : Meter) : Bool → Meter → Prop
  | done : Switched on before m false ((m.pass before).switch on)
  | refused : Switched on before m true (m.pass before)

/-- A reset that does not throw clears the meter and leaves it on or off. One that throws may have
cleared it, and may leave it off. -/
inductive Reset (before : Tick) (m : Meter) : Bool → Meter → Prop
  | done : Reset before m false (m.pass before).clear
  | refused : Reset before m true m
  | kept (on : Bool) (was : on = true → m.on = true) : Reset before m true ((m.pass before).switch on)
  | stopped (was : m.on = true) : Reset before m true ((m.pass before).clear.switch false)

/-- A read that does not throw shows what has passed before it. One that throws may leave the meter
off, or on all the while. -/
inductive Read (r : PausedReplies) (m : Meter) : Bool → Meter → Prop
  | done : Read r m false (m.pass r.disable.elapsed)
  | failed (on : Bool) (was : on = true → m.on = true) :
    Read r m true ((m.pass r.disable.elapsed).switch on)
  | unpaused (was : m.on = true) :
    Read r m true (((m.pass r.disable.elapsed).pass r.read.elapsed).pass r.enable.elapsed)

end Meter

def MethodOutcome.threw (o : MethodOutcome) : Bool := !o.thrown.isEmpty

def HandleOutcome.threw : HandleOutcome → Bool
  | .method o => o.threw
  | .hook raised => !raised.isEmpty
  | .elapsed => false

namespace Meter

/-- What a meter may do in an operation that ends as given. -/
def Step (names : List String) (m : Meter) : HandleOp → HandleOutcome → Meter → Prop
  | .method (.enable r),.method o,m' => Switched true r.elapsed m o.threw m'
  | .method (.disable r),.method o,m' => Switched false r.elapsed m o.threw m'
  | .method (.reset r),.method o,m' => Reset r.disable.elapsed m o.threw m'
  | .method (.read r),.method o,m' =>
    Read r m o.threw m' ∧ (o.threw = false → m'.Fits → o.value = .result (m'.result names))
  | .method (.readArray r),.method o,m' =>
    Read r m o.threw m' ∧ (o.threw = false → m'.Fits → o.value = .array (m'.array names))
  | .method (.rawStream _ _),.method _,m' => m' = m
  | .requestInit reset enable,.hook raised,m' =>
    (raised = [] ∧
      ∃ m₁, Reset reset.disable.elapsed m false m₁ ∧ Switched true enable.elapsed m₁ false m') ∨
    (raised ≠ [] ∧ (Reset reset.disable.elapsed m true m' ∨
      ∃ m₁, Reset reset.disable.elapsed m false m₁ ∧ Switched true enable.elapsed m₁ true m'))
  | .requestShutdown disable reset,.hook raised,m' =>
    ∃ kept failed m₁, Switched false disable.elapsed m kept m₁ ∧
      Reset reset.disable.elapsed m₁ failed m' ∧ (raised = [] ↔ kept = false ∧ failed = false)
  | .elapse t,.elapsed,m' => m' = m.pass t
  | _,_,_ => False

/-- What it does if nothing throws. -/
def next (m : Meter) : HandleOp → Meter
  | .method (.enable r) => (m.pass r.elapsed).switch true
  | .method (.disable r) => (m.pass r.elapsed).switch false
  | .method (.reset r) => (m.pass r.disable.elapsed).clear
  | .method (.read r) | .method (.readArray r) => m.pass r.disable.elapsed
  | .method (.rawStream _ _) => m
  | .requestInit reset enable =>
    (((m.pass reset.disable.elapsed).clear).pass enable.elapsed).switch true
  | .requestShutdown disable _ =>
    ((m.pass disable.elapsed).switch false).clear
  | .elapse t => m.pass t

theorem pass_on (t : Tick) (m : Meter) : (m.pass t).on = m.on := by
  unfold pass
  split <;> rfl

theorem pass_off {m : Meter} (h : m.on = false) (t : Tick) : m.pass t = m := by
  simp [pass,h]

theorem switch_self {on : Bool} {m : Meter} (h : m.on = on) : m.switch on = m := by
  rw [← h]
  rfl

theorem Switched.of_done {on : Bool} {before : Tick} {m m' : Meter}
    (h : Switched on before m false m') : m' = (m.pass before).switch on := by
  cases h
  rfl

theorem Reset.of_done {before : Tick} {m m' : Meter} (h : Reset before m false m') :
    m' = (m.pass before).clear := by
  cases h
  rfl

theorem Read.of_done {r : PausedReplies} {m m' : Meter} (h : Read r m false m') :
    m' = m.pass r.disable.elapsed := by
  cases h
  rfl

theorem Step.eq_next {names : List String} {m m' : Meter} {op : HandleOp} {o : HandleOutcome}
    (h : Step names m op o m') (ho : o.threw = false) : m' = m.next op := by
  cases o with
  | method o =>
    have ho : o.threw = false := ho
    cases op with
    | method method =>
      cases method with
      | enable r =>
        have h : Switched true r.elapsed m o.threw m' := h
        rw [ho] at h
        exact h.of_done
      | disable r =>
        have h : Switched false r.elapsed m o.threw m' := h
        rw [ho] at h
        exact h.of_done
      | reset r =>
        have h : Reset r.disable.elapsed m o.threw m' := h
        rw [ho] at h
        exact h.of_done
      | read r | readArray r =>
        have h : Read r m o.threw m' := h.1
        rw [ho] at h
        exact h.of_done
      | rawStream idx r => exact h
    | _ => cases h
  | hook raised =>
    have hraised : raised = [] := by simpa [HandleOutcome.threw] using ho
    cases op with
    | requestInit reset enable =>
      obtain ⟨-,m₁,hreset,hswitched⟩ | ⟨hne,-⟩ := h
      · rw [hswitched.of_done, hreset.of_done]
        rfl
      · exact absurd hraised hne
    | requestShutdown disable reset =>
      obtain ⟨kept,failed,m₁,hswitched,hreset,hiff⟩ := h
      obtain ⟨rfl,rfl⟩ := hiff.mp hraised
      rw [hreset.of_done, hswitched.of_done]
      rfl
    | method method => cases method <;> cases h
    | elapse t => cases h
  | elapsed =>
    cases op with
    | elapse t => exact h
    | method method => cases method <;> cases h
    | _ => cases h

end Meter

/-- The meter that a group is. -/
def EventGroup.meter (g : EventGroup) : Meter := ⟨g.enabled,g.timeEnabled,g.timeRunning,g.counts⟩

namespace EventGroup

@[simp] theorem meter_elapse (t : Tick) (g : EventGroup) : (g.elapse t).meter = g.meter.pass t := by
  unfold elapse Meter.pass meter
  dsimp only
  split <;> rfl

@[simp] theorem meter_issue (call : NativeCall) (g : EventGroup) : (g.issue call).meter = g.meter := rfl

end EventGroup

namespace Attached

/-- Switching that the kernel accepts. -/
theorem trySetEnabled_done {r : Native Status} (hr : r.answer = none) (on : Bool) (a : Attached) :
    ∃ b, a.trySetEnabled on r = (b,0) ∧ b.handle.enabled = on ∧
      b.group.meter = (a.group.meter.pass r.elapsed).switch on := by
  refine ⟨_,trySetEnabled_of_none hr on a,rfl,?_⟩
  rw [← EventGroup.meter_elapse]
  rfl

/-- Switching that it refuses. -/
theorem trySetEnabled_refused {r : Native Status} {errno : Errno} (hr : r.answer = some errno) (on : Bool)
    (a : Attached) :
    ∃ b, a.trySetEnabled on r = (b,nonzeroErrno errno) ∧ b.handle = a.handle ∧
      b.group.meter = a.group.meter.pass r.elapsed :=
  ⟨_,trySetEnabled_of_some hr on a,rfl,EventGroup.meter_elapse _ _⟩

theorem trySetEnabled_meter (on : Bool) (r : Native Status) (a : Attached) :
    Meter.Switched on r.elapsed a.group.meter ((a.trySetEnabled on r).2 != 0)
      (a.trySetEnabled on r).1.group.meter := by
  cases hr : r.answer with
  | none =>
    obtain ⟨b,hb,-,hmeter⟩ := trySetEnabled_done hr on a
    rw [hb, hmeter]
    exact .done
  | some errno =>
    obtain ⟨b,hb,-,hmeter⟩ := trySetEnabled_refused hr on a
    rw [hb, hmeter, bne_iff_ne.mpr (nonzeroErrno_ne_zero errno)]
    exact .refused

/-- The middle of a reset finds the group stopped. -/
theorem resetBetween_meter {a : Attached} (hoff : a.group.enabled = false) (read : Native ReadAnswer)
    (reset : Native Status) :
    ((a.resetBetween read reset).2 = 0 ∧
      (a.resetBetween read reset).1.group.meter = a.group.meter.clear) ∨
    ((a.resetBetween read reset).2 ≠ 0 ∧ (a.resetBetween read reset).1.group.meter = a.group.meter) := by
  have hread : a.afterRead read = a.group.issue .read := by
    rw [afterRead, EventGroup.elapse_disabled hoff]
  have hstill : (a.group.issue .read).elapse reset.elapsed = a.group.issue .read :=
    EventGroup.elapse_disabled (g := a.group.issue .read) hoff _
  by_cases hfull : read.answer = .full
  case neg =>
    obtain ⟨n,hn,hunread⟩ := resetBetween_of_unread hfull reset
    rw [hunread, hread]
    exact .inr ⟨hn,rfl⟩
  cases hreset : reset.answer with
  | none =>
    rw [resetBetween_of_none hfull hreset, hread, hstill]
    exact .inl ⟨rfl,rfl⟩
  | some errno =>
    rw [resetBetween_of_some hfull hreset, hread, hstill]
    exact .inr ⟨nonzeroErrno_ne_zero errno,rfl⟩

/-- What is left of a reset once the group is stopped: it is read, cleared and started again. -/
theorem resume_meter {a : Attached} (hon : a.group.meter.on = true) {before : Tick} {b : Attached}
    (hb : b.group.meter = (a.group.meter.pass before).switch false) (r : ResetReplies) :
    Meter.Reset before a.group.meter
      ((if (b.resetBetween r.read r.reset).2 = 0 then
        ((b.resetBetween r.read r.reset).1.trySetEnabled true r.enable).2
        else (b.resetBetween r.read r.reset).2) != 0)
      ((b.resetBetween r.read r.reset).1.trySetEnabled true r.enable).1.group.meter := by
  have hoff : b.group.enabled = false := congrArg Meter.on hb
  have hcleared : ((a.group.meter.pass before).clear).on = true := (Meter.pass_on _ _).trans hon
  obtain ⟨hcode,hmeter⟩ | ⟨hcode,hmeter⟩ := resetBetween_meter hoff r.read r.reset
  · rw [if_pos hcode]
    cases henable : r.enable.answer with
    | none =>
      obtain ⟨c,hc,-,hresumed⟩ := trySetEnabled_done henable true (b.resetBetween r.read r.reset).1
      rw [hc, hresumed, hmeter, hb, Meter.pass_off rfl]
      have hclear : (((a.group.meter.pass before).switch false).clear).switch true =
          (a.group.meter.pass before).clear := Meter.switch_self hcleared
      rw [hclear]
      exact .done
    | some errno =>
      obtain ⟨c,hc,-,hresumed⟩ := trySetEnabled_refused henable true (b.resetBetween r.read r.reset).1
      rw [hc, hresumed, hmeter, hb, Meter.pass_off rfl, bne_iff_ne.mpr (nonzeroErrno_ne_zero errno)]
      exact .stopped hon
  · rw [if_neg hcode, bne_iff_ne.mpr hcode]
    cases henable : r.enable.answer with
    | none =>
      obtain ⟨c,hc,-,hresumed⟩ := trySetEnabled_done henable true (b.resetBetween r.read r.reset).1
      rw [hc, hresumed, hmeter, hb, Meter.pass_off rfl]
      exact .kept true fun _ => hon
    | some errno =>
      obtain ⟨c,hc,-,hresumed⟩ := trySetEnabled_refused henable true (b.resetBetween r.read r.reset).1
      rw [hc, hresumed, hmeter, hb, Meter.pass_off rfl]
      exact .kept false nofun

theorem tryReset_meter {a : Attached} (h : a.InSync) (r : ResetReplies) :
    Meter.Reset r.disable.elapsed a.group.meter ((a.tryReset r).2 != 0)
      (a.tryReset r).1.group.meter := by
  unfold tryReset
  split
  · exact .refused
  split
  next hen =>
    have hon : a.group.meter.on = true := h.symm.trans hen
    cases hdisable : r.disable.answer with
    | some errno =>
      obtain ⟨b,hb,-,hmeter⟩ := trySetEnabled_refused hdisable false a
      have hne := nonzeroErrno_ne_zero errno
      rw [hb]
      dsimp only
      rw [if_pos hne]
      dsimp only
      rw [bne_iff_ne.mpr hne, hmeter, ← Meter.switch_self ((Meter.pass_on _ _).trans hon)]
      exact .kept true fun _ => hon
    | none =>
      obtain ⟨b,hb,-,hmeter⟩ := trySetEnabled_done hdisable false a
      rw [hb]
      exact resume_meter hon hmeter r
  next hen =>
    have hoff : a.group.enabled = false := h.symm.trans (by simpa using hen)
    obtain ⟨hcode,hmeter⟩ | ⟨hcode,hmeter⟩ := resetBetween_meter hoff r.read r.reset
    · have hdone : Meter.Reset r.disable.elapsed a.group.meter false
          (a.group.meter.pass r.disable.elapsed).clear := .done
      rw [Meter.pass_off hoff] at hdone
      rw [hcode, hmeter]
      exact hdone
    · rw [bne_iff_ne.mpr hcode, hmeter]
      exact .refused

end Attached

theorem uint64ToZendLong_ok {value : UInt64} {long : ℤ} (h : uint64ToZendLong value = .ok long) :
    long = value.toNat := by
  unfold uint64ToZendLong at h
  split at h <;> cases h
  rfl

theorem decodeNamed_ok {names : List String} {counts : ℕ → ℕ} (hfits : ∀ i, counts i < 2^64)
    {array values : PhpArray} (h : decodeNamed (names.map some) counts array = .ok values) :
    values = (names.mapIdx fun i name => (symtableKey name,(counts i : ℤ))).foldl
      (fun a e => update a e.1 e.2) array := by
  induction names generalizing counts array with
  | nil =>
    cases h
    rfl
  | cons name names ih =>
    rw [List.map_cons, decodeNamed] at h
    by_cases hle : counts 0 ≤ zendLongMax
    · rw [uint64ToZendLong_ofNat hle] at h
      rw [List.mapIdx_cons, List.foldl_cons]
      exact ih (fun i => hfits (i+1)) h
    · have hn : (UInt64.ofNat (counts 0)).toNat = counts 0 := UInt64.toNat_ofNat_of_lt' (hfits 0)
      rw [uint64ToZendLong_of_gt (by rw [hn]; exact not_le.mp hle)] at h
      cases h

namespace Attached
variable {names : List String}

/-- A reading that comes of a group is what its meter shows. -/
theorem readToArrayWithTimes_meter {a : Attached} (hn : a.Names names) {r : Native ReadAnswer}
    {reading : Reading} (h : (a.readToArrayWithTimes r).2 = .ok reading)
    (hfits : (a.group.meter.pass r.elapsed).Fits) :
    let m := a.group.meter.pass r.elapsed
    reading.timeEnabled.toNat = m.timeEnabled ∧ reading.timeRunning.toNat = m.timeRunning ∧
      reading.values = m.array names := by
  intro m
  unfold readToArrayWithTimes at h
  cases hr : r.answer with
  | failed errno | short stale =>
    rw [hr] at h
    cases h
  | full =>
    rw [hr] at h
    dsimp only at h
    rw [decodeRecord_names hn _ (by rw [EventGroup.issue]; simp)] at h
    have hm : m = ((a.group.elapse r.elapsed).issue .read).meter := by
      rw [EventGroup.meter_issue, EventGroup.meter_elapse]
    generalize (a.group.elapse r.elapsed).issue .read = g at h hm
    have hfits : g.meter.Fits := hm ▸ hfits
    cases hvalues : decodeNamed (names.map some) (fun i => g.counts (i+1)) [] with
    | error e =>
      rw [hvalues] at h
      cases h
    | ok values =>
      rw [hvalues] at h
      cases h
      rw [hm]
      exact ⟨UInt64.toNat_ofNat_of_lt' hfits.enabled,UInt64.toNat_ofNat_of_lt' hfits.running,
        decodeNamed_ok (fun i => hfits.counts (i+1)) hvalues⟩

theorem readToResult_meter {a : Attached} (hn : a.Names names) {r : Native ReadAnswer} {value : Value}
    (h : (a.readToResult r).2 = .ok value) (hfits : (a.group.meter.pass r.elapsed).Fits) :
    value = .result ((a.group.meter.pass r.elapsed).result names) := by
  change ((a.readToArrayWithTimes r).2.bind Reading.toResult).map .result = .ok value at h
  cases hreading : (a.readToArrayWithTimes r).2 with
  | error e =>
    rw [hreading] at h
    cases h
  | ok reading =>
    obtain ⟨henabled,hrunning,hvalues⟩ := readToArrayWithTimes_meter hn hreading hfits
    rw [hreading] at h
    change reading.toResult.map .result = .ok value at h
    unfold Reading.toResult at h
    cases hE : uint64ToZendLong reading.timeEnabled with
    | error e =>
      rw [hE] at h
      cases h
    | ok timeEnabled =>
      cases hR : uint64ToZendLong reading.timeRunning with
      | error e =>
        rw [hE, hR] at h
        cases h
      | ok timeRunning =>
        rw [hE, hR] at h
        cases h
        rw [uint64ToZendLong_ok hE, uint64ToZendLong_ok hR, henabled, hrunning, hvalues]
        rfl

theorem readToArray_meter {a : Attached} (hn : a.Names names) {r : Native ReadAnswer} {value : Value}
    (h : (a.readToArray r).2 = .ok value) (hfits : (a.group.meter.pass r.elapsed).Fits) :
    value = .array ((a.group.meter.pass r.elapsed).array names) := by
  change (a.readToArrayWithTimes r).2.map (fun reading => Value.array reading.values) = .ok value at h
  cases hreading : (a.readToArrayWithTimes r).2 with
  | error e =>
    rw [hreading] at h
    cases h
  | ok reading =>
    rw [hreading] at h
    cases h
    exact congrArg Value.array (readToArrayWithTimes_meter hn hreading hfits).2.2

section Paused
variable {read : Native ReadAnswer → Attached → Attached × Except Error Value}

/-- A paused read does to the meter what the meter allows; what it returns was read while the group
stood still. -/
theorem readPaused_meter (hread : ReadsOnce read) {a : Attached} (h : a.InSync) (r : PausedReplies) :
    Meter.Read r a.group.meter (readPaused read r a).2.threw (readPaused read r a).1.group.meter ∧
    ((readPaused read r a).2.threw = false → ∃ b, b.fixed = a.fixed ∧
      b.group.meter.pass r.read.elapsed = (readPaused read r a).1.group.meter.switch false ∧
      (read r.read b).2 = .ok (readPaused read r a).2.value) := by
  have honce : ∀ b : Attached, (read r.read b).1.group.meter = b.group.meter.pass r.read.elapsed := by
    intro b
    rw [hread]
    exact EventGroup.meter_elapse _ _
  rw [readPaused_fst, readPaused_snd]
  by_cases hen : a.handle.enabled = true
  case neg =>
    have hoff : a.group.meter.on = false := h.symm.trans (by simpa using hen)
    rw [if_neg hen, if_neg hen, honce, Meter.pass_off hoff]
    cases hvalue : (read r.read a).2 with
    | error e =>
      refine ⟨?_,nofun⟩
      have := Meter.Read.failed (r := r) (m := a.group.meter) false nofun
      rw [Meter.pass_off hoff, Meter.switch_self hoff] at this
      exact this
    | ok value =>
      have := Meter.Read.done (r := r) (m := a.group.meter)
      rw [Meter.pass_off hoff] at this
      exact ⟨this,fun _ => ⟨a,rfl,by rw [Meter.pass_off hoff, Meter.switch_self hoff],hvalue⟩⟩
  have hon : a.group.meter.on = true := h.symm.trans hen
  rw [if_pos hen, if_pos hen]
  dsimp only [disable, enable]
  have hpassed : (a.group.meter.pass r.disable.elapsed).on = true := (Meter.pass_on _ _).trans hon
  cases hdisable : r.disable.answer with
  | some errno =>
    -- the group is read as it runs on
    obtain ⟨b,hb,-,hmeter⟩ := trySetEnabled_refused hdisable false a
    have hresumed : ((read r.read b).1.trySetEnabled true r.enable).1.group.meter =
        ((a.group.meter.pass r.disable.elapsed).pass r.read.elapsed).pass r.enable.elapsed := by
      cases henable : r.enable.answer with
      | none =>
        obtain ⟨c,hc,-,hresumed⟩ := trySetEnabled_done henable true (read r.read b).1
        rw [hc, hresumed, honce, hmeter]
        exact Meter.switch_self (by rw [Meter.pass_on, Meter.pass_on, hpassed])
      | some errno' =>
        obtain ⟨c,hc,-,hresumed⟩ := trySetEnabled_refused henable true (read r.read b).1
        rw [hc, hresumed, honce, hmeter]
    rw [hb, hresumed]
    have hthrown : reportIoctlResult (nonzeroErrno errno) = [ioctlError (nonzeroErrno errno)] :=
      if_pos (nonzeroErrno_ne_zero errno)
    dsimp only
    rw [hthrown]
    cases (read r.read b).2 with
    | error e | ok value => exact ⟨.unpaused hon,nofun⟩
  | none =>
    obtain ⟨b,hb,-,hmeter⟩ := trySetEnabled_done hdisable false a
    have hread' : (read r.read b).1.group.meter =
        (a.group.meter.pass r.disable.elapsed).switch false := by
      rw [honce, hmeter, Meter.pass_off rfl]
    have hfixed : b.fixed = a.fixed := by
      rw [← trySetEnabled_fixed a false r.disable, hb]
    rw [hb]
    cases henable : r.enable.answer with
    | none =>
      obtain ⟨c,hc,-,hresumed⟩ := trySetEnabled_done henable true (read r.read b).1
      have hback : c.group.meter = a.group.meter.pass r.disable.elapsed := by
        rw [hresumed, hread', Meter.pass_off rfl]
        exact Meter.switch_self hpassed
      rw [hc]
      dsimp only
      rw [hback]
      cases hvalue : (read r.read b).2 with
      | error e =>
        have hfailed := Meter.Read.failed (r := r) (m := a.group.meter) true fun _ => hon
        rw [Meter.switch_self hpassed] at hfailed
        exact ⟨hfailed,nofun⟩
      | ok value => exact ⟨.done,fun _ => ⟨b,hfixed,by rw [hmeter, Meter.pass_off rfl],hvalue⟩⟩
    | some errno =>
      obtain ⟨c,hc,-,hresumed⟩ := trySetEnabled_refused henable true (read r.read b).1
      have hthrown : reportIoctlResult (nonzeroErrno errno) = [ioctlError (nonzeroErrno errno)] :=
        if_pos (nonzeroErrno_ne_zero errno)
      rw [hc]
      dsimp only
      rw [hresumed, hread', Meter.pass_off rfl, hthrown]
      cases (read r.read b).2 with
      | error e | ok value => exact ⟨.failed false nofun,nofun⟩

end Paused

theorem report_threw (errorNumber : Errno) :
    (!(reportIoctlResult errorNumber).isEmpty) = (errorNumber != 0) := by
  unfold reportIoctlResult
  by_cases h : errorNumber = 0 <;> simp [h]

theorem raised_threw (operation : String) (errorNumber : Errno) :
    raisedError operation errorNumber = [] ↔ (errorNumber != 0) = false := by
  unfold raisedError
  by_cases h : errorNumber = 0 <;> simp [h]

theorem requestInit_meter {a : Attached} (h : a.InSync) (reset : ResetReplies) (enable : Native Status) :
    let m' := (a.requestInit reset enable).1.group.meter
    let raised := (a.requestInit reset enable).2
    (raised = [] ∧ ∃ m₁, Meter.Reset reset.disable.elapsed a.group.meter false m₁ ∧
      Meter.Switched true enable.elapsed m₁ false m') ∨
    (raised ≠ [] ∧ (Meter.Reset reset.disable.elapsed a.group.meter true m' ∨
      ∃ m₁, Meter.Reset reset.disable.elapsed a.group.meter false m₁ ∧
        Meter.Switched true enable.elapsed m₁ true m')) := by
  have hreset := tryReset_meter h reset
  have henable := trySetEnabled_meter true enable (a.tryReset reset).1
  unfold requestInit
  dsimp only
  by_cases hcode : (a.tryReset reset).2 = 0
  · rw [if_neg (not_not.mpr hcode)]
    rw [hcode] at hreset
    by_cases hswitch : ((a.tryReset reset).1.trySetEnabled true enable).2 = 0
    · rw [hswitch] at henable
      exact .inl ⟨(raised_threw _ _).mpr (by rw [hswitch]; rfl),_,hreset,henable⟩
    · rw [bne_iff_ne.mpr hswitch] at henable
      refine .inr ⟨fun hraised => ?_,.inr ⟨_,hreset,henable⟩⟩
      rw [raised_threw, bne_iff_ne.mpr hswitch] at hraised
      cases hraised
  · rw [if_pos hcode]
    rw [bne_iff_ne.mpr hcode] at hreset
    refine .inr ⟨fun hraised => ?_,.inl hreset⟩
    rw [raised_threw, bne_iff_ne.mpr hcode] at hraised
    cases hraised

theorem requestShutdown_meter {a : Attached} (h : a.InSync) (disable : Native Status)
    (reset : ResetReplies) :
    ∃ kept failed m₁, Meter.Switched false disable.elapsed a.group.meter kept m₁ ∧
      Meter.Reset reset.disable.elapsed m₁ failed (a.requestShutdown disable reset).1.group.meter ∧
      ((a.requestShutdown disable reset).2 = [] ↔ kept = false ∧ failed = false) := by
  refine ⟨_,_,_,trySetEnabled_meter false disable a,
    tryReset_meter (trySetEnabled_inSync h false disable) reset,?_⟩
  rw [← raised_threw "disable", ← raised_threw "reset"]
  exact List.append_eq_nil_iff

/-- Every operation does to the meter what the meter allows. -/
theorem step_meter {a : Attached} (h : a.InSync) (hn : a.Names names) (op : HandleOp) :
    Meter.Step names a.group.meter op (a.step op).2 (a.step op).1.group.meter := by
  cases op with
  | method method =>
    cases method with
    | enable r =>
      have hset := trySetEnabled_meter true r a
      rw [← report_threw] at hset
      exact hset
    | disable r =>
      have hset := trySetEnabled_meter false r a
      rw [← report_threw] at hset
      exact hset
    | reset r =>
      have hreset := tryReset_meter h r
      have hthrew : (a.handleReset r).2.threw = ((a.tryReset r).2 != 0) := by
        unfold handleReset reset MethodOutcome.threw
        by_cases hcode : (a.tryReset r).2 = 0 <;> simp [hcode]
      rw [← hthrew] at hreset
      exact hreset
    | read r =>
      obtain ⟨hmeter,hvalue⟩ := readPaused_meter readToResult_readsOnce h r
      refine ⟨hmeter,fun hquiet hfits => ?_⟩
      obtain ⟨b,hfixed,hb,hvalue⟩ := hvalue hquiet
      have := readToResult_meter (names_of_fixed hfixed hn) hvalue (hb ▸ ⟨hfits.1,hfits.2,hfits.3⟩)
      rw [hb] at this
      exact this
    | readArray r =>
      obtain ⟨hmeter,hvalue⟩ := readPaused_meter readToArray_readsOnce h r
      refine ⟨hmeter,fun hquiet hfits => ?_⟩
      obtain ⟨b,hfixed,hb,hvalue⟩ := hvalue hquiet
      have := readToArray_meter (names_of_fixed hfixed hn) hvalue (hb ▸ ⟨hfits.1,hfits.2,hfits.3⟩)
      rw [hb] at this
      exact this
    | rawStream idx r =>
      change (a.handleRawStream idx r).1.group.meter = a.group.meter
      unfold handleRawStream
      split
      · rfl
      dsimp only
      split
      · rfl
      · split <;> rfl
  | requestInit reset enable => exact requestInit_meter h reset enable
  | requestShutdown disable reset => exact requestShutdown_meter h disable reset
  | elapse t => exact EventGroup.meter_elapse t a.group

/-- The meter behind a handle. -/
def Meters (names : List String) (a : Attached) (m : Meter) : Prop :=
  a.InSync ∧ a.Names names ∧ a.group.meter = m

theorem refines_meter (names : List String) :
    Refines Attached.step (Meter.Step names) (Meters names) := by
  rintro a m op ⟨h,hn,rfl⟩
  exact ⟨_,step_meter h hn op,inSync_kept.step h op,names_of_fixed (step_fixed a op) hn,rfl⟩

end Attached

/-- A handle refines a meter. Whatever fails along a run of methods, request hooks and passing time on
an opened handle, there is a run of the meter with the same outcomes: switching and clearing have their
effect if they do not throw, and every read that does not throw returns exactly the events that the
meter has counted and its times, as long as they fit in 64 bits. If nothing throws at all, the operations
alone determine the meter. -/
theorem handle_meters (opener : ℕ) (names : List String) (pid cpu : ℤ) (persist : Bool)
    (r : OpenReplies) (h : Handle) (calls : List HandleCall)
    (hopen : tryOpenEx names pid cpu persist r = (.ok h,calls)) (ops : List HandleOp) :
    let outcomes := outputs Attached.step ⟨h,h.openedGroup opener⟩ ops
    ∃ m, Allows (Meter.Step names) .start ops outcomes m ∧
      (final Attached.step ⟨h,h.openedGroup opener⟩ ops).handle.enabled = m.on ∧
      ((∀ o ∈ outcomes, o.threw = false) → m = ops.foldl Meter.next .start) := by
  intro outcomes
  obtain ⟨⟨hdisabled,-⟩,hmembers,-⟩ := tryOpenEx_ok hopen
  have hstart : Attached.Meters names ⟨h,h.openedGroup opener⟩ .start :=
    ⟨hdisabled,⟨rfl,hmembers⟩,rfl⟩
  obtain ⟨m,hrun,hsync,-,hmeter⟩ := (Attached.refines_meter names).run hstart ops
  have hnext : ∀ m op (o : HandleOutcome) m', Meter.Step names m op o m' → o.threw = false →
      m' = m.next op := fun _ _ _ _ => Meter.Step.eq_next
  exact ⟨m,hrun,hsync.trans (congrArg Meter.on hmeter),hrun.eq_foldl hnext⟩

/-- Events pass before and after a reset, and while the group is read. -/
def meteredOps : List HandleOp :=
  [.method (.enable (answered none)),.elapse ⟨90,40,fun _ => 9,by decide⟩,
    .method (.reset ⟨true,answered none,answered .full,answered none,answered none⟩),
    .elapse ⟨7,4,fun _ => 3,by decide⟩,
    .method (.read
      ⟨⟨⟨2,1,fun _ => 1,by decide⟩,none⟩,⟨⟨5,5,fun _ => 5,by decide⟩,.full⟩,answered none⟩)]

theorem handle_meters_four :
    ∃ m, Allows (Meter.Step ["instructions"]) .start meteredOps
        (outputs Attached.step ⟨plainHandle,plainHandle.openedGroup 1⟩ meteredOps) m ∧
      m.on = true ∧ m.timeEnabled = 99 ∧ m.counts 1 = 4 := by
  obtain ⟨m,hrun,-,hquiet⟩ := handle_meters 1 ["instructions"] 0 (-1) true plainOpen plainHandle
    plainCalls rfl meteredOps
  have hm := hquiet (by decide)
  exact ⟨m,hrun,by rw [hm]; rfl,by rw [hm]; rfl,by rw [hm]; rfl⟩
end Perfidious
