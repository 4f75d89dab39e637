import Perfidious.Handle.Machine

/-! `perfidious_handle_try_reset` under every combination of failing steps. -/
namespace Perfidious

/-- The first nonzero code, or zero. -/
def firstError : List Errno → Errno
  | [] => 0
  | code::codes => if code ≠ 0 then code else firstError codes

@[simp] theorem firstError_nil : firstError [] = 0 := rfl

theorem firstError_cons_of_ne {code : Errno} (h : code ≠ 0) (codes : List Errno) :
    firstError (code::codes) = code := if_pos h

@[simp] theorem firstError_cons_zero (codes : List Errno) : firstError (0::codes) = firstError codes :=
  if_neg (not_not_intro rfl)

@[simp] theorem firstError_singleton (code : Errno) : firstError [code] = code := by
  by_cases h : code = 0
  · rw [h, firstError_cons_zero, firstError_nil]
  · exact firstError_cons_of_ne h []

theorem firstError_append (codes more : List Errno) :
    firstError (codes++more) = if firstError codes = 0 then firstError more else firstError codes := by
  induction codes with
  | nil => exact (if_pos rfl).symm
  | cons code codes ih =>
    by_cases h : code = 0
    · rw [h, List.cons_append, firstError_cons_zero, firstError_cons_zero, ih]
    · rw [List.cons_append, firstError_cons_of_ne h, firstError_cons_of_ne h, if_neg h]

theorem firstError_firstError (codes more : List Errno) :
    firstError (firstError codes :: more) = firstError (codes++more) := by
  rw [firstError_append]
  by_cases h : firstError codes = 0
  · rw [h, firstError_cons_zero, if_pos rfl]
  · rw [firstError_cons_of_ne h, if_neg h]

theorem firstError_eq_zero_iff (codes : List Errno) :
    firstError codes = 0 ↔ ∀ code ∈ codes, code = 0 := by
  induction codes with
  | nil => simp
  | cons code codes ih =>
    by_cases h : code = 0
    · rw [h, firstError_cons_zero, ih]
      simp
    · rw [firstError_cons_of_ne h]
      simp [h]

/-- What `perfidious_handle_try_ioctl` returns for an answer. -/
def statusCode : Status → Errno
  | none => 0
  | some errno => nonzeroErrno errno

/-- The code of the group read. -/
def readCode : ReadAnswer → Errno
  | .full => 0
  | .short _ => EIO
  | .failed errno => nonzeroErrno errno

/-- The codes of the steps of a reset, in order. Disabling and resuming are steps of an enabled handle
only. -/
def ResetReplies.codes (enabled : Bool) (r : ResetReplies) : List Errno :=
  (if r.malloc then 0 else ENOMEM) ::
    if enabled then
      [statusCode r.disable.answer,readCode r.read.answer,statusCode r.reset.answer,
        statusCode r.enable.answer]
    else [readCode r.read.answer,statusCode r.reset.answer]

namespace Attached

theorem statusCode_some_ne (errno : Errno) : statusCode (some errno) ≠ 0 := nonzeroErrno_ne_zero errno

theorem readCode_ne_zero {answer : ReadAnswer} (h : answer ≠ .full) : readCode answer ≠ 0 := by
  cases answer with
  | full => exact absurd rfl h
  | short stale => exact show EIO ≠ 0 by decide
  | failed errno => exact nonzeroErrno_ne_zero errno

/-- The group at the measurement boundary, where the read and the `RESET` find it. -/
def boundary (r : ResetReplies) (a : Attached) : EventGroup :=
  if a.handle.enabled then
    { (a.group.elapse r.disable.elapsed).issue (.control .disable) with enabled := false }
  else a.group

/-- The steps that find a group disabled, and what they leave. -/
inductive BetweenCase (read : Native ReadAnswer) (reset : Native Status) (a : Attached) :
    Attached × Errno → Prop
  | unread (failed : read.answer ≠ .full) :
      BetweenCase read reset a (⟨a.handle,a.group.issue .read⟩,readCode read.answer)
  | unreset {errno} (full : read.answer = .full) (failed : reset.answer = some errno) :
      BetweenCase read reset a
        (⟨a.handle,(a.group.issue .read).issue (.control .reset)⟩,nonzeroErrno errno)
  | reset (full : read.answer = .full) (succeeded : reset.answer = none) :
      BetweenCase read reset a
        (⟨{ a.handle with
            timeEnabledAtReset := UInt64.ofNat a.group.timeEnabled
            timeRunningAtReset := UInt64.ofNat a.group.timeRunning },
          ((a.group.issue .read).issue (.control .reset)).control .reset⟩,0)

theorem resetBetween_cases {a : Attached} (hoff : a.group.enabled = false) (read : Native ReadAnswer)
    (reset : Native Status) : BetweenCase read reset a (a.resetBetween read reset) := by
  have hread : a.afterRead read = a.group.issue .read := by
    rw [afterRead, EventGroup.elapse_disabled hoff]
  have hissued : (a.group.issue .read).enabled = false := hoff
  have hreset := EventGroup.elapse_disabled hissued reset.elapsed
  by_cases hfull : read.answer = .full
  case neg =>
    have hunread : a.resetBetween read reset = (⟨a.handle,a.afterRead read⟩,readCode read.answer) := by
      unfold resetBetween
      cases hanswer : read.answer with
      | full => exact absurd hanswer hfull
      | short stale => rfl
      | failed errno => rfl
    rw [hunread, hread]
    exact .unread hfull
  cases hanswer : reset.answer with
  | some errno =>
    rw [resetBetween_of_some hfull hanswer, hread, hreset]
    exact .unreset hfull hanswer
  | none =>
    rw [resetBetween_of_none hfull hanswer, hread, hreset]
    exact .reset hfull hanswer

/-- The handle once the group is disabled for the reset. -/
def paused (r : ResetReplies) (a : Attached) : Attached :=
  ⟨{ a.handle with enabled := false },a.boundary r⟩

/-- What resuming leaves of a handle that is disabled on both sides. -/
def resumed (enabled : Bool) (r : ResetReplies) (b : Attached) : Attached :=
  if enabled then
    match r.enable.answer with
    | none => ⟨{ b.handle with enabled := true },
        { b.group.issue (.control .enable) with enabled := true }⟩
    | some _ => ⟨b.handle,b.group.issue (.control .enable)⟩
  else b

/-- Inversion of `perfidious_handle_try_reset`. -/
inductive ResetCase (r : ResetReplies) (a : Attached) : Attached × Errno → Prop
  | noMemory (malloc : r.malloc = false) : ResetCase r a (a,ENOMEM)
  | notPaused {errno} (malloc : r.malloc = true) (enabled : a.handle.enabled = true)
      (failed : r.disable.answer = some errno) :
      ResetCase r a
        (⟨a.handle,(a.group.elapse r.disable.elapsed).issue (.control .disable)⟩,nonzeroErrno errno)
  | paused {b errorNumber} (malloc : r.malloc = true)
      (succeeded : a.handle.enabled = true → r.disable.answer = none)
      (between : BetweenCase r.read r.reset (a.paused r) (b,errorNumber)) :
      ResetCase r a (b.resumed a.handle.enabled r,
        if errorNumber = 0 ∧ a.handle.enabled = true then statusCode r.enable.answer else errorNumber)

theorem trySetEnabled_of_disabled {b : Attached} (hoff : b.group.enabled = false) (r : ResetReplies) :
    b.trySetEnabled true r.enable = (b.resumed true r,statusCode r.enable.answer) := by
  have hfrozen := EventGroup.elapse_disabled hoff r.enable.elapsed
  unfold resumed
  cases hanswer : r.enable.answer with
  | none =>
    rw [trySetEnabled_of_none hanswer, hfrozen]
    rfl
  | some errno =>
    rw [trySetEnabled_of_some hanswer, hfrozen]
    rfl

/-- The steps in the middle neither enable nor disable anything. -/
theorem BetweenCase.enabled {read : Native ReadAnswer} {reset : Native Status} {a b : Attached}
    {errorNumber : Errno} (h : BetweenCase read reset a (b,errorNumber)) :
    b.handle.enabled = a.handle.enabled ∧ b.group.enabled = a.group.enabled := by
  cases h with
  | unread => exact ⟨rfl,rfl⟩
  | unreset => exact ⟨rfl,rfl⟩
  | reset => exact ⟨rfl,rfl⟩

theorem paused_of_disabled {a : Attached} (hoff : a.handle.enabled = false) (r : ResetReplies) :
    a.paused r = a := by
  have hgroup : a.boundary r = a.group := if_neg (by simp [hoff])
  unfold paused
  rw [hgroup, ← hoff]

theorem paused_group_enabled {a : Attached} (hsync : a.InSync) (r : ResetReplies) :
    (a.paused r).group.enabled = false := by
  change (a.boundary r).enabled = false
  unfold boundary
  split
  · rfl
  next hoff =>
    rw [← hsync]
    exact Bool.eq_false_iff.mpr hoff

theorem tryReset_cases {a : Attached} (hsync : a.InSync) (r : ResetReplies) :
    ResetCase r a (a.tryReset r) := by
  cases hmalloc : r.malloc with
  | false =>
    have heq : a.tryReset r = (a,ENOMEM) := by simp [tryReset,hmalloc]
    rw [heq]
    exact .noMemory hmalloc
  | true =>
    have hoff := paused_group_enabled hsync r
    have hbetween := resetBetween_cases hoff r.read r.reset
    rcases hmiddle : (a.paused r).resetBetween r.read r.reset with ⟨b,errorNumber⟩
    rw [hmiddle] at hbetween
    cases hon : a.handle.enabled with
    | false =>
      rw [paused_of_disabled hon] at hmiddle
      have heq : a.tryReset r = (b,errorNumber) := by simp [tryReset,hmalloc,hon,hmiddle]
      have hcase := ResetCase.paused hmalloc (fun h => by simp [hon] at h) hbetween
      rw [hon] at hcase
      rw [heq]
      simpa [resumed] using hcase
    | true =>
      cases hanswer : r.disable.answer with
      | some errno =>
        have heq : a.tryReset r =
            (⟨a.handle,(a.group.elapse r.disable.elapsed).issue (.control .disable)⟩,
              nonzeroErrno errno) := by
          simp [tryReset,hmalloc,hon,trySetEnabled_of_some hanswer,nonzeroErrno_ne_zero]
        rw [heq]
        exact .notPaused hmalloc hon hanswer
      | none =>
        have hpaused : a.trySetEnabled false r.disable = (a.paused r,0) := by
          rw [trySetEnabled_of_none hanswer]
          simp [paused,boundary,hon]
        have hresume := trySetEnabled_of_disabled (hbetween.enabled.2.trans hoff) r
        have heq : a.tryReset r = (b.resumed true r,
            if errorNumber = 0 then statusCode r.enable.answer else errorNumber) := by
          simp [tryReset,hmalloc,hon,hpaused,hmiddle,hresume]
        have hcase := ResetCase.paused hmalloc (fun _ => hanswer) hbetween
        rw [hon] at hcase
        rw [heq]
        simpa using hcase

/-- What a reset is about: the counts, the times at which they were zeroed, and the two baselines. -/
structure Record where
  counts : ℕ → ℕ
  zeroedEnabled : ℕ
  zeroedRunning : ℕ
  timeEnabledAtReset : UInt64
  timeRunningAtReset : UInt64

def record (a : Attached) : Record :=
  ⟨a.group.counts,a.group.zeroedEnabled,a.group.zeroedRunning,a.handle.timeEnabledAtReset,
    a.handle.timeRunningAtReset⟩

/-- The counts of a group zeroed now, with the totals of the record that a read delivers as baselines. -/
def zeroed (g : EventGroup) : Record :=
  ⟨fun _ => 0,g.timeEnabled,g.timeRunning,g.readFormat.timeEnabled,g.readFormat.timeRunning⟩

theorem resumed_record (enabled : Bool) (r : ResetReplies) (b : Attached) :
    (b.resumed enabled r).record = b.record := by
  unfold resumed
  split
  · split <;> rfl
  · rfl

theorem resumed_enabled {b : Attached} (hhandle : b.handle.enabled = false)
    (hgroup : b.group.enabled = false) (enabled : Bool) (r : ResetReplies) :
    (b.resumed enabled r).handle.enabled = (enabled && r.enable.answer.isNone) ∧
    (b.resumed enabled r).group.enabled = (enabled && r.enable.answer.isNone) := by
  unfold resumed
  cases enabled with
  | false => exact ⟨hhandle,hgroup⟩
  | true =>
    cases hanswer : r.enable.answer with
    | none => simp
    | some errno => simp [hhandle,EventGroup.issue,hgroup]

section Between
variable {read : Native ReadAnswer} {reset : Native Status} {a b : Attached} {errorNumber : Errno}

theorem BetweenCase.errorNumber_eq (h : BetweenCase read reset a (b,errorNumber)) :
    errorNumber = firstError [readCode read.answer,statusCode reset.answer] := by
  cases h with
  | unread failed => rw [firstError_cons_of_ne (readCode_ne_zero failed)]
  | unreset full failed =>
    rw [full, failed]
    change _ = firstError [0,statusCode (some _)]
    rw [firstError_cons_zero, firstError_singleton]
    rfl
  | reset full succeeded =>
    rw [full, succeeded]
    rfl

/-- Counts and baselines change together, and only if both steps succeed. -/
theorem BetweenCase.record_eq (h : BetweenCase read reset a (b,errorNumber)) :
    (errorNumber = 0 → b.record = zeroed a.group) ∧ (errorNumber ≠ 0 → b.record = a.record) := by
  cases h with
  | unread failed => exact ⟨fun hzero => absurd hzero (readCode_ne_zero failed),fun _ => rfl⟩
  | @unreset errno => exact ⟨fun hzero => absurd hzero (nonzeroErrno_ne_zero errno),fun _ => rfl⟩
  | reset => exact ⟨fun _ => rfl,fun hne => absurd rfl hne⟩

/-- No step in the middle issues an `ENABLE`. -/
theorem BetweenCase.count_enable (h : BetweenCase read reset a (b,errorNumber)) :
    b.group.calls.count (.control .enable) = a.group.calls.count (.control .enable) := by
  cases h with
  | unread => simp [EventGroup.issue]
  | unreset => simp [EventGroup.issue]
  | reset => simp [EventGroup.issue,EventGroup.control]

end Between

/-- The code returned is that of the first step that failed. -/
theorem tryReset_errorNumber {a : Attached} (hsync : a.InSync) (r : ResetReplies) :
    (a.tryReset r).2 = firstError (r.codes a.handle.enabled) := by
  generalize hout : a.tryReset r = out
  cases hout ▸ tryReset_cases hsync r with
  | noMemory malloc =>
    simp only [ResetReplies.codes, malloc]
    rfl
  | notPaused malloc enabled failed =>
    simp only [ResetReplies.codes, malloc, enabled, failed, if_true, firstError_cons_zero]
    rw [firstError_cons_of_ne (statusCode_some_ne _)]
    rfl
  | paused malloc succeeded between =>
    have hnumber := between.errorNumber_eq
    simp only [ResetReplies.codes, malloc, if_true, firstError_cons_zero]
    cases hon : a.handle.enabled with
    | false => simpa using hnumber
    | true =>
      have hdisable : statusCode r.disable.answer = 0 := by rw [succeeded hon]; rfl
      simp only [if_true, and_true, hdisable, firstError_cons_zero]
      change _ = firstError ([readCode r.read.answer,statusCode r.reset.answer] ++
        [statusCode r.enable.answer])
      rw [firstError_append, firstError_singleton, ← hnumber]

section Case
variable {r : ResetReplies} {a b : Attached} {errorNumber : Errno}

/-- Once the group is paused, the read and the `RESET` decide and the resume follows. -/
theorem ResetCase.of_paused (h : ResetCase r a (b,errorNumber)) (hmalloc : r.malloc = true)
    (hdisable : a.handle.enabled = true → r.disable.answer = none) :
    ∃ c middle, BetweenCase r.read r.reset (a.paused r) (c,middle) ∧
      b = c.resumed a.handle.enabled r ∧ errorNumber =
        if middle = 0 ∧ a.handle.enabled = true then statusCode r.enable.answer else middle := by
  cases h with
  | noMemory malloc =>
    rw [hmalloc] at malloc
    cases malloc
  | notPaused malloc enabled failed =>
    rw [hdisable enabled] at failed
    cases failed
  | paused malloc succeeded between => exact ⟨_,_,between,rfl,rfl⟩

/-- The enabled state in the end. -/
theorem ResetCase.enabled_eq {c : Attached} {middle : Errno} (hsync : a.InSync)
    (h : BetweenCase r.read r.reset (a.paused r) (c,middle)) :
    (c.resumed a.handle.enabled r).handle.enabled = (a.handle.enabled && r.enable.answer.isNone) ∧
    (c.resumed a.handle.enabled r).group.enabled = (a.handle.enabled && r.enable.answer.isNone) :=
  resumed_enabled h.enabled.1 (h.enabled.2.trans (paused_group_enabled hsync r)) _ r

theorem ResetCase.success (h : ResetCase r a (b,0)) (hsync : a.InSync) :
    b.record = zeroed (a.boundary r) ∧ b.handle.enabled = a.handle.enabled ∧
      b.group.enabled = a.handle.enabled := by
  generalize hout : (b,(0 : Errno)) = out at h
  cases h with
  | noMemory malloc => cases (Prod.mk.inj hout).2
  | @notPaused errno => exact absurd (Prod.mk.inj hout).2.symm (nonzeroErrno_ne_zero errno)
  | @paused c middle malloc succeeded between =>
    obtain ⟨rfl,hnumber⟩ := Prod.mk.inj hout
    obtain ⟨hhandle,hgroup⟩ := enabled_eq hsync between
    have hmiddle : middle = 0 := by
      by_contra hne
      rw [if_neg fun h => hne h.1] at hnumber
      exact hne hnumber.symm
    have hresumes : (a.handle.enabled && r.enable.answer.isNone) = a.handle.enabled := by
      cases hon : a.handle.enabled with
      | false => rfl
      | true =>
        rw [if_pos ⟨hmiddle,hon⟩] at hnumber
        cases hanswer : r.enable.answer with
        | none => rfl
        | some errno =>
          rw [hanswer] at hnumber
          exact absurd hnumber.symm (statusCode_some_ne errno)
    rw [resumed_record, hhandle, hgroup, hresumes]
    exact ⟨between.record_eq.1 hmiddle,rfl,rfl⟩

/-- A handle that was disabled stays so, and no `ENABLE` is issued. -/
theorem ResetCase.disabled (h : ResetCase r a (b,errorNumber)) (hsync : a.InSync)
    (hoff : a.handle.enabled = false) :
    b.handle.enabled = false ∧ b.group.enabled = false ∧
      b.group.calls.count (.control .enable) = a.group.calls.count (.control .enable) := by
  cases h with
  | noMemory => exact ⟨hoff,hsync ▸ hoff,rfl⟩
  | notPaused malloc enabled =>
    rw [hoff] at enabled
    cases enabled
  | paused malloc succeeded between =>
    obtain ⟨hhandle,hgroup⟩ := enabled_eq hsync between
    have hcount := between.count_enable
    rw [paused_of_disabled hoff] at hcount
    rw [hoff] at hhandle hgroup ⊢
    exact ⟨hhandle,hgroup,hcount⟩

end Case

end Attached

/-- `perfidious_handle_try_reset` on a handle that agrees with the kernel, whatever fails. -/
theorem try_reset_failures (a : Attached) (hsync : a.handle.enabled = a.group.enabled)
    (r : ResetReplies) :
    let on := a.handle.enabled
    let b := (a.tryReset r).1
    let errorNumber := (a.tryReset r).2
    let paused := r.malloc = true ∧ (on = true → r.disable.answer = none)
    errorNumber = firstError (r.codes on) ∧
    (errorNumber = 0 ↔ ∀ code ∈ r.codes on, code = 0) ∧
    (errorNumber = 0 → b.record = Attached.zeroed (a.boundary r) ∧ b.handle.enabled = on ∧
      b.group.enabled = on) ∧
    (r.malloc = false → b = a ∧ errorNumber = ENOMEM) ∧
    (r.malloc = true → on = true → ∀ errno, r.disable.answer = some errno →
      b = ⟨a.handle,(a.group.elapse r.disable.elapsed).issue (.control .disable)⟩ ∧
      errorNumber = nonzeroErrno errno) ∧
    (paused → r.read.answer ≠ .full ∨ r.reset.answer ≠ none →
      b.group.counts = (a.boundary r).counts ∧
      b.handle.timeEnabledAtReset = a.handle.timeEnabledAtReset ∧
      b.handle.timeRunningAtReset = a.handle.timeRunningAtReset ∧
      errorNumber = firstError [readCode r.read.answer,statusCode r.reset.answer] ∧ errorNumber ≠ 0) ∧
    (paused → r.read.answer = .full → r.reset.answer = none → on = true →
      ∀ errno, r.enable.answer = some errno →
      b.record = Attached.zeroed (a.boundary r) ∧ b.handle.enabled = false ∧
      b.group.enabled = false ∧ errorNumber = nonzeroErrno errno) ∧
    (on = false → b.handle.enabled = false ∧ b.group.enabled = false ∧
      b.group.calls.count (.control .enable) = a.group.calls.count (.control .enable)) ∧
    b.handle.enabled = b.group.enabled := by
  intro on b errorNumber paused
  have hnumber : errorNumber = firstError (r.codes on) := Attached.tryReset_errorNumber hsync r
  have hzero : errorNumber = 0 ↔ ∀ code ∈ r.codes on, code = 0 := by
    rw [hnumber]
    exact firstError_eq_zero_iff _
  have hkept : b.InSync := Attached.inSync_kept.reset r hsync
  have hcase : Attached.ResetCase r a (b,errorNumber) := Attached.tryReset_cases hsync r
  refine ⟨hnumber,hzero,?_,?_,?_,?_,?_,?_,hkept⟩
  · intro hok
    rw [hok] at hcase
    exact hcase.success hsync
  · intro hmalloc
    have heq : a.tryReset r = (a,ENOMEM) := by simp [Attached.tryReset,hmalloc]
    exact Prod.mk.inj heq
  · intro hmalloc hon errno hanswer
    have hon' : a.handle.enabled = true := hon
    have heq : a.tryReset r =
        (⟨a.handle,(a.group.elapse r.disable.elapsed).issue (.control .disable)⟩,
          nonzeroErrno errno) := by
      simp [Attached.tryReset,hmalloc,hon',Attached.trySetEnabled_of_some hanswer,nonzeroErrno_ne_zero]
    exact Prod.mk.inj heq
  · rintro ⟨hmalloc,hdisable⟩ hfailed
    obtain ⟨c,middle,between,hb,hn⟩ := hcase.of_paused hmalloc hdisable
    have hmiddle : middle = firstError [readCode r.read.answer,statusCode r.reset.answer] :=
      between.errorNumber_eq
    have hne : middle ≠ 0 := by
      rw [hmiddle]
      intro hall
      have hcodes := (firstError_eq_zero_iff _).mp hall
      rcases hfailed with hread | hreset
      · exact Attached.readCode_ne_zero hread (hcodes _ (by simp))
      · obtain ⟨errno,herrno⟩ := Option.ne_none_iff_exists'.mp hreset
        have hcode := hcodes (statusCode r.reset.answer) (by simp)
        rw [herrno] at hcode
        exact Attached.statusCode_some_ne errno hcode
    rw [if_neg fun h => hne h.1] at hn
    have hrecord := Attached.resumed_record a.handle.enabled r c
    rw [between.record_eq.2 hne, ← hb] at hrecord
    simp only [Attached.record, Attached.Record.mk.injEq] at hrecord
    obtain ⟨hcounts,-,-,hen,hrun⟩ := hrecord
    exact ⟨hcounts,hen,hrun,hn.trans hmiddle,hn ▸ hne⟩
  · rintro ⟨hmalloc,hdisable⟩ hread hreset hon errno hanswer
    have hon' : a.handle.enabled = true := hon
    obtain ⟨c,middle,between,hb,hn⟩ := hcase.of_paused hmalloc hdisable
    have hmiddle : middle = 0 := by
      rw [between.errorNumber_eq, hread, hreset]
      rfl
    obtain ⟨hhandle,hgroup⟩ := Attached.ResetCase.enabled_eq hsync between
    rw [hanswer, Option.isNone_some, Bool.and_false, ← hb] at hhandle hgroup
    rw [if_pos ⟨hmiddle,hon'⟩, hanswer] at hn
    refine ⟨?_,hhandle,hgroup,hn⟩
    rw [hb, Attached.resumed_record]
    exact between.record_eq.1 hmiddle
  · intro hoff
    exact hcase.disabled hsync hoff

/-- An enabled handle whose read fails and whose resume fails, too. -/
theorem try_reset_failures_read :
    let a : Attached := ⟨{ plainHandle with enabled := true },
      { plainHandle.openedGroup 1 with enabled := true }⟩
    let r : ResetReplies :=
      ⟨true,answered none,answered (.failed EINTR),answered none,answered (some EIO)⟩
    (a.tryReset r).1.handle.enabled = (a.tryReset r).1.group.enabled ∧ (a.tryReset r).2 = EINTR :=
  ⟨(try_reset_failures _ rfl _).2.2.2.2.2.2.2.2,rfl⟩

end Perfidious
