import Perfidious.Handle.Kernel

/-! Native handles (`handle.c`): controlling a group, resetting it and closing it. -/
namespace Perfidious

/-- `struct perfidious_metric`. -/
structure Metric where
  fd : ℕ
  id : UInt64
  name : Option String
  deriving DecidableEq, Repr

/-- `struct perfidious_handle` as `perfidious_handle_try_open_ex` returns it: `leader` is
`metrics[0]`, so that `metrics_count > 0` always holds. -/
structure Handle where
  leader : Metric
  members : List Metric
  enabled : Bool
  persist : Bool
  timeEnabledAtReset : UInt64
  timeRunningAtReset : UInt64
  deriving DecidableEq, Repr

def Handle.metrics (h : Handle) : List Metric := h.leader :: h.members

/-- A handle in memory together with the event group behind its leader descriptor. -/
structure Attached where
  handle : Handle
  group : EventGroup

def ioctlError (error : Errno) : Error where
  exceptionCe := .ioException
  code := error
  message := [.text "ioctl failed: ",.strerror error]

def resetError (error : Errno) : Error where
  exceptionCe := .ioException
  code := error
  message := [.text "reset failed: ",.strerror error]

def closeError (error : Errno) : Error where
  exceptionCe := .ioException
  code := error
  message := [.text "close failed: ",.strerror error]

/-- The native answers to one `perfidious_handle_try_reset`. -/
structure ResetReplies where
  malloc : Bool
  disable : Native Status
  read : Native ReadAnswer
  reset : Native Status
  enable : Native Status

namespace Attached

/-- `perfidious_handle_try_ioctl`. -/
def tryIoctl (request : Control) (r : Native Status) (a : Attached) : Attached × Errno :=
  let group := (a.group.elapse r.elapsed).issue (.control request)
  match r.answer with
  | some errno => ({ a with group := group },nonzeroErrno errno)
  | none => ({ a with group := group.control request },0)

/-- `perfidious_handle_try_set_enabled`. -/
def trySetEnabled (enabled : Bool) (r : Native Status) (a : Attached) : Attached × Errno :=
  let (a,errorNumber) := a.tryIoctl (if enabled then .enable else .disable) r
  if errorNumber = 0 then ({ a with handle := { a.handle with enabled := enabled } },0)
  else (a,errorNumber)

/-- The middle of `perfidious_handle_try_reset`: the read that takes the baselines and the group
`RESET`. -/
def resetBetween (read : Native ReadAnswer) (reset : Native Status) (a : Attached) :
    Attached × Errno :=
  let group := (a.group.elapse read.elapsed).issue .read
  let a := { a with group := group }
  match read.answer with
  | .failed errno => (a,nonzeroErrno errno)
  | .short _ => (a, EIO)
  | .full =>
    let data := group.readFormat
    let (a,errorNumber) := a.tryIoctl .reset reset
    if errorNumber = 0 then
      ({ a with handle := { a.handle with
          timeEnabledAtReset := data.timeEnabled, timeRunningAtReset := data.timeRunning } },0)
    else (a,errorNumber)

/-- `perfidious_handle_try_reset`. -/
def tryReset (r : ResetReplies) (a : Attached) : Attached × Errno :=
  if !r.malloc then (a,ENOMEM)
  else if a.handle.enabled then
    let (a,errorNumber) := a.trySetEnabled false r.disable
    if errorNumber ≠ 0 then (a,errorNumber)
    else
      let (a,errorNumber) := a.resetBetween r.read r.reset
      let (a,enableError) := a.trySetEnabled true r.enable
      (a,if errorNumber = 0 then enableError else errorNumber)
  else a.resetBetween r.read r.reset

/-- `perfidious_handle_report_ioctl_result`: the exceptions it throws. -/
def reportIoctlResult (errorNumber : Errno) : List Error :=
  if errorNumber ≠ 0 then [ioctlError errorNumber] else []

/-- `perfidious_handle_enable`, with the exceptions thrown. -/
def enable (r : Native Status) (a : Attached) : Attached × List Error :=
  let (a,errorNumber) := a.trySetEnabled true r
  (a,reportIoctlResult errorNumber)

/-- `perfidious_handle_disable`. -/
def disable (r : Native Status) (a : Attached) : Attached × List Error :=
  let (a,errorNumber) := a.trySetEnabled false r
  (a,reportIoctlResult errorNumber)

/-- `perfidious_handle_reset`. -/
def reset (r : ResetReplies) (a : Attached) : Attached × List Error :=
  let (a,errorNumber) := a.tryReset r
  (a,if errorNumber ≠ 0 then [resetError errorNumber] else [])

end Attached

namespace Attached

section Answer
variable {r : Native Status} {errno : Errno}

/-- A control request that succeeds has its effect on the group. -/
theorem tryIoctl_of_none (h : r.answer = none) (request : Control) (a : Attached) :
    a.tryIoctl request r =
      (⟨a.handle,((a.group.elapse r.elapsed).issue (.control request)).control request⟩,0) := by
  unfold tryIoctl
  rw [h]

/-- One that fails has none, and a nonzero code. -/
theorem tryIoctl_of_some (h : r.answer = some errno) (request : Control) (a : Attached) :
    a.tryIoctl request r =
      (⟨a.handle,(a.group.elapse r.elapsed).issue (.control request)⟩,nonzeroErrno errno) := by
  unfold tryIoctl
  rw [h]

/-- Setting the enabled state succeeds on both sides. -/
theorem trySetEnabled_of_none (h : r.answer = none) (enabled : Bool) (a : Attached) :
    a.trySetEnabled enabled r =
      (⟨{ a.handle with enabled := enabled },
        { (a.group.elapse r.elapsed).issue (.control (if enabled then .enable else .disable)) with
          enabled := enabled }⟩,0) := by
  unfold trySetEnabled
  rw [tryIoctl_of_none h]
  cases enabled <;> rfl

/-- Or on neither. -/
theorem trySetEnabled_of_some (h : r.answer = some errno) (enabled : Bool) (a : Attached) :
    a.trySetEnabled enabled r =
      (⟨a.handle,(a.group.elapse r.elapsed).issue (.control (if enabled then .enable else .disable))⟩,
        nonzeroErrno errno) := by
  unfold trySetEnabled
  rw [tryIoctl_of_some h]
  simp [nonzeroErrno_ne_zero]

end Answer

/-- The group after the read that takes the baselines. -/
def afterRead (read : Native ReadAnswer) (a : Attached) : EventGroup :=
  (a.group.elapse read.elapsed).issue .read

section Between
variable {read : Native ReadAnswer} {reset : Native Status}

/-- Without a full record nothing is reset. -/
theorem resetBetween_of_unread (h : read.answer ≠ .full) (reset : Native Status) :
    ∃ errorNumber, errorNumber ≠ 0 ∧
      ∀ b : Attached, b.resetBetween read reset = (⟨b.handle,b.afterRead read⟩,errorNumber) := by
  unfold resetBetween
  cases hread : read.answer with
  | failed errno => exact ⟨_,nonzeroErrno_ne_zero errno,fun _ => rfl⟩
  | short stale => exact ⟨ EIO,by decide,fun _ => rfl⟩
  | full => exact absurd hread h

/-- A `RESET` that fails leaves counts and baselines alone. -/
theorem resetBetween_of_some {errno : Errno} (hread : read.answer = .full)
    (hreset : reset.answer = some errno) (a : Attached) :
    a.resetBetween read reset =
      (⟨a.handle,((a.afterRead read).elapse reset.elapsed).issue (.control .reset)⟩,
        nonzeroErrno errno) := by
  unfold resetBetween
  simp [hread,tryIoctl_of_some hreset,nonzeroErrno_ne_zero,afterRead]

/-- Otherwise the baselines become those of the record read. -/
theorem resetBetween_of_none (hread : read.answer = .full) (hreset : reset.answer = none)
    (a : Attached) :
    a.resetBetween read reset =
      (⟨{ a.handle with
          timeEnabledAtReset := UInt64.ofNat (a.afterRead read).timeEnabled
          timeRunningAtReset := UInt64.ofNat (a.afterRead read).timeRunning },
        (((a.afterRead read).elapse reset.elapsed).issue (.control .reset)).control .reset⟩,0) := by
  unfold resetBetween
  simp only [hread, tryIoctl_of_none hreset]
  rfl

end Between

end Attached

/-- The native calls and the reference counting of opening and closing a group. -/
inductive HandleCall
  | encode (name : String)
  | perfEventOpen (pid cpu groupFd : ℤ) (disabled : Bool)
  | ioctlId (fd : ℕ)
  | close (fd : ℕ)
  | takeName (name : String)
  | releaseName (name : String)
  deriving DecidableEq, Repr

/-- The progress of `perfidious_handle_try_close`: the first error, and the calls made. -/
structure Closing where
  errorNumber : Errno
  calls : List HandleCall

/-- The loop body of `perfidious_handle_try_close` for `metrics[i]`. -/
def closeMetric (r : ℕ → Status) (c : Closing) (m : Metric × ℕ) : Closing where
  errorNumber := match r m.2 with
    | some errno => if c.errorNumber = 0 then nonzeroErrno errno else c.errorNumber
    | none => c.errorNumber
  calls := c.calls ++ .close m.1.fd :: m.1.name.toList.map .releaseName

/-- `perfidious_handle_try_close`, from the last metric down to the leader. -/
def tryClose (r : ℕ → Status) (metrics : List Metric) : Closing :=
  metrics.zipIdx.reverse.foldl (closeMetric r) ⟨0,[]⟩

end Perfidious
