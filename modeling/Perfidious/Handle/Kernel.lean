import Mathlib.Data.Nat.Notation
import Perfidious.Error

/-! The kernel side of a perf event group, as far as this extension drives it: the leader gates
counting, `RESET` clears counts but not times, and a call that fails changes nothing. -/
namespace Perfidious

/-- The `ioctl` requests that control a group: `PERF_EVENT_IOC_ENABLE`, `…_DISABLE`, `…_RESET`. -/
inductive Control
  | enable
  | disable
  | reset
  deriving DecidableEq, Repr

/-- A system call on a group, as it was issued, whatever came of it. -/
inductive NativeCall
  | control (request : Control)
  | read
  | close
  | dup
  deriving DecidableEq, Repr

/-- Time and events that pass while a group is enabled. -/
structure Tick where
  enabledTime : ℕ
  runningTime : ℕ
  counts : ℕ → ℕ
  running_le : runningTime ≤ enabledTime

/-- Nothing happens in between. -/
def Tick.none : Tick := ⟨0,0,fun _ => 0,Nat.le_refl 0⟩

/-- An event group. Counts belong to the positions in `ids`, the leader first. `opener` is the
process that opened it, `zeroedEnabled` and `zeroedRunning` are the times at which the counts were
last zeroed, and `calls` are the system calls issued so far. -/
structure EventGroup where
  opener : ℕ
  ids : List UInt64
  enabled : Bool
  timeEnabled : ℕ
  timeRunning : ℕ
  counts : ℕ → ℕ
  zeroedEnabled : ℕ
  zeroedRunning : ℕ
  calls : List NativeCall

/-- `struct perfidious_read_format_value`. -/
structure ReadFormatValue where
  value : UInt64
  id : UInt64
  deriving DecidableEq, Repr

/-- `struct perfidious_read_format`; `nr` is the length of `values`. -/
structure ReadFormat where
  timeEnabled : UInt64
  timeRunning : UInt64
  values : List ReadFormatValue
  deriving DecidableEq, Repr

namespace EventGroup

/-- A group right after it was opened with a disabled leader. -/
def opened (opener : ℕ) (ids : List UInt64) : EventGroup :=
  ⟨opener,ids,false,0,0,fun _ => 0,0,0,[]⟩

def elapse (t : Tick) (g : EventGroup) : EventGroup :=
  if g.enabled then
    { g with
      timeEnabled := g.timeEnabled + t.enabledTime
      timeRunning := g.timeRunning + t.runningTime
      counts := fun i => g.counts i + t.counts i }
  else g

/-- The effect of a control request that succeeds. -/
def control (g : EventGroup) : Control → EventGroup
  | .enable => { g with enabled := true }
  | .disable => { g with enabled := false }
  | .reset => { g with
      counts := fun _ => 0, zeroedEnabled := g.timeEnabled, zeroedRunning := g.timeRunning }

def issue (call : NativeCall) (g : EventGroup) : EventGroup := { g with calls := g.calls ++ [call] }

/-- What a full-size group read on the leader delivers. -/
def readFormat (g : EventGroup) : ReadFormat where
  timeEnabled := UInt64.ofNat g.timeEnabled
  timeRunning := UInt64.ofNat g.timeRunning
  values := g.ids.mapIdx fun i id => ⟨UInt64.ofNat (g.counts i),id⟩

@[simp] theorem elapse_enabled (t : Tick) (g : EventGroup) : (g.elapse t).enabled = g.enabled := by
  unfold elapse; split <;> rfl

@[simp] theorem elapse_ids (t : Tick) (g : EventGroup) : (g.elapse t).ids = g.ids := by
  unfold elapse; split <;> rfl

@[simp] theorem elapse_opener (t : Tick) (g : EventGroup) : (g.elapse t).opener = g.opener := by
  unfold elapse; split <;> rfl

@[simp] theorem elapse_calls (t : Tick) (g : EventGroup) : (g.elapse t).calls = g.calls := by
  unfold elapse; split <;> rfl

@[simp] theorem elapse_zeroedEnabled (t : Tick) (g : EventGroup) :
    (g.elapse t).zeroedEnabled = g.zeroedEnabled := by
  unfold elapse; split <;> rfl

@[simp] theorem elapse_zeroedRunning (t : Tick) (g : EventGroup) :
    (g.elapse t).zeroedRunning = g.zeroedRunning := by
  unfold elapse; split <;> rfl

/-- A disabled group is frozen. -/
theorem elapse_disabled {g : EventGroup} (h : g.enabled = false) (t : Tick) : g.elapse t = g := by
  simp [elapse,h]

end EventGroup

/-- One native call: what passes before it takes effect, and how the system answers. -/
structure Native (α : Type) where
  elapsed : Tick
  answer : α

/-- The answer to an `ioctl` or `close`: `none`, or the `errno` of a failure. -/
abbrev Status := Option Errno

/-- The answer to a group read: the full record, another length with whatever `errno` holds from
before, or `-1` with its `errno`. -/
inductive ReadAnswer
  | full
  | short (stale : Errno)
  | failed (errno : Errno)
  deriving DecidableEq, Repr

end Perfidious
