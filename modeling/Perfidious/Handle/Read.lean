import Perfidious.Word
import Perfidious.Handle.Basic
import Perfidious.Library.Assoc

/-! Reading a group into PHP values, and the `Handle` methods (`handle.c`). -/
namespace Perfidious
open Library

/-- A key of a PHP array: a decimal string key is stored as its integer. -/
inductive ArrayKey
  | string (s : String)
  | index (n : ℤ)
  deriving DecidableEq, Repr

/-- The value of a decimal numeral without superfluous zeros. -/
def canonicalNumber : List Char → Option ℕ
  | [] => none
  | ['0'] => some 0
  | '0'::_ => none
  | digits => digits.foldl (fun value c =>
      value.bind fun n => if c.isDigit then some (n*10 + (c.toNat - '0'.toNat)) else none) (some 0)

/-- `ZEND_HANDLE_NUMERIC_STR`. -/
def symtableKey (s : String) : ArrayKey :=
  match s.toList with
  | '-'::digits =>
    match canonicalNumber digits with
    | some n => if n = 0 ∨ n > zendLongMax+1 then .string s else .index (-n)
    | none => .string s
  | digits =>
    match canonicalNumber digits with
    | some n => if n > zendLongMax then .string s else .index n
    | none => .string s

/-- A PHP array in insertion order. -/
abbrev PhpArray := List (ArrayKey × ℤ)

/-- `zend_symtable_update`. -/
def symtableUpdate (array : PhpArray) (name : String) (value : ℤ) : PhpArray :=
  update array (symtableKey name) value

def readError (errno : Errno) : Error where
  exceptionCe := .ioException
  code := errno
  message := [.text "failed to read: ",.strerror errno]

def idMismatch (expected actual : UInt64) : Error where
  exceptionCe := .domainException
  code := 0
  message := [.text "ID mismatch: ",.number expected.toNat,.text " != ",.number actual.toNat]

def longTooLarge (value : UInt64) : Error where
  exceptionCe := .overflowException
  code := 0
  message := [.text "value too large: ",.number value.toNat,.text " > ",.number zendLongMax]

/-- `perfidious_uint64_t_to_zend_long`. -/
def uint64ToZendLong (value : UInt64) : Except Error ℤ :=
  if value.toNat > zendLongMax then .error (longTooLarge value) else .ok value.toNat

/-- The loop of `perfidious_handle_read_to_array_with_times` past the leader. -/
def decodeMembers : List (Metric × ReadFormatValue) → PhpArray → Except Error PhpArray
  | [],array => .ok array
  | (metric,value)::rest,array =>
    if metric.id ≠ value.id then .error (idMismatch metric.id value.id)
    else
      match metric.name with
      | none => decodeMembers rest array
      | some name =>
        match uint64ToZendLong value.value with
        | .error e => .error e
        | .ok long => decodeMembers rest (symtableUpdate array name long)

/-- The loop of `perfidious_handle_read_to_array_with_times`: the first entry is only checked. -/
def decode : List (Metric × ReadFormatValue) → Except Error PhpArray
  | [] => .ok []
  | (metric,value)::rest =>
    if metric.id ≠ value.id then .error (idMismatch metric.id value.id) else decodeMembers rest []

/-- The decoded array as far as names and counts determine it: the loop on a record whose ids are
those of the metrics. -/
def decodeNamed : List (Option String) → (ℕ → ℕ) → PhpArray → Except Error PhpArray
  | [],_,array => .ok array
  | none::names,counts,array => decodeNamed names (fun i => counts (i+1)) array
  | some name::names,counts,array =>
    match uint64ToZendLong (UInt64.ofNat (counts 0)) with
    | .error e => .error e
    | .ok long => decodeNamed names (fun i => counts (i+1)) (symtableUpdate array name long)

theorem decodeMembers_matching (ms : List Metric) (counts : ℕ → ℕ) (array : PhpArray) :
    decodeMembers
      (ms.zip ((ms.map Metric.id).mapIdx fun i id => ⟨UInt64.ofNat (counts i),id⟩)) array =
      decodeNamed (ms.map Metric.name) counts array := by
  induction ms generalizing counts array with
  | nil => rfl
  | cons m ms ih =>
    simp only [List.map_cons, List.mapIdx_cons, List.zip_cons_cons, decodeMembers, ne_eq,
      not_true_eq_false, if_false]
    cases hname : m.name with
    | none => exact ih (fun i => counts (i+1)) array
    | some name =>
      unfold decodeNamed
      dsimp only
      split
      · rfl
      next long _ => exact ih (fun i => counts (i+1)) (symtableUpdate array name long)

theorem uint64ToZendLong_of_le {value : UInt64} (h : value.toNat ≤ zendLongMax) :
    uint64ToZendLong value = .ok value.toNat := if_neg (Nat.not_lt.mpr h)

theorem uint64ToZendLong_of_gt {value : UInt64} (h : value.toNat > zendLongMax) :
    uint64ToZendLong value = .error (longTooLarge value) := if_pos h

theorem uint64ToZendLong_ofNat {n : ℕ} (h : n ≤ zendLongMax) :
    uint64ToZendLong (UInt64.ofNat n) = .ok n := by
  have hlt : n < 2^64 := Nat.lt_of_le_of_lt h (by decide)
  have hn : (UInt64.ofNat n).toNat = n := UInt64.toNat_ofNat_of_lt' hlt
  rw [uint64ToZendLong_of_le (hn.symm ▸ h), hn]

/-- With counts that fit a PHP integer the array is filled by one update for each name. -/
theorem decodeNamed_fits {names : List String} {counts : ℕ → ℕ}
    (h : ∀ i < names.length, counts i ≤ zendLongMax) (array : PhpArray) :
    decodeNamed (names.map some) counts array =
      .ok ((names.mapIdx fun i name => (symtableKey name,(counts i : ℤ))).foldl
        (fun a e => update a e.1 e.2) array) := by
  induction names generalizing counts array with
  | nil => rfl
  | cons name names ih =>
    rw [List.map_cons, decodeNamed, uint64ToZendLong_ofNat (h 0 (Nat.succ_pos _)), List.mapIdx_cons,
      List.foldl_cons]
    exact ih (fun i hi => h (i+1) (Nat.succ_lt_succ hi)) (symtableUpdate array name (counts 0))

/-- The times and values of one group read. -/
structure Reading where
  timeEnabled : UInt64
  timeRunning : UInt64
  values : PhpArray
  deriving DecidableEq, Repr

/-- `Perfidious\ReadResult`. -/
structure ReadResult where
  timeEnabled : ℤ
  timeRunning : ℤ
  values : PhpArray
  deriving DecidableEq, Repr

/-- What a method returns. -/
inductive Value
  | null
  | this
  | stream
  | array (values : PhpArray)
  | result (result : ReadResult)
  deriving DecidableEq, Repr

/-- The exceptions a method throws, in order, each with the one before it as its previous, and its
return value, which is lost when there is an exception. -/
structure MethodOutcome where
  thrown : List Error
  value : Value
  deriving DecidableEq, Repr

/-- The native answers to `Handle::read` or `Handle::readArray`. -/
structure PausedReplies where
  disable : Native Status
  read : Native ReadAnswer
  enable : Native Status

/-- The native answers to `Handle::rawStream`: the duplicated descriptor, and whether PHP could wrap
it into a stream. -/
structure StreamReplies where
  dup : Except Errno ℕ
  stream : Bool

def fcntlError (errno : Errno) : Error where
  exceptionCe := .ioException
  code := errno
  message := [.text "fcntl failed: ",.strerror errno]

def streamError (fd : ℕ) : Error where
  exceptionCe := .ioException
  code := 0
  message := [.text "failed to create stream from fd ",.number fd]

def noSuchMetric : Error := ⟨.valueError,0,
  [.text "Perfidious\\Handle::rawStream(): Argument #1 ($idx) must reference an existing metric file descriptor"]⟩

/-- The decoding part of `perfidious_handle_read_to_array_with_times`. -/
def Handle.decodeRecord (h : Handle) (data : ReadFormat) : Except Error Reading :=
  match decode (h.metrics.zip data.values) with
  | .error e => .error e
  | .ok values => .ok ⟨data.timeEnabled,data.timeRunning,values⟩

/-- The conversion of the times in `perfidious_handle_read_to_result`. -/
def Reading.toResult (reading : Reading) : Except Error ReadResult :=
  match uint64ToZendLong reading.timeEnabled with
  | .error e => .error e
  | .ok timeEnabled =>
    match uint64ToZendLong reading.timeRunning with
    | .error e => .error e
    | .ok timeRunning => .ok ⟨timeEnabled,timeRunning,reading.values⟩

namespace Attached

/-- `perfidious_handle_read_to_array_with_times`. -/
def readToArrayWithTimes (r : Native ReadAnswer) (a : Attached) : Attached × Except Error Reading :=
  let a := { a with group := (a.group.elapse r.elapsed).issue .read }
  match r.answer with
  | .failed errno => (a,.error (readError errno))
  | .short stale => (a,.error (readError stale))
  | .full => (a,a.handle.decodeRecord a.group.readFormat)

/-- `perfidious_handle_read_to_array`. -/
def readToArray (r : Native ReadAnswer) (a : Attached) : Attached × Except Error Value :=
  let (a,reading) := a.readToArrayWithTimes r
  (a,reading.map fun reading => .array reading.values)

/-- `perfidious_handle_read_to_result`. -/
def readToResult (r : Native ReadAnswer) (a : Attached) : Attached × Except Error Value :=
  let (a,reading) := a.readToArrayWithTimes r
  (a,(reading.bind Reading.toResult).map .result)

/-- The common body of `Handle::read` and `Handle::readArray`: an enabled group is paused around
the read. -/
def readPaused (read : Native ReadAnswer → Attached → Attached × Except Error Value)
    (r : PausedReplies) (a : Attached) : Attached × MethodOutcome :=
  if a.handle.enabled then
    let (a,disableErrors) := a.disable r.disable
    let (a,value) := read r.read a
    let (a,enableErrors) := a.enable r.enable
    match value with
    | .error e => (a,⟨disableErrors ++ e::enableErrors,.null⟩)
    | .ok value => (a,⟨disableErrors ++ enableErrors,value⟩)
  else
    let (a,value) := read r.read a
    match value with
    | .error e => (a,⟨[e],.null⟩)
    | .ok value => (a,⟨[],value⟩)

/-- `Handle::read`. -/
def handleRead : PausedReplies → Attached → Attached × MethodOutcome := readPaused readToResult

/-- `Handle::readArray`. -/
def handleReadArray : PausedReplies → Attached → Attached × MethodOutcome := readPaused readToArray

/-- `Handle::enable`. -/
def handleEnable (r : Native Status) (a : Attached) : Attached × MethodOutcome :=
  ((a.enable r).1,⟨(a.enable r).2,.this⟩)

/-- `Handle::disable`. -/
def handleDisable (r : Native Status) (a : Attached) : Attached × MethodOutcome :=
  ((a.disable r).1,⟨(a.disable r).2,.this⟩)

/-- `Handle::reset`. -/
def handleReset (r : ResetReplies) (a : Attached) : Attached × MethodOutcome :=
  ((a.reset r).1,⟨(a.reset r).2,.this⟩)

/-- `Handle::rawStream` with an integer argument. -/
def handleRawStream (idx : ℤ) (r : StreamReplies) (a : Attached) : Attached × MethodOutcome :=
  if idx < 0 ∨ idx ≥ a.handle.metrics.length then (a,⟨[noSuchMetric],.null⟩)
  else
    let a := { a with group := a.group.issue .dup }
    match r.dup with
    | .error errno => (a,⟨[fcntlError errno],.null⟩)
    | .ok fd => if r.stream then (a,⟨[],.stream⟩) else (a,⟨[streamError fd],.null⟩)

end Attached

theorem symtableKey_string {s t : String} (h : symtableKey s = .string t) : s = t := by
  unfold symtableKey at h
  split at h <;> split at h <;> (try split at h) <;> cases h <;> rfl

example : symtableKey "12" = .index 12 := by decide
example : symtableKey "-0" = .string "-0" := by decide

end Perfidious
