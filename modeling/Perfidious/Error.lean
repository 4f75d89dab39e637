import Mathlib.Data.Nat.Notation
import Mathlib.Data.Int.Notation
import Mathlib.Tactic.SplitIfs

/-! Exceptions and deferred error records. A formatted message is kept as the list of its parts,
since the texts of `strerror` and `pfm_strerror` belong to the host libraries. -/
namespace Perfidious

abbrev Errno := ℕ

def EINTR : Errno := 4
def EIO : Errno := 5
def EAGAIN : Errno := 11
def ENOMEM : Errno := 12

/-- The class entries an exception of this extension can have. -/
inductive ClassEntry
  | ioException
  | overflowException
  | closedException
  | wrongThreadException
  | pmuEventNotFoundException
  | unsupportedMetricException
  | resourceBusyException
  | domainException
  | valueError
  | typeError
  | error
  deriving DecidableEq, Repr

/-- One conversion of a `printf` format, or the literal text between two of them. -/
inductive Part
  | text (s : String)
  | number (n : ℤ)
  | strerror (error : Errno)
  | pfmStrerror (error : ℤ)
  deriving DecidableEq, Repr

/-- `struct perfidious_error`, and equally a thrown exception. A null `exception_ce` is `none` at
type `Option Error`. Messages are kept whole, where `char message[512]` keeps the first 511 bytes. -/
structure Error where
  exceptionCe : ClassEntry
  code : ℤ
  message : List Part
  deriving DecidableEq, Repr

/-- A native call that failed with `errno` set to zero still counts as failed. -/
def nonzeroErrno (errno : Errno) : Errno := if errno ≠ 0 then errno else EIO

theorem nonzeroErrno_ne_zero (errno : Errno) : nonzeroErrno errno ≠ 0 := by
  unfold nonzeroErrno
  split_ifs with h
  · exact h
  · decide

@[simp] theorem isOk_ok {ε α : Type} (a : α) : (Except.ok a : Except ε α).isOk = true := rfl
@[simp] theorem isOk_error {ε α : Type} (e : ε) : (Except.error e : Except ε α).isOk = false := rfl

end Perfidious
