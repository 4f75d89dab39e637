import Mathlib.Algebra.Group.Nat.Defs
import Mathlib.Algebra.Ring.Int.Defs
import Mathlib.Data.Nat.Bitwise

/-! The 64-bit integer types of the supported platforms. `php_perfidious.h` refuses any build
in which `size_t` and `zend_long` are not 64 bits wide. -/
namespace Perfidious

/-- `UINT64_MAX`. -/
def uint64Max : UInt64 := 0xffffffffffffffff

/-- `ZEND_LONG_MAX`, the largest PHP integer. -/
def zendLongMax : ℕ := 2^63-1

@[simp] theorem toNat_uint64Max : uint64Max.toNat = 2^64-1 := rfl

theorem toNat_le_uint64Max (x : UInt64) : x.toNat ≤ 2^64-1 := by
  have := x.toNat_lt
  omega

/-- The guard `a > UINT64_MAX - b` detects exactly the sums that leave 64 bits. -/
theorem gt_uint64Max_sub_iff (a b : UInt64) :
    uint64Max - b < a ↔ 2^64 ≤ a.toNat + b.toNat := by
  have hb : b ≤ uint64Max := by
    rw [UInt64.le_iff_toNat_le, toNat_uint64Max]
    exact toNat_le_uint64Max b
  rw [UInt64.lt_iff_toNat_lt, UInt64.toNat_sub_of_le _ _ hb, toNat_uint64Max]
  have := toNat_le_uint64Max b
  omega

theorem toNat_add_of_lt {a b : UInt64} (h : a.toNat + b.toNat < 2^64) :
    (a+b).toNat = a.toNat + b.toNat := by
  rw [UInt64.toNat_add, Nat.mod_eq_of_lt h]

/-- The guard `a > UINT64_MAX / b` detects exactly the products that leave 64 bits. -/
theorem gt_uint64Max_div_iff (a : UInt64) {b : UInt64} (hb : b ≠ 0) :
    uint64Max/b < a ↔ 2^64 ≤ a.toNat*b.toNat := by
  have hpos : 0 < b.toNat := Nat.pos_of_ne_zero fun h => hb (UInt64.toNat_inj.mp h)
  rw [UInt64.lt_iff_toNat_lt, UInt64.toNat_div, toNat_uint64Max, Nat.div_lt_iff_lt_mul hpos]
  omega

theorem toNat_mul_of_lt {a b : UInt64} (h : a.toNat*b.toNat < 2^64) :
    (a*b).toNat = a.toNat*b.toNat := by
  rw [UInt64.toNat_mul, Nat.mod_eq_of_lt h]

/-- The test of a mask with one bit in it. -/
theorem and_two_pow_ne_zero_iff (x i : ℕ) : x &&& 2^i ≠ 0 ↔ x.testBit i = true := by
  rw [Nat.and_two_pow]
  cases x.testBit i <;> simp

/-- The conversion `0x%016llx`. -/
def hex16 (value : UInt64) : String :=
  "0x" ++ String.ofList ((Nat.toDigits 16 value.toNat).leftpad 16 '0')

end Perfidious
