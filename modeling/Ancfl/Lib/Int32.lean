/-
  Conversions between the integer types of 32 and 64 bits.
-/
import Mathlib.Algebra.Order.Ring.Int
import Mathlib.Tactic.Common

namespace Lib

/-- The conversion to `int32_t`. -/
def toInt32 (x : ℤ) : ℤ := Int.bmod x (2 ^ 32)

/-- The conversion to `uint32_t`. -/
def toUInt32 (x : ℤ) : ℕ := (x % 2 ^ 32).toNat

/-- The conversion to `int64_t`. -/
def toInt64 (x : ℤ) : ℤ := Int.bmod x (2 ^ 64)

/-- The conversion to `uint64_t` or `size_t`. -/
def toUInt64 (x : ℤ) : ℕ := (x % 2 ^ 64).toNat

def Fits32 (x : ℤ) : Prop := -(2 ^ 31) ≤ x ∧ x < 2 ^ 31

def Fits64 (x : ℤ) : Prop := -(2 ^ 63) ≤ x ∧ x < 2 ^ 63

instance (x : ℤ) : Decidable (Fits32 x) := inferInstanceAs (Decidable (_ ∧ _))

instance (x : ℤ) : Decidable (Fits64 x) := inferInstanceAs (Decidable (_ ∧ _))

/-- The value of an `int32_t` expression, where an overflow has no defined behaviour. -/
def checked32 (x : ℤ) : Option ℤ := if Fits32 x then some x else none

theorem checked32_of_fits {x : ℤ} (h : Fits32 x) : checked32 x = some x := if_pos h

theorem toInt32_of_lt {x : ℤ} (h0 : -(2 ^ 31) ≤ x) (h : x < 2 ^ 31) : toInt32 x = x := by
  rw [toInt32, Int.bmod_eq_of_le] <;> omega

theorem toInt32_range (x : ℤ) : -(2 ^ 31) ≤ toInt32 x ∧ toInt32 x < 2 ^ 31 := by
  rw [toInt32, Int.bmod_def]
  split_ifs <;> omega

theorem toInt32_natCast {n : ℕ} (h : n < 2 ^ 31) : toInt32 n = n := toInt32_of_lt (by omega) (by omega)

theorem toInt32_of_ge {n : ℕ} (h : 2 ^ 31 ≤ n) (h32 : n < 2 ^ 32) : toInt32 n < 0 := by
  rw [toInt32, Int.bmod_def, Int.emod_eq_of_lt (by omega) (by omega), if_neg (by omega)]
  omega

theorem toUInt32_natCast {n : ℕ} (h : n < 2 ^ 32) : toUInt32 n = n := by
  rw [toUInt32, Int.emod_eq_of_lt (by omega) (by omega), Int.toNat_natCast]

theorem toInt64_natCast {n : ℕ} (h : n < 2 ^ 63) : toInt64 n = n := by
  rw [toInt64, Int.bmod_eq_of_le] <;> omega

theorem toUInt64_natCast {n : ℕ} (h : n < 2 ^ 64) : toUInt64 n = n := by
  rw [toUInt64, Int.emod_eq_of_lt (by omega) (by omega), Int.toNat_natCast]

theorem toUInt64_cast (x : ℤ) : (toUInt64 x : ℤ) = x % 2 ^ 64 := Int.toNat_of_nonneg (by omega)

/-- An `int64_t` survives the conversion to `size_t` and back. -/
theorem toInt64_toUInt64 {x : ℤ} (h0 : -(2 ^ 63) ≤ x) (h : x < 2 ^ 63) : toInt64 (toUInt64 x) = x := by
  rw [toUInt64_cast, toInt64, Int.bmod_def]
  split_ifs <;> omega

/-- An `int` survives the conversion to `size_t` and back. -/
theorem toInt32_toUInt64 {x : ℤ} (h0 : -(2 ^ 31) ≤ x) (h : x < 2 ^ 31) : toInt32 (toUInt64 x) = x := by
  rw [toUInt64_cast, toInt32, Int.bmod_def]
  split_ifs <;> omega

/-- The conversion of a number that is not negative to `size_t`. -/
theorem toNat_signExtend_of_nonneg {n : BitVec 32} (h : 0 ≤ n.toInt) :
    (n.signExtend 64).toNat = n.toInt.toNat := by
  have hmsb : n.msb = false := by
    rw [BitVec.msb_eq_toInt]
    exact decide_eq_false (not_lt.2 h)
  rw [BitVec.signExtend_eq_setWidth_of_msb_false hmsb, BitVec.toNat_setWidth,
    Nat.mod_eq_of_lt (n.isLt.trans_le (by decide)), BitVec.toInt_eq_toNat_of_msb hmsb, Int.toNat_natCast]

end Lib
