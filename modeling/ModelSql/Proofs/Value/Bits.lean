/-
**Bits of integers.**

An integer is a word of 64 bits, and its first bit is the sign.  The bits that two words differ in are those
of one of them that are not bits of both, so that the exclusive or is a difference, which needs no more
bits than the words have.  A shift to the left is a product that loses the bits that do not fit, and a shift
to the right is a quotient that is rounded down; a quotient that is cut off toward zero is another one, for
a negative integer that the divisor does not divide.

Main results:

* `BitVec.toInt_or_sub_and` — **the exclusive or as a difference**, on signed words;
* `Value.toInt_shiftLeft`, `Value.toInt_shiftRight` — shifts as numbers;
* `Value.toInt_shiftLeft_eq_iff` — when a shift to the left is a product;
* `Value.toInt_shiftRight_eq_iff` — **when a shift to the right is a quotient cut off toward zero**.
-/

import Mathlib.Algebra.Order.Ring.Int
import ModelSql.Proofs.Value.Integer

set_option relaxedAutoImplicit false
set_option autoImplicit false

namespace ModelSql

/-! ### Words -/

namespace BitVec

variable {w : Nat} (x y : BitVec w)

/-- No bit is shared by two words and one that they differ in. -/
theorem and_and_xor_eq_zero : (x &&& y) &&& (x ^^^ y) = 0 := by
  ext i hi
  simp only [BitVec.getElem_and, BitVec.getElem_xor, BitVec.getElem_zero, BitVec.ofNat_eq_ofNat]
  cases x[i] <;> cases y[i] <;> rfl

theorem and_or_xor_eq_or : (x &&& y) ||| (x ^^^ y) = x ||| y := by
  ext i hi
  simp only [BitVec.getElem_and, BitVec.getElem_xor, BitVec.getElem_or]
  cases x[i] <;> cases y[i] <;> rfl

/-- **The bits that words share and those that they differ in** make up all their bits. -/
theorem toNat_and_add_xor : (x &&& y).toNat + (x ^^^ y).toNat = (x ||| y).toNat := by
  rw [← BitVec.toNat_add_of_and_eq_zero (and_and_xor_eq_zero x y),
    BitVec.add_eq_or_of_and_eq_zero _ _ (and_and_xor_eq_zero x y), and_or_xor_eq_or]

/-- **The exclusive or as a difference.**  The signs agree: only where the words have different signs is the
exclusive or negative, and there the or is negative and the and is not. -/
theorem toInt_or_sub_and : (x ||| y).toInt - (x &&& y).toInt = (x ^^^ y).toInt := by
  have hsum := toNat_and_add_xor x y
  rw [BitVec.toInt_eq_msb_cond, BitVec.toInt_eq_msb_cond, BitVec.toInt_eq_msb_cond, BitVec.msb_or,
    BitVec.msb_and, BitVec.msb_xor]
  cases x.msb <;> cases y.msb <;> grind only

end BitVec

namespace Value

variable {a b : Int64} {n : Nat}

/-- The exclusive or of two integers is the difference of their or and their and. -/
theorem toInt_or_sub_and (a b : Int64) : (a ||| b).toInt - (a &&& b).toInt = (a ^^^ b).toInt :=
  BitVec.toInt_or_sub_and a.toBitVec b.toBitVec

/-! ### Shifts -/

/-- An amount below the width is not reduced. -/
theorem toNat_smod_width (hb : b.toInt = n) (hn : n < 64) : (b.toBitVec.smod 64).toNat = n := by
  have hmod : (b.toBitVec.smod 64).toInt = n := by
    have hwidth : (64 : BitVec 64).toInt = 64 := by decide
    rw [BitVec.toInt_smod, Int64.toInt_toBitVec, hb, hwidth]
    exact Int.fmod_eq_of_lt (Int.natCast_nonneg n) (by omega)
  have hcond := BitVec.toInt_eq_toNat_cond (b.toBitVec.smod 64)
  omega

/-- **A shift to the left** is a product that is cut off to 64 bits. -/
theorem toInt_shiftLeft (hb : b.toInt = n) (hn : n < 64) :
    (a <<< b).toInt = (a.toInt * 2 ^ n).bmod (2 ^ 64) := by
  rw [← Int64.toInt_toBitVec, Int64.toBitVec_shiftLeft, BitVec.shiftLeft_eq', BitVec.toInt_shiftLeft,
    toNat_smod_width hb hn, Nat.shiftLeft_eq, Int.natCast_mul, ← Int.bmod_mul_bmod,
    ← BitVec.toInt_eq_toNat_bmod, Int64.toInt_toBitVec]
  norm_cast

/-- **A shift to the right** is a quotient that is rounded down. -/
theorem toInt_shiftRight (hb : b.toInt = n) (hn : n < 64) : (a >>> b).toInt = a.toInt / 2 ^ n := by
  rw [← Int64.toInt_toBitVec, Int64.toBitVec_shiftRight, BitVec.sshiftRight',
    BitVec.toInt_sshiftRight, toNat_smod_width hb hn, Int.shiftRight_eq_div_pow, Int64.toInt_toBitVec]
  norm_cast

/-- A shift to the left is a product as long as the product has 64 bits. -/
theorem toInt_shiftLeft_eq_iff (hb : b.toInt = n) (hn : n < 64) :
    (a <<< b).toInt = a.toInt * 2 ^ n ↔ -2 ^ 63 ≤ a.toInt * 2 ^ n ∧ a.toInt * 2 ^ n < 2 ^ 63 := by
  constructor
  · intro h
    rw [← h]
    exact ⟨(a <<< b).le_toInt, (a <<< b).toInt_lt⟩
  · rintro ⟨hmin, hmax⟩
    rw [toInt_shiftLeft hb hn]
    exact Int.bmod_eq_of_le hmin hmax

/-- **A shift to the right is a quotient cut off toward zero** unless it rounds a negative integer. -/
theorem toInt_shiftRight_eq_iff (hb : b.toInt = n) (hn : n < 64) :
    (a >>> b).toInt = a.toInt.tdiv (2 ^ n) ↔ 0 ≤ a.toInt ∨ (2 ^ n : Int) ∣ a.toInt := by
  have hpos : (0 : Int) < 2 ^ n := Int.pow_pos (by decide)
  rw [toInt_shiftRight hb hn, Int.tdiv_eq_ediv, Int.sign_eq_one_of_pos hpos]
  split
  · rename_i h
    exact iff_of_true (Int.add_zero _).symm h
  · rename_i h
    exact iff_of_false (by omega) h

theorem binary_shl (hb : b.toInt = n) (hn : n < 64) :
    binary .shl (int a) (int b) = .ok (int (a <<< b)) := by
  rw [binary, bitwise, if_pos (by omega)]

theorem binary_shr (hb : b.toInt = n) (hn : n < 64) :
    binary .shr (int a) (int b) = .ok (int (a >>> b)) := by
  rw [binary, bitwise, if_pos (by omega)] <;> nofun

end Value

end ModelSql
