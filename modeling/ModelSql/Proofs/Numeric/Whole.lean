/-
**Whole numbers among floats and decimals.**

A finite float is a natural number of powers of two with a sign, and a decimal one of powers of ten.  Where
the power is a fraction, the number is whole if the power goes into it without a rest.  The integer that is
taken out of a float or a decimal is then the number itself, however large it is.

Main definitions:

* `Binary.value?` — **the number that a datum is**.

Main results:

* `natCast_div_eq_iff` — when a quotient is whole;
* `Binary.toInt?_eq_some_iff`, `Decimal.toInt?_eq_some_iff` — **the integer is the number**.
-/

import ModelSql.Proofs.Numeric.Overflow
import ModelSql.Proofs.Numeric.Places

set_option relaxedAutoImplicit false
set_option autoImplicit false

namespace ModelSql.Numeric

variable {c q : Nat} {n : Int}

/-- **When a quotient is whole**: the divisor leaves no rest. -/
theorem natCast_div_eq_iff (hq : 0 < q) :
    (c : ℚ) / q = n ↔ c % q = 0 ∧ ((c / q : Nat) : Int) = n := by
  have hne : (q : ℚ) ≠ 0 := by exact_mod_cast hq.ne'
  rw [div_eq_iff hne]
  constructor
  · intro h
    have hmul : (c : Int) = n * q := by exact_mod_cast h
    have hdvd : q ∣ c := Int.natCast_dvd_natCast.1 ⟨n, by rw [hmul, Int.mul_comm]⟩
    refine ⟨Nat.mod_eq_zero_of_dvd hdvd, ?_⟩
    rw [Int.natCast_div, hmul]
    exact Int.mul_ediv_cancel n (by omega)
  · rintro ⟨hmod, rfl⟩
    exact_mod_cast (Nat.div_mul_cancel (Nat.dvd_of_mod_eq_zero hmod)).symm

/-! ### Signs -/

/-- A sign can be taken to the other side. -/
theorem signed_eq_iff {α : Type} [InvolutiveNeg α] (negative : Bool) (x y : α) :
    (if negative then -x else x) = y ↔ x = if negative then -y else y := by
  cases negative with
  | false => rfl
  | true => exact neg_eq_iff_eq_neg

theorem signed_eq_intCast_iff (negative : Bool) (x : ℚ) (n : Int) :
    (if negative then -x else x) = n ↔ x = ((if negative then -n else n : Int) : ℚ) := by
  rw [signed_eq_iff, apply_ite Int.cast, Int.cast_neg]

/-- The integer that is taken out of a quotient with a sign. -/
theorem whole_iff (negative : Bool) (c q : Nat) (n : Int) :
    (if c % q = 0 then some (if negative then -((c / q : Nat) : Int) else (c / q : Nat)) else none) = some n ↔
      c % q = 0 ∧ ((c / q : Nat) : Int) = if negative then -n else n := by
  by_cases hmod : c % q = 0
  · rw [if_pos hmod, Option.some.injEq, signed_eq_iff]
    exact (and_iff_right hmod).symm
  · rw [if_neg hmod]
    exact iff_of_false nofun fun h => hmod h.1

/-! ### Floats -/

namespace Binary

/-- **The number that a datum is**, if it is finite. -/
def value? : Binary → Option ℚ
  | .finite negative m e => some (if negative then -(m * (2 : ℚ) ^ e) else m * (2 : ℚ) ^ e)
  | _ => none

/-- A magnitude with a power of two behind the point. -/
theorem mul_zpow_of_neg (m : Nat) {e : Int} (he : e < 0) :
    (m : ℚ) * (2 : ℚ) ^ e = m / (twoTo (-e).toNat : Nat) := by
  have hcast : (((-e).toNat : Nat) : Int) = -e := Int.toNat_of_nonneg (by omega)
  rw [cast_twoTo, hcast, zpow_neg, div_inv_eq_mul]

/-- A magnitude with a power of two in front of the point. -/
theorem mul_zpow_of_nonneg (m : Nat) {e : Int} (he : 0 ≤ e) :
    (m : ℚ) * (2 : ℚ) ^ e = (m * twoTo e.toNat : Nat) := by
  have hcast : ((e.toNat : Nat) : Int) = e := Int.toNat_of_nonneg he
  rw [Nat.cast_mul, cast_twoTo, hcast]

/-- **The integer of a datum is its number.** -/
theorem toInt?_eq_some_iff (b : Binary) : b.toInt? = some n ↔ b.value? = some (n : ℚ) := by
  cases b with
  | nan => simp [toInt?, value?]
  | infinite negative => simp [toInt?, value?]
  | finite negative m e =>
      rw [value?, Option.some.injEq, signed_eq_intCast_iff]
      by_cases he : 0 ≤ e
      · have hint : toInt? (.finite negative m e) =
            some (if negative then -((m * twoTo e.toNat : Nat) : Int) else (m * twoTo e.toNat : Nat)) := by
          rw [toInt?, if_pos he]
          rfl
        rw [hint, Option.some.injEq, signed_eq_iff, mul_zpow_of_nonneg m he]
        exact_mod_cast Iff.rfl
      · have hint : toInt? (.finite negative m e) = if m % twoTo (-e).toNat = 0 then
            some (if negative then -((m / twoTo (-e).toNat : Nat) : Int) else (m / twoTo (-e).toNat : Nat))
            else none := by
          rw [toInt?, if_neg he]
          by_cases hmod : m % twoTo (-e).toNat = 0
          · rw [if_pos hmod, if_pos hmod]
            rfl
          · rw [if_neg hmod, if_neg hmod]
            rfl
        have hpos : 0 < twoTo (-e).toNat := Nat.two_pow_pos _
        rw [hint, mul_zpow_of_neg m (by omega), natCast_div_eq_iff hpos]
        exact whole_iff negative _ _ n

end Binary

/-! ### Decimals -/

/-- **The integer of a decimal is its number.** -/
theorem Decimal.toInt?_eq_some_iff (d : Decimal) : d.toInt? = some n ↔ d.value = n := by
  have hcast : (10 : ℚ) ^ d.scale = (tenTo d.scale : Nat) := (Nat.cast_pow 10 d.scale).symm
  rw [value_eq, signed_eq_intCast_iff, hcast, natCast_div_eq_iff (tenTo_pos d.scale)]
  exact whole_iff d.negative _ _ n

end ModelSql.Numeric
