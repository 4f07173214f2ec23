/-
**The places of a decimal.**

A decimal is a number with some places behind the point, of which the last ones may be zeros.  The places
that the number needs are those that are left without such zeros: with as many places or more the number is
a whole number of units of the last place, and with fewer it is not.

Main definitions:

* `Decimal.value` — **the number that a decimal is**;
* `Decimal.Fits` — the numbers that are whole numbers of units of a place.

Main results:

* `Decimal.stripZeros_spec` — what is left without zeros at the end;
* `Decimal.normalizedScale_le_iff` — **the places that a number needs**.
-/

import Mathlib.Algebra.Field.Rat
import Mathlib.Tactic.NormNum
import ModelSql.Numeric.Decimal

set_option relaxedAutoImplicit false
set_option autoImplicit false

namespace ModelSql.Numeric

/-- A number that does not end with a zero needs all its places. -/
theorem tenTo_dvd_mul_tenTo_iff {c s p : Nat} (h : s = 0 ∨ c % 10 ≠ 0) :
    tenTo s ∣ c * tenTo p ↔ s ≤ p := by
  constructor
  · intro hdvd
    by_contra hlt
    -- one of the factors ten has to come from the coefficient
    obtain ⟨k, rfl⟩ : ∃ k, s = k + 1 + p := ⟨s - p - 1, by omega⟩
    have hpower : tenTo (k + 1 + p) = tenTo (k + 1) * tenTo p := Nat.pow_add 10 (k + 1) p
    rw [hpower] at hdvd
    have hcoefficient : tenTo (k + 1) ∣ c := Nat.dvd_of_mul_dvd_mul_right (tenTo_pos p) hdvd
    have hten : 10 ∣ c := Nat.dvd_trans ⟨tenTo k, Nat.pow_succ'⟩ hcoefficient
    omega
  · intro hle
    exact Nat.dvd_mul_left_of_dvd (Nat.pow_dvd_pow 10 hle) c

namespace Decimal

variable (d : Decimal) {p : Nat}

/-- The coefficient with the sign. -/
def signed : Int := if d.negative then -d.coefficient else d.coefficient

/-- **The number that a decimal is.** -/
def value : ℚ := d.signed / 10 ^ d.scale

theorem value_eq : d.value =
    if d.negative then -(d.coefficient / 10 ^ d.scale : ℚ) else d.coefficient / 10 ^ d.scale := by
  rw [value, signed]
  split
  · rw [Int.cast_neg, Int.cast_natCast, neg_div]
  · rw [Int.cast_natCast]

/-- Whether the number is a whole number of units of a place. -/
def Fits (p : Nat) : Prop := ∃ n : Int, d.value * 10 ^ p = n

/-- **What is left without zeros at the end** is the same number, and it has no places or ends with another
digit. -/
theorem stripZeros_spec {c s c' s' : Nat} (h : stripZeros s c s = (c', s')) :
    s' ≤ s ∧ c = c' * tenTo (s - s') ∧ (s' = 0 ∨ c' % 10 ≠ 0) := by
  induction s generalizing c with
  | zero =>
      cases h
      exact ⟨Nat.le_refl 0, (Nat.mul_one _).symm, .inl rfl⟩
  | succ s ih =>
      rw [stripZeros, Nat.add_sub_cancel] at h
      split at h
      · rename_i hzero
        obtain ⟨hle, hc, hend⟩ := ih h
        refine ⟨Nat.le_succ_of_le hle, ?_, hend⟩
        have hten : c = c / 10 * 10 := (Nat.div_mul_cancel (Nat.dvd_of_mod_eq_zero hzero.2)).symm
        rw [Nat.succ_sub hle, tenTo_succ, ← Nat.mul_assoc, ← hc]
        exact hten
      · rename_i hkept
        cases h
        refine ⟨Nat.le_refl _, ?_, ?_⟩
        · rw [Nat.sub_self, tenTo_zero, Nat.mul_one]
        · exact .inr fun hzero => hkept ⟨Nat.succ_pos s, hzero⟩

theorem fits_iff_dvd : d.Fits p ↔ tenTo d.scale ∣ d.coefficient * tenTo p := by
  have hscale : (10 : ℚ) ^ d.scale ≠ 0 := pow_ne_zero d.scale (by norm_num)
  have hwhole (n : Int) : d.value * 10 ^ p = n ↔ d.signed * tenTo p = tenTo d.scale * n := by
    rw [value, div_mul_eq_mul_div, div_eq_iff hscale, mul_comm (n : ℚ)]
    exact_mod_cast Iff.rfl
  have hcoefficient : (d.signed * tenTo p).natAbs = d.coefficient * tenTo p := by
    rw [Int.natAbs_mul, Int.natAbs_natCast, signed]
    split
    · rw [Int.natAbs_neg, Int.natAbs_natCast]
    · rw [Int.natAbs_natCast]
  calc d.Fits p ↔ ∃ n : Int, d.signed * tenTo p = tenTo d.scale * n := exists_congr hwhole
    _ ↔ ((tenTo d.scale : Nat) : Int) ∣ d.signed * tenTo p := Iff.rfl
    _ ↔ tenTo d.scale ∣ d.coefficient * tenTo p := by rw [Int.natCast_dvd, hcoefficient]

/-- **The places that a number needs.** -/
theorem normalizedScale_le_iff : d.normalizedScale ≤ p ↔ d.Fits p := by
  obtain ⟨c, hstrip⟩ : ∃ c, stripZeros d.scale d.coefficient d.scale = (c, d.normalizedScale) :=
    ⟨_, rfl⟩
  obtain ⟨hle, hc, hend⟩ := stripZeros_spec hstrip
  -- the zeros at the end are a factor of both sides
  have hpower : tenTo d.scale = tenTo d.normalizedScale * tenTo (d.scale - d.normalizedScale) := by
    have hsum := Nat.pow_add 10 d.normalizedScale (d.scale - d.normalizedScale)
    rwa [Nat.add_sub_cancel' hle] at hsum
  rw [fits_iff_dvd, hpower, hc, Nat.mul_right_comm,
    Nat.mul_dvd_mul_iff_right (tenTo_pos _), tenTo_dvd_mul_tenTo_iff hend]

end Decimal

end ModelSql.Numeric
