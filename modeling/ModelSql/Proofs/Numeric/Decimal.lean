/-
**Decimals as numbers.**

No decimal has more than 28 places, so every decimal is a whole number of units of the last of them.  Two
decimals are compared on the places of the one that has more; on all 28 places the order is the same, and
there it is that of whole numbers.

Main definitions:

* `Decimal.units` — **the number of a decimal**, in units of the last place.

Main results:

* `Decimal.scaledTo_add` — more places, more zeros;
* `Decimal.compare_eq` — **decimals are compared by their numbers**;
* `Decimal.units_ofInt64` — the number of an integer.
-/

import Mathlib.Algebra.Order.Ring.Int
import ModelSql.Numeric.Decimal

set_option relaxedAutoImplicit false
set_option autoImplicit false

namespace ModelSql.Numeric

/-- A common positive factor does not change how integers compare. -/
theorem compare_mul_right {k : Int} (hk : 0 < k) (m n : Int) :
    Ord.compare (m * k) (n * k) = Ord.compare m n := by
  rw [Int.compare_eq_ite_lt, Int.compare_eq_ite_lt]
  simp only [Int.mul_lt_mul_right hk]

namespace Decimal

/-- **The number of a decimal**, in units of the last place that a decimal can have. -/
def units (d : Decimal) : Int := d.scaledTo maxScale

/-- **More places, more zeros.** -/
theorem scaledTo_add (d : Decimal) {p : Nat} (hp : d.scale ≤ p) (k : Nat) :
    d.scaledTo (p + k) = d.scaledTo p * (tenTo k : Nat) := by
  have hpower : tenTo (p + k - d.scale) = tenTo (p - d.scale) * tenTo k := by
    rw [Nat.sub_add_comm hp]
    exact Nat.pow_add 10 _ _
  have hmagnitude : ((d.coefficient * (tenTo (p - d.scale) * tenTo k) : Nat) : Int) =
      (d.coefficient * tenTo (p - d.scale) : Nat) * (tenTo k : Nat) := by
    rw [← Nat.mul_assoc, Int.natCast_mul]
  simp only [scaledTo, hpower, hmagnitude]
  split
  · rw [Int.neg_mul]
  · rfl

/-- **Decimals are compared by their numbers.** -/
theorem compare_eq (a b : Decimal) : a.compare b = Ord.compare a.units b.units := by
  have hscale : max a.scale b.scale ≤ maxScale := Nat.max_le.2 ⟨a.scale_le, b.scale_le⟩
  have hplaces : maxScale = max a.scale b.scale + (maxScale - max a.scale b.scale) := by omega
  have hpos : (0 : Int) < (tenTo (maxScale - max a.scale b.scale) : Nat) := by
    exact_mod_cast tenTo_pos _
  rw [units, units, hplaces, scaledTo_add a (Nat.le_max_left _ _), scaledTo_add b (Nat.le_max_right _ _),
    compare_mul_right hpos, compare]

/-- An integer of 64 bits is a decimal without places. -/
theorem parts_ofInt64 (n : Int64) :
    (ofInt64 n).negative = decide (n.toInt < 0) ∧ (ofInt64 n).coefficient = n.toInt.natAbs ∧
      (ofInt64 n).scale = 0 := by
  have hbound : n.toInt.natAbs < coefficientBound := by
    have hmin := n.le_toInt
    have hmax := n.toInt_lt
    unfold coefficientBound
    omega
  have hsign : (decide (n.toInt < 0) && n.toInt.natAbs != 0) = decide (n.toInt < 0) := by
    by_cases hneg : n.toInt < 0
    · have hne : n.toInt.natAbs ≠ 0 := by omega
      simp [hneg, hne]
    · simp [hneg]
  unfold ofInt64 ofInt? ofParts? ofSigned?
  rw [dif_pos ⟨hbound, Nat.zero_le _⟩, hsign]
  exact ⟨rfl, rfl, rfl⟩

/-- The number of an integer. -/
theorem units_ofInt64 (n : Int64) : (ofInt64 n).units = n.toInt * (tenTo maxScale : Nat) := by
  obtain ⟨hnegative, hcoefficient, hscale⟩ := parts_ofInt64 n
  have hplaces := scaledTo_add (ofInt64 n) (Nat.le_of_eq hscale) maxScale
  rw [Nat.zero_add] at hplaces
  rw [units, hplaces, scaledTo, hnegative, hcoefficient, hscale, Nat.sub_zero, tenTo_zero, Nat.mul_one]
  congr 1
  simp only [decide_eq_true_eq]
  split <;> omega

end Decimal

end ModelSql.Numeric
