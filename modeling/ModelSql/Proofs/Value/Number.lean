/-
**Values as integers.**

A value that is a number can be asked for its integer.  Truth values are zero and one, and a variant is its
position.  A number with a fraction has no integer.  A decimal that needs more than 64 bits has none
either, but a float that does is given the integer of 64 bits that is nearest to it.  So the integer is the
number itself for all values but these floats.

Main definitions:

* `Value.number?` — **the number that a value is**;
* `Value.IsBeyond` — **the floats that need more than 64 bits**.

Main results:

* `Value.toInt_clamp64` — the nearest integer of 64 bits;
* `Value.toInt?_of_number?` — a number that is an integer of 64 bits is taken as it is;
* `Value.number?_iff_of_toInt?` — **when the integer of a value is its number**.
-/

import ModelSql.Proofs.Numeric.Whole
import ModelSql.Proofs.Value.Integer

set_option relaxedAutoImplicit false
set_option autoImplicit false

namespace ModelSql.Value

open Numeric (Binary Decimal)

/-- **The number that a value is**: zero or one for a truth value, the position for a variant. -/
def number? : Value → Option ℚ
  | bool b => some (if b then 1 else 0)
  | int n => some n.toInt
  | float f => (Binary.ofFloat f).value?
  | decimal x => some x.value
  | enum e => some e.ordinal.toInt
  | _ => none

/-- **The floats that need more than 64 bits.** -/
def IsBeyond : Value → Prop
  | float f => ∃ x, (Binary.ofFloat f).value? = some x ∧ (x < -2 ^ 63 ∨ 2 ^ 63 ≤ x)
  | _ => False

variable {v : Value} {n : Int64} {f : Float} {x : Decimal}

/-- **The nearest integer of 64 bits.** -/
theorem toInt_clamp64 (k : Int) : (clamp64 k).toInt = max (-2 ^ 63) (min k (2 ^ 63 - 1)) := by
  have hmin := Int64.toInt_minValue
  have hmax := Int64.toInt_maxValue
  unfold clamp64
  split
  · omega
  · split
    · omega
    · rw [Int64.toInt_ofInt_of_le (by omega) (by omega)]
      omega

/-- An integer of 64 bits is the nearest one to itself. -/
theorem clamp64_toInt (n : Int64) : clamp64 n.toInt = n := by
  have hmin := n.le_toInt
  have hmax := n.toInt_lt
  apply Int64.toInt_inj.1
  rw [toInt_clamp64]
  omega

/-- The integer of a float is the nearest one to a whole number. -/
theorem toInt?_float_eq_some_iff : (float f).toInt? = some n ↔
    ∃ k : Int, (Binary.ofFloat f).value? = some (k : ℚ) ∧ clamp64 k = n := by
  rw [toInt?, Option.map_eq_some_iff]
  exact exists_congr fun k => and_congr_left' (Binary.ofFloat f).toInt?_eq_some_iff

/-- The integer of a decimal is its number. -/
theorem toInt?_decimal_eq_some_iff : (decimal x).toInt? = some n ↔ x.value = n.toInt := by
  rw [toInt?, Option.bind_eq_some_iff]
  constructor
  · rintro ⟨k, hk, hn⟩
    rw [← int64?_eq_some_iff.1 hn]
    exact x.toInt?_eq_some_iff.1 hk
  · intro h
    exact ⟨n.toInt, x.toInt?_eq_some_iff.2 h, int64?_eq_some_iff.2 rfl⟩

/-- **A number that is an integer of 64 bits is taken as it is.** -/
theorem toInt?_of_number? (h : v.number? = some (n.toInt : ℚ)) : v.toInt? = some n := by
  cases v with
  | bool b =>
      have hint : n.toInt = if b then 1 else 0 := by
        cases b <;> simpa [number?, eq_comm] using h
      cases b <;> exact congrArg some (Int64.toInt_inj.1 hint.symm)
  | int m =>
      have hint : m.toInt = n.toInt := by simpa [number?] using h
      exact congrArg some (Int64.toInt_inj.1 hint)
  | float f => exact toInt?_float_eq_some_iff.2 ⟨n.toInt, h, clamp64_toInt n⟩
  | decimal x => exact toInt?_decimal_eq_some_iff.2 (Option.some.inj h)
  | enum e =>
      have hint : e.ordinal.toInt = n.toInt := by simpa [number?] using h
      exact congrArg some (Int64.toInt_inj.1 hint)
  | _ => cases h

/-- **When the integer of a value is its number**: always, but for the floats that need more bits. -/
theorem number?_iff_of_toInt? (h : v.toInt? = some n) :
    v.number? = some (n.toInt : ℚ) ↔ ¬ v.IsBeyond := by
  cases v with
  | bool b =>
      obtain rfl := Option.some.inj h
      cases b <;> simp [number?, IsBeyond]
  | int m =>
      obtain rfl := Option.some.inj h
      simp [number?, IsBeyond]
  | float f =>
      obtain ⟨k, hk, rfl⟩ := toInt?_float_eq_some_iff.1 h
      have hbeyond : IsBeyond (.float f) ↔ k < -2 ^ 63 ∨ 2 ^ 63 ≤ k := by
        simp only [IsBeyond, hk, Option.some.injEq, exists_eq_left']
        exact_mod_cast Iff.rfl
      rw [hbeyond, number?, hk, Option.some.injEq, Int.cast_inj, toInt_clamp64]
      omega
  | decimal x =>
      rw [number?, toInt?_decimal_eq_some_iff.1 h]
      exact iff_of_true rfl id
  | enum e =>
      obtain rfl := Option.some.inj h
      simp [number?, IsBeyond]
  | _ => cases h

end ModelSql.Value
