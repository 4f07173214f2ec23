/-
**Decimals in statements.**

The literal of a decimal has all its digits.  Read as a number it is the decimal again, with no digit rounded
away.  A field that keeps fewer places than the number needs refuses it; zeros at the end are not needed.

Main definitions:

* `Literal.unsigned?`, `Literal.number?` — **the number that digits with a point among them spell**.

Main results:

* `Literal.number?_toText` — a decimal is read back from its text;
* `Dialect.fieldLiteral_decimal_iff` — **when a field takes a decimal**, and what it is given.
-/

import Mathlib.Data.List.TakeWhile
import Mathlib.Tactic.FieldSimp
import Mathlib.Tactic.NormNum
import ModelSql.Proofs.Dialect.Form
import ModelSql.Proofs.Numeric.Places

set_option relaxedAutoImplicit false
set_option autoImplicit false

namespace ModelSql

/-! ### Reading -/

namespace Literal

/-- **The number that digits spell**, with or without a point among them. -/
def unsigned? (cs : List Char) : Option ℚ :=
  let front := cs.takeWhile Char.isDigit
  match cs.dropWhile Char.isDigit with
  | [] => if front = [] then none else some (Nat.ofDigitChars 10 front 0)
  | c :: back =>
    if c = '.' ∧ front ≠ [] ∧ back ≠ [] ∧ back.all Char.isDigit then
      some (Nat.ofDigitChars 10 front 0 + Nat.ofDigitChars 10 back 0 / 10 ^ back.length)
    else none

/-- The number that a text spells, with or without a minus. -/
def number? (s : String) : Option ℚ :=
  match s.toList with
  | '-' :: cs => (unsigned? cs).map (-·)
  | cs => unsigned? cs

variable {front back : List Char}

theorem unsigned?_digits (hne : front ≠ []) (h : ∀ c ∈ front, c.isDigit = true) :
    unsigned? front = some (Nat.ofDigitChars 10 front 0 : ℚ) := by
  have htake : front.takeWhile Char.isDigit = front := List.takeWhile_eq_self_iff.2 h
  have hdrop : front.dropWhile Char.isDigit = [] := List.dropWhile_eq_nil_iff.2 h
  rw [unsigned?, hdrop, htake]
  exact if_neg hne

/-- **A point moves the digits behind it**: without it, they all are one number of units of the last place. -/
theorem unsigned?_point (hne : front ≠ []) (hback : back ≠ [])
    (h : ∀ c ∈ front ++ back, c.isDigit = true) :
    unsigned? (front ++ '.' :: back) =
      some (Nat.ofDigitChars 10 (front ++ back) 0 / 10 ^ back.length : ℚ) := by
  have hfront : ∀ c ∈ front, c.isDigit = true := fun c hc => h c (List.mem_append_left back hc)
  have htake : (front ++ '.' :: back).takeWhile Char.isDigit = front := by
    rw [List.takeWhile_append_of_pos hfront, List.takeWhile_cons_of_neg (by decide), List.append_nil]
  have hdrop : (front ++ '.' :: back).dropWhile Char.isDigit = '.' :: back := by
    rw [List.dropWhile_append_of_pos hfront]
    rfl
  have hdigits : '.' = '.' ∧ front ≠ [] ∧ back ≠ [] ∧ back.all Char.isDigit = true :=
    ⟨rfl, hne, hback, List.all_eq_true.2 fun c hc => h c (List.mem_append_right front hc)⟩
  have hunits : Nat.ofDigitChars 10 (front ++ back) 0 =
      10 ^ back.length * Nat.ofDigitChars 10 front 0 + Nat.ofDigitChars 10 back 0 := by
    rw [Nat.ofDigitChars_append, Nat.ofDigitChars_eq_ofDigitChars_zero]
  have hpower : (10 : ℚ) ^ back.length ≠ 0 := pow_ne_zero _ (by norm_num)
  rw [unsigned?, hdrop, htake, hunits]
  refine (if_pos hdigits).trans (congrArg some ?_)
  push_cast
  field_simp

variable (x : Numeric.Decimal)

/-- The digits of a decimal spell the number without its sign. -/
theorem unsigned?_decimal (hne : front ≠ []) (hlength : back.length = x.scale)
    (hdigits : ∀ c ∈ front ++ back, c.isDigit = true)
    (hcoefficient : Nat.ofDigitChars 10 (front ++ back) 0 = x.coefficient) :
    unsigned? (front ++ if x.scale = 0 then [] else '.' :: back) =
      some (x.coefficient / 10 ^ x.scale : ℚ) := by
  split
  · rename_i hscale
    obtain rfl : back = [] := List.length_eq_zero_iff.1 (hlength.trans hscale)
    rw [List.append_nil] at hdigits hcoefficient ⊢
    rw [unsigned?_digits hne hdigits, hcoefficient, hscale, pow_zero, div_one]
  · rename_i hscale
    have hback : back ≠ [] := List.ne_nil_of_length_pos (by omega)
    rw [unsigned?_point hne hback hdigits, hcoefficient, hlength]

/-- **A decimal is read back from its text.** -/
theorem number?_toText : number? x.toText = some x.value := by
  obtain ⟨front, back, htext, hne, hlength, hdigits, hcoefficient⟩ := exists_toText_decimal x
  have hread := unsigned?_decimal x hne hlength hdigits hcoefficient
  rw [number?, htext, x.value_eq]
  cases x.negative with
  | true => exact congrArg (Option.map (-·)) hread
  | false =>
      -- a digit is no minus
      obtain ⟨c, cs, rfl⟩ := List.exists_cons_of_ne_nil hne
      have hc : c ≠ '-' := by
        rintro rfl
        exact absurd (hdigits '-' (by simp)) (by decide)
      simp only [Bool.false_eq_true, if_false, List.nil_append, List.cons_append] at hread ⊢
      split
      · rename_i heq
        exact absurd (List.cons.inj heq).1 hc
      · exact hread

end Literal

/-! ### Fields -/

namespace Dialect

variable {d : Dialect} {f : Field}

/-- **When a field takes a decimal, and what it is given.**  The number has to be a whole number of units of
the last place that the field keeps; then its text has all its digits.  Otherwise it is refused. -/
theorem fieldLiteral_decimal_iff (hf : f.type = .decimal) (x : Numeric.Decimal) :
    ((∃ t, d.fieldLiteral f (.decimal x) = .ok t) ↔
        ∃ n : Int, x.value * 10 ^ d.scaleOf f = n) ∧
      (∀ t, d.fieldLiteral f (.decimal x) = .ok t → Literal.number? t = some x.value) ∧
      ∀ e, d.fieldLiteral f (.decimal x) = .error e →
        e = .decimalPlaces x.toText (d.scaleOf f) f.name := by
  have hplaces : x.normalizedScale ≤ d.scaleOf f ↔ x.Fits (d.scaleOf f) := x.normalizedScale_le_iff
  unfold fieldLiteral
  rw [hf]
  dsimp only
  split
  · rename_i hlt
    refine ⟨iff_of_false ?_ fun hfits => Nat.not_lt.2 (hplaces.2 hfits) hlt, ?_, ?_⟩
    · rintro ⟨t, ⟨⟩⟩
    · rintro t ⟨⟩
    · rintro e ⟨⟩
      rfl
  · rename_i hle
    have hliteral : d.literal (some .decimal) (.decimal x) = .ok x.toText := by rw [literal]
    rw [hliteral]
    refine ⟨iff_of_true ⟨_, rfl⟩ (hplaces.1 (Nat.not_lt.1 hle)), ?_, ?_⟩
    · rintro t ⟨⟩
      exact Literal.number?_toText x
    · rintro e ⟨⟩

/-- A price with two places takes `-1.500`, whose last zero is not needed, and keeps it. -/
theorem fieldLiteral_decimal_iff_price :
    let price := (Field.new "Price" .decimal).precision 10 2
    let x : Numeric.Decimal := ⟨true, 1500, 3, by decide, by decide⟩
    price.type = .decimal ∧ ∃ t, DialectKind.postgres.dialect.fieldLiteral price (.decimal x) = .ok t ∧
      Literal.number? t = some (-3 / 2) := by
  intro price x
  have hvalue : x.value = -3 / 2 := by norm_num [x, Numeric.Decimal.value, Numeric.Decimal.signed]
  have hscale : DialectKind.postgres.dialect.scaleOf price = 2 := rfl
  obtain ⟨hiff, hread, -⟩ := fieldLiteral_decimal_iff (d := DialectKind.postgres.dialect)
    (f := price) rfl x
  have hfits : ∃ n : Int, x.value * 10 ^ DialectKind.postgres.dialect.scaleOf price = n :=
    ⟨-150, by rw [hvalue, hscale]; norm_num⟩
  obtain ⟨t, ht⟩ := hiff.2 hfits
  exact ⟨rfl, t, ht, by rw [hread t ht, hvalue]⟩

end Dialect

end ModelSql
