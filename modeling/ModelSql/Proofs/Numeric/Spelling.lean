/-
**Numerals as they are written.**

A numeral of a query language is an optional minus, digits, an optional fraction behind a point, and an
optional power of ten behind an `e`.  Both texts of a float, with and without a power, are such
numerals; the names of the data that are no finite numbers are not.

Main definitions:

* `Numeric.Digits` — one digit or more;
* `Numeric.Spelling` — **the parts of a written numeral**;
* `Numeric.IsSpelled` — **the texts that are numerals**.

Main results:

* `Numeric.Numeral.exists_spelling_plain`, `Numeric.Numeral.exists_spelling_scientific` — the two texts
  of a magnitude;
* `Numeric.Binary.isSpelled_write_iff` — **the text of a datum is a numeral exactly for finite ones**.
-/

import ModelSql.Numeric.Shortest
import ModelSql.Proofs.Text.Digits

set_option relaxedAutoImplicit false
set_option autoImplicit false

namespace ModelSql.Numeric

/-! ### Numerals -/

/-- One digit or more. -/
structure Digits where
  chars : List Char
  ne_nil : chars ≠ []
  isDigit : ∀ c ∈ chars, c.isDigit = true

/-- A minus, or nothing. -/
def sign (negative : Bool) : List Char := if negative then ['-'] else []

/-- **The parts of a written numeral**: a sign, digits, maybe a fraction, and maybe a power of ten. -/
structure Spelling where
  negative : Bool
  whole : Digits
  fraction : Option Digits
  power : Option (Bool × Digits)

namespace Spelling

/-- The fraction as it is written, behind a point. -/
def fractionChars (s : Spelling) : List Char := s.fraction.elim [] fun f => '.' :: f.chars

/-- The power of ten as it is written, behind an `e`. -/
def powerChars (s : Spelling) : List Char := s.power.elim [] fun p => 'e' :: (sign p.1 ++ p.2.chars)

/-- The numeral as it is written. -/
def chars (s : Spelling) : List Char :=
  sign s.negative ++ (s.whole.chars ++ (s.fractionChars ++ s.powerChars))

end Spelling

/-- **A text that is a numeral.** -/
def IsSpelled (s : String) : Prop := ∃ n : Spelling, s.toList = n.chars

/-- The digits of a natural number. -/
def Digits.ofNat (n : Nat) : Digits where
  chars := Nat.toDigits 10 n
  ne_nil := Nat.toDigits_ne_nil
  isDigit := fun _ => Text.isDigit_of_mem_toDigits

/-! ### The texts of a magnitude -/

/-- **The text of a magnitude without a power** is a numeral without one. -/
theorem Numeral.exists_spelling_plain (n : Numeral) : ∃ s : Spelling,
    s.negative = false ∧ s.power = none ∧ n.plain.toList = s.chars := by
  unfold Numeral.plain
  dsimp only
  split
  · -- zeros behind the digits make up for the power
    have hdigits : ∀ c ∈ (if n.digits = 0 then Nat.toDigits 10 n.digits
        else Nat.toDigits 10 n.digits ++ List.replicate n.exponent.toNat '0'), c.isDigit = true := by
      intro c hc
      split at hc
      · exact Text.isDigit_of_mem_toDigits hc
      · rcases List.mem_append.1 hc with hc | hc
        · exact Text.isDigit_of_mem_toDigits hc
        · rw [List.eq_of_mem_replicate hc]
          rfl
    have hne : (if n.digits = 0 then Nat.toDigits 10 n.digits
        else Nat.toDigits 10 n.digits ++ List.replicate n.exponent.toNat '0') ≠ [] := by
      split <;> simp [Nat.toDigits_ne_nil]
    refine ⟨⟨false, ⟨_, hne, hdigits⟩, none, none⟩, rfl, rfl, ?_⟩
    simp [Spelling.chars, Spelling.fractionChars, Spelling.powerChars, sign]
  · -- a point stands as many places from the right as the power says, behind a digit at least
    rename_i hexponent
    let padded := List.replicate ((-n.exponent).toNat + 1 - (Nat.toDigits 10 n.digits).length) '0' ++
      Nat.toDigits 10 n.digits
    have hdigits : ∀ c ∈ padded, c.isDigit = true := fun c => Text.isDigit_of_mem_padded
    have hlength : (-n.exponent).toNat < padded.length := by
      simp only [padded, List.length_append, List.length_replicate]
      omega
    let whole : Digits :=
      { chars := padded.take (padded.length - (-n.exponent).toNat)
        ne_nil := List.ne_nil_of_length_pos (by rw [List.length_take]; omega)
        isDigit := fun c hc => hdigits c (List.mem_of_mem_take hc) }
    let fraction : Digits :=
      { chars := padded.drop (padded.length - (-n.exponent).toNat)
        ne_nil := List.ne_nil_of_length_pos (by rw [List.length_drop]; omega)
        isDigit := fun c hc => hdigits c (List.mem_of_mem_drop hc) }
    refine ⟨⟨false, whole, some fraction, none⟩, rfl, rfl, ?_⟩
    simp [Spelling.chars, Spelling.fractionChars, Spelling.powerChars, sign, whole, fraction, padded]

/-- **The text of a magnitude with a power** is a numeral. -/
theorem Numeral.exists_spelling_scientific (n : Numeral) : ∃ s : Spelling,
    s.negative = false ∧ (n.scientific "e" "").toList = s.chars := by
  unfold Numeral.scientific
  dsimp only
  generalize n.exponent + (((Nat.toDigits 10 n.digits).length : Int) - 1) = e
  obtain ⟨c, cs, h, hc, hcs⟩ := Text.toDigits_eq_cons n.digits
  obtain ⟨negative, k, hpower⟩ := Text.toList_toString_int e
  change e.repr.toList = _ at hpower
  let whole : Digits := ⟨[c], List.cons_ne_nil c [], fun x hx => List.mem_singleton.1 hx ▸ hc⟩
  rw [h]
  -- the mantissa has a point exactly when it has more than one digit
  cases cs with
  | nil =>
      refine ⟨⟨false, whole, none, some (negative, .ofNat k)⟩, rfl, ?_⟩
      simp [Spelling.chars, Spelling.fractionChars, Spelling.powerChars, sign, whole, hpower,
        Digits.ofNat]
  | cons d ds =>
      let fraction : Digits := ⟨d :: ds, List.cons_ne_nil d ds, hcs⟩
      refine ⟨⟨false, whole, some fraction, some (negative, .ofNat k)⟩, rfl, ?_⟩
      simp [Spelling.chars, Spelling.fractionChars, Spelling.powerChars, sign, whole, fraction, hpower,
        Digits.ofNat]

/-! ### The texts of a datum -/

/-- A numeral begins with a digit, behind a sign or not. -/
theorem Spelling.exists_chars_eq (s : Spelling) :
    ∃ c cs, c.isDigit = true ∧ s.chars = sign s.negative ++ c :: cs := by
  obtain ⟨c, tail, hchars⟩ := List.exists_cons_of_ne_nil s.whole.ne_nil
  refine ⟨c, tail ++ (s.fractionChars ++ s.powerChars), ?_, ?_⟩
  · exact s.whole.isDigit c (hchars ▸ List.mem_cons_self)
  · rw [Spelling.chars, hchars, List.cons_append]

/-- What begins with something else is no numeral. -/
theorem not_isSpelled {s : String} (negative : Bool) {c : Char} {cs : List Char}
    (hs : s.toList = sign negative ++ c :: cs) (hc : c.isDigit = false) (hminus : c ≠ '-') :
    ¬ IsSpelled s := by
  rintro ⟨n, hn⟩
  obtain ⟨d, ds, hd, hchars⟩ := n.exists_chars_eq
  rw [hs, hchars] at hn
  have hdigit : '-' ≠ d := by
    rintro rfl
    cases hd
  have hne : c ≠ d := by
    rintro rfl
    rw [hc] at hd
    cases hd
  -- a sign is neither the digit nor the other character
  cases negative with
  | false =>
      cases h : n.negative with
      | false => simp [sign, h, hne] at hn
      | true => simp [sign, h, hminus] at hn
  | true =>
      cases h : n.negative with
      | false => simp [sign, h, hdigit] at hn
      | true => simp [sign, h, hne] at hn

/-- The name of infinity is no numeral. -/
theorem not_isSpelled_infinite (negative : Bool) : ¬ IsSpelled (if negative then "-inf" else "inf") := by
  cases negative with
  | false => exact not_isSpelled false rfl rfl (by decide)
  | true => exact not_isSpelled true rfl rfl (by decide)

/-- **The text of a datum is a numeral exactly for finite ones.** -/
theorem Binary.isSpelled_write_iff {fmt : Format} {t : TieRule} {text : Numeral → String}
    (htext : ∀ n, ∃ s : Spelling, s.negative = false ∧ (text n).toList = s.chars) (b : Binary) :
    IsSpelled (b.write fmt t text) ↔ ∃ negative m q, b = .finite negative m q := by
  cases b with
  | nan =>
      have hnone : ¬ IsSpelled "NaN" := not_isSpelled false rfl rfl (by decide)
      exact iff_of_false hnone (by simp)
  | infinite negative => exact iff_of_false (not_isSpelled_infinite negative) (by simp)
  | finite negative m q =>
      obtain ⟨s, hs, hchars⟩ := htext (shortest fmt t m q)
      have hspelled : (Binary.write fmt t text (.finite negative m q)).toList =
          Spelling.chars { s with negative := negative } := by
        rw [Binary.write, String.toList_append, hchars, Spelling.chars, Spelling.chars, hs]
        cases negative <;> rfl
      exact iff_of_true ⟨_, hspelled⟩ ⟨negative, m, q, rfl⟩

end ModelSql.Numeric
