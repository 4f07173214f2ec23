/-
**Literals of floats.**

A float that is no finite number has no literal.  The literal of a finite one is a numeral in double
precision.  In single precision it is the text of the nearest float of that precision, which is an
infinite one for numbers that are too large: the literal is then the name of infinity.

Main results:

* `Literal.float_eq_write` — the literal is the text of a datum, with a power or without;
* `Literal.float_isSpelled_iff` — **when the literal of a float is a numeral**.
-/

import ModelSql.Proofs.Dialect.Form
import ModelSql.Proofs.Numeric.Overflow

set_option relaxedAutoImplicit false
set_option autoImplicit false

namespace ModelSql

namespace Numeric

/-- The limit of single precision: half a step below the 128th power of two. -/
theorem limit_single : single.limit = 2 ^ 128 - 2 ^ 103 := by
  norm_num [Format.limit, single]

/-- **Narrowing to single precision** keeps a datum finite below the limit, and makes it infinite from
there on. -/
theorem narrow_single (negative : Bool) (m : Nat) (q : Int) :
    if single.limit ≤ m * (2 : Rat) ^ q then narrow single (.finite negative m q) = .infinite negative
    else ∃ m' q', narrow single (.finite negative m q) = .finite negative m' q' :=
  narrow_of_magnitude single (by decide) (by decide) (by norm_num [limit_single]) negative m q

end Numeric

namespace Literal

open Numeric

variable {f : Float} {single : Bool} {negative : Bool} {m : Nat} {q : Int}

/-- The datum whose text is the literal of a float. -/
def written (f : Float) (single : Bool) : Binary :=
  if single then narrow Numeric.single (Binary.ofFloat f) else Binary.ofFloat f

/-- **The datum is finite**, unless the float is too large for single precision: then it is infinite. -/
theorem written_of_finite (single : Bool) (hf : Binary.ofFloat f = .finite negative m q) :
    if single = true ∧ Numeric.single.limit ≤ m * (2 : Rat) ^ q then written f single = .infinite negative
    else ∃ m' q', written f single = .finite negative m' q' := by
  cases single with
  | false =>
      have hwritten : written f false = .finite negative m q := hf
      rw [if_neg (by simp)]
      exact ⟨m, q, hwritten⟩
  | true =>
      have hwritten : written f true = narrow Numeric.single (.finite negative m q) := by
        rw [written, if_pos rfl, hf]
      simpa only [hwritten, true_and] using narrow_single negative m q

/-- **The literal of a finite float** is the text of one datum, in one of two notations. -/
theorem float_eq_write (single : Bool) (hf : Binary.ofFloat f = .finite negative m q) : ∃ (fmt : Format)
    (text : Numeral → String),
    (∀ n, ∃ s : Spelling, s.negative = false ∧ (text n).toList = s.chars) ∧
    float f single = .ok ((written f single).write fmt .up text) := by
  let fmt := if single then Numeric.single else double
  have hplain (n : Numeral) : ∃ s : Spelling, s.negative = false ∧ n.plain.toList = s.chars := by
    obtain ⟨s, hsign, -, hchars⟩ := n.exists_spelling_plain
    exact ⟨s, hsign, hchars⟩
  have hfloat : float f single = .ok
      (if ((written f single).plainText fmt).length ≤ maxFloatLength then
        (written f single).plainText fmt else (written f single).exponentText fmt) := by
    rw [float, written, hf]
  rw [hfloat]
  split
  · exact ⟨fmt, _, hplain, rfl⟩
  · exact ⟨fmt, _, Numeral.exists_spelling_scientific, rfl⟩

/-- What is no finite number has no literal. -/
theorem float_of_magnitude_eq_none (h : (Binary.ofFloat f).magnitude = none) :
    float f single = .error (.noFloatLiteral (plainText f)) := by
  unfold float
  cases hf : Binary.ofFloat f with
  | finite negative m q =>
      rw [hf] at h
      cases h
  | nan => rfl
  | infinite negative => rfl

/-- **A finite number has a literal**: a numeral, or the name of infinity. -/
theorem float_of_magnitude {x : Rat} (single : Bool) (hx : x ∈ (Binary.ofFloat f).magnitude) :
    ∃ s, float f single = .ok s ∧
      (IsSpelled s ↔ ¬ (single = true ∧ Numeric.single.limit ≤ x)) ∧
      (single = true ∧ Numeric.single.limit ≤ x → s = "inf" ∨ s = "-inf") := by
  cases hf : Binary.ofFloat f with
  | nan => rw [hf] at hx; cases hx
  | infinite negative => rw [hf] at hx; cases hx
  | finite negative m q =>
      rw [hf] at hx
      obtain rfl : m * (2 : Rat) ^ q = x := Option.some.inj hx
      obtain ⟨fmt, text, htext, hfloat⟩ := float_eq_write single hf
      have hspelled : IsSpelled ((written f single).write fmt .up text) ↔ _ :=
        Binary.isSpelled_write_iff htext _
      refine ⟨_, hfloat, ?_⟩
      have hwritten := written_of_finite single hf
      split at hwritten
      · rename_i hlarge
        rw [hwritten, Binary.write]
        refine ⟨iff_of_false (not_isSpelled_infinite negative) (not_not_intro hlarge), fun _ => ?_⟩
        cases negative
        · exact Or.inl rfl
        · exact Or.inr rfl
      · rename_i hsmall
        obtain ⟨m', q', hwritten⟩ := hwritten
        exact ⟨iff_of_true (hspelled.2 ⟨negative, m', q', hwritten⟩) hsmall, fun hlarge =>
          absurd hlarge hsmall⟩

/-- **When the literal of a float is a numeral.**  What is no finite number has none.  The literal of a
finite number is a numeral, unless single precision is asked for and the number is too large for it: then it
is the name of infinity. -/
theorem float_isSpelled_iff (f : Float) (single : Bool) :
    ((Binary.ofFloat f).magnitude = none → float f single = .error (.noFloatLiteral (plainText f))) ∧
    (∀ x ∈ (Binary.ofFloat f).magnitude, ∃ s, float f single = .ok s ∧
      (IsSpelled s ↔ ¬ (single = true ∧ Numeric.single.limit ≤ x)) ∧
      (single = true ∧ Numeric.single.limit ≤ x → s = "inf" ∨ s = "-inf")) ∧
    ((∀ s, float f single = .ok s → IsSpelled s) ↔
      ∀ x ∈ (Binary.ofFloat f).magnitude, ¬ (single = true ∧ Numeric.single.limit ≤ x)) := by
  refine ⟨float_of_magnitude_eq_none, fun x hx => float_of_magnitude single hx, ?_⟩
  constructor
  · intro h x hx
    obtain ⟨s, hs, hiff, -⟩ := float_of_magnitude single hx
    exact hiff.1 (h s hs)
  · intro h s hs
    cases hx : (Binary.ofFloat f).magnitude with
    | none =>
        rw [float_of_magnitude_eq_none hx] at hs
        cases hs
    | some x =>
        obtain ⟨s', hs', hiff, -⟩ := float_of_magnitude single hx
        obtain rfl : s' = s := Except.ok.inj (hs'.symm.trans hs)
        exact hiff.2 (h x hx)

/-- The number `10 ^ 38` is none too large for single precision, and its literal is a numeral. -/
theorem float_isSpelled_tenTo38 :
    (∃ s, float 1e38 true = .ok s ∧ IsSpelled s) ∧
    float (Float.ofBits 0x7FF8000000000000) true = .error (.noFloatLiteral "NaN") := by
  have hf : Binary.ofFloat 1e38 = .finite false 5293955920339377 74 := by decide +kernel
  have hmember : ((5293955920339377 : Nat) * (2 : Rat) ^ (74 : Int)) ∈ (Binary.ofFloat 1e38).magnitude := by
    rw [hf]
    rfl
  have hsmall : ¬ (true = true ∧
      Numeric.single.limit ≤ ((5293955920339377 : Nat) * (2 : Rat) ^ (74 : Int))) := by
    rw [limit_single]
    norm_num
  obtain ⟨s, hs, hiff, -⟩ := (float_isSpelled_iff 1e38 true).2.1 _ hmember
  have hnan : Binary.ofFloat (Float.ofBits 0x7FF8000000000000) = .nan := by decide +kernel
  have hnone := (float_isSpelled_iff (Float.ofBits 0x7FF8000000000000) true).1 (by rw [hnan]; rfl)
  have htext : plainText (Float.ofBits 0x7FF8000000000000) = "NaN" := by
    rw [plainText, hnan, Binary.write]
  rw [htext] at hnone
  exact ⟨⟨s, hs, hiff.2 hsmall⟩, hnone⟩

/-- **A finite number without a numeral**: `10 ^ 39` in single precision, whose literal is no error but the
name of infinity. -/
theorem float_single_infinite : (Binary.ofFloat 1e39).magnitude ≠ none ∧ float 1e39 true = .ok "inf" ∧
    ¬ IsSpelled "inf" := by
  have hf : Binary.ofFloat 1e39 = .finite false 6617444900424221 77 := by decide +kernel
  have hname : ¬ IsSpelled "inf" := not_isSpelled false rfl rfl (by decide)
  have hliteral : float 1e39 true = .ok "inf" := by
    have hnarrow : narrow Numeric.single (.finite false 6617444900424221 77) = .infinite false := by
      decide +kernel
    rw [float, hf]
    dsimp only
    rw [if_pos rfl, if_pos rfl, hnarrow]
    rfl
  refine ⟨?_, hliteral, hname⟩
  rw [hf]
  exact Option.some_ne_none _

end Literal

end ModelSql
