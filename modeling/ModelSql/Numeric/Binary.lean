/-
**Binary floating point, exactly.**

A finite float is `m · 2 ^ q` for a natural number `m` below `2 ^ precision`.  This module takes
floats apart into `m` and `q`, puts them together again, and rounds a quotient of natural numbers
to the nearest float, a tie going to the even mantissa.  Reading decimal text, narrowing to single
precision and the remainder of a division are instances of that one rounding.

Main definitions:

* `Numeric.Format`, `Numeric.double`, `Numeric.single` — precision and range of a format;
* `Numeric.Binary` — a float taken apart;
* `Numeric.Binary.ofFloat`, `Numeric.Binary.toBits` — from and to 64 bits;
* `Numeric.nearest` — **the nearest float of a quotient**;
* `Numeric.ofQuotient`, `Numeric.ofScaled`, `Numeric.narrow`, `Numeric.Binary.toFloat`,
  `Numeric.remainder` — its uses.
-/

import ModelSql.Numeric.Power

set_option autoImplicit false

namespace ModelSql.Numeric

/-! ### Formats -/

/-- Precision and range of a binary format: mantissas below `2 ^ precision`, exponents between
`minExponent` and `maxExponent`. -/
structure Format where
  precision : Nat
  minExponent : Int
  maxExponent : Int

/-- Double precision, 64 bits. -/
def double : Format := ⟨53, -1074, 971⟩

/-- Single precision, 32 bits. -/
def single : Format := ⟨24, -149, 104⟩

/-- A float taken apart; a finite one is `± mantissa · 2 ^ exponent`. -/
inductive Binary
  | nan
  | infinite (negative : Bool)
  | finite (negative : Bool) (mantissa : Nat) (exponent : Int)
  deriving DecidableEq, Repr

/-! ### Sixty-four bits -/

/-- Takes a 64-bit pattern apart: sign, eleven bits of exponent, 52 bits of mantissa. -/
def Binary.ofBits (bits : Nat) : Binary :=
  let negative : Bool := bits / twoTo 63 % 2 == 1
  let biased : Nat := bits / twoTo 52 % twoTo 11
  let fraction : Nat := bits % twoTo 52
  if biased = 2047 then
    if fraction = 0 then .infinite negative else .nan
  else if biased = 0 then .finite negative fraction (-1074)
  else .finite negative (fraction + twoTo 52) ((biased : Int) - 1075)

/-- Takes a float apart. -/
def Binary.ofFloat (f : Float) : Binary := .ofBits f.toBits.toNat

/-- The 64-bit pattern of a datum whose mantissa and exponent are those of a double. -/
def Binary.toBits : Binary → Nat
  | .nan => 2047 * twoTo 52 + twoTo 51
  | .infinite negative => (if negative then twoTo 63 else 0) + 2047 * twoTo 52
  | .finite negative mantissa exponent =>
    (if negative then twoTo 63 else 0) +
      if mantissa < twoTo 52 then mantissa
      else (exponent + 1075).toNat * twoTo 52 + (mantissa - twoTo 52)

/-! ### Rounding -/

/-- The quotient rounded to the nearest natural number, a tie to the even one. -/
def roundHalfEven (num den : Nat) : Nat :=
  let q := num / den
  let r := num % den
  if den < 2 * r || (2 * r == den && q % 2 == 1) then q + 1 else q

/-- The fraction `num / (den · 2 ^ e)` as a numerator and a denominator. -/
def overPower (num den : Nat) (e : Int) : Nat × Nat :=
  if 0 ≤ e then (num, den * twoTo e.toNat) else (num * twoTo (-e).toNat, den)

/-- **The nearest float of `num / den`**, as mantissa and exponent; `none` when it is too large
for the format.  The exponent is chosen so that the mantissa has full precision, or is the least
one of the format. -/
def nearest (fmt : Format) (num den : Nat) : Option (Nat × Int) :=
  let low := max fmt.minExponent ((num.log2 : Int) - den.log2 - fmt.precision)
  let fits := (fun (f : Nat × Nat) => f.1 / f.2 < twoTo fmt.precision) (overPower num den low)
  let e := if fits then low else low + 1
  let f := overPower num den e
  let m := roundHalfEven f.1 f.2
  let rounded := if m < twoTo fmt.precision then (m, e) else (twoTo (fmt.precision - 1), e + 1)
  if rounded.2 ≤ fmt.maxExponent then some rounded else none

/-- The datum nearest to `± num / den`; too large a quotient is infinite. -/
def ofQuotient (fmt : Format) (negative : Bool) (num den : Nat) : Binary :=
  match nearest fmt num den with
  | some (m, e) => .finite negative m e
  | none => .infinite negative

/-- The datum nearest to `± digits · 10 ^ exponent`. -/
def ofScaled (fmt : Format) (negative : Bool) (digits : Nat) (exponent : Int) : Binary :=
  if digits = 0 then .finite negative 0 fmt.minExponent
  else if 0 ≤ exponent then ofQuotient fmt negative (digits * tenTo exponent.toNat) 1
  else ofQuotient fmt negative digits (tenTo (-exponent).toNat)

/-- The datum rounded to another format. -/
def narrow (fmt : Format) : Binary → Binary
  | .finite negative m e =>
    if m = 0 then .finite negative 0 fmt.minExponent
    else if 0 ≤ e then ofQuotient fmt negative (m * twoTo e.toNat) 1
    else ofQuotient fmt negative m (twoTo (-e).toNat)
  | b => b

/-- The double nearest to a datum. -/
def Binary.toFloat (b : Binary) : Float := Float.ofBits (UInt64.ofNat (narrow double b).toBits)

/-! ### Integers and remainders -/

/-- The double nearest to a natural number. -/
def ofNat (n : Nat) : Float := (ofScaled double false n 0).toFloat

/-- The integer that a datum is, if it is one. -/
def Binary.toInt? : Binary → Option Int
  | .finite negative m e =>
    let magnitude : Option Nat :=
      if 0 ≤ e then some (m * twoTo e.toNat)
      else if m % twoTo (-e).toNat = 0 then some (m / twoTo (-e).toNat) else none
    magnitude.map fun n => if negative then -(n : Int) else n
  | _ => none

/-- The remainder of a division truncated toward zero; it has the sign of the dividend and is
exact. -/
def remainder (a b : Float) : Float :=
  match Binary.ofFloat a, Binary.ofFloat b with
  | .finite negative m e, .finite _ n f =>
    if n = 0 then Binary.nan.toFloat
    else
      let low := min e f
      let r := (m * twoTo (e - low).toNat) % (n * twoTo (f - low).toNat)
      (Binary.finite negative r low).toFloat
  | .finite .., .infinite _ => a
  | _, _ => Binary.nan.toFloat

end ModelSql.Numeric
