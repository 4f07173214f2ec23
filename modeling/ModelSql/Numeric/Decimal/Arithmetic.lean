/-
**Arithmetic of decimals.**

Sums, products and quotients are computed exactly and rounded into the bounds.  A sum keeps the
larger number of places, a product the places of both factors; a zero operand is absorbed first, so
that zero plus a number is that number as it is written.  A quotient is developed by at most nine
digits at a time, and then loses up to seven of its trailing zeros, one power of two at a time.  A
remainder is computed word by word in base `2 ^ 32`.

Main definitions:

* `Numeric.Decimal.add`, `Numeric.Decimal.sub`, `Numeric.Decimal.mul`;
* `Numeric.Decimal.div` — **long division**, with `Numeric.Decimal.divideFrom` its step;
* `Numeric.Decimal.rem` — the remainder, with the sign of the dividend, and
  `Numeric.Decimal.longRem`, which computes it for large divisors;
* `Numeric.Decimal.ofScientific?` — the decimal of a numeral with an exponent.
-/

import ModelSql.Numeric.Decimal

set_option autoImplicit false

namespace ModelSql.Numeric.Decimal

/-! ### Sums and products -/

/-- The decimal nearest to `n / 10 ^ scale`. -/
def fitInt (n : Int) (scale : Nat) : Option Decimal := fit (n < 0) n.natAbs scale

/-- The sum; `none` when it is too large. -/
def add (a b : Decimal) : Option Decimal :=
  if a.isZero then some b
  else if b.isZero then some a
  else
    let s := max a.scale b.scale
    fitInt (a.scaledTo s + b.scaledTo s) s

/-- The difference; `none` when it is too large. -/
def sub (a b : Decimal) : Option Decimal :=
  if a.isZero then some (if b.isZero then b else b.neg)
  else if b.isZero then some a
  else
    let s := max a.scale b.scale
    fitInt (a.scaledTo s - b.scaledTo s) s

/-- The product; `none` when it is too large.  A product of two coefficients of 32 bits with more
than 47 places is zero without places.  A product that is rounded to zero keeps its sign if one of
the coefficients has more than 32 bits. -/
def mul (a b : Decimal) : Option Decimal :=
  if a.isZero || b.isZero then some zero
  else
    let negative := a.negative != b.negative
    let scale := a.scale + b.scale
    let narrow := a.coefficient < twoTo 32 ∧ b.coefficient < twoTo 32
    if narrow ∧ 47 < scale then some zero
    else
      (fitFrom (a.coefficient * b.coefficient) scale (scale + 1) 0).bind fun p =>
        if narrow then ofParts? negative p.1 p.2 else ofSigned? negative p.1 p.2

/-! ### Quotients -/

/-- The largest number of digits, at most nine, that the quotient can grow by. -/
def room (quotient : Nat) (scale : Int) : Nat → Nat
  | 0 => 0
  | p + 1 =>
    if scale + (p + 1) ≤ 28 ∧ quotient * tenTo (p + 1) < coefficientBound then p + 1
    else room quotient scale p

/-- Drops eight zeros at a time while the quotient is a multiple of `2 ^ 32`. -/
def dropEights : Nat → Nat → Nat → Nat × Nat
  | 0, q, s => (q, s)
  | fuel + 1, q, s =>
    if q % twoTo 32 = 0 ∧ 8 ≤ s ∧ q % tenTo 8 = 0 then dropEights fuel (q / tenTo 8) (s - 8)
    else (q, s)

/-- Drops `k` zeros if there are as many. -/
def dropZeros (k : Nat) (p : Nat × Nat) : Nat × Nat :=
  if k ≤ p.2 ∧ p.1 % tenTo k = 0 then (p.1 / tenTo k, p.2 - k) else p

/-- A quotient without up to seven of its trailing zeros. -/
def dropSevens (q s : Nat) : Nat × Nat :=
  dropZeros 1 (dropZeros 2 (dropZeros 4 (dropEights 4 q s)))

/-- Rounds the last digit away; `sticky` when something is left behind it. -/
def dropDigit (q : Nat) (sticky : Bool) (s : Int) : Option (Nat × Nat) :=
  if s < 1 then none
  else
    let r := q % 10
    let up := 5 < r || (r == 5 && (sticky || q / 10 % 2 == 1))
    some (dropSevens (if up then q / 10 + 1 else q / 10) (s - 1).toNat)

/-- Rounds the quotient by its remainder. -/
def roundQuotient (den q r : Nat) (s : Int) : Option (Nat × Nat) :=
  if s < 0 then none
  else if den < 2 * r || (2 * r == den && q % 2 == 1) then
    if q + 1 < coefficientBound then some (dropSevens (q + 1) s.toNat)
    else dropDigit (q + 1) true s
  else some (dropSevens q s.toNat)

/-- **Long division**, continued from the quotient `q`, the remainder `r` and the scale `s`;
`inexact` once digits were developed from a remainder. -/
def divideFrom (den : Nat) : Nat → Bool → Nat → Nat → Int → Option (Nat × Nat)
  | 0, _, _, _, _ => none
  | fuel + 1, inexact, q, r, s =>
    if r = 0 then
      if 0 ≤ s then some (if inexact then dropSevens q s.toNat else (q, s.toNat))
      else
        let p := min 9 (-s).toNat
        if q * tenTo p < coefficientBound then
          divideFrom den fuel inexact (q * tenTo p) 0 (s + p)
        else none
    else
      let p := room q s 9
      if p = 0 then roundQuotient den q r s
      else if p < 9 ∧ s + p < 0 then none
      else
        let q' := q * tenTo p + r * tenTo p / den
        let r' := r * tenTo p % den
        if q' < coefficientBound then divideFrom den fuel true q' r' (s + p)
        else dropDigit q' (r' != 0) (s + p)

/-- The quotient by a divisor that is not zero; `none` when it is too large. -/
def div (a b : Decimal) : Option Decimal :=
  if a.isZero then some zero
  else
    let q := a.coefficient / b.coefficient
    let r := a.coefficient % b.coefficient
    (divideFrom b.coefficient 64 false q r ((a.scale : Int) - b.scale)).bind fun p =>
      ofParts? (a.negative != b.negative) p.1 p.2

/-! ### Remainders -/

/-- One step of long division in base `2 ^ 32`: the remainder of `n` by a divisor `d` of three words
whose first bit is set.  Where `n` starts with the first word of `d`, the next digit of the quotient
is estimated without that word, so the word is lost. -/
def wordRem (d n : Nat) : Nat :=
  if n / twoTo 96 = d / twoTo 64 then n % twoTo 96 % d else n % d

/-- **Long division**: what is left of `n`, a number of so many words, by `wordRem`. -/
def longRem (d : Nat) : Nat → Nat → Nat
  | 0, _ => 0
  | words + 1, n => wordRem d (longRem d words (n / twoTo 32) * twoTo 32 + n % twoTo 32)

/-- The remainder of two coefficients.  A divisor of three words is divided by long division, both
numbers shifted so that its first bit is set. -/
def coefficientRem (x y : Nat) : Nat :=
  if y < twoTo 64 then x % y
  else
    let shift := twoTo (95 - y.log2)
    longRem (y * shift) 7 (x * shift) / shift

/-- The remainder by a divisor that is not zero, with the sign of the dividend. -/
def rem (a b : Decimal) : Option Decimal :=
  if a.isZero then some zero
  else
    let s := max a.scale b.scale
    let x := a.coefficient * tenTo (s - a.scale)
    let y := b.coefficient * tenTo (s - b.scale)
    if x = y then some zero
    else if x < y then some a
    else ofParts? a.negative (coefficientRem x y) s

/-! ### Numerals with an exponent -/

/-- Multiplies by powers of ten, at most nineteen places at a time. -/
def raise : Nat → Nat → Decimal → Option Decimal
  | 0, _, d => some d
  | fuel + 1, places, d =>
    if places = 0 then some d
    else
      let step := min 19 places
      ((ofParts? false (tenTo step) 0).bind d.mul).bind (raise fuel (places - step))

/-- A natural number of at most 32 bits, with an optional plus sign. -/
def exponent? (cs : List Char) : Option Nat :=
  let ds := match cs with
    | '+' :: rest => rest
    | _ => cs
  if ds.isEmpty || !ds.all Char.isDigit then none
  else
    let n := Text.natOfDigits ds
    if n < twoTo 32 then some n else none

/-- The decimal without trailing zeros in its fraction. -/
def normalized (d : Decimal) : Option Decimal :=
  if d.isZero then some zero
  else
    let p := stripZeros d.scale d.coefficient d.scale
    ofSigned? d.negative p.1 p.2

/-- Moves the point `places` to the left.  Places past the last one are rounded away, a half away
from zero, and the sign stays. -/
def lower (places : Nat) (d : Decimal) : Option Decimal :=
  if maxScale < places then none
  else
    let excess := tenTo (d.scale + places - maxScale)
    ofSigned? d.negative ((2 * d.coefficient + excess) / (2 * excess))
      (min maxScale (d.scale + places))

/-- The decimal that a numeral with an exponent spells. -/
def ofScientific? (s : String) : Option Decimal :=
  let cs := s.toList
  let mark := fun c : Char => c == 'e' || c == 'E'
  let base := cs.takeWhile (!mark ·)
  match cs.dropWhile (!mark ·) with
  | [] => none
  | _ :: power =>
    (ofText? (String.ofList base)).bind fun d =>
      match power with
      | '-' :: rest => (exponent? rest).bind fun e => d.lower e
      | _ =>
        (exponent? power).bind fun e =>
          if e ≤ d.scale then ofSigned? d.negative d.coefficient (d.scale - e)
          else if maxScale < e then none
          else (raise 2 e d).bind normalized

end ModelSql.Numeric.Decimal
