/-
**Decimals and floats.**

A float becomes the decimal that stands for it, with about fifteen significant digits if it has a
fraction; a decimal becomes a float by its integer part and its fraction separately.

Main definitions:

* `Numeric.Decimal.ofFloat?` — the decimal of a float;
* `Numeric.Decimal.toFloat` — the float of a decimal.
-/

import ModelSql.Numeric.Decimal

set_option autoImplicit false

namespace ModelSql.Numeric.Decimal

/-! ### From a float -/

/-- Trades `n` factors of two in the denominator for powers of ten: an even coefficient is halved,
an odd one is multiplied by five if it stays within 96 bits. -/
def clearTwos : Nat → Nat → Int → Nat × Int
  | 0, c, e => (c, e)
  | n + 1, c, e =>
    if c % 2 = 0 then clearTwos n (c / 2) (e + 1)
    else if 5 * c < coefficientBound then clearTwos n (5 * c) e
    else clearTwos n (c / 2) (e + 1)

/-- Divides by ten, a remainder of five or more rounding up. -/
def tenth (c : Nat) : Nat := if 5 ≤ c % 10 then c / 10 + 1 else c / 10

/-- Rounds places away until at most 28 are left; a coefficient that reaches zero has none. -/
def shiftRight : Nat → Nat → Nat → Nat × Nat
  | 0, c, s => (c, s)
  | fuel + 1, c, s =>
    if s ≤ maxScale then (c, s)
    else if c / 10 = 0 then (0, 0)
    else shiftRight fuel (tenth c) (s - 1)

/-- Rounds places away until the coefficient is below `2 ^ 52`. -/
def dropExcess : Nat → Nat → Nat → Nat × Nat
  | 0, c, s => (c, s)
  | fuel + 1, c, s => if 0 < s ∧ twoTo 52 ≤ c then dropExcess fuel (tenth c) (s - 1) else (c, s)

/-- The decimal of a float: an integer of at most 96 bits is exact, and a fraction keeps about
fifteen significant digits; `none` for a float that is no number or too large. -/
def ofFloat? (f : Float) : Option Decimal :=
  match Binary.ofFloat f with
  | .finite negative m q =>
    if m = 0 ∨ 0 ≤ q then ofSigned? negative (m * twoTo q.toNat) 0
    else
      let p := clearTwos (-q).toNat m q
      let p := shiftRight (-p.2).toNat p.1 (-p.2).toNat
      let p := dropExcess p.2 p.1 p.2
      let p := stripZeros p.2 p.1 p.2
      ofSigned? negative p.1 p.2
  | _ => none

/-! ### To a float -/

/-- The power of a float by repeated squaring. -/
def floatPower : Nat → Float → Float → Nat → Float
  | 0, _, result, _ => result
  | fuel + 1, base, result, n =>
    let result := if n % 2 = 1 then result * base else result
    if n / 2 = 0 then result else floatPower fuel (base * base) result (n / 2)

/-- The float of a decimal. -/
def toFloat (d : Decimal) : Float :=
  let signed := fun f : Float => if d.negative then -f else f
  if d.scale = 0 then signed (ofNat d.coefficient)
  else
    let precision := tenTo d.scale
    let fraction := ofNat (d.coefficient % precision) / ofNat precision
    let integral := ofNat (d.coefficient / precision)
    if fraction == 0 then signed integral
    else
      let places := floatPower 6 10 1 d.scale
      signed (((integral + fraction) * places).round / places)

end ModelSql.Numeric.Decimal
