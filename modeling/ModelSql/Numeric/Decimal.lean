/-
**Decimal numbers of 96 bits.**

A decimal is `± coefficient / 10 ^ scale` with a coefficient below `2 ^ 96` and at most 28 places.
Trailing zeros are part of it: `1.50` and `1.5` are equal numbers and different decimals, and so
are zero and its negative.

Main definitions:

* `Numeric.Decimal` — the type, with its bounds;
* `Numeric.Decimal.toText`, `Numeric.Decimal.ofText?`, `Numeric.Decimal.ofScientific?` — its text;
* `Numeric.Decimal.compare` — the order of the numbers;
* `Numeric.Decimal.normalized`, `Numeric.Decimal.toInt?` — its places;
* `Numeric.Decimal.fit` — **rounding into the bounds**, a tie to the even coefficient.
-/

import ModelSql.Numeric.Binary
import ModelSql.Text.Basic

set_option autoImplicit false

namespace ModelSql.Numeric

/-- The bound of coefficients, `2 ^ 96`. -/
def coefficientBound : Nat := 79228162514264337593543950336

/-- The number `± coefficient / 10 ^ scale`. -/
structure Decimal where
  negative : Bool
  coefficient : Nat
  scale : Nat
  coefficient_lt : coefficient < coefficientBound
  scale_le : scale ≤ 28
  deriving DecidableEq

namespace Decimal

/-- The largest number of places. -/
def maxScale : Nat := 28

/-- Zero without places. -/
def zero : Decimal := ⟨false, 0, 0, by decide, by decide⟩

instance : Inhabited Decimal := ⟨zero⟩

/-! ### Construction -/

/-- The decimal of the given parts, if they are within the bounds. -/
def ofSigned? (negative : Bool) (coefficient scale : Nat) : Option Decimal :=
  if h : coefficient < coefficientBound ∧ scale ≤ 28 then
    some ⟨negative, coefficient, scale, h.1, h.2⟩
  else none

/-- The decimal of the given parts, if they are within the bounds; a zero is positive. -/
def ofParts? (negative : Bool) (coefficient scale : Nat) : Option Decimal :=
  ofSigned? (negative && coefficient != 0) coefficient scale

/-- The decimal of an integer, if it is within the bounds. -/
def ofInt? (n : Int) : Option Decimal := ofParts? (n < 0) n.natAbs 0

/-- The decimal of a 64-bit integer. -/
def ofInt64 (n : Int64) : Decimal := (ofInt? n.toInt).getD zero

/-- Whether the number is zero. -/
def isZero (d : Decimal) : Bool := d.coefficient == 0

/-- The same number with the opposite sign, also for a zero. -/
def neg (d : Decimal) : Decimal := { d with negative := !d.negative }

/-! ### The number -/

/-- The number times `10 ^ places`, for at least as many places as the scale. -/
def scaledTo (d : Decimal) (places : Nat) : Int :=
  let magnitude : Int := (d.coefficient * tenTo (places - d.scale) : Nat)
  if d.negative then -magnitude else magnitude

/-- The order of two numbers. -/
def compare (a b : Decimal) : Ordering :=
  Ord.compare (a.scaledTo (max a.scale b.scale)) (b.scaledTo (max a.scale b.scale))

/-- The coefficient and the scale without trailing zeros in the fraction; at most `scale` are
dropped. -/
def stripZeros : Nat → Nat → Nat → Nat × Nat
  | 0, c, s => (c, s)
  | fuel + 1, c, s =>
    if 0 < s ∧ c % 10 = 0 then stripZeros fuel (c / 10) (s - 1) else (c, s)

/-- The places that the number needs. -/
def normalizedScale (d : Decimal) : Nat := (stripZeros d.scale d.coefficient d.scale).2

/-- The integer that the number is, if it is one. -/
def toInt? (d : Decimal) : Option Int :=
  if d.coefficient % tenTo d.scale = 0 then
    let n : Int := (d.coefficient / tenTo d.scale : Nat)
    some (if d.negative then -n else n)
  else none

/-! ### Rounding into the bounds -/

/-- The coefficient and scale with the last `dropped` places, or more, rounded away so that both
are within the bounds. -/
def fitFrom (coefficient scale : Nat) : Nat → Nat → Option (Nat × Nat)
  | 0, _ => none
  | fuel + 1, dropped =>
    let c := roundHalfEven coefficient (tenTo dropped)
    if c < coefficientBound ∧ scale - dropped ≤ maxScale then some (c, scale - dropped)
    else fitFrom coefficient scale fuel (dropped + 1)

/-- **The nearest decimal with as many places as fit**: of `± coefficient / 10 ^ scale` the fewest
places are rounded away, a tie going to the even coefficient; `none` when the integer part is too
large. -/
def fit (negative : Bool) (coefficient scale : Nat) : Option Decimal :=
  (fitFrom coefficient scale (scale + 1) 0).bind fun p => ofParts? negative p.1 p.2

/-! ### Text -/

/-- The text of a decimal: every place is written, and at least one digit in front of the point. -/
def toText (d : Decimal) : String :=
  let ds := Nat.toDigits 10 d.coefficient
  let padded := List.replicate (d.scale + 1 - ds.length) '0' ++ ds
  let front := padded.take (padded.length - d.scale)
  let back := padded.drop (padded.length - d.scale)
  String.ofList ((if d.negative then ['-'] else []) ++ front ++
    if d.scale = 0 then [] else '.' :: back)

/-- Rounds the coefficient up when the next digit asks for it; a coefficient that grows out of the
bounds loses its last place. -/
def roundLast (negative : Bool) (coefficient scale digit : Nat) : Option Decimal :=
  if 5 ≤ digit then
    if coefficient + 1 < coefficientBound then ofParts? negative (coefficient + 1) scale
    else if scale = 0 then none
    else ofParts? negative ((coefficient + 5) / 10) (scale - 1)
  else ofParts? negative coefficient scale

/-- Whether a coefficient has outgrown 64 bits, with room to spare, before its last digit. -/
def isWide (coefficient : Nat) : Bool := twoTo 64 / 10 - 255 ≤ coefficient / 10

/-- The digit that a numeral is rounded by: the first character of what stands behind the last place
that fits, where only digits and underscores may stand.  An underscore counts as zero; behind a wide
coefficient it is passed over. -/
def roundingDigit? (wide : Bool) (tail : List Char) : Option Nat :=
  if tail.all fun c => c.isDigit || c == '_' then
    match if wide then tail.dropWhile (· == '_') else tail with
    | c :: _ => some (if c.isDigit then c.toNat - 48 else 0)
    | [] => some 0
  else none

/-- Reads the digits of a numeral: `point` once the point is passed, `any` once a digit is read.
Digits past the last place that fits round the number. -/
def readDigits (negative : Bool) : Bool → Bool → Nat → Nat → List Char → Option Decimal
  | _, any, coefficient, scale, [] => if any then ofParts? negative coefficient scale else none
  | point, any, coefficient, scale, c :: cs =>
    if point && any && maxScale ≤ scale then
      (roundingDigit? (isWide coefficient) (c :: cs)).bind (roundLast negative coefficient scale)
    else if c.isDigit then
      let next := 10 * coefficient + (c.toNat - 48)
      if next < coefficientBound then
        readDigits negative point true next (if point then scale + 1 else 0) cs
      else if point then (roundingDigit? true (c :: cs)).bind (roundLast negative coefficient scale)
      else none
    else if c = '.' && !point then readDigits negative true any coefficient scale cs
    else if c = '_' && any then readDigits negative point any coefficient scale cs
    else none

/-- The decimal that a text spells: an optional sign, digits with underscores between them, at
most one point. -/
def ofText? (s : String) : Option Decimal :=
  match s.toList with
  | '-' :: cs => readDigits true false false 0 0 cs
  | '+' :: cs => readDigits false false false 0 0 cs
  | cs => readDigits false false false 0 0 cs

end Decimal

end ModelSql.Numeric
