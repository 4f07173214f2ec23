/-
**The shortest decimal text of a float.**

Every float has decimal numerals that round to it; the shortest of them, and among those the one
nearest to the float, is its text.  Of two that are equally near a document takes the even one, and
all other texts take the upper one.  The digits are found in exact arithmetic: for one digit, two
digits, and so on, the two neighbours of the float on that decimal grid are tested against the
interval of the reals that round to it.

Main definitions:

* `Numeric.Numeral`, `Numeric.TieRule` — digits and a power of ten; the choice between neighbours;
* `Numeric.shortest` — **the shortest numeral of `m · 2 ^ q`**;
* `Numeric.plainText`, `Numeric.exponentText` — the two ways to write a float;
* `Numeric.jsonText` — the way a JSON document writes it.
-/

import ModelSql.Numeric.Binary
import ModelSql.Text.Basic

set_option autoImplicit false

namespace ModelSql.Numeric

/-! ### Numerals -/

/-- The number `digits · 10 ^ exponent`. -/
structure Numeral where
  digits : Nat
  exponent : Int
  deriving DecidableEq, Repr

/-- The number of decimal digits of `n`; one for zero. -/
def digitCount (n : Nat) : Nat := (Nat.toDigits 10 n).length

/-- The numeral without trailing zeros among its digits, at most `fuel` of them. -/
def Numeral.trim : Nat → Numeral → Numeral
  | 0, n => n
  | fuel + 1, n =>
    if n.digits ≠ 0 ∧ n.digits % 10 = 0 then Numeral.trim fuel ⟨n.digits / 10, n.exponent + 1⟩
    else n

/-! ### The interval of a float -/

/-- The reals that round to a float: numerators `low`, `value` and `high` over one denominator;
the ends belong to the interval when `closed`. -/
structure Interval where
  low : Nat
  value : Nat
  high : Nat
  den : Nat
  closed : Bool

/-- The interval of `m · 2 ^ q`.  Below a power of two the floats are twice as dense, so that side
is half as wide. -/
def Interval.of (fmt : Format) (m : Nat) (q : Int) : Interval :=
  let below := if m = twoTo (fmt.precision - 1) then 1 else 2
  let up := if 0 ≤ q - 2 then twoTo (q - 2).toNat else 1
  { low := (4 * m - below) * up
    value := 4 * m * up
    high := (4 * m + 2) * up
    den := if 0 ≤ q - 2 then 1 else twoTo (2 - q).toNat
    closed := m % 2 == 0 }

/-- The exponent `e` with `10 ^ e ≤ num / den < 10 ^ (e + 1)`. -/
def decimalExponent (num den : Nat) : Int :=
  if den ≤ num then (digitCount (num / den) : Int) - 1
  else -(digitCount ((den + num - 1) / num - 1) : Int)

/-- The choice between two neighbours that are equally near. -/
inductive TieRule
  | up | even
  deriving DecidableEq, Repr

/-- Whether the upper neighbour of `a` is taken when twice the distance from `a` is `rest`, and the
distance of the neighbours is `unit`. -/
def TieRule.takesUpper (t : TieRule) (a rest unit : Nat) : Bool :=
  unit < rest || (unit == rest && (t == .up || a % 2 == 1))

/-- The neighbours of the value on the grid of multiples of `10 ^ k`, if one of them lies in the
interval: the nearer one. -/
def Interval.onGrid (i : Interval) (t : TieRule) (k : Int) : Option Nat :=
  let up := if k < 0 then tenTo (-k).toNat else 1
  let unit := i.den * if 0 ≤ k then tenTo k.toNat else 1
  let a := i.value * up / unit
  let lowerIn := if i.closed then i.low * up ≤ a * unit else i.low * up < a * unit
  let upperIn := if i.closed then (a + 1) * unit ≤ i.high * up else (a + 1) * unit < i.high * up
  let rest := i.value * up - a * unit
  if lowerIn then
    if upperIn && t.takesUpper a (2 * rest) unit then some (a + 1) else some a
  else if upperIn then some (a + 1) else none

/-- The first grid with a numeral in the interval, from `n` digits on. -/
def Interval.search (i : Interval) (t : TieRule) (e : Int) : Nat → Nat → Numeral
  | 0, _ => ⟨0, 0⟩
  | fuel + 1, n =>
    let k := e + 1 - n
    match i.onGrid t k with
    | some a => ⟨a, k⟩
    | none => i.search t e fuel (n + 1)

/-- **The shortest numeral that rounds to `m · 2 ^ q`**, and the nearest of those. -/
def shortest (fmt : Format) (t : TieRule) (m : Nat) (q : Int) : Numeral :=
  if m = 0 then ⟨0, 0⟩
  else
    let i := Interval.of fmt m q
    (i.search t (decimalExponent i.value i.den) 20 1).trim 20

/-! ### Texts -/

/-- A numeral in positional notation, without a point when it is an integer. -/
def Numeral.plain (n : Numeral) : String :=
  let ds := Nat.toDigits 10 n.digits
  if 0 ≤ n.exponent then
    String.ofList (if n.digits = 0 then ds else ds ++ List.replicate n.exponent.toNat '0')
  else
    let places := (-n.exponent).toNat
    let padded := List.replicate (places + 1 - ds.length) '0' ++ ds
    let whole := padded.length - places
    String.ofList (padded.take whole ++ '.' :: padded.drop whole)

/-- A numeral with one digit in front of the point and a power of ten after the `mark`. -/
def Numeral.scientific (mark plus : String) (n : Numeral) : String :=
  let ds := Nat.toDigits 10 n.digits
  let e := n.exponent + ((ds.length : Int) - 1)
  let mantissa := match ds with
    | [] => ""
    | [d] => String.ofList [d]
    | d :: rest => String.ofList (d :: '.' :: rest)
  mantissa ++ mark ++ (if 0 ≤ e then plus else "") ++ toString e

/-- Writes a datum: its sign and the given text of its magnitude, or the name of a datum that is
no number. -/
def Binary.write (fmt : Format) (t : TieRule) (text : Numeral → String) : Binary → String
  | .nan => "NaN"
  | .infinite negative => if negative then "-inf" else "inf"
  | .finite negative m q => (if negative then "-" else "") ++ text (shortest fmt t m q)

/-- The text of a double in positional notation. -/
def plainText (f : Float) : String := (Binary.ofFloat f).write double .up Numeral.plain

/-- The text of a datum of the format in positional notation. -/
def Binary.plainText (fmt : Format) (b : Binary) : String := b.write fmt .up Numeral.plain

/-- The text of a datum of the format with a power of ten. -/
def Binary.exponentText (fmt : Format) (b : Binary) : String :=
  b.write fmt .up (Numeral.scientific "e" "")

/-- The text of a numeral in a JSON document: positional, with a digit after the point, for powers
of ten from `-5` to `15`, and with a signed exponent beyond them. -/
def Numeral.json (n : Numeral) : String :=
  let e := n.exponent + ((digitCount n.digits : Int) - 1)
  if -5 ≤ e ∧ e ≤ 15 then
    if 0 ≤ n.exponent then n.plain ++ ".0" else n.plain
  else n.scientific "e" "+"

/-- The text of a double in a JSON document; one that is no finite number has none. -/
def jsonText (f : Float) : Option String :=
  match Binary.ofFloat f with
  | .finite negative m q => some ((Binary.finite negative m q).write double .even Numeral.json)
  | _ => none

end ModelSql.Numeric
