/-
**Globally unique identifiers.**

An identifier is a number of 128 bits, written as 32 digits of base 16 in five groups.  It may also
be read without the hyphens, in braces, or as a uniform resource name.

Main definitions:

* `Guid` — the type;
* `Guid.toText`, `Guid.ofText?` — its text;
* `Guid.bytes`, `Guid.bytesLittle` — its sixteen bytes, and with the first three groups reversed.
-/

import ModelSql.Numeric.Power
import ModelSql.Text.Basic

set_option autoImplicit false

namespace ModelSql

/-- A number of 128 bits. -/
structure Guid where
  value : Nat
  value_lt : value < Numeric.twoTo 128
  deriving DecidableEq

namespace Guid

/-- The identifier of a number, if it is not too large. -/
def ofNat? (n : Nat) : Option Guid := if h : n < Numeric.twoTo 128 then some ⟨n, h⟩ else none

/-- The order of the numbers. -/
def compare (a b : Guid) : Ordering := Ord.compare a.value b.value

/-! ### Text -/

/-- The 32 digits, most significant first. -/
def digits (g : Guid) : List Char :=
  (List.range 32).map fun i => Text.hexDigit false (g.value / Numeric.twoTo (4 * (31 - i)) % 16)

/-- The digits in groups of 8, 4, 4, 4 and 12 with hyphens between. -/
def toText (g : Guid) : String :=
  let ds := g.digits
  String.ofList (ds.take 8 ++ '-' :: (ds.drop 8).take 4 ++ '-' :: (ds.drop 12).take 4 ++
    '-' :: (ds.drop 16).take 4 ++ '-' :: ds.drop 20)

/-- The number that 32 digits of base 16 spell. -/
def ofDigits? (cs : List Char) : Option Guid :=
  if cs.length = 32 then
    (cs.mapM Text.hexValue?).bind fun ds => ofNat? (ds.foldl (fun n d => 16 * n + d) 0)
  else none

/-- The digits of a text in five groups with hyphens between. -/
def ofGroups? (cs : List Char) : Option Guid :=
  if cs.length = 36 ∧ (cs.drop 8).head? = some '-' ∧ (cs.drop 13).head? = some '-' ∧
      (cs.drop 18).head? = some '-' ∧ (cs.drop 23).head? = some '-' then
    ofDigits? (cs.take 8 ++ (cs.drop 9).take 4 ++ (cs.drop 14).take 4 ++ (cs.drop 19).take 4 ++
      cs.drop 24)
  else none

/-- The identifier that a text spells: five groups, alone, in braces or after `urn:uuid:` in either
case, or the 32 digits alone. -/
def ofText? (s : String) : Option Guid :=
  let cs := s.toList
  if cs.length = 32 then ofDigits? cs
  else if cs.length = 38 ∧ cs.head? = some '\x7b' ∧ cs.getLast? = some '\x7d' then
    ofGroups? ((cs.drop 1).dropLast)
  else if (cs.take 9).map Char.toLower = "urn:uuid:".toList then ofGroups? (cs.drop 9)
  else ofGroups? cs

/-! ### Bytes -/

/-- The sixteen bytes, most significant first. -/
def bytes (g : Guid) : List UInt8 :=
  (List.range 16).map fun i => UInt8.ofNat (g.value / Numeric.twoTo (8 * (15 - i)) % 256)

/-- The sixteen bytes with each of the first three groups reversed. -/
def bytesLittle (g : Guid) : List UInt8 :=
  let bs := g.bytes
  (bs.take 4).reverse ++ ((bs.drop 4).take 2).reverse ++ ((bs.drop 6).take 2).reverse ++ bs.drop 8

end Guid

end ModelSql
