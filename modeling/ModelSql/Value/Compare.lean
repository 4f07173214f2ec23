/-
**The order and the equality of values.**

Numbers of different kinds are compared as numbers; other values with values of their own kind; a
variant also with its position.  Two values are equal when the order says so, when a variant has
the text as its name, or when they are the same value; null is equal to null only.

Main definitions:

* `Value.compare` — the order, where there is one;
* `Value.same` — sameness, item by item for lists;
* `Value.looseEq` — **the equality of conditions**.
-/

import ModelSql.Numeric.Decimal.Float
import ModelSql.Value

set_option autoImplicit false

namespace ModelSql

namespace Numeric

/-- The double nearest to an integer. -/
def ofInt (n : Int) : Float := if n < 0 then -ofNat n.natAbs else ofNat n.natAbs

/-- The order of two floats; one that is no number has none. -/
def compareFloat (a b : Float) : Option Ordering :=
  if a < b then some .lt
  else if a == b then some .eq
  else if b < a then some .gt
  else none

end Numeric

namespace Value

/-- The order of two values, where there is one. -/
def compare : Value → Value → Option Ordering
  | int a, int b => some (Ord.compare a.toInt b.toInt)
  | float a, float b => Numeric.compareFloat a b
  | int a, float b => Numeric.compareFloat (Numeric.ofInt a.toInt) b
  | float a, int b => Numeric.compareFloat a (Numeric.ofInt b.toInt)
  | decimal a, decimal b => some (a.compare b)
  | decimal a, int b => some (a.compare (.ofInt64 b))
  | int a, decimal b => some (Numeric.Decimal.compare (.ofInt64 a) b)
  | decimal a, float b => Numeric.compareFloat a.toFloat b
  | float a, decimal b => Numeric.compareFloat a b.toFloat
  | text a, text b => some (Ord.compare a b)
  | bool a, bool b => some (Ord.compare a b)
  | guid a, guid b => some (a.compare b)
  | datetime a, datetime b => some (a.compare b)
  | date a, date b => some (a.compare b)
  | time a, time b => some (a.compare b)
  | enum a, enum b =>
    if a.type = b.type then some (Ord.compare a.ordinal.toInt b.ordinal.toInt) else none
  | enum a, int b => some (Ord.compare a.ordinal.toInt b.toInt)
  | int a, enum b => some (Ord.compare a.toInt b.ordinal.toInt)
  | null, null => some .eq
  | _, _ => none

mutual

/-- Whether two values are the same: of one kind, with equal contents; decimals are equal as
numbers and lists item by item. -/
def same : Value → Value → Bool
  | null, null => true
  | bool a, bool b => a == b
  | int a, int b => a == b
  | float a, float b => a == b
  | decimal a, decimal b => a.compare b == .eq
  | text a, text b => a == b
  | guid a, guid b => a == b
  | datetime a, datetime b => a == b
  | date a, date b => a == b
  | time a, time b => a == b
  | bytes a, bytes b => a == b
  | enum a, enum b => a == b
  | list a, list b => sameAll a b
  | _, _ => false

/-- Whether two lists are the same, item by item. -/
def sameAll : List Value → List Value → Bool
  | [], [] => true
  | a :: as, b :: bs => same a b && sameAll as bs
  | _, _ => false

end

/-- **The equality of conditions.** -/
def looseEq (a b : Value) : Bool :=
  match a, b with
  | null, null => true
  | null, _ => false
  | _, null => false
  | enum e, text s => e.variant == s
  | text s, enum e => e.variant == s
  | a, b => a.compare b == some .eq || same a b

end Value

end ModelSql
