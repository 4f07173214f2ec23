/-
**Values of rows and statements.**

A value is what a row holds and what a statement writes as a literal or binds as a parameter.  A
list of values stands on the right of a membership test, and lists may be nested.

Main definitions:

* `EnumValue`, `Value` — the types;
* `Value.kind` — the kind of a value;
* `Value.flatten` — the values of a nested list that are no lists, in order;
* `Value.toText` — the text of a value;
* `Value.toInt?`, `Value.toBool?` — a value as an integer or a truth value.
-/

import ModelSql.Calendar
import ModelSql.Guid
import ModelSql.Numeric.Decimal
import ModelSql.Numeric.Shortest
import ModelSql.Value.Kind

set_option autoImplicit false

namespace ModelSql

/-- A variant of an enumeration, by its name and by its position. -/
structure EnumValue where
  type : String
  variant : String
  ordinal : Int64
  deriving DecidableEq

/-- The values. -/
inductive Value
  | null
  | bool (b : Bool)
  | int (n : Int64)
  | float (f : Float)
  | decimal (d : Numeric.Decimal)
  | text (s : String)
  | guid (g : Guid)
  | datetime (t : DateTime)
  | date (d : Date)
  | time (t : TimeOfDay)
  | bytes (bs : List UInt8)
  | enum (e : EnumValue)
  | list (items : List Value)

namespace Value

instance : Inhabited Value := ⟨null⟩

/-! ### Kinds -/

/-- The kind of a value. -/
def kind : Value → ValueKind
  | null => .null | bool _ => .bool | int _ => .int | float _ => .float | decimal _ => .decimal
  | text _ => .text | guid _ => .guid | datetime _ => .datetime | date _ => .date | time _ => .time
  | bytes _ => .bytes | enum _ => .enum | list _ => .list

/-- Whether the value is null. -/
def isNull : Value → Bool
  | null => true
  | _ => false

@[simp] theorem isNull_null : isNull null = true := rfl

theorem isNull_iff (v : Value) : v.isNull = true ↔ v = null := by
  cases v <;> simp [isNull]

/-! ### Lists -/

mutual

/-- The values that are no lists, in order, with all lists opened. -/
def flatten : Value → List Value
  | list items => flattenAll items
  | v => [v]

/-- The flattened items of a list, one after the other. -/
def flattenAll : List Value → List Value
  | [] => []
  | v :: vs => v.flatten ++ flattenAll vs

end

@[simp] theorem flatten_list (items : List Value) : (list items).flatten = flattenAll items := by
  simp [flatten]

@[simp] theorem flattenAll_nil : flattenAll [] = [] := by simp [flattenAll]

@[simp] theorem flattenAll_cons (v : Value) (vs : List Value) :
    flattenAll (v :: vs) = v.flatten ++ flattenAll vs := by simp [flattenAll]

/-! ### Text -/

mutual

/-- The text of a value: nothing for null, the digits of a number, the name of a variant, and the
items of a list with commas between. -/
def toText : Value → String
  | null => ""
  | bool b => if b then "true" else "false"
  | int n => toString n.toInt
  | float f => Numeric.plainText f
  | decimal d => d.toText
  | text s => s
  | guid g => g.toText
  | datetime t => t.toMillis
  | date d => d.toText
  | time t => t.toMillis
  | bytes bs => Text.hex false bs
  | enum e => e.variant
  | list items => Text.joinWith "," (textsOf items)

/-- The texts of the items of a list. -/
def textsOf : List Value → List String
  | [] => []
  | v :: vs => v.toText :: textsOf vs

end

/-! ### Integers and truth values -/

/-- The 64-bit integer of a number, if it is one. -/
def int64? (n : Int) : Option Int64 :=
  if Int64.minValue.toInt ≤ n ∧ n ≤ Int64.maxValue.toInt then some (Int64.ofInt n) else none

/-- The 64-bit integer nearest to a number. -/
def clamp64 (n : Int) : Int64 :=
  if n < Int64.minValue.toInt then Int64.minValue
  else if Int64.maxValue.toInt < n then Int64.maxValue
  else Int64.ofInt n

/-- The integer that a value stands for: a truth value is zero or one, a variant its position; a
number with a fraction is none, and a float beyond 64 bits is the nearest one. -/
def toInt? : Value → Option Int64
  | int n => some n
  | bool b => some (if b then 1 else 0)
  | decimal d => d.toInt?.bind int64?
  | float f => (Numeric.Binary.ofFloat f).toInt?.map clamp64
  | enum e => some e.ordinal
  | _ => none

/-- The truth value that a value is. -/
def toBool? : Value → Option Bool
  | bool b => some b
  | _ => none

/-- The text that a value is. -/
def asText? : Value → Option String
  | text s => some s
  | _ => none

end Value

end ModelSql
