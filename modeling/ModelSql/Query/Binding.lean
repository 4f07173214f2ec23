/-
**Values in a statement: literals or parameters.**

Where a value meets the text of a statement it becomes a literal, or a placeholder with the value
bound to it.  A bound value has the form that the column of its type stores.

Main definitions:

* `Scope` — the dialect, the model and the modes that a statement is written in;
* `Bindings`, `Bindings.rollBack` — the parameters so far, and going back to earlier ones;
* `Abort`, `Compile` — steps that may add parameters, and may fail with some added;
* `coerce` — the form in which a column stores a value;
* `Scope.bind` — **a value as literal or placeholder**.
-/

import ModelSql.Command.Parameters
import ModelSql.Dialect.Literal

set_option autoImplicit false

namespace ModelSql

/-! ### Scope and state -/

/-- What a statement is written for: whether values are bound, and whether columns carry the name
of their table. -/
structure Scope where
  dialect : Dialect
  model : Model
  parameterized : Bool
  qualified : Bool

/-- The parameters so far, and the number of the next placeholder. -/
structure Bindings where
  parameters : Parameters
  counter : Nat

/-- The parameters without those from a position on, and the number that the next one had then. -/
def Bindings.rollBack (b : Bindings) (size counter : Nat) : Bindings :=
  ⟨b.parameters.truncate size, counter⟩

/-- Why a step failed, and the parameters that it had bound until then. -/
structure Abort where
  error : Error
  bindings : Bindings

/-- Steps of writing a statement.  What a step binds before it fails stays bound. -/
abbrev Compile (α : Type) := StateT Bindings (Except Abort) α

/-- The step that fails. -/
def fail {α : Type} (e : Error) : Compile α := fun b => .error ⟨e, b⟩

/-- The step that has an outcome already. -/
def outcome {α : Type} : Except Error α → Compile α
  | .ok a => fun b => .ok (a, b)
  | .error e => fail e

/-! ### Values -/

/-- The form in which a column of a type stores a value. -/
def coerce (hint : Option FieldType) (v : Value) : Value :=
  match hint, v with
  | some (.enum e), .int n =>
    if e.storeAsInt then v else ((e.variant? n.toInt).map Value.text).getD v
  | some (.enum e), .text s =>
    if e.storeAsInt then ((e.ordinal? s).map Value.int).getD v else v
  | some (.enum e), .enum w => if e.storeAsInt then .int w.ordinal else .text w.variant
  | some t, .enum w => if t.isInteger then .int w.ordinal else .text w.variant
  | none, .enum w => .text w.variant
  | some .bool, .int n => .bool (n != 0)
  | _, v => v

namespace Scope

/-- A new placeholder for a value. -/
def placeholder (s : Scope) (v : Value) : Compile String := fun b =>
  let name := s.dialect.placeholder b.counter
  .ok (name, ⟨b.parameters.push name v, b.counter + 1⟩)

mutual

/-- A placeholder for a value, or for each item of a list; null is written. -/
def bindParameter (s : Scope) (hint : Option FieldType) : Value → Compile String
  | .null => outcome (s.dialect.literal hint .null)
  | .list items => do
    let texts ← bindParameters s hint items
    return Text.joinWith "," texts
  | v => s.placeholder (coerce hint v)

/-- Placeholders for the items of a list. -/
def bindParameters (s : Scope) (hint : Option FieldType) : List Value → Compile (List String)
  | [] => return []
  | v :: vs => do
    let text ← bindParameter s hint v
    let texts ← bindParameters s hint vs
    return text :: texts

end

/-- **A value in a statement**: a placeholder where values are bound, a literal otherwise. -/
def bind (s : Scope) (hint : Option FieldType) (v : Value) : Compile String :=
  if s.parameterized then s.bindParameter hint v else outcome (s.dialect.literal hint v)

/-- The values of a list in a statement. -/
def bindAll (s : Scope) (hint : Option FieldType) : List Value → Compile (List String)
  | [] => return []
  | v :: vs => do
    let text ← s.bind hint v
    let texts ← s.bindAll hint vs
    return text :: texts

/-- A column in a statement. -/
def column (s : Scope) (f : Field) : String :=
  if s.qualified then s.dialect.quotedTable s.model ++ "." ++ s.dialect.quotedField f
  else s.dialect.quotedField f

/-- The field of a name. -/
def field (s : Scope) (name : String) : Except Error Field :=
  match s.model.field? name with
  | some f => .ok f
  | none => .error (.unknownField s.model.name name)

end Scope

end ModelSql
