/-
**Reading typed data from documents.**

A decoder takes a tree of a document apart.  A record is written as a table, or as the list of its
fields in order; a choice is written as its name, or as a table whose one entry has that name and
nothing in it.

Main definitions:

* `Decoder` — the type of decoders;
* `Decode.text`, `Decode.bool`, `Decode.nat32`, `Decode.listOf`, `Decode.optional`,
  `Decode.choice` — scalars, lists and choices;
* `Decode.Fields`, `Decode.fields`, `Decode.Fields.required`, `Decode.Fields.optional`,
  `Decode.Fields.default` — records.
-/

import ModelSql.Document.Datum
import ModelSql.Error

set_option autoImplicit false

namespace ModelSql

/-- A reader of one part of a document. -/
abbrev Decoder (α : Type) := DocumentFormat → Datum → Option α

namespace Decode

/-! ### Scalars, lists and choices -/

/-- Reads a text. -/
def text : Decoder String
  | _, .text s => some s
  | _, _ => none

/-- Reads a truth value. -/
def bool : Decoder Bool
  | _, .bool b => some b
  | _, _ => none

/-- Reads an integer between bounds. -/
def integer (low high : Int) : Decoder Int
  | _, .integer n => if low ≤ n ∧ n ≤ high then some n else none
  | _, _ => none

/-- Reads a natural number of 32 bits. -/
def nat32 : Decoder Nat := fun f d => (integer 0 4294967295 f d).map Int.toNat

/-- Reads a list. -/
def listOf {α : Type} (item : Decoder α) : Decoder (List α)
  | f, .list items => items.mapM (item f)
  | _, _ => none

/-- Reads something that may be null. -/
def optional {α : Type} (d : Decoder α) : Decoder (Option α)
  | _, .null => some none
  | f, v => (d f v).map some

/-- Whether a tree is what stands under the name of a choice without contents. -/
def isNothing : DocumentFormat → Datum → Bool
  | .json, .null => true
  | .toml, .list [] => true
  | .toml, .table [] => true
  | _, _ => false

/-- Reads one of the named choices. -/
def choice {α : Type} (choices : List (String × α)) : Decoder α
  | _, .text s => choices.lookup s
  | f, .table [(s, d)] => if isNothing f d then choices.lookup s else none
  | _, _ => none

/-! ### Records -/

/-- The fields of a record as they are written: by name or by position. -/
structure Fields where
  format : DocumentFormat
  positional : Bool
  entries : List (String × Datum)

/-- Whether a list of names has no repetition. -/
def distinct : List String → Bool
  | [] => true
  | n :: ns => !ns.contains n && distinct ns

/-- Reads the fields of a record whose fields have the given names, in that order.  A table may have
other names only where the record is `lenient`; surplus items of a list are passed over in TOML. -/
def fields (lenient : Bool) (names : List String) : Decoder Fields
  | f, .table entries =>
    let known := entries.filter fun e => names.contains e.1
    if distinct (known.map (·.1)) && (lenient || known.length == entries.length) then
      some ⟨f, false, known⟩
    else none
  | .json, .list items =>
    if items.length ≤ names.length then some ⟨.json, true, names.zip items⟩ else none
  | .toml, .list items => some ⟨.toml, true, names.zip items⟩
  | _, _ => none

namespace Fields

/-- A field that must be there. -/
def required {α : Type} (r : Fields) (name : String) (d : Decoder α) : Option α :=
  (r.entries.lookup name).bind (d r.format)

/-- A field that may be left out of a table, or be null. -/
def optional {α : Type} (r : Fields) (name : String) (d : Decoder α) : Option (Option α) :=
  match r.entries.lookup name with
  | some v => Decode.optional d r.format v
  | none => if r.positional then none else some none

/-- A field that has a default. -/
def default {α : Type} (r : Fields) (name : String) (value : α) (d : Decoder α) : Option α :=
  match r.entries.lookup name with
  | some v => d r.format v
  | none => some value

end Fields

end Decode

end ModelSql
