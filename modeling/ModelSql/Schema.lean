/-
**Schemas.**

A schema is a document with the models of a database and maybe the settings of its dialect.

Main definitions:

* `Settings.ofText`, `Schema.ofText` — settings and a schema from the text of a document;
* `Schema.definitions` — **the models of a schema**, checked.
-/

import ModelSql.Document.Read
import ModelSql.Schema.Spec
import ModelSql.Settings

set_option autoImplicit false

namespace ModelSql

/-- The settings that the text of a document says. -/
def Settings.ofText (f : DocumentFormat) (s : String) : Except Error Settings :=
  match Document.read f Settings.decode s with
  | .error e => .error e
  | .ok settings => settings.validate.map fun _ => settings

/-- The models of a database, and maybe the settings of its dialect. -/
structure Schema where
  dialect : Option Settings
  models : List ModelSpec
  deriving DecidableEq, Repr

namespace Schema

/-- Reads a schema. -/
def decode : Decoder Schema := fun f d => do
  let r ← Decode.fields false ["dialect", "models"] f d
  some
    { dialect := ← r.default "dialect" none (Decode.optional Settings.decode)
      models := ← r.default "models" [] (Decode.listOf ModelSpec.decode) }

/-- The schema that the text of a document says. -/
def ofText (f : DocumentFormat) (s : String) : Except Error Schema :=
  match Document.read f decode s with
  | .error e => .error e
  | .ok schema =>
    match schema.dialect with
    | some settings => settings.validate.map fun _ => schema
    | none => .ok schema

/-- The models of declarations, in order. -/
def modelsOf : List ModelSpec → Except Error (List Model)
  | [] => .ok []
  | s :: ss =>
    match s.model with
    | .error e => .error e
    | .ok m => (modelsOf ss).map (m :: ·)

/-- **The models of a schema**, checked. -/
def definitions (s : Schema) : Except Error (List Model) := modelsOf s.models

end Schema

end ModelSql
