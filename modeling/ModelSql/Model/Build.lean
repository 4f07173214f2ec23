/-
**Checking a model.**

A model is checked once, before any statement is made from it: its names, the types of generated
fields, its references, indexes and keys.  Checking also settles the key: a field `Id` is the key of
a model that declares none, and key fields are never null.

Main definitions:

* `Model.checkFields`, `Model.checkIndexes`, `Model.settleKey` — the three parts;
* `Model.build` — **the checked model**.
-/

import ModelSql.Error
import ModelSql.Model

set_option autoImplicit false

namespace ModelSql.Model

/-! ### Fields -/

/-- Checks a field beside the names and columns that precede it. -/
def checkField (model : String) (names columns : List String) (f : Field) : Except Error Unit :=
  if Text.isAllBlank f.name then .error (.emptyFieldName model)
  else if names.contains f.name then .error (.duplicateField model f.name)
  else if columns.contains (Text.asciiLower f.column) then
    .error (.duplicateColumn model f.name f.column)
  else if f.isGenerated && !f.type.isInteger then
    .error (.generatedType model f.name f.type.name)
  else if f.foreignKey.any fun k => Text.isAllBlank k.table || Text.isAllBlank k.column then
    .error (.incompleteForeignKey model f.name)
  else .ok ()

/-- Checks the fields in order; `names` and `columns` belong to the fields before. -/
def checkFields (model : String) (names columns : List String) : List Field → Except Error Unit
  | [] => .ok ()
  | f :: fs =>
    match checkField model names columns f with
    | .error e => .error e
    | .ok () => checkFields model (f.name :: names) (Text.asciiLower f.column :: columns) fs

/-! ### Indexes -/

/-- Checks an index of a model whose fields have the given names. -/
def checkIndex (model : String) (names : List String) (i : Index) : Except Error Unit :=
  if i.entries.isEmpty then .error (.emptyIndex model)
  else
    match (i.columns.map (·.1)).find? (!names.contains ·) with
    | some field => .error (.unknownIndexField model field)
    | none => .ok ()

/-- Checks the indexes in order. -/
def checkIndexes (model : String) (names : List String) : List Index → Except Error Unit
  | [] => .ok ()
  | i :: is =>
    match checkIndex model names i with
    | .error e => .error e
    | .ok () => checkIndexes model names is

/-! ### Keys -/

/-- Changes the first field that satisfies a test. -/
def changeFirst (test : Field → Bool) (change : Field → Field) : List Field → List Field
  | [] => []
  | f :: fs => if test f then change f :: fs else f :: changeFirst test change fs

/-- Checks the key and marks its fields. -/
def settleKey (m : Model) : Except Error Model :=
  let explicit := (m.fields.filter (·.isPrimaryKey)).length
  if !m.compositeKey.isEmpty then
    if 0 < explicit then .error (.twoKinds m.name)
    else
      match m.compositeKey.find? (!(m.fields.map (·.name)).contains ·) with
      | some key => .error (.unknownKeyField m.name key)
      | none =>
        .ok { m with
          fields := m.fields.map fun f =>
            if m.compositeKey.contains f.name then { f with isNullable := false } else f }
  else if 1 < explicit then .error (.severalKeys m.name explicit)
  else if explicit = 0 then
    .ok { m with fields := changeFirst (·.name == idField) Field.primaryKey m.fields }
  else .ok m

/-! ### Models -/

/-- **The checked model**, or the first thing that is wrong with it. -/
def build (m : Model) : Except Error Model :=
  if Text.isAllBlank m.name then .error .emptyModelName
  else if m.fields.isEmpty then .error (.noFields m.name)
  else
    match checkFields m.name [] [] m.fields with
    | .error e => .error e
    | .ok () =>
      match checkIndexes m.name (m.fields.map (·.name)) m.indexes with
      | .error e => .error e
      | .ok () => settleKey m

end ModelSql.Model
