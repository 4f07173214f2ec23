/-
**Models of tables.**

A model names a table and lists its fields, its composite indexes and its composite key.

Main definitions:

* `Index`, `Index.columns` — an index over several fields;
* `Model` — **a model**;
* `Model.field?` — the field of a name;
* `Model.primaryKey?`, `Model.primaryKeys`, `Model.isKeyField` — its key;
* `ForeignKey.toModel` — a reference to a model.
-/

import ModelSql.Model.Field

set_option autoImplicit false

namespace ModelSql

/-! ### Indexes -/

/-- An index over several fields; each entry is a field name and maybe a direction. -/
structure Index where
  entries : List String
  isUnique : Bool
  name : Option String
  deriving DecidableEq, Repr

/-- The field and the direction of an entry: `true` for a descending one. -/
def Index.column (entry : String) : String × Bool :=
  match Text.words entry with
  | [] => ("", false)
  | [field] => (field, false)
  | field :: direction :: _ => (field, Text.equalsIgnoringCase direction "DESC")

/-- The fields and directions of an index. -/
def Index.columns (i : Index) : List (String × Bool) := i.entries.map Index.column

/-! ### Models -/

/-- A model of a table. -/
structure Model where
  name : String
  storedName : Option String
  schema : Option String
  fields : List Field
  indexes : List Index
  compositeKey : List String
  deriving DecidableEq, Repr

namespace Model

/-- A model without fields. -/
def new (name : String) : Model := ⟨name, none, none, [], [], []⟩

/-- The name of the table: the stored name, or else the name of the model. -/
def table (m : Model) : String := m.storedName.getD m.name

/-- The single key field. -/
def primaryKey? (m : Model) : Option Field := m.fields.find? (·.isPrimaryKey)

/-- The field of a name; failing that, the field whose column has the name in any letter case. -/
def field? (m : Model) (name : String) : Option Field :=
  (m.fields.find? (·.name == name)).orElse fun _ =>
    m.fields.find? (Text.equalsIgnoringCase ·.column name)

/-- The key fields: the composite key in its order, or the single key field. -/
def primaryKeys (m : Model) : List Field :=
  if m.compositeKey.isEmpty then m.primaryKey?.toList else m.compositeKey.filterMap m.field?

/-- Whether a field belongs to the key. -/
def isKeyField (m : Model) (f : Field) : Bool := f.isPrimaryKey || m.compositeKey.contains f.name

end Model

/-- A reference to the key of a model. -/
def ForeignKey.toModel (m : Model) : ForeignKey :=
  { ForeignKey.new m.table with
    column := (m.primaryKey?.map Field.column).getD idField
    schema := m.schema }

end ModelSql
