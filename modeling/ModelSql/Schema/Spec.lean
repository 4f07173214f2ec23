/-
**Models as documents declare them.**

A document declares a field by its type name and attributes, and a model by its fields, indexes
and key.  What a declaration leaves out keeps the default of the type.

Main definitions:

* `TypeName`, `EnumSpec`, `ReferenceSpec`, `FieldSpec`, `IndexSpec`, `ModelSpec` — declarations;
* their `decode` — reading them from a document;
* `FieldSpec.field`, `ModelSpec.model` — **the field and the model they declare**.
-/

import ModelSql.Document.Decode
import ModelSql.Model.Build

set_option autoImplicit false

namespace ModelSql

/-! ### Declarations -/

/-- The names of types. -/
inductive TypeName
  | bool | int16 | int32 | int64 | float | double | decimal | string | guid | dateTime | date | time
  | bytes | enum
  deriving DecidableEq, Repr

/-- An enumeration. -/
structure EnumSpec where
  name : String
  variants : List String
  storeAsInt : Bool
  deriving DecidableEq, Repr

/-- A reference to another table. -/
structure ReferenceSpec where
  table : String
  column : Option String
  schema : Option String
  onDelete : Option ReferentialAction
  onUpdate : Option ReferentialAction
  name : Option String
  deriving DecidableEq, Repr

/-- A field. -/
structure FieldSpec where
  name : String
  type : TypeName
  storedName : Option String
  enum : Option EnumSpec
  primaryKey : Bool
  autoIncrement : Bool
  sequence : Option String
  nullable : Option Bool
  computed : Bool
  indexed : Bool
  unique : Bool
  length : Option Nat
  precision : Option Nat
  scale : Option Nat
  default : Option String
  references : Option ReferenceSpec
  deriving DecidableEq, Repr

/-- A composite index. -/
structure IndexSpec where
  fields : List String
  unique : Bool
  name : Option String
  deriving DecidableEq, Repr

/-- A model. -/
structure ModelSpec where
  name : String
  storedName : Option String
  schema : Option String
  fields : List FieldSpec
  indexes : List IndexSpec
  compositeKey : List String
  deriving DecidableEq, Repr

/-! ### Reading -/

/-- The names of types in documents. -/
def TypeName.names : List (String × TypeName) :=
  [("bool", .bool), ("int16", .int16), ("int32", .int32), ("int64", .int64), ("float", .float),
    ("double", .double), ("decimal", .decimal), ("string", .string), ("guid", .guid),
    ("date_time", .dateTime), ("timestamp", .dateTime), ("date", .date), ("time", .time),
    ("bytes", .bytes), ("enum", .enum)]

/-- The names of actions in documents. -/
def ReferentialAction.names : List (String × ReferentialAction) :=
  [("cascade", .cascade), ("set_null", .setNull), ("set_default", .setDefault),
    ("restrict", .restrict), ("no_action", .noAction)]

/-- Reads an enumeration. -/
def EnumSpec.decode : Decoder EnumSpec := fun f d => do
  let r ← Decode.fields false ["name", "variants", "store_as_int"] f d
  some
    { name := ← r.required "name" Decode.text
      variants := ← r.required "variants" (Decode.listOf Decode.text)
      storeAsInt := ← r.default "store_as_int" false Decode.bool }

/-- Reads a reference. -/
def ReferenceSpec.decode : Decoder ReferenceSpec := fun f d => do
  let r ← Decode.fields false ["table", "column", "schema", "on_delete", "on_update", "name"] f d
  some
    { table := ← r.required "table" Decode.text
      column := ← r.optional "column" Decode.text
      schema := ← r.optional "schema" Decode.text
      onDelete := ← r.optional "on_delete" (Decode.choice ReferentialAction.names)
      onUpdate := ← r.optional "on_update" (Decode.choice ReferentialAction.names)
      name := ← r.optional "name" Decode.text }

/-- The names of the attributes of a field, in order. -/
def FieldSpec.names : List String :=
  ["name", "type", "alias", "enum", "primary_key", "auto_increment", "sequence", "nullable",
    "computed", "indexed", "unique", "length", "precision", "scale", "default", "references"]

/-- Reads a field. -/
def FieldSpec.decode : Decoder FieldSpec := fun f d => do
  let r ← Decode.fields false names f d
  some
    { name := ← r.required "name" Decode.text
      type := ← r.required "type" (Decode.choice TypeName.names)
      storedName := ← r.optional "alias" Decode.text
      enum := ← r.optional "enum" EnumSpec.decode
      primaryKey := ← r.default "primary_key" false Decode.bool
      autoIncrement := ← r.default "auto_increment" false Decode.bool
      sequence := ← r.optional "sequence" Decode.text
      nullable := ← r.optional "nullable" Decode.bool
      computed := ← r.default "computed" false Decode.bool
      indexed := ← r.default "indexed" false Decode.bool
      unique := ← r.default "unique" false Decode.bool
      length := ← r.optional "length" Decode.nat32
      precision := ← r.optional "precision" Decode.nat32
      scale := ← r.optional "scale" Decode.nat32
      default := ← r.optional "default" Decode.text
      references := ← r.optional "references" ReferenceSpec.decode }

/-- Reads an index. -/
def IndexSpec.decode : Decoder IndexSpec := fun f d => do
  let r ← Decode.fields false ["fields", "unique", "name"] f d
  some
    { fields := ← r.required "fields" (Decode.listOf Decode.text)
      unique := ← r.default "unique" false Decode.bool
      name := ← r.optional "name" Decode.text }

/-- Reads a model. -/
def ModelSpec.decode : Decoder ModelSpec := fun f d => do
  let r ← Decode.fields false ["name", "alias", "schema", "fields", "indexes", "composite_key"] f d
  some
    { name := ← r.required "name" Decode.text
      storedName := ← r.optional "alias" Decode.text
      schema := ← r.optional "schema" Decode.text
      fields := ← r.required "fields" (Decode.listOf FieldSpec.decode)
      indexes := ← r.default "indexes" [] (Decode.listOf IndexSpec.decode)
      compositeKey := ← r.default "composite_key" [] (Decode.listOf Decode.text) }

/-! ### Fields -/

namespace FieldSpec

/-- The type of a name; an enumeration needs its variants. -/
def namedType (s : FieldSpec) : Except Error FieldType :=
  match s.type with
  | .bool => .ok .bool
  | .int16 => .ok .int16
  | .int32 => .ok .int32
  | .int64 => .ok .int64
  | .float => .ok .float
  | .double => .ok .double
  | .decimal => .ok .decimal
  | .string => .ok .string
  | .guid => .ok .guid
  | .dateTime => .ok .dateTime
  | .date => .ok .date
  | .time => .ok .time
  | .bytes => .ok .bytes
  | .enum =>
    match s.enum with
    | some e => .ok (.enum ⟨e.name, e.variants, e.storeAsInt⟩)
    | none => .error (.enumWithoutVariants s.name)

/-- The type that a field declares; variants belong to an enumeration only. -/
def fieldType (s : FieldSpec) : Except Error FieldType :=
  match s.namedType with
  | .error e => .error e
  | .ok type =>
    if s.enum.isSome && s.type != .enum then .error (.variantsWithoutEnum s.name) else .ok type

/-- Length and scale: of a text by its length, of a decimal by its precision, and not both. -/
def size (s : FieldSpec) : Except Error (Option Nat × Option Nat) :=
  match s.precision, s.length with
  | some _, some _ => .error (.lengthAndPrecision s.name)
  | some precision, none => .ok (some precision, some (s.scale.getD 0))
  | none, some length => .ok (some length, none)
  | none, none => .ok (none, s.scale)

/-- The reference that a field declares. -/
def foreignKey (r : ReferenceSpec) : ForeignKey :=
  { table := r.table
    column := r.column.getD idField
    schema := r.schema
    onDelete := r.onDelete
    onUpdate := r.onUpdate
    name := r.name }

/-- **The field that is declared.** -/
def field (s : FieldSpec) : Except Error Field :=
  match s.fieldType with
  | .error e => .error e
  | .ok type =>
    match s.size with
    | .error e => .error e
    | .ok (length, scale) =>
      .ok
        { name := s.name
          storedName := s.storedName
          type
          isPrimaryKey := s.primaryKey
          autoIncrement := s.autoIncrement
          sequence := s.sequence
          isNullable := s.nullable.getD (!s.primaryKey && type.isNullable)
          isComputed := s.computed
          isIndexed := s.indexed || s.unique
          isUnique := s.unique
          length
          scale
          default := s.default
          foreignKey := s.references.map foreignKey }

end FieldSpec

/-! ### Models -/

namespace ModelSpec

/-- The fields that are declared, in order. -/
def fieldsOf : List FieldSpec → Except Error (List Field)
  | [] => .ok []
  | s :: ss =>
    match s.field with
    | .error e => .error e
    | .ok f => (fieldsOf ss).map (f :: ·)

/-- **The model that is declared**, checked. -/
def model (s : ModelSpec) : Except Error Model :=
  match fieldsOf s.fields with
  | .error e => .error e
  | .ok fields =>
    Model.build
      { name := s.name
        storedName := s.storedName
        schema := s.schema
        fields
        indexes := s.indexes.map fun i => ⟨i.fields, i.unique, i.name⟩
        compositeKey := s.compositeKey }

end ModelSpec

end ModelSql
