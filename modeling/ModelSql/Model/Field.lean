/-
**Fields of models.**

A field has a name, a column, a type, and the attributes that its column is declared with.

Main definitions:

* `EnumType`, `FieldType` — types;
* `ReferentialAction`, `ForeignKey` — references to other tables;
* `Field` — **a field**, with `Field.new` and the functions that set its attributes.
-/

import ModelSql.Text.Basic

set_option autoImplicit false

namespace ModelSql

/-! ### Types -/

/-- An enumeration: its variants by position, stored by name or by position. -/
structure EnumType where
  name : String
  variants : List String
  storeAsInt : Bool
  deriving DecidableEq, Repr

/-- The variant at a position. -/
def EnumType.variant? (e : EnumType) (ordinal : Int) : Option String :=
  if ordinal < 0 then none else e.variants[ordinal.toNat]?

/-- The first position of a variant, if it has 64 bits. -/
def EnumType.ordinal? (e : EnumType) (variant : String) : Option Int64 :=
  (e.variants.findIdx? (· == variant)).bind fun n =>
    if n ≤ Int64.maxValue.toInt then some (Int64.ofNat n) else none

/-- The types of fields. -/
inductive FieldType
  | bool | int16 | int32 | int64 | float | double | decimal | string | guid | dateTime | date | time
  | bytes
  | enum (e : EnumType)
  deriving DecidableEq, Repr

namespace FieldType

/-- Whether the values are integers. -/
def isInteger : FieldType → Bool
  | int16 | int32 | int64 => true
  | _ => false

/-- Whether the values are truth values. -/
def isBool : FieldType → Bool
  | bool => true
  | _ => false

/-- Whether a field of the type may be null unless it says otherwise. -/
def isNullable : FieldType → Bool
  | string | bytes => true
  | _ => false

/-- The name of a type. -/
def name : FieldType → String
  | bool => "Bool" | int16 => "Int16" | int32 => "Int32" | int64 => "Int64" | float => "Float"
  | double => "Double" | decimal => "Decimal" | string => "String" | guid => "Guid"
  | dateTime => "DateTime" | date => "Date" | time => "Time" | bytes => "Bytes"
  | enum e => "enum " ++ e.name

/-- The enumeration of a type. -/
def enum? : FieldType → Option EnumType
  | enum e => some e
  | _ => none

end FieldType

/-! ### References -/

/-- What happens to a row when the row it refers to goes or changes. -/
inductive ReferentialAction
  | cascade | setNull | setDefault | restrict | noAction
  deriving DecidableEq, Repr

/-- The words for an action in a statement. -/
def ReferentialAction.sql : ReferentialAction → String
  | cascade => "CASCADE"
  | setNull => "SET NULL"
  | setDefault => "SET DEFAULT"
  | restrict => "RESTRICT"
  | noAction => "NO ACTION"

/-- The name of the field that is the key of a model that declares none. -/
def idField : String := "Id"

/-- A reference to a column of another table, by model and field name. -/
structure ForeignKey where
  table : String
  column : String
  schema : Option String
  onDelete : Option ReferentialAction
  onUpdate : Option ReferentialAction
  name : Option String
  deriving DecidableEq, Repr

/-- A reference to the key of a table. -/
def ForeignKey.new (table : String) : ForeignKey := ⟨table, idField, none, none, none, none⟩

/-! ### Fields -/

/-- A field and its attributes.  The length of a decimal is its precision. -/
structure Field where
  name : String
  storedName : Option String
  type : FieldType
  isPrimaryKey : Bool
  autoIncrement : Bool
  sequence : Option String
  isNullable : Bool
  isComputed : Bool
  isIndexed : Bool
  isUnique : Bool
  length : Option Nat
  scale : Option Nat
  default : Option String
  foreignKey : Option ForeignKey
  deriving DecidableEq, Repr

namespace Field

/-- A field with the attributes that its type implies. -/
def new (name : String) (type : FieldType) : Field :=
  { name, type
    storedName := none
    isPrimaryKey := false
    autoIncrement := false
    sequence := none
    isNullable := type.isNullable
    isComputed := false
    isIndexed := false
    isUnique := false
    length := none
    scale := none
    default := none
    foreignKey := none }

/-- The name of the column: the stored name, or else the name of the field. -/
def column (f : Field) : String := f.storedName.getD f.name

/-- Makes the field the key, which is never null. -/
def primaryKey (f : Field) : Field := { f with isPrimaryKey := true, isNullable := false }

/-- Makes the column unique, which takes an index. -/
def unique (f : Field) : Field := { f with isIndexed := true, isUnique := true }

/-- Sets precision and scale. -/
def precision (f : Field) (precision scale : Nat) : Field :=
  { f with length := some precision, scale := some scale }

/-- Whether the database makes the value. -/
def isGenerated (f : Field) : Bool := f.autoIncrement || f.sequence.isSome

@[simp] theorem column_new (name : String) (type : FieldType) : (new name type).column = name := rfl

end Field

end ModelSql
