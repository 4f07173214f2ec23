/-
**Types and definitions of columns.**

Main definitions:

* `Dialect.standardType`, `Dialect.columnType` — **the type of the column of a field**;
* `Dialect.columnDefault?` — its default;
* `Dialect.columnDefinition` — **its definition in a table**.
-/

import ModelSql.Dialect.Sequence

set_option autoImplicit false

namespace ModelSql.Dialect

/-! ### Types -/

/-- The type of a text of some length; a long text is unbounded. -/
def stringType (d : Dialect) (length : Option Nat) : String :=
  let n := length.getD d.config.stringLength
  let types := d.rules.types
  if d.rules.maxStringLength < n then
    if d.config.useUnicode then types.unicodeText else types.text
  else
    (if d.config.useUnicode then types.unicodeString else types.string) ++ "(" ++ toString n ++ ")"

/-- The type of a decimal field. -/
def decimalType (d : Dialect) (f : Field) : Except Error String :=
  let precision := f.length.getD d.config.decimalPrecision
  let scale := d.scaleOf f
  if d.rules.maxPrecision < precision then
    .error (.precisionTooLarge d.rules.name d.rules.maxPrecision f.name precision)
  else if precision < scale then .error (.scaleAbovePrecision f.name scale precision)
  else
    .ok (d.rules.types.decimal ++ "(" ++ toString precision ++ "," ++ toString scale ++ ")")

/-- The type of a field, by the names of types alone. -/
def standardType (d : Dialect) (f : Field) : Except Error String :=
  let types := d.rules.types
  match f.type with
  | .bool => .ok types.bool
  | .int16 => .ok types.int16
  | .int32 => .ok types.int32
  | .int64 => .ok types.int64
  | .float => .ok types.float
  | .double => .ok types.double
  | .decimal => d.decimalType f
  | .string => .ok (d.stringType f.length)
  | .guid => .ok (match d.config.guidFormat with
    | .string => types.guidString
    | .binary => types.guidBinary)
  | .dateTime => .ok types.datetime
  | .date => .ok types.date
  | .time => .ok types.time
  | .bytes => .ok types.bytes
  | .enum e => .ok (if e.storeAsInt then types.int32 else d.stringType f.length)

/-- The serial type of an integer type. -/
def serialType? : FieldType → Option String
  | .int16 => some "SMALLSERIAL"
  | .int32 => some "SERIAL"
  | .int64 => some "BIGSERIAL"
  | _ => none

/-- Whether a type is one of texts. -/
def isTextType : FieldType → Bool
  | .string | .enum _ => true
  | _ => false

/-- **The type of the column of a field.**  PostgreSQL numbers a field by its serial types;
Firebird names the character set of a text. -/
def columnType (d : Dialect) (f : Field) : Except Error String :=
  match d.kind with
  | .postgres =>
    match (if d.isIdentity f then serialType? f.type else none) with
    | some type => .ok type
    | none => d.standardType f
  | .firebird =>
    (d.standardType f).map fun type =>
      if d.config.useUnicode && isTextType f.type &&
          Text.startsWith type d.rules.types.unicodeString then
        type ++ " CHARACTER SET UTF8"
      else type
  | _ => d.standardType f

/-! ### Definitions -/

/-- The default of the column of a field: its own, or the next value of its sequence. -/
def columnDefault? (d : Dialect) (f : Field) : Option String :=
  match f.default with
  | some sql => some sql
  | none =>
    f.sequence.bind fun s => if d.rules.hasSequences then d.sequenceDefault? s else none

/-- The clause that sets a default. -/
def defaultClause (d : Dialect) (sql : String) : String :=
  match d.kind with
  | .sqlserver => " DEFAULT (" ++ sql ++ ")"
  | _ => " DEFAULT " ++ sql

/-- The clause that sets an optional default. -/
def defaultSuffix (d : Dialect) (sql : Option String) : String :=
  match sql with
  | some s => d.defaultClause s
  | none => ""

/-- The keyword behind a key that the database numbers. -/
def identitySuffix (d : Dialect) (f : Field) : String :=
  match d.rules.identity with
  | .keyword word => if d.isIdentity f then " " ++ word else ""
  | _ => ""

/-- **The definition of the column of a field.**  Firebird puts the default first and has no word
for a column that may be null. -/
def columnDefinition (d : Dialect) (f : Field) : Except Error String :=
  (d.columnType f).map fun type =>
    let head := d.quotedField f ++ " " ++ type
    match d.kind with
    | .firebird =>
      head ++ d.defaultSuffix f.default ++
        (if f.isPrimaryKey then " NOT NULL PRIMARY KEY"
        else if f.isNullable then "" else " NOT NULL")
    | _ =>
      head ++
        (if f.isPrimaryKey then " PRIMARY KEY" ++ d.identitySuffix f
        else if f.isNullable then " NULL" else " NOT NULL") ++
        d.defaultSuffix (d.columnDefault? f)

end ModelSql.Dialect
