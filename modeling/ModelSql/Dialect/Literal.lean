/-
**Literals.**

The text that stands for a value in a statement.  The type of the field that the value is for
decides where the value alone does not: truth values kept as integers, variants of an enumeration,
identifiers given as text.

Main definitions:

* `Literal.quoteText`, `Literal.dateTime`, `Literal.time`, `Literal.float` — parts of literals;
* `Dialect.textLiteral`, `Dialect.guidLiteral`, `Dialect.bytesLiteral` — literals of one kind;
* `Dialect.literal` — **the literal of a value**;
* `Dialect.fieldLiteral` — the literal of a value for a field, all places of a decimal kept.
-/

import ModelSql.Dialect
import ModelSql.Value

set_option autoImplicit false

namespace ModelSql

namespace Literal

/-! ### Parts -/

/-- A text between single quotes; a quote inside is doubled. -/
def quoteText (s : String) : String :=
  String.ofList ('\'' :: Dialect.doubleQuotes '\'' s.toList ++ ['\''])

/-- The text of a date-time: the date alone at midnight, to the millisecond otherwise. -/
def dateTime (t : DateTime) : String :=
  if t.time = TimeOfDay.midnight then t.date.toText else t.toMillis

/-- The text of a time: to the second when nothing is left, to the millisecond otherwise. -/
def time (t : TimeOfDay) : String := if t.nanosecond = 0 then t.toSeconds else t.toMillis

/-- The longest text of a float without an exponent. -/
def maxFloatLength : Nat := 32

/-- The shortest text of a float in double or in single precision; with an exponent when it would
be too long. -/
def float (f : Float) (single : Bool) : Except Error String :=
  let b := Numeric.Binary.ofFloat f
  match b with
  | .finite .. =>
    let fmt := if single then Numeric.single else Numeric.double
    let r := if single then Numeric.narrow Numeric.single b else b
    let plain := r.plainText fmt
    .ok (if plain.length ≤ maxFloatLength then plain else r.exponentText fmt)
  | _ => .error (.noFloatLiteral (Numeric.plainText f))

end Literal

namespace Dialect

/-! ### Literals of one kind -/

/-- The literal of a truth value. -/
def boolLiteral (d : Dialect) (b : Bool) : String :=
  if b then d.rules.trueLiteral else d.rules.falseLiteral

/-- The literal of a text; MySQL also doubles backslashes, and SQL Server marks Unicode text. -/
def textLiteral (d : Dialect) (s : String) : String :=
  match d.kind with
  | .mysql => Literal.quoteText (String.ofList (doubleQuotes '\\' s.toList))
  | .sqlserver => (if d.config.useUnicode then "N" else "") ++ Literal.quoteText s
  | _ => Literal.quoteText s

/-- The literal of bytes. -/
def bytesLiteral (d : Dialect) (bs : List UInt8) : String :=
  let digits := Text.hex true bs
  match d.kind with
  | .firebird => "x'" ++ digits ++ "'"
  | .mysql => if bs.isEmpty then "X''" else "0x" ++ digits
  | .postgres => "decode('" ++ digits ++ "', 'hex')"
  | .sqlserver => "0x" ++ digits
  | .sqlite => "X'" ++ digits ++ "'"

/-- The literal of an identifier; SQL Server keeps its first groups in reverse order. -/
def guidLiteral (d : Dialect) (g : Guid) : String :=
  match d.config.guidFormat with
  | .binary => d.bytesLiteral (if d.kind = .sqlserver then g.bytesLittle else g.bytes)
  | .string =>
    match d.kind with
    | .postgres => "'" ++ g.toText ++ "'::uuid"
    | .sqlserver => "CAST('" ++ g.toText ++ "' AS UNIQUEIDENTIFIER)"
    | _ => "'" ++ g.toText ++ "'"

/-! ### Literals with a type -/

/-- Whether a type is one of integers. -/
def isIntegerHint (hint : Option FieldType) : Bool := hint.any FieldType.isInteger

/-- The literal of an integer: of the truth value or the variant that it stands for, if the type
says so. -/
def intLiteral (d : Dialect) (n : Int64) (hint : Option FieldType) : Except Error String :=
  match hint with
  | some .bool => .ok (d.boolLiteral (n != 0))
  | some (.enum e) =>
    if e.storeAsInt then .ok (toString n.toInt)
    else
      match e.variant? n.toInt with
      | some v => .ok (d.textLiteral v)
      | none => .error (.unknownOrdinal n.toInt e.name)
  | _ => .ok (toString n.toInt)

/-- The literal of a text: of the identifier or the variant that it stands for, if the type says
so. -/
def stringLiteral (d : Dialect) (s : String) (hint : Option FieldType) : Except Error String :=
  match hint with
  | some .guid =>
    match Guid.ofText? s with
    | some g => .ok (d.guidLiteral g)
    | none => .error (.notAGuid s)
  | some (.enum e) =>
    if e.storeAsInt then
      match e.ordinal? s with
      | some n => .ok (toString n.toInt)
      | none => .error (.unknownVariant s e.name)
    else .ok (d.textLiteral s)
  | _ => .ok (d.textLiteral s)

/-- The literal of a variant: its position where the type keeps integers, its name otherwise. -/
def enumLiteral (d : Dialect) (e : EnumValue) (hint : Option FieldType) : String :=
  let byOrdinal := match hint with
    | some (.enum t) => t.storeAsInt
    | some t => t.isInteger
    | none => false
  if byOrdinal then toString e.ordinal.toInt else d.textLiteral e.variant

mutual

/-- **The literal of a value** for a type; the items of a list have commas between. -/
def literal (d : Dialect) (hint : Option FieldType) : Value → Except Error String
  | .null => .ok "NULL"
  | .bool b =>
    .ok (if isIntegerHint hint then (if b then "1" else "0") else d.boolLiteral b)
  | .int n => d.intLiteral n hint
  | .float f => Literal.float f (hint == some .float)
  | .decimal x => .ok x.toText
  | .text s => d.stringLiteral s hint
  | .guid g => .ok (d.guidLiteral g)
  | .datetime t => .ok (Literal.quoteText (Literal.dateTime t))
  | .date t => .ok (Literal.quoteText t.toText)
  | .time t => .ok (Literal.quoteText (Literal.time t))
  | .bytes bs => .ok (d.bytesLiteral bs)
  | .enum e => .ok (d.enumLiteral e hint)
  | .list items => (literals d hint items).map (Text.joinWith ",")

/-- The literals of the items of a list. -/
def literals (d : Dialect) (hint : Option FieldType) : List Value → Except Error (List String)
  | [] => .ok []
  | v :: vs =>
    match literal d hint v with
    | .error e => .error e
    | .ok s => (literals d hint vs).map (s :: ·)

end

/-- The scale of a decimal field. -/
def scaleOf (d : Dialect) (f : Field) : Nat := f.scale.getD d.config.decimalScale

/-- **The literal of a value for a field**; a decimal with more places than the field is refused. -/
def fieldLiteral (d : Dialect) (f : Field) (v : Value) : Except Error String :=
  match f.type, v with
  | .decimal, .decimal x =>
    if d.scaleOf f < x.normalizedScale then
      .error (.decimalPlaces x.toText (d.scaleOf f) f.name)
    else d.literal (some f.type) v
  | _, _ => d.literal (some f.type) v

end Dialect

end ModelSql
