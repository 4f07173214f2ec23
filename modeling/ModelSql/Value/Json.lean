/-
**Values in JSON documents.**

A value is written as a table whose one entry names its kind; null is its name alone.  Texts stand
for decimals, identifiers, dates and times.

Main definitions:

* `Value.toDatum`, `Value.toJson` — writing;
* `Value.ofDatum?`, `Value.ofJson?` — **reading**.
-/

import ModelSql.Calendar.Reader
import ModelSql.Document.Decode
import ModelSql.Document.Json
import ModelSql.Numeric.Decimal.Arithmetic
import ModelSql.Value
import ModelSql.Value.Compare

set_option autoImplicit false

namespace ModelSql.Value

/-! ### Writing -/

/-- A table with one entry. -/
def tagged (name : String) (d : Datum) : Datum := .table [(name, d)]

mutual

/-- The tree of a value. -/
def toDatum : Value → Datum
  | null => .text "Null"
  | bool b => tagged "Bool" (.bool b)
  | int n => tagged "Int" (.integer n.toInt)
  | float f => tagged "Float" (.float f)
  | decimal d => tagged "Decimal" (.text d.toText)
  | text s => tagged "Text" (.text s)
  | guid g => tagged "Guid" (.text g.toText)
  | datetime t => tagged "DateTime" (.text t.toIso)
  | date d => tagged "Date" (.text d.toText)
  | time t => tagged "Time" (.text t.toIso)
  | bytes bs => tagged "Bytes" (.list (bs.map fun b => .integer b.toNat))
  | enum e =>
    tagged "Enum" (.table [("type_name", .text e.type), ("variant", .text e.variant),
      ("ordinal", .integer e.ordinal.toInt)])
  | list items => tagged "List" (.list (toData items))

/-- The trees of the items of a list. -/
def toData : List Value → List Datum
  | [] => []
  | v :: vs => v.toDatum :: toData vs

end

/-- **The JSON text of a value.** -/
def toJson (v : Value) : String := v.toDatum.toJson

/-! ### Reading -/

/-- Reads a 64-bit integer. -/
def decodeInt : Decoder Int64 := fun f d =>
  (Decode.integer Int64.minValue.toInt Int64.maxValue.toInt f d).map Int64.ofInt

/-- Reads a float, also from an integer. -/
def decodeFloat : Decoder Float
  | _, .float x => some x
  | _, .integer n => some (Numeric.ofInt n)
  | _, _ => none

/-- Reads a decimal from its text or from a number. -/
def decodeDecimal : Decoder Numeric.Decimal
  | _, .text s => (Numeric.Decimal.ofText? s).orElse fun _ => Numeric.Decimal.ofScientific? s
  | _, .integer n => Numeric.Decimal.ofInt? n
  | _, .float x => Numeric.Decimal.ofText? (Numeric.plainText x)
  | _, _ => none

/-- Reads a byte. -/
def decodeByte : Decoder UInt8 := fun f d =>
  (Decode.integer 0 255 f d).map fun n => UInt8.ofNat n.toNat

/-- Reads a variant; other entries of its table are passed over. -/
def decodeEnum : Decoder EnumValue := fun f d => do
  let r ← Decode.fields true ["type_name", "variant", "ordinal"] f d
  let type ← r.required "type_name" Decode.text
  let variant ← r.required "variant" Decode.text
  let ordinal ← r.required "ordinal" decodeInt
  some ⟨type, variant, ordinal⟩

/-- Reads a value whose kind has the name, from what stands under the name; lists apart. -/
def ofTagged? (name : String) (d : Datum) : Option Value :=
  match name with
  | "Null" => match d with
    | .null => some null
    | _ => none
  | "Bool" => (Decode.bool .json d).map bool
  | "Int" => (decodeInt .json d).map int
  | "Float" => (decodeFloat .json d).map float
  | "Decimal" => (decodeDecimal .json d).map decimal
  | "Text" => (Decode.text .json d).map text
  | "Guid" => ((Decode.text .json d).bind Guid.ofText?).map guid
  | "DateTime" => ((Decode.text .json d).bind DateTime.ofText?).map datetime
  | "Date" => ((Decode.text .json d).bind Date.ofText?).map date
  | "Time" => ((Decode.text .json d).bind TimeOfDay.ofText?).map time
  | "Bytes" => (Decode.listOf decodeByte .json d).map bytes
  | "Enum" => (decodeEnum .json d).map enum
  | _ => none

mutual

/-- **The value of a tree.** -/
def ofDatum? : Datum → Option Value
  | .text "Null" => some null
  | .table [("List", .list items)] => (ofData? items).map list
  | .table [(name, d)] => ofTagged? name d
  | _ => none

/-- The values of the items of a list. -/
def ofData? : List Datum → Option (List Value)
  | [] => some []
  | d :: ds => do
    let v ← ofDatum? d
    let vs ← ofData? ds
    some (v :: vs)

end

/-- **The value of a JSON text.** -/
def ofJson? (s : String) : Option Value := (Json.read? Json.depthLimit s).bind ofDatum?

end ModelSql.Value
