/-
**Rows.**

A record holds values under the names of fields.  A row is a record that statements read and that
generated values are written back into; a read-only row refuses them.

Main definitions:

* `Record`, `Record.get?`, `Record.value`, `Record.set`, `Record.write` — records;
* `Row`, `Row.value`, `Row.write` — rows.
-/

import ModelSql.Error
import ModelSql.Value

set_option autoImplicit false

namespace ModelSql

/-! ### Records -/

/-- Values under names, each name once. -/
structure Record where
  entries : List (String × Value)

namespace Record

/-- The record without entries. -/
def empty : Record := ⟨[]⟩

instance : Inhabited Record := ⟨empty⟩

/-- The value under a name, if there is one. -/
def get? (r : Record) (name : String) : Option Value := r.entries.lookup name

/-- The value under a name; null when there is none. -/
def value (r : Record) (name : String) : Value := (r.get? name).getD .null

/-- Puts a value under a name, in the place of an older one. -/
def put (name : String) (v : Value) : List (String × Value) → List (String × Value)
  | [] => [(name, v)]
  | e :: es => if e.1 = name then (name, v) :: es else e :: put name v es

/-- The record with a value under a name. -/
def set (r : Record) (name : String) (v : Value) : Record := ⟨put name v r.entries⟩

/-- The record with a value under a name, which must not be empty. -/
def write (r : Record) (name : String) (v : Value) : Except Error Record :=
  if name.isEmpty then .error .emptyRowField else .ok (r.set name v)

theorem lookup_put (name other : String) (v : Value) (es : List (String × Value)) :
    (put name v es).lookup other = if other = name then some v else es.lookup other := by
  induction es with
  | nil => grind [put]
  | cons e es ih =>
    obtain ⟨k, w⟩ := e
    grind [put]

/-- A record answers with what was written last. -/
@[simp] theorem get?_set (r : Record) (name other : String) (v : Value) :
    (r.set name v).get? other = if other = name then some v else r.get? other := by
  simp [get?, set, lookup_put]

end Record

/-! ### Rows -/

/-- A record, and whether values may be written back into it. -/
structure Row where
  record : Record
  readOnly : Bool

namespace Row

/-- The row of a record. -/
def ofRecord (r : Record) : Row := ⟨r, false⟩

/-- The value of a field; null when there is none. -/
def value (r : Row) (field : String) : Value := r.record.value field

/-- Writes a value back into a field. -/
def write (r : Row) (field : String) (v : Value) : Except Error Row :=
  if r.readOnly then .error (.readOnlyField field)
  else (r.record.write field v).map fun record => { r with record }

end Row

end ModelSql
