/-
**Kinds of values.**

Main definitions:

* `ValueKind` — the kinds, and `ValueKind.name` their names.
-/

set_option autoImplicit false

namespace ModelSql

/-- The kinds of values that a row holds. -/
inductive ValueKind
  | null | bool | int | float | decimal | text | guid | datetime | date | time | bytes | enum | list
  deriving DecidableEq, Repr

/-- The name of a kind, as messages give it. -/
def ValueKind.name : ValueKind → String
  | null => "null" | bool => "bool" | int => "int" | float => "float" | decimal => "decimal"
  | text => "text" | guid => "guid" | datetime => "datetime" | date => "date" | time => "time"
  | bytes => "bytes" | enum => "enum" | list => "list"

end ModelSql
