/-
**Documents as trees of data.**

What a document says, whatever format it is written in: a tree of scalars, lists and tables.  A
table keeps its entries in the order of the document, repeated names included.

Main definitions:

* `Datum` — the trees;
* `Datum.toJson` — the compact JSON text of a tree;
* `Datum.quote` — a text between quotes, escaped.
-/

import ModelSql.Numeric.Shortest

set_option autoImplicit false

namespace ModelSql

/-- The trees.  An `unreadable` one is well-formed, and no reader takes it: a date in a document,
a number out of range. -/
inductive Datum
  | null
  | bool (b : Bool)
  | integer (n : Int)
  | float (f : Float)
  | text (s : String)
  | list (items : List Datum)
  | table (entries : List (String × Datum))
  | unreadable

namespace Datum

instance : Inhabited Datum := ⟨null⟩

/-! ### Writing -/

/-- A character between quotes. -/
def escape (c : Char) : List Char :=
  if c = '"' then ['\\', '"']
  else if c = '\\' then ['\\', '\\']
  else if c = '\n' then ['\\', 'n']
  else if c = '\r' then ['\\', 'r']
  else if c = '\t' then ['\\', 't']
  else if c = '\x08' then ['\\', 'b']
  else if c = '\x0c' then ['\\', 'f']
  else if c.toNat < 32 then
    '\\' :: 'u' :: '0' :: '0' :: Text.hexByte false (UInt8.ofNat c.toNat)
  else [c]

/-- A text between quotes. -/
def quote (s : String) : String := String.ofList ('"' :: s.toList.flatMap escape ++ ['"'])

mutual

/-- The compact JSON text of a tree; a float that is no finite number is null. -/
def toJson : Datum → String
  | null => "null"
  | bool b => if b then "true" else "false"
  | integer n => toString n
  | float f => (Numeric.jsonText f).getD "null"
  | text s => quote s
  | list items => "[" ++ Text.joinWith "," (jsonItems items) ++ "]"
  | table entries => "\x7b" ++ Text.joinWith "," (jsonEntries entries) ++ "\x7d"
  | unreadable => "null"

/-- The texts of the items of a list. -/
def jsonItems : List Datum → List String
  | [] => []
  | d :: ds => d.toJson :: jsonItems ds

/-- The texts of the entries of a table. -/
def jsonEntries : List (String × Datum) → List String
  | [] => []
  | (k, d) :: es => (quote k ++ ":" ++ d.toJson) :: jsonEntries es

end

end Datum

end ModelSql
