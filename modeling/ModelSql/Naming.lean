/-
**Names of tables and columns.**

A naming rule turns the name of a model or of a field into the name of its table or column.  Any pair of
functions is one; those that settings can ask for leave a name as it is, change its case, or put letters
in front.

Main definitions:

* `Naming` — **naming rules**;
* `NamingKind`, `Naming.ofKind` — the kinds that settings name, and the rule of a kind.
-/

import ModelSql.Text.SnakeCase

set_option autoImplicit false

namespace ModelSql

/-- The kinds of naming rules. -/
inductive NamingKind
  | unchanged | snakeCase | lowerCase | upperCase | prefixed
  deriving DecidableEq, Repr

/-- The names of the kinds, as settings give them. -/
def NamingKind.names : List (String × NamingKind) :=
  [("alias", .unchanged), ("snake_case", .snakeCase), ("lower_case", .lowerCase),
    ("upper_case", .upperCase), ("prefix", .prefixed)]

/-- **A naming rule**: the name of the table of a model, and that of the column of a field. -/
structure Naming where
  tableName (name : String) : String
  columnName (name : String) : String

namespace Naming

/-! ### The rules of settings -/

/-- Names as they are. -/
def unchanged : Naming := ⟨fun name => name, fun name => name⟩

/-- Names in snake case. -/
def snakeCase : Naming := ⟨Text.snakeCase, Text.snakeCase⟩

/-- Names in lower case. -/
def lowerCase : Naming := ⟨Text.lower, Text.lower⟩

/-- Names in upper case. -/
def upperCase : Naming := ⟨Text.upper, Text.upper⟩

/-- Names with fixed letters in front. -/
def prefixed (table column : String) : Naming := ⟨fun name => table ++ name, fun name => column ++ name⟩

/-- The rule of a kind, with the letters that a prefixed one puts in front. -/
def ofKind (kind : NamingKind) (table column : String) : Naming :=
  match kind with
  | .unchanged => unchanged
  | .snakeCase => snakeCase
  | .lowerCase => lowerCase
  | .upperCase => upperCase
  | .prefixed => prefixed table column

@[simp] theorem tableName_unchanged (name : String) : unchanged.tableName name = name := rfl

@[simp] theorem columnName_unchanged (name : String) : unchanged.columnName name = name := rfl

end Naming

end ModelSql
