/-
**Dialects and the names they write.**

A dialect is a database with a configuration.  It turns the names of models and fields into the
names of tables and columns, and quotes them where it has to.

Main definitions:

* `Dialect`, `DialectKind.dialect` — a database with a configuration;
* `Dialect.escapeName`, `Dialect.quoteName` — **quoted names**;
* `Dialect.tableName`, `Dialect.quotedTable`, `Dialect.columnName`, `Dialect.quotedColumn` — the
  names of tables and columns;
* `Dialect.placeholder` — the placeholder of a parameter;
* `whereSuffix` — a condition behind a statement.
-/

import ModelSql.Dialect.Config
import ModelSql.Dialect.Rules
import ModelSql.Model

set_option autoImplicit false

namespace ModelSql

/-- A database with a configuration. -/
structure Dialect where
  kind : DialectKind
  config : DialectConfig

/-- A database with the configuration that it starts with. -/
def DialectKind.dialect (k : DialectKind) : Dialect := ⟨k, k.defaultConfig⟩

namespace Dialect

/-- The data of the database. -/
def rules (d : Dialect) : DialectRules := d.kind.rules

/-! ### Quotes -/

/-- The characters with every closing quote doubled. -/
def doubleQuotes (close : Char) : List Char → List Char
  | [] => []
  | c :: cs => if c = close then close :: c :: doubleQuotes close cs else c :: doubleQuotes close cs

/-- A name between quotes. -/
def escapeName (d : Dialect) (name : String) : String :=
  String.ofList
    (d.rules.openQuote :: doubleQuotes d.rules.closeQuote name.toList ++ [d.rules.closeQuote])

/-- Whether a name has to be quoted. -/
def needsQuotes (d : Dialect) (name : String) : Bool :=
  d.config.quote == .always || !Text.isPlainName name.toList || d.rules.isReserved name

/-- A name, between quotes if it has to be. -/
def quoteName (d : Dialect) (name : String) : String :=
  if d.needsQuotes name then d.escapeName name else name

/-! ### Tables and columns -/

/-- The name of the table of a model, by its own name. -/
def tableFor (d : Dialect) (name : String) : String := d.config.naming.tableName name

/-- The name of the table of a model. -/
def tableName (d : Dialect) (m : Model) : String := d.tableFor m.table

/-- A quoted name behind its schema, if there is one. -/
def qualified (d : Dialect) (schema : Option String) (name : String) : String :=
  match schema with
  | some s => d.quoteName s ++ "." ++ d.quoteName name
  | none => d.quoteName name

/-- The quoted name of the table of a model, behind its schema. -/
def quotedTable (d : Dialect) (m : Model) : String := d.qualified m.schema (d.tableName m)

/-- The name of a column. -/
def columnName (d : Dialect) (column : String) : String := d.config.naming.columnName column

/-- The quoted name of a column. -/
def quotedColumn (d : Dialect) (column : String) : String := d.quoteName (d.columnName column)

/-- The quoted name of the column of a field. -/
def quotedField (d : Dialect) (f : Field) : String := d.quotedColumn f.column

/-- The placeholder of the parameter with a number. -/
def placeholder (d : Dialect) (n : Nat) : String := d.rules.parameterMark ++ toString n

end Dialect

/-- The suffix of a statement that keeps to the rows of a filter; a blank filter has none. -/
def whereSuffix (filter : String) : String :=
  if Text.isAllBlank filter then "" else " WHERE " ++ Text.trim filter

end ModelSql
