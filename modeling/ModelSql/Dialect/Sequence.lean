/-
**Sequences and generators.**

A field draws its values from a sequence when it names one, or when the database makes generated
keys by generators; the generator of a field is named after its table and column.

Main definitions:

* `Dialect.isIdentity` — whether the database numbers a field by itself;
* `Dialect.generatorName`, `Dialect.sequence?`, `Dialect.sequences` — the sequences of a model;
* `Dialect.createSequences`, `Dialect.sequenceDefault?`, `Dialect.nextValue` — **statements**.
-/

import ModelSql.Dialect.Literal

set_option autoImplicit false

namespace ModelSql.Dialect

/-- Whether the database numbers a field by itself; a field with a sequence only where there are no
sequences. -/
def isIdentity (d : Dialect) (f : Field) : Bool :=
  if f.sequence.isSome then !d.rules.hasSequences else f.autoIncrement

/-- The name of the generator of a field. -/
def generatorName (d : Dialect) (m : Model) (f : Field) : String :=
  d.rules.clamp (d.tableName m ++ "_" ++ d.columnName f.column ++ "_GEN")

/-- The sequence that a field draws from. -/
def sequence? (d : Dialect) (m : Model) (f : Field) : Option String :=
  match f.sequence with
  | some s => if d.rules.hasSequences then some s else none
  | none =>
    if f.autoIncrement && d.rules.identity == .generator then some (d.generatorName m f) else none

/-- The names of a list, each once, in the order in which they come first. -/
def firstOnes (seen : List String) : List String → List String
  | [] => []
  | n :: ns => if seen.contains n then firstOnes seen ns else n :: firstOnes (n :: seen) ns

/-- The sequences of a model, each once. -/
def sequences (d : Dialect) (m : Model) : List String :=
  firstOnes [] (m.fields.filterMap (d.sequence? m))

/-- The statement that creates a sequence. -/
def createSequence (d : Dialect) (name : String) : String :=
  match d.kind with
  | .firebird => "CREATE GENERATOR " ++ d.quoteName name ++ ";"
  | .sqlserver =>
    "CREATE SEQUENCE " ++ d.quoteName name ++ " AS BIGINT START WITH 1 INCREMENT BY 1;"
  | _ => "CREATE SEQUENCE " ++ d.quoteName name ++ ";"

/-- The statements that create the sequences of a model. -/
def createSequences (d : Dialect) (m : Model) : List String :=
  (d.sequences m).map d.createSequence

/-- The default of a column that draws from a sequence. -/
def sequenceDefault? (d : Dialect) (name : String) : Option String :=
  match d.kind with
  | .postgres => some ("nextval(" ++ Literal.quoteText (d.quoteName name) ++ ")")
  | .sqlserver => some ("NEXT VALUE FOR " ++ d.quoteName name)
  | _ => none

/-- The query for the next value of a sequence. -/
def nextValue (d : Dialect) (name : String) : Except Error String :=
  match d.kind with
  | .firebird => .ok ("SELECT GEN_ID(" ++ d.quoteName name ++ ", 1) FROM RDB$DATABASE")
  | .postgres => .ok ("SELECT nextval(" ++ Literal.quoteText (d.quoteName name) ++ ")")
  | .sqlserver => .ok ("SELECT NEXT VALUE FOR " ++ d.quoteName name)
  | _ => .error (.noSequences d.rules.name name)

end ModelSql.Dialect
