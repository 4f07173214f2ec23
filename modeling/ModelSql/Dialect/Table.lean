/-
**Statements about tables.**

Main definitions:

* `Dialect.createTable`, `Dialect.dropTable` — **creating and dropping a table**;
* `Dialect.indexName`, `Dialect.createIndexes` — its indexes;
* `Dialect.addColumn`, `Dialect.alterColumn`, `Dialect.renameColumn` — changes of columns.
-/

import ModelSql.Dialect.Column
import ModelSql.Text.Casing

set_option autoImplicit false

namespace ModelSql.Dialect

/-! ### Tables -/

/-- The definitions of the columns of some fields. -/
def columnDefinitions (d : Dialect) : List Field → Except Error (List String)
  | [] => .ok []
  | f :: fs =>
    match d.columnDefinition f with
    | .error e => .error e
    | .ok s => (columnDefinitions d fs).map (s :: ·)

/-- The name of the constraint of a reference. -/
def constraintName (d : Dialect) (m : Model) (f : Field) (k : ForeignKey) : String :=
  k.name.getD
    (d.rules.clamp ("FK_" ++ d.tableName m ++ "_" ++ d.tableFor k.table ++ "_" ++
      d.columnName f.column))

/-- The words for an optional action. -/
def actionSuffix (head : String) (action : Option ReferentialAction) : String :=
  match action with
  | some a => head ++ a.sql
  | none => ""

/-- The constraint of the reference of a field. -/
def foreignKey (d : Dialect) (m : Model) (f : Field) (k : ForeignKey) : String :=
  "CONSTRAINT " ++ d.quoteName (d.constraintName m f k) ++ " FOREIGN KEY (" ++ d.quotedField f ++
    ") REFERENCES " ++ d.qualified k.schema (d.tableFor k.table) ++ " (" ++
    d.quotedColumn k.column ++ ")" ++ actionSuffix " ON DELETE " k.onDelete ++
    actionSuffix " ON UPDATE " k.onUpdate

/-- The constraints of a model: its composite key, and the references of its fields. -/
def constraints (d : Dialect) (m : Model) : List String :=
  (if m.compositeKey.isEmpty then []
    else ["PRIMARY KEY (" ++ Text.joinWith ", " (m.primaryKeys.map d.quotedField) ++ ")"]) ++
    m.fields.filterMap fun f => f.foreignKey.map (d.foreignKey m f)

/-- **The statement that creates the table of a model.** -/
def createTable (d : Dialect) (m : Model) : Except Error String :=
  (d.columnDefinitions m.fields).map fun columns =>
    let constraints := d.constraints m
    "CREATE TABLE " ++ d.quotedTable m ++ " \n(\n  " ++ Text.joinWith ",\n  " columns ++
      (if constraints.isEmpty then "" else ",\n\n  " ++ Text.joinWith ",\n  " constraints) ++
      "\n);"

/-- The statement that drops the table of a model. -/
def dropTable (d : Dialect) (m : Model) : String := "DROP TABLE " ++ d.quotedTable m ++ ";"

/-! ### Indexes -/

/-- The name of an index that has none of its own: table and columns in lower case. -/
def indexName (d : Dialect) (m : Model) (isUnique : Bool) (columns : List String) : String :=
  d.rules.clamp (Text.lower ((if isUnique then "u" else "") ++ "idx_" ++ d.tableName m ++ "_" ++
    Text.joinWith "_" columns))

/-- The statement that creates an index; `columns` are names with their directions. -/
def createIndex (d : Dialect) (m : Model) (isUnique : Bool) (name : String)
    (columns : List (String × Bool)) : String :=
  "CREATE " ++ (if isUnique then "UNIQUE " else "") ++ "INDEX " ++ d.quoteName name ++ " ON " ++
    d.quotedTable m ++ " (" ++
    Text.joinWith ", " (columns.map fun c => d.quoteName c.1 ++ if c.2 then " DESC" else " ASC") ++
    ");"

/-- The statement for the index of a field; a key field has its index already. -/
def fieldIndex? (d : Dialect) (m : Model) (f : Field) : Option String :=
  if !f.isIndexed || m.isKeyField f then none
  else
    let column := d.columnName f.column
    some (d.createIndex m f.isUnique (d.indexName m f.isUnique [column]) [(column, false)])

/-- The names and directions of the columns of an index. -/
def indexColumns (d : Dialect) (m : Model) (i : Index) : List (String × Bool) :=
  i.columns.map fun c => (d.columnName (((m.field? c.1).map Field.column).getD c.1), c.2)

/-- The statement for a composite index. -/
def compositeIndex (d : Dialect) (m : Model) (i : Index) : String :=
  let columns := d.indexColumns m i
  d.createIndex m i.isUnique (i.name.getD (d.indexName m i.isUnique (columns.map (·.1)))) columns

/-- **The statements for the indexes of a model**: first those of fields, then composite ones. -/
def createIndexes (d : Dialect) (m : Model) : List String :=
  m.fields.filterMap (d.fieldIndex? m) ++ m.indexes.map (d.compositeIndex m)

/-! ### Columns -/

/-- The statement that adds the column of a field. -/
def addColumn (d : Dialect) (m : Model) (f : Field) : Except Error String :=
  (d.columnDefinition f).map fun sql =>
    "ALTER TABLE " ++ d.quotedTable m ++
      (match d.kind with
        | .firebird | .sqlserver => " ADD "
        | _ => " ADD COLUMN ") ++ sql ++ ";"

/-- The statement that changes the type of the column of a field; SQLite has none. -/
def alterColumn (d : Dialect) (m : Model) (f : Field) : Except Error String :=
  let head := "ALTER TABLE " ++ d.quotedTable m
  let column := d.quotedField f
  match d.kind with
  | .firebird =>
    (d.columnType f).map fun type => head ++ " ALTER COLUMN " ++ column ++ " TYPE " ++ type ++ ";"
  | .mysql => (d.columnDefinition f).map fun sql => head ++ " MODIFY COLUMN " ++ sql ++ ";"
  | .postgres =>
    (d.standardType f).map fun type =>
      head ++ " ALTER COLUMN " ++ column ++ " TYPE " ++ type ++ ", ALTER COLUMN " ++ column ++
        (if f.isNullable then " DROP" else " SET") ++ " NOT NULL;"
  | .sqlserver =>
    (d.columnType f).map fun type =>
      head ++ " ALTER COLUMN " ++ column ++ " " ++ type ++
        (if f.isNullable then " NULL;" else " NOT NULL;")
  | .sqlite => .error (.noAlterColumn f.column m.table)

/-- The table of a model as it is written for `sp_rename`, without quotes. -/
def plainTable (d : Dialect) (m : Model) : String :=
  match m.schema with
  | some s => s ++ "." ++ d.tableName m
  | none => d.tableName m

/-- The statement that gives the column of a field its name, which was another. -/
def renameColumn (d : Dialect) (m : Model) (f : Field) (old : String) : Except Error String :=
  let head := "ALTER TABLE " ++ d.quotedTable m
  let from_ := d.quotedColumn old
  let to_ := d.quotedField f
  match d.kind with
  | .firebird => .ok (head ++ " ALTER COLUMN " ++ from_ ++ " TO " ++ to_ ++ ";")
  | .mysql =>
    (d.columnDefinition f).map fun sql => head ++ " CHANGE COLUMN " ++ from_ ++ " " ++ sql ++ ";"
  | .postgres | .sqlite => .ok (head ++ " RENAME COLUMN " ++ from_ ++ " TO " ++ to_ ++ ";")
  | .sqlserver =>
    .ok ("EXEC sp_rename " ++ Literal.quoteText (d.plainTable m ++ "." ++ d.columnName old) ++
      ", " ++ Literal.quoteText (d.columnName f.column) ++ ", 'COLUMN';")

end ModelSql.Dialect
