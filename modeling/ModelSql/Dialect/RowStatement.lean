/-
**Statements about single rows.**

Inserting, changing and deleting the row that a record holds, and calling procedures with the
fields of a row as arguments.

Main definitions:

* `selects` — whether a list of allowed fields, if there is one, has a field;
* `Insertion`, `Dialect.insertRow` — **inserting a row**, the next values of sequences fetched,
  written back into the row, and the last one remembered;
* `Dialect.rowFilter`, `Dialect.updateRow`, `Dialect.deleteRow` — finding, changing and deleting a
  row;
* `Dialect.existsRow`, `Dialect.selectProcedure`, `Dialect.callProcedure` — queries;
* `Dialect.lastInsertId` — the key of the row inserted last.
-/

import ModelSql.Command.Session
import ModelSql.Dialect.Sequence
import ModelSql.Model.Row
import ModelSql.Value.Arithmetic

set_option autoImplicit false

namespace ModelSql

/-- Whether a field is allowed; an empty list allows all. -/
def selects (allowed : List String) (f : Field) : Bool :=
  allowed.isEmpty || allowed.contains f.name

/-- What an insertion works on: the row, the session if there is one, and the value that was drawn
last from a sequence. -/
structure Insertion where
  row : Row
  session : Option Session
  last : Option Int64

namespace Dialect

/-! ### Inserting -/

/-- Draws the next value of a sequence for a field and writes it back into the row. -/
def drawNext (d : Dialect) (s : Session) (sequence : String) (f : Field) (i : Insertion) :
    Except Error Value × Insertion :=
  match d.nextValue sequence with
  | .error e => (.error e, i)
  | .ok sql =>
    let answer := s.query sql
    let i := { i with session := some answer.2 }
    match answer.1 with
    | .error e => (.error e, i)
    | .ok v =>
      match v.toInt? with
      | none => (.error (.sequenceAnswer sequence v.kind), i)
      | some n =>
        match i.row.write f.name (.int n) with
        | .error e => (.error e, i)
        | .ok row => (.ok (.int n), { i with row, last := some n })

/-- The value that an insertion gives a field; none for a field that is left to the database. -/
def insertValue (d : Dialect) (m : Model) (allowed : List String) (f : Field) (i : Insertion) :
    Except Error (Option Value) × Insertion :=
  if f.isComputed || !selects allowed f then (.ok none, i)
  else if f.isGenerated then
    match d.sequence? m f, i.session with
    | some sequence, some s =>
      let r := d.drawNext s sequence f i
      (r.1.map some, r.2)
    | _, _ => (.ok none, i)
  else (.ok (some (i.row.value f.name)), i)

/-- The columns of an insertion, each with its literal. -/
def insertColumns (d : Dialect) (m : Model) (allowed : List String) :
    List Field → Insertion → Except Error (List (String × String)) × Insertion
  | [], i => (.ok [], i)
  | f :: fs, i =>
    let r := d.insertValue m allowed f i
    match r.1 with
    | .error e => (.error e, r.2)
    | .ok none => insertColumns d m allowed fs r.2
    | .ok (some v) =>
      match d.fieldLiteral f v with
      | .error e => (.error e, r.2)
      | .ok sql =>
        let rest := insertColumns d m allowed fs r.2
        (rest.1.map ((d.quotedField f, sql) :: ·), rest.2)

/-- The statement that inserts a row of defaults into a table. -/
def insertDefaults (d : Dialect) (table : String) : String :=
  match d.kind with
  | .mysql => "INSERT INTO " ++ table ++ " () VALUES ()"
  | _ => "INSERT INTO " ++ table ++ " DEFAULT VALUES"

/-- The statement that inserts the given columns. -/
def insertText (d : Dialect) (m : Model) (columns : List (String × String)) : String :=
  let table := d.quotedTable m
  if columns.isEmpty then d.insertDefaults table
  else
    "INSERT INTO " ++ table ++ " (" ++ Text.joinWith "," (columns.map (·.1)) ++ ") VALUES (" ++
      Text.joinWith "," (columns.map (·.2)) ++ ")"

/-- **The statement that inserts a row.**  Computed fields are left out, and generated ones unless
there is a session to draw their next values with. -/
def insertRow (d : Dialect) (m : Model) (allowed : List String) (i : Insertion) :
    Except Error String × Insertion :=
  let r := d.insertColumns m allowed m.fields i
  (r.1.map (d.insertText m), r.2)

/-- The key of the row inserted last.  Where there is no query for it, it is the value drawn last
from a generator. -/
def lastInsertId (d : Dialect) (s : Session) (last : Option Int64) :
    Except Error Int64 × Session :=
  match d.kind with
  | .firebird =>
    match last with
    | some n => (.ok n, s)
    | none => (.error .noGeneratedValue, s)
  | _ =>
    match d.rules.lastInsertId with
    | none => (.error (.noLastInsertId d.rules.name), s)
    | some sql =>
      let r := s.query sql
      match r.1 with
      | .error e => (.error e, r.2)
      | .ok v =>
        match v.toInt? with
        | some n => (.ok n, r.2)
        | none => (.error (.queryAnswer sql v.kind), r.2)

/-! ### Finding, changing, deleting -/

/-- The fields that find a row: the key, or every stored field of a model without a key. -/
def filterFields (m : Model) : List Field :=
  if m.primaryKeys.isEmpty then m.fields.filter (!·.isComputed) else m.primaryKeys

/-- The condition that a field has its value in the row. -/
def fieldCondition (d : Dialect) (row : Row) (f : Field) : Except Error String :=
  let v := row.value f.name
  if v.isNull then .ok (d.quotedField f ++ " IS NULL")
  else (d.fieldLiteral f v).map fun sql => d.quotedField f ++ " = " ++ sql

/-- The conditions of some fields. -/
def fieldConditions (d : Dialect) (row : Row) : List Field → Except Error (List String)
  | [] => .ok []
  | f :: fs =>
    match d.fieldCondition row f with
    | .error e => .error e
    | .ok s => (fieldConditions d row fs).map (s :: ·)

/-- The condition that finds a row. -/
def rowFilter (d : Dialect) (m : Model) (row : Row) : Except Error String :=
  (d.fieldConditions row (filterFields m)).map (Text.joinWith " AND ")

/-- Whether an update sets a field. -/
def updates (m : Model) (allowed : List String) (f : Field) : Bool :=
  !m.isKeyField f && !f.isComputed && !f.autoIncrement && selects allowed f

/-- The assignments of some fields. -/
def assignments (d : Dialect) (row : Row) : List Field → Except Error (List String)
  | [] => .ok []
  | f :: fs =>
    match d.fieldLiteral f (row.value f.name) with
    | .error e => .error e
    | .ok sql => (assignments d row fs).map ((d.quotedField f ++ " = " ++ sql) :: ·)

/-- **The statement that changes a row**; it sets neither key nor computed nor numbered fields. -/
def updateRow (d : Dialect) (m : Model) (row : Row) (allowed : List String) :
    Except Error String :=
  if m.primaryKeys.isEmpty then .error (.noKey m.name)
  else
    match d.assignments row (m.fields.filter (updates m allowed)) with
    | .error e => .error e
    | .ok sets =>
      if sets.isEmpty then .error (.nothingToUpdate m.name)
      else
        (d.rowFilter m row).map fun condition =>
          "UPDATE " ++ d.quotedTable m ++ " SET " ++ Text.joinWith ", " sets ++ " WHERE " ++
            condition

/-- **The statement that deletes a row.** -/
def deleteRow (d : Dialect) (m : Model) (row : Row) : Except Error String :=
  (d.rowFilter m row).map fun condition =>
    "DELETE FROM " ++ d.quotedTable m ++ " WHERE " ++ condition

/-! ### Queries -/

/-- The query whether a row satisfies a filter. -/
def existsRow (d : Dialect) (m : Model) (filter : String) : String :=
  let inner := "EXISTS(SELECT 1 FROM " ++ d.quotedTable m ++ whereSuffix filter ++ ")"
  match d.kind with
  | .firebird => "SELECT 1 FROM RDB$DATABASE WHERE " ++ inner
  | .sqlserver => "SELECT CASE WHEN " ++ inner ++ " THEN 1 ELSE 0 END"
  | _ => "SELECT " ++ inner

/-- The literals of the fields of a row. -/
def fieldLiterals (d : Dialect) (row : Row) : List Field → Except Error (List String)
  | [] => .ok []
  | f :: fs =>
    match d.fieldLiteral f (row.value f.name) with
    | .error e => .error e
    | .ok sql => (fieldLiterals d row fs).map (sql :: ·)

/-- The arguments of a procedure: its fields in order, computed ones left out. -/
def procedureArguments (d : Dialect) (procedure : Model) (row : Row) : Except Error (List String) :=
  d.fieldLiterals row (procedure.fields.filter (!·.isComputed))

/-- The query over the rows that a procedure yields. -/
def selectProcedure (d : Dialect) (procedure : Model) (row : Row) (output : Model)
    (filter : String) : Except Error String :=
  match d.kind with
  | .firebird | .postgres | .sqlserver =>
    (d.procedureArguments procedure row).map fun arguments =>
      "SELECT " ++ Text.joinWith ", " (output.fields.map d.quotedField) ++ " FROM " ++
        d.quotedTable procedure ++ "(" ++ Text.joinWith ", " arguments ++ ")" ++ whereSuffix filter
  | _ => .error (.noProcedureSelect d.rules.name procedure.table)

/-- The statement that calls a procedure. -/
def callProcedure (d : Dialect) (procedure : Model) (row : Row) : Except Error String :=
  let name := d.quotedTable procedure
  let call := fun (f : List String → String) => (d.procedureArguments procedure row).map f
  match d.kind with
  | .firebird => call fun arguments =>
    "EXECUTE PROCEDURE " ++ name ++
      if arguments.isEmpty then "" else "(" ++ Text.joinWith ", " arguments ++ ")"
  | .mysql | .postgres => call fun arguments =>
    "CALL " ++ name ++ "(" ++ Text.joinWith ", " arguments ++ ")"
  | .sqlserver => call fun arguments =>
    "EXEC " ++ name ++ if arguments.isEmpty then "" else " " ++ Text.joinWith ", " arguments
  | .sqlite => .error (.noProcedureCall d.rules.name procedure.table)

end Dialect

end ModelSql
