/-
**Statements of a descriptor.**

Main definitions:

* `Query.selectStatement`, `Query.countStatement`, `Query.existsStatement`,
  `Query.deleteStatement` — statements from the clauses alone;
* `Query.updateStatement`, `Query.insertStatement` — **statements with the values of a row**, whose
  parameters replace those of the statement of that kind before.
-/

import ModelSql.Dialect.RowStatement
import ModelSql.Query

set_option autoImplicit false

namespace ModelSql.Query

/-! ### Clauses -/

/-- A clause on a line of its own, behind its keyword; nothing if it is empty. -/
def line (head text : String) : String := if text.isEmpty then "" else "\n" ++ head ++ text

/-- Filter, grouping and condition on groups. -/
def filterLines (q : Query) : String :=
  line "WHERE " q.filterText ++ line "" q.groupBy ++ line "HAVING " q.having

/-- **The statement that selects rows.** -/
def selectStatement (q : Query) : String :=
  q.select ++ q.filterLines ++ line "" q.orderByText ++ line "" q.pagingText

/-- The statement that counts rows, without order and paging. -/
def countStatement (q : Query) : String := q.selectFrom "COUNT(*)" ++ q.filterLines

/-- The statement that asks whether there is a row. -/
def existsStatement (q : Query) : String := q.dialect.existsRow q.model q.filterText

/-- The statement that deletes rows. -/
def deleteStatement (q : Query) : String :=
  "DELETE FROM " ++ q.dialect.quotedTable q.model ++ whereSuffix q.filterText

/-! ### Statements with values -/

/-- The value of a field: bound if values are, and a literal otherwise. -/
def fieldValue (s : Scope) (f : Field) (v : Value) : Compile String :=
  if s.parameterized && !v.isNull then s.bind (some f.type) v
  else outcome (s.dialect.fieldLiteral f v)

/-- The columns of some fields, each with its value in a row. -/
def fieldValues (s : Scope) (row : Row) : List Field → Compile (List (String × String))
  | [] => return []
  | f :: fs => do
    let text ← fieldValue s f (row.value f.name)
    let rest ← fieldValues s row fs
    return (s.dialect.quotedField f, text) :: rest

/-- Whether a field is among those that a descriptor keeps to; it keeps to all if none are named. -/
def allows (allowed : List String) (f : Field) : Bool :=
  allowed.isEmpty || allowed.any fun name => name == f.name

/-- Whether an update passes over a field. -/
def skips (m : Model) (allowed : List String) (f : Field) : Bool :=
  m.isKeyField f || f.isComputed || f.autoIncrement || !allows allowed f

/-- The fields that an update assigns. -/
def updateFieldsOf (q : Query) : List Field :=
  q.model.fields.filter fun f => !skips q.model q.updateFields f

/-- Whether an insertion names a field. -/
def inserts (allowed : List String) (f : Field) : Bool :=
  !f.isComputed && !f.isGenerated && allows allowed f

/-- The fields of an insertion. -/
def insertFieldsOf (q : Query) : List Field := q.model.fields.filter (inserts q.insertFields)

/-- **The statement that updates rows with the values of a row.** -/
def updateStatement (q : Query) (row : Row) : Except Error String × Query :=
  match q.write .update false (fieldValues q.scope row q.updateFieldsOf) with
  | .error (e, q) => (.error e, q)
  | .ok (columns, q) =>
    if columns.isEmpty then (.error (.nothingToUpdate q.model.name), q)
    else
      (.ok ("UPDATE " ++ q.dialect.quotedTable q.model ++ " SET " ++
        Text.joinWith ", " (columns.map fun c => c.1 ++ " = " ++ c.2) ++
        whereSuffix q.filterText), q)

/-- The source of a selection that has no table. -/
def dualSource (q : Query) : String :=
  match q.dialect.rules.dualTable with
  | some table => " FROM " ++ table
  | none => ""

/-- **The statement that inserts the values of a row unless a row passes the filter.** -/
def insertStatement (q : Query) (row : Row) : Except Error String × Query :=
  match q.write .insert false (fieldValues q.scope row q.insertFieldsOf) with
  | .error (e, q) => (.error e, q)
  | .ok (columns, q) =>
    if columns.isEmpty then (.error (.nothingToInsert q.model.name), q)
    else
      let table := q.dialect.quotedTable q.model
      (.ok ("INSERT INTO " ++ table ++ " (" ++ Text.joinWith "," (columns.map (·.1)) ++
        ") SELECT " ++ Text.joinWith "," (columns.map (·.2)) ++ q.dualSource ++
        " WHERE NOT EXISTS (SELECT 1 FROM " ++ table ++ whereSuffix q.filterText ++ ")"), q)

end ModelSql.Query
