/-
**Creating and dropping tables.**

A table is created with its sequences before it and its indexes after it.  A sequence that exists
already is no error where the configuration says so.

Main definitions:

* `Dialect.createStatements` — the statements that create a table, in order;
* `Dialect.runCreate`, `Dialect.runDrop` — **running them in a session**.
-/

import ModelSql.Command.Session
import ModelSql.Dialect.Table

set_option autoImplicit false

namespace ModelSql.Dialect

/-- The statements that create the table of a model: sequences, table, indexes. -/
def createStatements (d : Dialect) (m : Model) : Except Error (List String) :=
  (d.createTable m).map fun sql => d.createSequences m ++ sql :: d.createIndexes m

/-- Runs statements in order, up to the first failure that `tolerates` does not let pass. -/
def runAll (tolerates : Error → Bool) : List String → Session → Except Error Unit × Session
  | [], s => (.ok (), s)
  | sql :: rest, s =>
    let r := s.execute sql
    match r.1 with
    | .ok _ => runAll tolerates rest r.2
    | .error e => if tolerates e then runAll tolerates rest r.2 else (.error e, r.2)

/-- Whether a failure to create a sequence is let pass. -/
def toleratesDuplicate (d : Dialect) (e : Error) : Bool :=
  d.config.duplicates == .ignore && e.isDuplicateObject

/-- **Creates the table of a model**, with its sequences and indexes. -/
def runCreate (d : Dialect) (m : Model) (s : Session) : Except Error Unit × Session :=
  let r := runAll d.toleratesDuplicate (d.createSequences m) s
  match r.1 with
  | .error e => (.error e, r.2)
  | .ok () =>
    match d.createTable m with
    | .error e => (.error e, r.2)
    | .ok sql => runAll (fun _ => false) (sql :: d.createIndexes m) r.2

/-- **Drops the table of a model.** -/
def runDrop (d : Dialect) (m : Model) (s : Session) : Except Error Unit × Session :=
  runAll (fun _ => false) [d.dropTable m] s

end ModelSql.Dialect
