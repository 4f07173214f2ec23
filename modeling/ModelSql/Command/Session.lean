/-
**Sessions with a database.**

Some statements need a database: the next value of a sequence, the creation of a table.  A session
holds what the database will answer, and the calls that it was sent.  When the answers run out a
statement has touched no row and a query has found null.

Main definitions:

* `Call`, `Session` — calls and sessions;
* `Session.execute`, `Session.query` — **a call and its answer**.
-/

import ModelSql.Error
import ModelSql.Value

set_option autoImplicit false

namespace ModelSql

/-- A call to the database. -/
structure Call where
  isQuery : Bool
  sql : String
  parameters : Nat
  deriving DecidableEq, Repr

/-- The answers to come, and the calls so far, the last one first. -/
structure Session where
  rowCounts : List (Except Error Nat)
  answers : List (Except Error Value)
  calls : List Call

namespace Session

/-- A session that has not been used. -/
def new (rowCounts : List (Except Error Nat)) (answers : List (Except Error Value)) : Session :=
  ⟨rowCounts, answers, []⟩

/-- The calls in order. -/
def log (s : Session) : List Call := s.calls.reverse

/-- Runs a statement without parameters: the number of rows it touched. -/
def execute (s : Session) (sql : String) : Except Error Nat × Session :=
  (s.rowCounts.head?.getD (.ok 0),
    { s with rowCounts := s.rowCounts.tail, calls := ⟨false, sql, 0⟩ :: s.calls })

/-- Runs a query without parameters: the value it found. -/
def query (s : Session) (sql : String) : Except Error Value × Session :=
  (s.answers.head?.getD (.ok .null),
    { s with answers := s.answers.tail, calls := ⟨true, sql, 0⟩ :: s.calls })

@[simp] theorem log_execute (s : Session) (sql : String) :
    (s.execute sql).2.log = s.log ++ [⟨false, sql, 0⟩] := by
  simp [execute, log]

@[simp] theorem log_query (s : Session) (sql : String) :
    (s.query sql).2.log = s.log ++ [⟨true, sql, 0⟩] := by
  simp [query, log]

end Session

end ModelSql
