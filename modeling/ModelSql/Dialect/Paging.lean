/-
**Paging clauses.**

Main definitions:

* `Dialect.paging` — **the clause that skips rows and bounds their number**.
-/

import ModelSql.Dialect

set_option autoImplicit false

namespace ModelSql.Dialect

/-- The largest row number of 64 bits with a sign, and without. -/
def maxRow : Nat := 9223372036854775807

@[inherit_doc maxRow]
def maxCount : Nat := 18446744073709551615

/-- The first of the rows after a number of skipped ones. -/
def firstRow (skip : Nat) : Nat := min (skip + 1) maxCount

/-- The last of some rows after a number of skipped ones; beyond the largest number there is no
bound. -/
def lastRow (unbounded : String) (skip rows : Nat) : String :=
  if skip + rows ≤ maxRow then toString (skip + rows) else unbounded

/-- **The paging clause** for rows to skip and a number of rows; empty without both.  A clause of
the form `OFFSET … FETCH` needs an order, and takes a void one where there is none. -/
def paging (d : Dialect) (skip rows : Option Nat) (isOrdered : Bool) : String :=
  let unbounded := d.rules.unboundedRows
  match skip, rows with
  | none, none => ""
  | skip, rows =>
    match d.rules.limitStyle with
    | .commaLimit =>
      match skip, rows with
      | none, some r => "LIMIT " ++ toString r
      | some s, some r => "LIMIT " ++ toString s ++ "," ++ toString r
      | some s, none => "LIMIT " ++ toString s ++ "," ++ unbounded
      | none, none => ""
    | .limitOffset =>
      match skip, rows with
      | none, some r => "LIMIT " ++ toString r
      | some s, some r => "LIMIT " ++ toString r ++ " OFFSET " ++ toString s
      | some s, none => "OFFSET " ++ toString s
      | none, none => ""
    | .offsetFetch =>
      (if isOrdered then "" else "ORDER BY (SELECT NULL) ") ++ "OFFSET " ++
        toString (skip.getD 0) ++ " ROWS" ++
        (match rows with
          | some r => " FETCH NEXT " ++ toString r ++ " ROWS ONLY"
          | none => "")
    | .rows =>
      match skip, rows with
      | none, some r => "ROWS " ++ toString r
      | some s, some r =>
        "ROWS " ++ toString (firstRow s) ++ " TO " ++ lastRow unbounded s r
      | some s, none => "ROWS " ++ toString (firstRow s) ++ " TO " ++ unbounded
      | none, none => ""

end ModelSql.Dialect
