/-
**Scripts.**

A script creates everything that some models need: for each model, in order, its sequences, its
table and its indexes.

Main definitions:

* `script` — **the script of some models in a dialect**.
-/

import ModelSql.CommandLine.Arguments
import ModelSql.Dialect.Sequence
import ModelSql.Dialect.Table

set_option autoImplicit false

namespace ModelSql.CommandLine

/-- The statements of a model, after an empty line. -/
def modelScript (d : Dialect) (m : Model) : Except Failure String :=
  match d.createTable m with
  | .error e => .error (.badModel m.table e)
  | .ok table => .ok ("\n" ++ lines (d.createSequences m ++ table :: d.createIndexes m))

/-- The statements of some models. -/
def modelScripts (d : Dialect) : List Model → Except Failure String
  | [] => .ok ""
  | m :: ms =>
    match modelScript d m with
    | .error e => .error e
    | .ok s => (modelScripts d ms).map (s ++ ·)

/-- **The script of some models in a dialect.** -/
def script (d : Dialect) (ms : List Model) : Except Failure String :=
  (modelScripts d ms).map ("-- polyorm DDL for " ++ d.rules.name ++ "\n" ++ ·)

end ModelSql.CommandLine
