/-
**Query descriptors.**

A descriptor gathers the clauses of statements about one model.  Every clause is written at once
and replaces or extends what it held; the parameters of what it replaces are dropped with it.  An
operation that fails drops the parameters that it has bound, and writes nothing else.

Main definitions:

* `Clause` — the clauses that own parameters;
* `Query`, `Query.new` — **the descriptor**;
* `Query.Attempt` — what an operation that may fail leads to;
* `Query.write` — writing a clause, with the parameters that come and go;
* `Query.setSelect`, `Query.filter`, `Query.groupByExpr`, `Query.setHaving`, `Query.setOrder`, … —
  the operations on each clause;
* `Query.orderByText`, `Query.pagingText` — the clauses that are put together when asked for.
-/

import ModelSql.Dialect.Paging
import ModelSql.Query.Compile
import ModelSql.Query.Raw

set_option autoImplicit false

namespace ModelSql

/-- The clauses that own parameters. -/
inductive Clause
  | select | filter | groupBy | having | orderBy | update | insert
  deriving DecidableEq, Repr

/-- The clauses of statements about one model. -/
structure Query where
  dialect : Dialect
  model : Model
  select : String
  customSelect : Bool
  distinct : Bool
  predicate : Option Expr
  filterText : String
  groupBy : String
  having : String
  orderKeys : List String
  skip : Option UInt64
  rows : Option UInt64
  updateFields : List String
  insertFields : List String
  parameters : Parameters
  owned : Clause → List String
  counter : Nat
  parameterized : Bool
  qualified : Bool

namespace Query

/-! ### Construction -/

/-- What the clauses are written for. -/
def scope (q : Query) : Scope := ⟨q.dialect, q.model, q.parameterized, q.qualified⟩

/-- A list of columns from the table of the model. -/
def selectFrom (q : Query) (list : String) : String :=
  "SELECT " ++ list ++ " \nFROM " ++ q.dialect.quotedTable q.model

/-- The selection of every column. -/
def defaultSelect (q : Query) : String :=
  q.selectFrom (Text.joinWith ", " (q.model.fields.map q.scope.column))

/-- The descriptor that selects every column of every row. -/
def new (d : Dialect) (m : Model) : Query :=
  let q : Query :=
    { dialect := d
      model := m
      select := ""
      customSelect := false
      distinct := false
      predicate := none
      filterText := ""
      groupBy := ""
      having := ""
      orderKeys := []
      skip := none
      rows := none
      updateFields := []
      insertFields := []
      parameters := .empty
      owned := fun _ => []
      counter := 0
      parameterized := d.config.parameterized
      qualified := false }
  { q with select := q.defaultSelect }

/-! ### Parameters of clauses -/

/-- The names with those of one clause replaced. -/
def own (owned : Clause → List String) (c : Clause) (names : List String) : Clause → List String :=
  fun k => if k = c then names else owned k

@[simp] theorem own_self (owned : Clause → List String) (c : Clause) (names : List String) :
    own owned c names c = names := by simp [own]

theorem own_of_ne {owned : Clause → List String} {c k : Clause} {names : List String}
    (h : k ≠ c) : own owned c names k = owned k := by simp [own, h]

/-- Drops the parameters of a clause. -/
def clear (q : Query) (c : Clause) : Query :=
  { q with
    parameters := q.parameters.removeAll (q.owned c)
    owned := own q.owned c [] }

/-- The outcome of an operation that may fail: a result, or an error with the descriptor that is left
behind. -/
abbrev Attempt (α : Type) := Except (Error × Query) α

/-- The outcome of a computation that has nothing to do with the descriptor. -/
def attempt {α : Type} (q : Query) (r : Except Error α) : Attempt α := r.mapError (·, q)

/-- **Writes a clause**: runs a step from the parameters so far.  The names it adds belong to the
clause from then on, and those that the clause owned before are dropped unless it is extended.  If the
step fails, the parameters that it has added are dropped and their numbers are free again. -/
def write {α : Type} (q : Query) (c : Clause) (extend : Bool) (step : Compile α) :
    Attempt (α × Query) :=
  match step ⟨q.parameters, q.counter⟩ with
  | .error failed =>
    let b := failed.bindings.rollBack q.parameters.size q.counter
    .error (failed.error, { q with parameters := b.parameters, counter := b.counter })
  | .ok (result, b) =>
    let added := b.parameters.namesFrom q.parameters.size
    let kept := if extend then q.owned c else []
    let dropped := if extend then [] else q.owned c
    .ok (result,
      { q with
        parameters := b.parameters.removeAll dropped
        owned := own q.owned c (kept ++ added)
        counter := b.counter })

/-! ### Projection -/

/-- Selects an expression, with equal rows once if `distinct`. -/
def setSelect (q : Query) (distinct : Bool) (e : Expr) : Attempt Query :=
  (q.write .select false (q.scope.projection e)).map fun r =>
    { r.2 with
      select := q.selectFrom ((if distinct then "DISTINCT " else "") ++ r.1)
      customSelect := true
      distinct }

/-- Selects a raw list, or every column if it is blank. -/
def selectRaw (q : Query) (list : String) : Query :=
  let head := String.ofList ((Text.trimStart list).toList.take 9)
  { q.clear .select with
    select := if Text.isAllBlank list then q.defaultSelect else q.selectFrom (Text.trim list)
    customSelect := !Text.isAllBlank list
    distinct := Text.equalsIgnoringCase head "DISTINCT " }

/-! ### Filter -/

/-- Replaces the filter. -/
def filter (q : Query) (e : Expr) : Attempt Query :=
  (q.write .filter false (q.scope.predicate e)).map fun r =>
    { r.2 with predicate := some e, filterText := r.1 }

/-- Removes the filter. -/
def clearFilter (q : Query) : Query :=
  { q.clear .filter with predicate := none, filterText := "" }

/-- The filter joined with another condition; a raw filter is replaced. -/
def combined (q : Query) (op : BinaryOp) (e : Expr) : Expr :=
  match q.predicate with
  | some p => .binary op p e
  | none => e

/-- Adds a condition that has to hold too. -/
def andFilter (q : Query) (e : Expr) : Attempt Query := q.filter (q.combined .and e)

/-- Adds a condition that may hold instead. -/
def orFilter (q : Query) (e : Expr) : Attempt Query := q.filter (q.combined .or e)

/-- Replaces the filter by raw text. -/
def filterRaw (q : Query) (sql : String) (args : List Value) : Attempt Query :=
  (q.write .filter false (q.scope.raw sql args)).map fun r =>
    { r.2 with predicate := none, filterText := r.1 }

/-! ### Grouping -/

/-- Groups by an expression. -/
def setGroupBy (q : Query) (e : Expr) : Attempt Query :=
  (q.write .groupBy false (q.scope.projection e)).map fun r =>
    { r.2 with groupBy := "GROUP BY " ++ r.1 }

/-- Groups by raw text; a blank one groups by nothing. -/
def groupByRaw (q : Query) (sql : String) : Query :=
  { q.clear .groupBy with
    groupBy := if Text.isAllBlank sql then "" else "GROUP BY " ++ Text.trim sql }

/-- Keeps the groups that satisfy a condition. -/
def setHaving (q : Query) (e : Expr) : Attempt Query :=
  (q.write .having false (q.scope.predicate e)).map fun r => { r.2 with having := r.1 }

/-- Keeps the groups that satisfy raw text. -/
def havingRaw (q : Query) (sql : String) (args : List Value) : Attempt Query :=
  (q.write .having false (q.scope.raw sql args)).map fun r => { r.2 with having := r.1 }

/-! ### Ordering -/

/-- The sort keys of expressions; one that is marked as descending has its direction already. -/
def sortKeys (s : Scope) (direction : String) : List Expr → Compile (List String)
  | [] => return []
  | e :: es => do
    let text ← s.projection e
    let rest ← sortKeys s direction es
    return (if e.isDesc then text else text ++ " " ++ direction) :: rest

/-- The word for a direction. -/
def directionText (descending : Bool) : String := if descending then "DESC" else "ASC"

/-- Orders by an expression, by each item of a list. -/
def setOrder (q : Query) (descending : Bool) (e : Expr) : Attempt Query :=
  (q.write .orderBy false (sortKeys q.scope (directionText descending) e.items)).map fun r =>
    { r.2 with orderKeys := r.1 }

/-- Orders by an expression where the order so far leaves a tie. -/
def addOrder (q : Query) (descending : Bool) (e : Expr) : Attempt Query :=
  (q.write .orderBy true (sortKeys q.scope (directionText descending) e.items)).map fun r =>
    { r.2 with orderKeys := q.orderKeys ++ r.1 }

/-- Orders by raw text; a blank one leaves no order. -/
def orderRaw (q : Query) (sql : String) : Query :=
  { q.clear .orderBy with orderKeys := if Text.isAllBlank sql then [] else [Text.trim sql] }

/-! ### Paging -/

/-- Skips rows and bounds their number. -/
def limit (q : Query) (skip rows : UInt64) : Query :=
  { q with skip := some skip, rows := some rows }

/-- Bounds the number of rows. -/
def limitRows (q : Query) (rows : UInt64) : Query := { q with skip := none, rows := some rows }

/-- Removes the bounds. -/
def clearLimit (q : Query) : Query := { q with skip := none, rows := none }

/-! ### Field lists -/

/-- The fields that a list of columns names. -/
def fieldNames (m : Model) : List Expr → Except Error (List String)
  | [] => .ok []
  | e :: es =>
    match e.asColumn? with
    | none => .error .notAColumn
    | some name =>
      match m.field? name with
      | none => .error (.unknownField m.name name)
      | some f => (fieldNames m es).map (f.name :: ·)

/-- Lets updates set the listed fields only. -/
def updateOnly (q : Query) (e : Expr) : Attempt Query :=
  (q.attempt (fieldNames q.model e.items)).map fun names => { q with updateFields := names }

/-- Lets updates set every field. -/
def updateAll (q : Query) : Query := { q with updateFields := [] }

/-- Lets insertions name the listed fields only. -/
def insertOnly (q : Query) (e : Expr) : Attempt Query :=
  (q.attempt (fieldNames q.model e.items)).map fun names => { q with insertFields := names }

/-- Lets insertions name every field. -/
def insertAll (q : Query) : Query := { q with insertFields := [] }

/-! ### Modes -/

/-- Binds values in the clauses that are written from now on, or writes them as literals. -/
def setParameterized (q : Query) (on : Bool) : Query := { q with parameterized := on }

/-- Puts the name of the table in front of columns from now on, or leaves it out. -/
def setQualified (q : Query) (on : Bool) : Query :=
  let q := { q with qualified := on }
  if q.customSelect then q else { q with select := q.defaultSelect }

/-! ### Clauses put together -/

/-- The ordering clause; empty without sort keys. -/
def orderByText (q : Query) : String :=
  if q.orderKeys.isEmpty then "" else "ORDER BY " ++ Text.joinWith "," q.orderKeys

/-- The paging clause.  Where paging needs an order and equal rows are selected once, the first
column of the selection gives it. -/
def pagingText (q : Query) : String :=
  let skip := q.skip.map UInt64.toNat
  let rows := q.rows.map UInt64.toNat
  if q.distinct && q.orderKeys.isEmpty && q.dialect.rules.limitStyle == .offsetFetch then
    let paging := q.dialect.paging skip rows true
    if paging.isEmpty then "" else "ORDER BY 1 " ++ paging
  else q.dialect.paging skip rows (!q.orderKeys.isEmpty)

end Query

end ModelSql
