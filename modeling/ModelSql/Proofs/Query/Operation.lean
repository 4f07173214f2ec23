/-
**Runs of a descriptor.**

A descriptor is built by calls, in any order, and some of them may fail.  The statements that carry the
values of a row are calls too, since they bind parameters.

Seen from its parameters, every call does one of two things: it leaves them alone, or it *rewrites*
one clause, which drops what the clause owned, unless the clause is extended, and binds new values
for it.  A call that fails may have bound values before it does; it drops them again, and only them.

Main definitions:

* `Operation`, `Operation.clause?` — the calls, and the clause whose parameters a call may change;
* `Query.perform` — **a call and the descriptor after it**;
* `Query.Reachable` — the descriptors that runs of calls lead to;
* `Query.rewrite` — the parameters after a clause is written;
* `Query.SameClauses` — descriptors that differ in nothing but their parameters;
* `Operation.isFallible` — the calls on clauses and field lists that may fail.

Main results:

* `Query.write_eq_ok` — writing a clause with a step that only binds rewrites the clause;
* `Query.write_eq_error` — where the step fails, the descriptor is as before;
* `Query.settle_write_cases`, `Query.updateStatement_cases` — what a call that writes a clause leads to;
* `Query.perform_cases` — **what a call does to the parameters**;
* `Query.perform_eq_error` — **a call that fails leaves everything as it was**.
-/

import ModelSql.Proofs.Query.Binding

set_option relaxedAutoImplicit false
set_option autoImplicit false

namespace ModelSql

/-! ### Calls -/

/-- The calls on a descriptor. -/
inductive Operation
  | select (distinct : Bool) (e : Expr)
  | selectRaw (list : String)
  | filter (e : Expr)
  | clearFilter
  | and (e : Expr)
  | or (e : Expr)
  | filterRaw (sql : String) (args : List Value)
  | groupBy (e : Expr)
  | groupByRaw (sql : String)
  | having (e : Expr)
  | havingRaw (sql : String) (args : List Value)
  | orderBy (descending : Bool) (e : Expr)
  | thenBy (descending : Bool) (e : Expr)
  | orderByRaw (sql : String)
  | limit (skip rows : UInt64)
  | limitRows (rows : UInt64)
  | clearLimit
  | updateOnly (e : Expr)
  | updateAll
  | insertOnly (e : Expr)
  | insertAll
  | parameterized (on : Bool)
  | qualified (on : Bool)
  | update (row : Row)
  | insert (row : Row)

/-- The clause whose parameters a call may change. -/
def Operation.clause? : Operation → Option Clause
  | select .. | selectRaw _ => some .select
  | filter _ | clearFilter | and _ | or _ | filterRaw .. => some .filter
  | groupBy _ | groupByRaw _ => some .groupBy
  | having _ | havingRaw .. => some .having
  | orderBy .. | thenBy .. | orderByRaw _ => some .orderBy
  | update _ => some .update
  | insert _ => some .insert
  | _ => none

namespace Query

/-- The outcome of a call that may fail, and the descriptor that it leads to. -/
def settle : Attempt Query → Except Error Unit × Query
  | .ok q => (.ok (), q)
  | .error (e, q) => (.error e, q)

/-- **A call**: its outcome, and the descriptor after it. -/
def perform (q : Query) : Operation → Except Error Unit × Query
  | .select distinct e => settle (q.setSelect distinct e)
  | .selectRaw list => (.ok (), q.selectRaw list)
  | .filter e => settle (q.filter e)
  | .clearFilter => (.ok (), q.clearFilter)
  | .and e => settle (q.andFilter e)
  | .or e => settle (q.orFilter e)
  | .filterRaw sql args => settle (q.filterRaw sql args)
  | .groupBy e => settle (q.setGroupBy e)
  | .groupByRaw sql => (.ok (), q.groupByRaw sql)
  | .having e => settle (q.setHaving e)
  | .havingRaw sql args => settle (q.havingRaw sql args)
  | .orderBy descending e => settle (q.setOrder descending e)
  | .thenBy descending e => settle (q.addOrder descending e)
  | .orderByRaw sql => (.ok (), q.orderRaw sql)
  | .limit skip rows => (.ok (), q.limit skip rows)
  | .limitRows rows => (.ok (), q.limitRows rows)
  | .clearLimit => (.ok (), q.clearLimit)
  | .updateOnly e => settle (q.updateOnly e)
  | .updateAll => (.ok (), q.updateAll)
  | .insertOnly e => settle (q.insertOnly e)
  | .insertAll => (.ok (), q.insertAll)
  | .parameterized on => (.ok (), q.setParameterized on)
  | .qualified on => (.ok (), q.setQualified on)
  | .update row => ((q.updateStatement row).1.map fun _ => (), (q.updateStatement row).2)
  | .insert row => ((q.insertStatement row).1.map fun _ => (), (q.insertStatement row).2)

/-- The descriptors that runs of calls lead to, the failing calls among them included. -/
inductive Reachable : Query → Prop
  | new (d : Dialect) (m : Model) : Reachable (new d m)
  | perform {q : Query} (op : Operation) : Reachable q → Reachable (q.perform op).2

/-! ### A run -/

/-- People, with the fields that examples ask about. -/
def people : Model :=
  { Model.new "Person" with
    fields := [Field.new "Name" .string, Field.new "Age" .int32, Field.new "Flag" .bool] }

/-- A run that binds values for two clauses, and then others for the first of them. -/
def refiltered : Query :=
  let q := ((new DialectKind.sqlite.dialect people).perform (.parameterized true)).2
  let q := (q.perform (.filter (.binary .gt (.column "Age") (.value (.int 5))))).2
  let q := (q.perform (.having (.binary .lt (.column "Age") (.value (.int 9))))).2
  (q.perform (.filter (.binary .lt (.column "Age") (.value (.int 7))))).2

theorem reachable_refiltered : refiltered.Reachable :=
  .perform _ (.perform _ (.perform _ (.perform _ (.new _ _))))

/-! ### The parameters of a clause that is written -/

/-- A descriptor after values are bound for a clause.  They are added to what the clause owns if it
is extended, and replace it otherwise. -/
def rewrite (q : Query) (c : Clause) (extend : Bool) (vs : List Value) : Query :=
  { q with
    parameters :=
      (Bindings.extend ⟨q.parameters, q.counter⟩ q.dialect vs).parameters.removeAll
        (if extend then [] else q.owned c)
    owned :=
      own q.owned c
        ((if extend then q.owned c else []) ++ (q.dialect.placeholders q.counter vs).map (·.1))
    counter := q.counter + vs.length }

/-- Two descriptors with the same parameters in the same hands. -/
structure SameBindings (q q' : Query) : Prop where
  dialect : q'.dialect = q.dialect
  parameters : q'.parameters = q.parameters
  owned : q'.owned = q.owned
  counter : q'.counter = q.counter

theorem SameBindings.refl (q : Query) : SameBindings q q := ⟨rfl, rfl, rfl, rfl⟩

/-- A step that binds values rewrites the clause with them. -/
theorem write_of_extend {α : Type} {q : Query} {c : Clause} {extend : Bool} {step : Compile α} {r : α}
    {vs : List Value} (h : step ⟨q.parameters, q.counter⟩ =
      .ok (r, Bindings.extend ⟨q.parameters, q.counter⟩ q.dialect vs)) :
    q.write c extend step = .ok (r, q.rewrite c extend vs) := by
  simp [write, h, rewrite, Parameters.namesFrom, Parameters.size]

theorem write_eq_ok {α : Type} {q q' : Query} {c : Clause} {extend : Bool} {step : Compile α} {r : α}
    (hs : Binds q.dialect q.parameterized step) (h : q.write c extend step = .ok (r, q')) :
    ∃ vs, step ⟨q.parameters, q.counter⟩ =
        .ok (r, Bindings.extend ⟨q.parameters, q.counter⟩ q.dialect vs) ∧
      q' = q.rewrite c extend vs := by
  cases hb : step ⟨q.parameters, q.counter⟩ with
  | error e => simp [write, hb] at h
  | ok p =>
      obtain ⟨a, b⟩ := p
      obtain ⟨vs, -, rfl⟩ := hs.ok _ _ _ hb
      rw [write_of_extend hb] at h
      simp only [Except.ok.injEq, Prod.mk.injEq] at h
      obtain ⟨rfl, rfl⟩ := h
      exact ⟨vs, rfl, rfl⟩

/-- **A step that fails leaves the descriptor as it was**: what it has bound is at the end of the
parameters, and is dropped. -/
theorem write_eq_error {α : Type} {q q' : Query} {c : Clause} {extend : Bool} {step : Compile α}
    {e : Error} (hs : Binds q.dialect q.parameterized step)
    (h : q.write c extend step = .error (e, q')) : q' = q := by
  cases hb : step ⟨q.parameters, q.counter⟩ with
  | ok p => simp [write, hb] at h
  | error failed =>
      obtain ⟨vs, -, hvs⟩ := hs.error _ _ hb
      have hback := Bindings.rollBack_extend ⟨q.parameters, q.counter⟩ q.dialect vs
      simp only [write, hb, hvs, hback, Except.error.injEq, Prod.mk.injEq] at h
      exact h.2.symm

/-- Dropping the parameters of a clause is writing it without values. -/
theorem clear_eq_rewrite (q : Query) (c : Clause) : q.clear c = q.rewrite c false [] := by
  simp [clear, rewrite]

/-! ### What writing a clause leaves alone -/

/-- **Descriptors that differ in nothing but their parameters**, the owners of these and their numbers. -/
def SameClauses (q q' : Query) : Prop :=
  q' = { q with parameters := q'.parameters, owned := q'.owned, counter := q'.counter }

/-- A call that writes a clause, and then does something with the text: before that only the parameters
change, and where nothing can be written no more is done. -/
theorem settle_write_cases {α : Type} (q : Query) (c : Clause) (extend : Bool) (step : Compile α)
    (f : α × Query → Query) : ∃ q', SameClauses q q' ∧
      ((settle ((q.write c extend step).map f)).2 = q' ∨
        ∃ r, (settle ((q.write c extend step).map f)).2 = f (r, q')) := by
  unfold write SameClauses
  split
  · exact ⟨_, by rfl, Or.inl rfl⟩
  · exact ⟨_, by rfl, Or.inr ⟨_, rfl⟩⟩

/-! ### What a call does to the parameters -/

/-- What a call may do to the parameters of a descriptor: nothing, or rewrite one clause. -/
def Moves (op : Operation) (q q' : Query) : Prop :=
  SameBindings q q' ∨
    ∃ c extend vs, op.clause? = some c ∧ SameBindings (q.rewrite c extend vs) q'

/-- A fallible call whose clause is written by a step that only binds. -/
theorem moves_write {α : Type} {q : Query} {op : Operation} {c : Clause} {extend : Bool}
    {step : Compile α} {f : α × Query → Query} (hs : Binds q.dialect q.parameterized step)
    (hc : op.clause? = some c) (hf : ∀ p, SameBindings p.2 (f p)) :
    Moves op q (settle ((q.write c extend step).map f)).2 := by
  cases h : q.write c extend step with
  | error e =>
      obtain ⟨e, q'⟩ := e
      obtain rfl := write_eq_error hs h
      exact Or.inl (SameBindings.refl q')
  | ok p =>
      obtain ⟨r, q'⟩ := p
      obtain ⟨vs, -, hvs⟩ := write_eq_ok hs h
      refine Or.inr ⟨c, extend, vs, hc, ?_⟩
      rw [← hvs]
      exact hf (r, q')

/-- A fallible call that binds nothing. -/
theorem moves_attempt {α : Type} {q : Query} {op : Operation} {r : Except Error α} {f : α → Query}
    (hf : ∀ a, SameBindings q (f a)) : Moves op q (settle ((q.attempt r).map f)).2 := by
  cases r with
  | error e => exact Or.inl (SameBindings.refl q)
  | ok a => exact Or.inl (hf a)

theorem moves_clear {q q' : Query} {op : Operation} {c : Clause} (hc : op.clause? = some c)
    (h : SameBindings (q.clear c) q') : Moves op q q' :=
  Or.inr ⟨c, false, [], hc, q.clear_eq_rewrite c ▸ h⟩

/-- **A statement with the values of a row** leaves the descriptor as it was, or rewrites the clause of its
values, whether there are any or not. -/
theorem updateStatement_cases (q : Query) (row : Row) :
    (q.updateStatement row).2 = q ∨ ∃ vs, (q.updateStatement row).2 = q.rewrite .update false vs := by
  unfold updateStatement
  split
  · rename_i e q' h
    exact Or.inl (write_eq_error (binds_fieldValues q.scope row q.updateFieldsOf) h)
  · rename_i columns q' h
    obtain ⟨vs, -, rfl⟩ := write_eq_ok (binds_fieldValues q.scope row q.updateFieldsOf) h
    refine Or.inr ⟨vs, ?_⟩
    split <;> rfl

@[inherit_doc updateStatement_cases]
theorem insertStatement_cases (q : Query) (row : Row) :
    (q.insertStatement row).2 = q ∨ ∃ vs, (q.insertStatement row).2 = q.rewrite .insert false vs := by
  unfold insertStatement
  split
  · rename_i e q' h
    exact Or.inl (write_eq_error (binds_fieldValues q.scope row q.insertFieldsOf) h)
  · rename_i columns q' h
    obtain ⟨vs, -, rfl⟩ := write_eq_ok (binds_fieldValues q.scope row q.insertFieldsOf) h
    refine Or.inr ⟨vs, ?_⟩
    split <;> rfl

/-- A call that leaves the descriptor as it was, or rewrites its clause. -/
theorem moves_of_cases {q q' : Query} {op : Operation} {c : Clause} (hc : op.clause? = some c)
    (h : q' = q ∨ ∃ vs, q' = q.rewrite c false vs) : Moves op q q' := by
  rcases h with rfl | ⟨vs, rfl⟩
  · exact Or.inl (SameBindings.refl q')
  · exact Or.inr ⟨c, false, vs, hc, SameBindings.refl _⟩

/-- **What a call does to the parameters**: it leaves them as they are, or rewrites its clause. -/
theorem perform_cases (q : Query) (op : Operation) : Moves op q (q.perform op).2 := by
  -- an operation writes a clause, clears one, or leaves the parameters alone
  cases op with
  | select distinct e =>
      exact moves_write (q.scope.binds_projection e) rfl fun p => ⟨rfl, rfl, rfl, rfl⟩
  | selectRaw list => exact moves_clear rfl ⟨rfl, rfl, rfl, rfl⟩
  | filter e =>
      exact moves_write (q.scope.binds_predicate e) rfl fun p => ⟨rfl, rfl, rfl, rfl⟩
  | clearFilter => exact moves_clear rfl ⟨rfl, rfl, rfl, rfl⟩
  | and e =>
      exact moves_write (q.scope.binds_predicate _) rfl fun p => ⟨rfl, rfl, rfl, rfl⟩
  | or e =>
      exact moves_write (q.scope.binds_predicate _) rfl fun p => ⟨rfl, rfl, rfl, rfl⟩
  | filterRaw sql args =>
      exact moves_write (q.scope.binds_raw sql args) rfl fun p => ⟨rfl, rfl, rfl, rfl⟩
  | groupBy e =>
      exact moves_write (q.scope.binds_projection e) rfl fun p => ⟨rfl, rfl, rfl, rfl⟩
  | groupByRaw sql => exact moves_clear rfl ⟨rfl, rfl, rfl, rfl⟩
  | having e =>
      exact moves_write (q.scope.binds_predicate e) rfl fun p => ⟨rfl, rfl, rfl, rfl⟩
  | havingRaw sql args =>
      exact moves_write (q.scope.binds_raw sql args) rfl fun p => ⟨rfl, rfl, rfl, rfl⟩
  | orderBy descending e =>
      exact moves_write (binds_sortKeys q.scope _ _) rfl fun p => ⟨rfl, rfl, rfl, rfl⟩
  | thenBy descending e =>
      exact moves_write (binds_sortKeys q.scope _ _) rfl fun p => ⟨rfl, rfl, rfl, rfl⟩
  | orderByRaw sql => exact moves_clear rfl ⟨rfl, rfl, rfl, rfl⟩
  | updateOnly e => exact moves_attempt fun names => ⟨rfl, rfl, rfl, rfl⟩
  | insertOnly e => exact moves_attempt fun names => ⟨rfl, rfl, rfl, rfl⟩
  | qualified on =>
      refine Or.inl ?_
      simp only [perform, setQualified]
      split <;> exact ⟨rfl, rfl, rfl, rfl⟩
  | update row => exact moves_of_cases rfl (q.updateStatement_cases row)
  | insert row => exact moves_of_cases rfl (q.insertStatement_cases row)
  | limit | limitRows | clearLimit | updateAll | insertAll | parameterized =>
      exact Or.inl ⟨rfl, rfl, rfl, rfl⟩

end Query

/-! ### Calls that fail -/

/-- The calls on clauses and field lists that may fail. -/
def Operation.isFallible : Operation → Bool
  | select .. | filter _ | and _ | or _ | filterRaw .. | groupBy _ | having _ | havingRaw ..
  | orderBy .. | thenBy .. | updateOnly _ | insertOnly _ => true
  | _ => false

namespace Query

variable {α : Type} {q : Query} {e : Error}

/-- A call that writes a clause with a step that only binds. -/
theorem settle_write_eq_error {c : Clause} {extend : Bool} {step : Compile α}
    {f : α × Query → Query} (hs : Binds q.dialect q.parameterized step)
    (h : (settle ((q.write c extend step).map f)).1 = .error e) :
    (settle ((q.write c extend step).map f)).2 = q := by
  cases hw : q.write c extend step with
  | ok p =>
      rw [hw] at h
      cases h
  | error failed =>
      obtain ⟨e', q'⟩ := failed
      exact write_eq_error hs hw

/-- A call that computes something first. -/
theorem settle_attempt_eq_error {r : Except Error α} {f : α → Query}
    (h : (settle ((q.attempt r).map f)).1 = .error e) :
    (settle ((q.attempt r).map f)).2 = q := by
  cases r with
  | ok a => cases h
  | error e' => rfl

/-- **A call that fails leaves everything as it was**, however far it came: every clause, the predicate,
the field lists, and the parameters with their owners and their numbers. -/
theorem perform_eq_error {op : Operation} (hop : op.isFallible = true)
    (h : (q.perform op).1 = .error e) : (q.perform op).2 = q := by
  cases op with
  | select distinct e => exact settle_write_eq_error (q.scope.binds_projection e) h
  | filter e => exact settle_write_eq_error (q.scope.binds_predicate e) h
  | and e => exact settle_write_eq_error (q.scope.binds_predicate (q.combined .and e)) h
  | or e => exact settle_write_eq_error (q.scope.binds_predicate (q.combined .or e)) h
  | filterRaw sql args => exact settle_write_eq_error (q.scope.binds_raw sql args) h
  | groupBy e => exact settle_write_eq_error (q.scope.binds_projection e) h
  | having e => exact settle_write_eq_error (q.scope.binds_predicate e) h
  | havingRaw sql args => exact settle_write_eq_error (q.scope.binds_raw sql args) h
  | orderBy descending e =>
      exact settle_write_eq_error (binds_sortKeys q.scope (directionText descending) e.items) h
  | thenBy descending e =>
      exact settle_write_eq_error (binds_sortKeys q.scope (directionText descending) e.items) h
  | updateOnly e => exact settle_attempt_eq_error h
  | insertOnly e => exact settle_attempt_eq_error h
  | _ => cases hop

/-- A second sort key that binds a value and then meets a field that is missing. -/
theorem perform_eq_error_thenBy :
    let e := Expr.list [.binary .add (.column "Age") (.value (.int 1)), .column "Missing"]
    let op := Operation.thenBy true e
    (sortKeys refiltered.scope "DESC" e.items ⟨refiltered.parameters, refiltered.counter⟩).mapError
        (fun failed => (failed.error, failed.bindings.parameters.names)) =
      .error (.unknownField "Person" "Missing", ["@1", "@2", "@3"]) ∧
    (refiltered.perform op).1 = .error (.unknownField "Person" "Missing") ∧
    refiltered.parameters.names = ["@1", "@2"] ∧ (refiltered.perform op).2 = refiltered :=
  ⟨rfl, rfl, by decide, perform_eq_error rfl rfl⟩

end Query

end ModelSql
