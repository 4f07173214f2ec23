/-
**What literals refuse and parameters let through.**

A call that succeeds with parameters meets some values: those of its expression, each beside a column
or beside nothing of a known type, or those that a row holds for the fields that are written.  It binds
them all, in the form that columns store, and leaves it to the database to refuse them.  The same call
with literals writes these values one after the other, and nothing else can keep it from succeeding.

Main definitions:

* `Operation.meetsValues`, `Query.Meets` — the calls, and the values that they meet;
* `Query.Compares` — what the two runs of a call have in common.

Main results:

* `Query.write_mirrors` — a clause written with literals, next to one that was written with parameters;
* `Query.perform_render` — **the outcome of a call with literals, where the call with parameters
  succeeds**.
-/

import ModelSql.Proofs.Query.Mirror
import ModelSql.Proofs.Query.RowFailure

set_option relaxedAutoImplicit false
set_option autoImplicit false

namespace ModelSql

/-- The calls that write a condition or the values of a row. -/
def Operation.meetsValues : Operation → Bool
  | filter _ | having _ | update _ | insert _ => true
  | _ => false

namespace Query

variable {q q₂ : Query} {op : Operation} {c : Clause}

/-- The values that a call may meet: in an expression, beside columns of the model, and of a row those
of the fields that are written. -/
def Meets (q : Query) : Operation → Occurrence → Prop
  | .update row, o => ∃ f ∈ q.updateFieldsOf, o = .ofField f (row.value f.name)
  | .insert row, o => ∃ f ∈ q.insertFieldsOf, o = .ofField f (row.value f.name)
  | _, o => q.scope.Meets o

/-! ### Clauses -/

/-- A step that fails with nothing bound. -/
theorem write_of_fail {α : Type} {extend : Bool} {step : Compile α} {e : Error}
    (h : step ⟨q.parameters, q.counter⟩ = .error ⟨e, ⟨q.parameters, q.counter⟩⟩) :
    q.write c extend step = .error (e, q) := by
  have hback := Bindings.rollBack_extend ⟨q.parameters, q.counter⟩ q.dialect []
  rw [Bindings.extend_nil] at hback
  simp only [write, h, hback]

/-- **A clause written with literals, next to one that was written with parameters.** -/
theorem write_mirrors {α β : Type} {P : Occurrence → Prop} {R : α → β → Prop} {step : Compile α}
    {step' : Compile β} (hm : Mirrors q.dialect P R step step') {r' : β}
    (h : (q.setParameterized true).write c false step' = .ok (r', q₂)) :
    ∃ r os, R r r' ∧ (∀ o ∈ os, P o) ∧
      q₂ = (q.setParameterized true).rewrite c false (os.flatMap Occurrence.stored) ∧
      (q.setParameterized false).write c false step =
        match Occurrence.render q.dialect os with
        | .error e => .error (e, q.setParameterized false)
        | .ok _ => .ok (r, (q.setParameterized false).clear c) := by
  cases hstep : step' ⟨q.parameters, q.counter⟩ with
  | error failed =>
      rw [write] at h
      simp [setParameterized, hstep] at h
  | ok result =>
      obtain ⟨a', b⟩ := result
      obtain ⟨r, os, hR, hP, rfl, hrun⟩ := hm _ a' b ⟨q.parameters, q.counter⟩ hstep
      rw [write_of_extend (q := q.setParameterized true) hstep, Except.ok.injEq, Prod.mk.injEq] at h
      obtain ⟨rfl, rfl⟩ := h
      refine ⟨r, os, hR, hP, rfl, ?_⟩
      cases hrender : Occurrence.render q.dialect os with
      | error e =>
          rw [hrender] at hrun
          exact write_of_fail (q := q.setParameterized false) hrun
      | ok u =>
          rw [hrender] at hrun
          have hstart : step ⟨q.parameters, q.counter⟩ =
              .ok (r, Bindings.extend ⟨q.parameters, q.counter⟩ q.dialect []) := by
            rw [hrun, Bindings.extend_nil]
            rfl
          rw [clear_eq_rewrite]
          exact write_of_extend (q := q.setParameterized false) hstart

/-! ### Calls -/

/-- What the two runs of a call have in common: the values that it meets, the parameters for them, and
that nothing but their literals decides how the run with literals ends. -/
def Compares (q : Query) (op : Operation) (c : Clause) : Prop :=
  ∃ os, (∀ o ∈ os, q.Meets op o) ∧
    ((q.setParameterized true).perform op).2.parameters =
      (q.rewrite c false (os.flatMap Occurrence.stored)).parameters ∧
    ((q.setParameterized false).perform op).1 = Occurrence.render q.dialect os

/-- A call that makes a clause of the text that a step writes. -/
theorem compares_of_write {step step' : Compile String} {f : String × Query → Query}
    (hm : Mirrors q.dialect (q.Meets op) AnyText step step')
    (htrue : (q.setParameterized true).perform op =
      settle (((q.setParameterized true).write c false step').map f))
    (hfalse : (q.setParameterized false).perform op =
      settle (((q.setParameterized false).write c false step).map f))
    (hf : ∀ r, SameBindings r.2 (f r)) (h : ((q.setParameterized true).perform op).1 = .ok ()) :
    q.Compares op c := by
  rw [htrue] at h
  cases hwrite : (q.setParameterized true).write c false step' with
  | error failed =>
      rw [hwrite] at h
      cases h
  | ok written =>
      obtain ⟨r', q'⟩ := written
      obtain ⟨r, os, -, hP, rfl, hliteral⟩ := write_mirrors hm hwrite
      refine ⟨os, hP, ?_, ?_⟩
      · rw [htrue, hwrite]
        exact (hf _).parameters
      · rw [hfalse, hliteral]
        cases Occurrence.render q.dialect os <;> rfl

/-- A call on a row. -/
theorem compares_of_writeRow {r : RowCall}
    (hmode : ∀ on, (q.setParameterized on).rowCall? op = some r)
    (hmeets : ∀ o, (∃ f ∈ r.fields, o = .ofField f (r.row.value f.name)) → q.Meets op o)
    (h : ((q.setParameterized true).perform op).1 = .ok ()) : q.Compares op r.clause := by
  have hscope (on : Bool) : (q.setParameterized on).scope = q.scope.mode on := rfl
  have hm := q.scope.mirrors_fieldValues r.row fun f (hf : f ∈ r.fields) => hf
  rw [perform_eq_writeRow (hmode true), writeRow, hscope] at h
  cases hwrite : (q.setParameterized true).write r.clause false
      (fieldValues (q.scope.mode true) r.row r.fields) with
  | error failed =>
      rw [hwrite] at h
      cases h
  | ok written =>
      obtain ⟨columns', q'⟩ := written
      obtain ⟨columns, os, hnames, hP, rfl, hliteral⟩ := write_mirrors hm hwrite
      -- both runs have a column for each field
      have hcolumns' : columns' ≠ [] := by
        rintro rfl
        rw [hwrite] at h
        cases h
      have hcolumns : columns ≠ [] := by
        rintro rfl
        exact hcolumns' (List.map_eq_nil_iff.1 hnames.symm)
      refine ⟨os, fun o ho => hmeets o (hP o ho), ?_, ?_⟩
      · rw [perform_eq_writeRow (hmode true), writeRow, hscope, hwrite]
        simp only [List.isEmpty_iff, hcolumns', if_false]
        rfl
      · rw [perform_eq_writeRow (hmode false), writeRow, hscope, hliteral]
        cases Occurrence.render q.dialect os with
        | error e => rfl
        | ok u => simp [hcolumns]

/-- **The outcome of a call with literals where the call with parameters succeeds.**  The call with
parameters binds the values that it meets, whatever they are; the call with literals has the outcome of
writing these values one after the other.  So it succeeds exactly when each of them has a literal, and
fails with the error of the first one that has none otherwise. -/
theorem perform_render (hop : op.meetsValues = true) (hc : op.clause? = some c)
    (h : ((q.setParameterized true).perform op).1 = .ok ()) :
    ∃ os, (∀ o ∈ os, q.Meets op o) ∧
      ((q.setParameterized true).perform op).2.parameters =
        (q.rewrite c false (os.flatMap Occurrence.stored)).parameters ∧
      ((q.setParameterized false).perform op).1 = Occurrence.render q.dialect os ∧
      (((q.setParameterized false).perform op).1 = .ok () ↔
        ∀ o ∈ os, ∃ text, o.literal q.dialect = .ok text) := by
  have hcompares : q.Compares op c := by
    cases op with
    | filter e =>
        cases hc
        exact compares_of_write (q.scope.mirrors_predicate e) rfl rfl (fun _ => ⟨rfl, rfl, rfl, rfl⟩) h
    | having e =>
        cases hc
        exact compares_of_write (q.scope.mirrors_predicate e) rfl rfl (fun _ => ⟨rfl, rfl, rfl, rfl⟩) h
    | update row =>
        cases hc
        exact compares_of_writeRow (r := ⟨.update, q.updateFieldsOf, row, .nothingToUpdate⟩)
          (fun _ => rfl) (fun _ ho => ho) h
    | insert row =>
        cases hc
        exact compares_of_writeRow (r := ⟨.insert, q.insertFieldsOf, row, .nothingToInsert⟩)
          (fun _ => rfl) (fun _ ho => ho) h
    | _ => cases hop
  obtain ⟨os, hmeets, hbound, hrender⟩ := hcompares
  exact ⟨os, hmeets, hbound, hrender, by rw [hrender, Occurrence.render_eq_ok_iff]⟩

/-! ### A number that is no variant -/

/-- Items with a key and a color, which is stored by its name. -/
def colored : Model :=
  { Model.new "Item" with
    fields := [(Field.new "Id" .int64).primaryKey,
      Field.new "Color" (.enum ⟨"Color", ["Red", "Green"], false⟩)] }

/-- The filter for a color that is none. -/
def noColor : Operation := .filter (.binary .eq (.column "Color") (.value (.int 7)))

theorem perform_render_noColor :
    let q := new DialectKind.sqlite.dialect colored
    noColor.meetsValues = true ∧ noColor.clause? = some .filter ∧
      ((q.setParameterized true).perform noColor).1 = .ok () ∧
      ∃ os, (∀ o ∈ os, q.Meets noColor o) ∧
        Occurrence.render q.dialect os = .error (.unknownOrdinal 7 "Color") := by
  intro q
  have h : ((q.setParameterized true).perform noColor).1 = .ok () := by rfl
  obtain ⟨os, hmeets, -, hrender, -⟩ := perform_render (c := .filter) rfl rfl h
  exact ⟨rfl, rfl, h, os, hmeets, hrender.symm⟩

/-- With parameters the number is bound as it is; with literals it is refused. -/
theorem noColor_bound :
    let q := new DialectKind.sqlite.dialect colored
    q.Reachable ∧ ((q.setParameterized true).perform noColor).1 = .ok () ∧
      ((q.setParameterized true).perform noColor).2.parameters.entries = [("@0", .int 7)] ∧
      ((q.setParameterized false).perform noColor).1 = .error (.unknownOrdinal 7 "Color") :=
  ⟨.new _ _, by rfl, by rfl, by rfl⟩

end Query

end ModelSql
