/-
**Statements with the values of a row that fail.**

A statement with the values of a row first writes the parameters of its clause and asks afterwards
whether there was a field to write.  Where the values of the fields are refused, nothing has been
written, and the descriptor is as before.  Where no field is left, the clause has been written without
values, and the parameters that it owned are gone, with them those of the last statement that could be
made.

Main definitions:

* `Query.RowCall`, `Query.rowCall?` — calls on rows;
* `Query.writeRow` — what such a call does.

Main results:

* `Query.writeRow_eq_error` — the two ways to fail;
* `Query.clear_eq_self_iff`, `Query.owned_bound_clear_iff` — when dropping parameters changes anything;
* `Query.perform_rowCall_eq_self_iff` — **when a call on a row that fails leaves everything as it was**.
-/

import ModelSql.Proofs.Query.Ownership
import ModelSql.Proofs.Query.RowStatement

set_option relaxedAutoImplicit false
set_option autoImplicit false

namespace ModelSql.Query

/-! ### Calls on rows -/

/-- A call on a row: its clause, the fields that it writes, the row, and the error where there is none
of them, for the name of the model. -/
structure RowCall where
  clause : Clause
  fields : List Field
  row : Row
  missing : String → Error

variable {q : Query} {c : Clause} {r : RowCall} {op : Operation} {e : Error}

/-- What a call does if it is a call on a row. -/
def rowCall? (q : Query) : Operation → Option RowCall
  | .update row => some ⟨.update, q.updateFieldsOf, row, .nothingToUpdate⟩
  | .insert row => some ⟨.insert, q.insertFieldsOf, row, .nothingToInsert⟩
  | _ => none

/-- What a call on a row does: it writes the values of the fields, and asks then whether there is one.
-/
def writeRow (q : Query) (r : RowCall) : Except Error Unit × Query :=
  match q.write r.clause false (fieldValues q.scope r.row r.fields) with
  | .error (e, q) => (.error e, q)
  | .ok (columns, q) => if columns.isEmpty then (.error (r.missing q.model.name), q) else (.ok (), q)

theorem perform_eq_writeRow (hop : q.rowCall? op = some r) : q.perform op = q.writeRow r := by
  cases op with
  | update row =>
      cases hop
      rw [perform, updateStatement, writeRow]
      cases q.write .update false (fieldValues q.scope row q.updateFieldsOf) with
      | error failed => rfl
      | ok written =>
          obtain ⟨columns, q'⟩ := written
          cases columns <;> rfl
  | insert row =>
      cases hop
      rw [perform, insertStatement, writeRow]
      cases q.write .insert false (fieldValues q.scope row q.insertFieldsOf) with
      | error failed => rfl
      | ok written =>
          obtain ⟨columns, q'⟩ := written
          cases columns <;> rfl
  | _ => cases hop

/-! ### The two ways to fail -/

/-- A field that is written has a column. -/
theorem fieldValues_ne_nil {s : Scope} {row : Row} {fs : List Field} {b b' : Bindings}
    {columns : List (String × String)} (hfs : fs ≠ [])
    (h : fieldValues s row fs b = .ok (columns, b')) : columns ≠ [] := by
  cases fs with
  | nil => exact absurd rfl hfs
  | cons f fs =>
      obtain ⟨text, _, -, hrest⟩ := bind_eq_ok.1 h
      obtain ⟨rest, _, -, hcolumns⟩ := bind_eq_ok.1 hrest
      obtain ⟨rfl, -⟩ := pure_eq_ok.1 hcolumns
      exact List.cons_ne_nil _ _

/-- **The two ways to fail**: a value is refused and nothing changes, or there is no field and what the
clause owned is dropped. -/
theorem writeRow_eq_error (h : (q.writeRow r).1 = .error e) :
    r.fields ≠ [] ∧ (q.writeRow r).2 = q ∨ r.fields = [] ∧ (q.writeRow r).2 = q.clear r.clause := by
  unfold writeRow at h ⊢
  by_cases hfs : r.fields = []
  · have hstep : fieldValues q.scope r.row r.fields ⟨q.parameters, q.counter⟩ =
        .ok ([], Bindings.extend ⟨q.parameters, q.counter⟩ q.dialect []) := by
      rw [hfs, Bindings.extend_nil]
      rfl
    rw [write_of_extend hstep]
    exact .inr ⟨hfs, (clear_eq_rewrite q r.clause).symm⟩
  · have hbinds := binds_fieldValues q.scope r.row r.fields
    cases hwrite : q.write r.clause false (fieldValues q.scope r.row r.fields) with
    | error failed =>
        obtain ⟨e', q'⟩ := failed
        exact .inl ⟨hfs, write_eq_error hbinds hwrite⟩
    | ok written =>
        -- with a field there is a column, and the call succeeds
        obtain ⟨columns, q'⟩ := written
        obtain ⟨vs, hstep, -⟩ := write_eq_ok hbinds hwrite
        have hne := fieldValues_ne_nil hfs hstep
        rw [hwrite] at h
        simp [hne] at h

/-! ### Parameters that are dropped -/

/-- Dropping the parameters of a clause changes nothing exactly when it owns none. -/
theorem clear_eq_self_iff : q.clear c = q ↔ q.owned c = [] := by
  constructor
  · intro h
    have howned := congrFun (congrArg Query.owned h) c
    rw [← howned]
    exact own_self _ _ _
  · intro h
    have howned : own q.owned c [] = q.owned := by
      funext k
      by_cases hk : k = c
      · rw [hk, own_self, h]
      · exact own_of_ne hk
    rw [clear, h, howned]
    simp [Parameters.removeAll]

/-- The names that a clause owned are bound no more when its parameters are dropped. -/
theorem owned_bound_clear_iff :
    (∀ name ∈ q.owned c, name ∈ (q.clear c).parameters.names) ↔ q.owned c = [] := by
  constructor
  · intro h
    refine List.eq_nil_iff_forall_not_mem.2 fun name hname => ?_
    have hbound := h name hname
    rw [clear, Parameters.names_removeAll, List.mem_filter] at hbound
    simp [hname] at hbound
  · intro h name hname
    rw [h] at hname
    cases hname

/-- **When a call on a row that fails leaves everything as it was.**  The descriptor, with its clauses,
parameters, owners and numbers, is as before exactly when there was a field to write or the clause
owned no parameters; exactly then the last statement of that kind still has its parameters.  In every
other case they are dropped and nothing else changes. -/
theorem perform_rowCall_eq_self_iff (hq : q.Reachable) (hop : q.rowCall? op = some r)
    (h : (q.perform op).1 = .error e) :
    ((q.perform op).2 = q ↔ r.fields ≠ [] ∨ q.owned r.clause = []) ∧
      ((∀ name ∈ q.owned r.clause, name ∈ (q.perform op).2.parameters.names) ↔
        r.fields ≠ [] ∨ q.owned r.clause = []) ∧
      ((q.perform op).2 = q ∨ (q.perform op).2 = q.clear r.clause) := by
  rw [perform_eq_writeRow hop] at h ⊢
  rcases writeRow_eq_error h with ⟨hfs, hstate⟩ | ⟨hfs, hstate⟩
  · rw [hstate]
    exact ⟨⟨fun _ => .inl hfs, fun _ => rfl⟩,
      ⟨fun _ => .inl hfs, fun _ => hq.tracked.bound r.clause⟩, .inl rfl⟩
  · rw [hstate, clear_eq_self_iff, owned_bound_clear_iff]
    simp [hfs]

/-! ### An update of nothing -/

/-- A run that updates a row with a parameter and then allows the key alone to be set. -/
def updatedOnce : Query :=
  let q := ((new DialectKind.sqlite.dialect items).perform (.parameterized true)).2
  let q := (q.perform (.update itemRow)).2
  (q.perform (.updateOnly (.column "Id"))).2

theorem reachable_updatedOnce : updatedOnce.Reachable :=
  .perform _ (.perform _ (.perform _ (.new _ _)))

theorem perform_rowCall_eq_self_iff_updatedOnce :
    updatedOnce.Reachable ∧
      updatedOnce.rowCall? (.update itemRow) = some ⟨.update, [], itemRow, .nothingToUpdate⟩ ∧
      updatedOnce.owned .update = ["@0"] ∧
      (updatedOnce.perform (.update itemRow)).1 = .error (.nothingToUpdate "Item") ∧
      ¬ (updatedOnce.perform (.update itemRow)).2 = updatedOnce := by
  have hcall : updatedOnce.rowCall? (.update itemRow) =
      some ⟨.update, [], itemRow, .nothingToUpdate⟩ := by rfl
  have howned : updatedOnce.owned .update = ["@0"] := by decide +kernel
  have herror : (updatedOnce.perform (.update itemRow)).1 = .error (.nothingToUpdate "Item") := by
    rfl
  have hiff := perform_rowCall_eq_self_iff reachable_updatedOnce hcall herror
  exact ⟨reachable_updatedOnce, hcall, howned, herror, fun h => absurd (hiff.1.1 h) (by simp [howned])⟩

/-- Without a field to set, the update fails and drops the parameters of the update before. -/
theorem updatedOnce_changed_by_error :
    updatedOnce.Reachable ∧
      (updatedOnce.perform (.update itemRow)).1 = .error (.nothingToUpdate "Item") ∧
      updatedOnce.parameters.names = ["@0"] ∧
      (updatedOnce.perform (.update itemRow)).2.parameters.names = [] ∧
      (updatedOnce.perform (.update itemRow)).2 ≠ updatedOnce := by
  have hbefore : updatedOnce.parameters.names = ["@0"] := by decide +kernel
  have hafter : (updatedOnce.perform (.update itemRow)).2.parameters.names = [] := by decide +kernel
  refine ⟨reachable_updatedOnce, by rfl, hbefore, hafter, fun h => ?_⟩
  rw [h, hbefore] at hafter
  cases hafter

end ModelSql.Query
