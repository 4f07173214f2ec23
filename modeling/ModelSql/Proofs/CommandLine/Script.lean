/-
**Scripts and the tables that a session creates.**

The statements of some models are written down in a script, or sent to a database at once, model after
model.  Where the database refuses nothing, the two cannot be told apart: each model contributes the same
statements, and the first model whose table cannot be written stops both.

Main definitions:

* `Session.Willing` — a session in which every statement succeeds;
* `Dialect.runCreates` — **creating the tables of some models in turn**;
* `blockText`, `headerText` — what a script is put together from.

Main results:

* `Dialect.runCreate_of_willing` — what creating one table does in such a session;
* `Dialect.runCreates_of_willing` — what creating several does;
* `modelScripts_of_statements`, `modelScripts_of_error` — the script of statements that can be written,
  and where it stops;
* `script_of_runCreates` — **a script holds what is executed**, or names the model that fails.
-/

import Mathlib.Data.List.Forall2
import ModelSql.CommandLine.Script
import ModelSql.Proofs.Command.Creation

set_option relaxedAutoImplicit false
set_option autoImplicit false

namespace ModelSql

/-! ### Sessions that refuse nothing -/

namespace Session

/-- Every statement will succeed. -/
def Willing (s : Session) : Prop := ∀ r ∈ s.rowCounts, ∃ n, r = .ok n

variable {s : Session}

theorem Willing.execute (h : s.Willing) (sql : String) : (s.execute sql).2.Willing :=
  fun r hr => h r (List.mem_of_mem_tail hr)

theorem Willing.after (h : s.Willing) (sqls : List String) : (s.after sqls).Willing := by
  induction sqls generalizing s with
  | nil => exact h
  | cons sql sqls ih => exact ih (h.execute sql)

/-- No answer is a failure. -/
theorem Willing.outcome_ne_error (h : s.Willing) (i : Nat) (e : Error) : s.outcome i ≠ .error e := by
  rw [outcome]
  cases hr : s.rowCounts[i]? with
  | none => simp
  | some r =>
      obtain ⟨n, rfl⟩ := h r (List.mem_of_getElem? hr)
      simp

/-- **A run of statements comes to its end.** -/
theorem Ran.eq_of_willing {tolerates : Nat → Error → Prop} {sqls : List String}
    {ending : Except Error Unit} {r : Except Error Unit × Session}
    (h : s.Ran tolerates sqls ending r) (hs : s.Willing) : r = (ending, s.after sqls) := by
  cases h with
  | ended => rfl
  | halted hn hhalts => exact absurd hhalts.failed (hs.outcome_ne_error _ _)

end Session

namespace Dialect

variable {d : Dialect} {m : Model} {ms : List Model} {s s' : Session} {e : Error} {sqls : List String}

/-! ### Creating tables in turn -/

/-- **Creates the tables of some models in turn**, up to the first that fails. -/
def runCreates (d : Dialect) : List Model → Session → Except (Model × Error) Unit × Session
  | [], s => (.ok (), s)
  | m :: ms, s =>
    let r := d.runCreate m s
    match r.1 with
    | .ok () => runCreates d ms r.2
    | .error e => (.error (m, e), r.2)

/-- **Creating one table** sends its statements, and fails only if it cannot be written. -/
theorem runCreate_of_willing (d : Dialect) (m : Model) (hs : s.Willing) :
    d.runCreate m s = ((d.createTable m).map fun _ => (), s.after (d.creation m)) :=
  (d.runCreate_ran m s).eq_of_willing hs

/-- A table whose statements can be written is created by them. -/
theorem runCreate_of_statements (hs : s.Willing) (h : d.createStatements m = .ok sqls) :
    d.runCreate m s = (.ok (), s.after sqls) := by
  obtain ⟨htable, rfl⟩ := createStatements_eq_ok_iff.1 h
  rw [runCreate_of_willing d m hs, htable]

theorem createTable_of_statements_error (h : d.createStatements m = .error e) :
    d.createTable m = .error e := by
  rw [createStatements] at h
  cases htable : d.createTable m with
  | ok sql =>
      rw [htable] at h
      cases h
  | error e' =>
      rw [htable] at h
      cases h
      rfl

/-- The models before the first that fails, with their statements. -/
theorem runCreates_append {before : List Model} {groups : List (List String)}
    (h : List.Forall₂ (fun m sqls => d.createStatements m = .ok sqls) before groups) (hs : s.Willing)
    (ms : List Model) :
    d.runCreates (before ++ ms) s = d.runCreates ms (s.after groups.flatten) := by
  induction h generalizing s with
  | nil => rfl
  | @cons m sqls before groups hm _ ih =>
      rw [List.cons_append, runCreates]
      simp only [runCreate_of_statements hs hm]
      rw [ih (hs.after sqls), List.flatten_cons, Session.after_append]

/-- **Creating several tables**: the statements of all models can be written, and are sent in order; or
there is a first model whose table cannot be written. -/
theorem runCreates_of_willing (d : Dialect) (ms : List Model) (hs : s.Willing) :
    (∃ groups, List.Forall₂ (fun m sqls => d.createStatements m = .ok sqls) ms groups ∧
        d.runCreates ms s = (.ok (), s.after groups.flatten)) ∨
      ∃ before m later groups e s', ms = before ++ m :: later ∧
        List.Forall₂ (fun m sqls => d.createStatements m = .ok sqls) before groups ∧
        d.createTable m = .error e ∧ d.runCreates ms s = (.error (m, e), s') := by
  induction ms generalizing s with
  | nil => exact .inl ⟨[], .nil, rfl⟩
  | cons m ms ih =>
      cases hm : d.createStatements m with
      | error e =>
          have htable := createTable_of_statements_error hm
          refine .inr ⟨[], m, ms, [], e, s.after (d.creation m), rfl, .nil, htable, ?_⟩
          rw [runCreates, runCreate_of_willing d m hs, htable]
          rfl
      | ok sqls =>
          have hone : List.Forall₂ (fun m sqls => d.createStatements m = .ok sqls) [m] [sqls] :=
            .cons hm .nil
          have hrest := runCreates_append hone hs ms
          rw [List.flatten_singleton, List.singleton_append] at hrest
          rw [hrest]
          obtain ⟨groups, hgroups, hrun⟩ | ⟨before, m', later, groups, e, s', rfl, hgroups, htable, hrun⟩ :=
            ih (hs.after sqls)
          · refine .inl ⟨sqls :: groups, .cons hm hgroups, ?_⟩
            rw [hrun, List.flatten_cons, Session.after_append]
          · exact .inr ⟨m :: before, m', later, sqls :: groups, e, s', rfl, .cons hm hgroups, htable, hrun⟩

end Dialect

namespace CommandLine

open Dialect

variable {d : Dialect} {m : Model} {ms : List Model} {s s' : Session} {e : Error}

/-! ### The text of a script -/

/-- The statements of a model, each on lines of its own, after an empty line. -/
def blockText (sqls : List String) : String := "\n" ++ lines sqls

/-- The first line of a script. -/
def headerText (d : Dialect) : String := "-- polyorm DDL for " ++ d.rules.name ++ "\n"

theorem modelScript_of_statements {sqls : List String} (h : d.createStatements m = .ok sqls) :
    modelScript d m = .ok (blockText sqls) := by
  rw [createStatements] at h
  rw [modelScript]
  cases htable : d.createTable m with
  | error e =>
      rw [htable] at h
      cases h
  | ok sql =>
      rw [htable] at h
      cases h
      rfl

theorem modelScript_of_error (h : d.createTable m = .error e) :
    modelScript d m = .error (.badModel m.table e) := by
  rw [modelScript, h]

/-- The statements of some models in front of others. -/
theorem modelScripts_append {before : List Model} {groups : List (List String)}
    (h : List.Forall₂ (fun m sqls => d.createStatements m = .ok sqls) before groups)
    (ms : List Model) :
    modelScripts d (before ++ ms) =
      (modelScripts d ms).map (String.join (groups.map blockText) ++ ·) := by
  induction h with
  | nil =>
      cases hms : modelScripts d ms with
      | error e => rw [List.nil_append, hms]; rfl
      | ok text => rw [List.nil_append, hms, List.map_nil, Except.map, String.join_nil, String.empty_append]
  | @cons m sqls before groups hm _ ih =>
      rw [List.cons_append, modelScripts, modelScript_of_statements hm]
      simp only [ih]
      cases modelScripts d ms with
      | error e => rfl
      | ok text => simp [Except.map, String.append_assoc]

/-- **The script of statements that can be written.** -/
theorem modelScripts_of_statements {groups : List (List String)}
    (h : List.Forall₂ (fun m sqls => d.createStatements m = .ok sqls) ms groups) :
    modelScripts d ms = .ok (String.join (groups.map blockText)) := by
  have hall := modelScripts_append h []
  rw [List.append_nil] at hall
  simp [hall, modelScripts, Except.map]

/-- **The first table that cannot be written** stops a script. -/
theorem modelScripts_of_error {before later : List Model} {groups : List (List String)}
    (h : List.Forall₂ (fun m sqls => d.createStatements m = .ok sqls) before groups)
    (hm : d.createTable m = .error e) :
    modelScripts d (before ++ m :: later) = .error (.badModel m.table e) := by
  rw [modelScripts_append h, modelScripts, modelScript_of_error hm]
  rfl

/-! ### Scripts and sessions -/

/-- **A script holds what is executed.**  If the tables of some models can be created in turn where every
statement succeeds, their script is made of the statements that are executed then, in order, a block for
each model.  Otherwise it fails with the error of the first model that fails, behind the name of its
table. -/
theorem script_of_runCreates (d : Dialect) (ms : List Model) (hs : s.Willing) :
    (∀ s', d.runCreates ms s = (.ok (), s') →
      ∃ groups, List.Forall₂ (fun m sqls => d.createStatements m = .ok sqls) ms groups ∧
        s'.log = s.log ++ groups.flatten.map Call.statement ∧
        script d ms = .ok (headerText d ++ String.join (groups.map blockText))) ∧
      ∀ m e s', d.runCreates ms s = (.error (m, e), s') →
        script d ms = .error (.badModel m.table e) ∧
          (Failure.badModel m.table e).message = m.table ++ ": " ++ e.message := by
  obtain ⟨groups, hgroups, hrun⟩ | ⟨before, m, later, groups, e, s₁, rfl, hgroups, htable, hrun⟩ :=
    runCreates_of_willing d ms hs
  · refine ⟨fun s' h => ?_, fun m e s' h => ?_⟩
    · rw [hrun] at h
      cases h
      refine ⟨groups, hgroups, Session.log_after s _, ?_⟩
      rw [script, modelScripts_of_statements hgroups]
      rfl
    · rw [hrun] at h
      cases h
  · refine ⟨fun s' h => ?_, fun m' e' s' h => ?_⟩
    · rw [hrun] at h
      cases h
    · rw [hrun] at h
      cases h
      refine ⟨?_, rfl⟩
      rw [script, modelScripts_of_error hgroups htable]
      rfl

/-- People with a generated key and an indexed name. -/
def person : Model :=
  { Model.new "Person" with
    fields :=
      [{ (Field.new "Id" .int32).primaryKey with autoIncrement := true },
        { Field.new "Name" .int32 with isIndexed := true }] }

/-- An account of amounts that have too many digits for Firebird. -/
def ledger : Model :=
  { Model.new "Ledger" with fields := [(Field.new "Amount" .decimal).precision 30 2] }

/-- What is wrong with it. -/
def tooManyDigits : Error := .precisionTooLarge "Firebird" 18 "Amount" 30

/-- The statements for people. -/
def personStatements : List String :=
  ["CREATE GENERATOR Person_Id_GEN;",
    "CREATE TABLE Person \n(\n  Id INTEGER NOT NULL PRIMARY KEY,\n  Name INTEGER NOT NULL\n);",
    "CREATE INDEX idx_person_name ON Person (Name ASC);"]

/-- A session that creates people, whose script holds the three statements, and stops at the account. -/
theorem script_of_runCreates_person :
    let d := DialectKind.firebird.dialect
    let s := Session.new [.ok 0] []
    s.Willing ∧
      (∃ s', d.runCreates [person] s = (.ok (), s') ∧
        s'.log = personStatements.map Call.statement ∧
        script d [person] = .ok (headerText d ++ blockText personStatements)) ∧
      ∃ s', d.runCreates [person, ledger] s = (.error (ledger, tooManyDigits), s') ∧
        script d [person, ledger] = .error (.badModel "Ledger" tooManyDigits) := by
  intro d s
  have hs : s.Willing := by
    intro r hr
    exact ⟨0, List.mem_singleton.1 hr⟩
  have hperson : d.createStatements person = .ok personStatements := by decide +kernel
  refine ⟨hs, ?_, ?_⟩
  · have hrun : d.runCreates [person] s = (.ok (), (d.runCreates [person] s).2) :=
      Prod.ext (by decide +kernel) rfl
    obtain ⟨groups, hgroups, hlog, hscript⟩ := (script_of_runCreates d [person] hs).1 _ hrun
    obtain ⟨sqls, rest, hsqls, hrest, rfl⟩ := List.forall₂_cons_left_iff.1 hgroups
    obtain rfl := List.forall₂_nil_left_iff.1 hrest
    rw [hperson] at hsqls
    cases hsqls
    exact ⟨_, hrun, hlog, hscript⟩
  · have hrun : d.runCreates [person, ledger] s =
        (.error (ledger, tooManyDigits), (d.runCreates [person, ledger] s).2) :=
      Prod.ext (by decide +kernel) rfl
    exact ⟨_, hrun, ((script_of_runCreates d [person, ledger] hs).2 _ _ _ hrun).1⟩

end CommandLine

end ModelSql
