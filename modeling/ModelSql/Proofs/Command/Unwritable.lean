/-
**Tables that cannot be written, in front of a database.**

The creation of a table sends its sequences first, and then writes the statement for the table.  A table may
have a field without a column, so that there is no such statement.  Nothing of this depends on the answers of
the database, but it comes to light behind the sequences: a table that cannot be written leaves its sequences
in the database.  Only where no field has a sequence is the database left alone.

Main definitions:

* `Dialect.HasSequence` — the fields whose sequences are created with the table.

Main results:

* `Dialect.createSequences_eq_nil_iff` — the tables that are created without sequences;
* `Dialect.unwritable_ran` — what is sent for a table that cannot be written;
* `Dialect.runCreate_unwritable` — **when the database is left alone, and which error there is**.
-/

import ModelSql.Proofs.Command.Creation
import ModelSql.Proofs.Dialect.Decimal

set_option relaxedAutoImplicit false
set_option autoImplicit false

namespace ModelSql.Dialect

open Session

variable {d : Dialect} {m : Model} {f : Field} {e : Error} {s : Session}

/-! ### Sequences -/

/-- **A field whose sequence is created with the table**: one that it names, where the database has
sequences, or else its generator, where the database numbers fields by generators. -/
def HasSequence (d : Dialect) (f : Field) : Prop :=
  (f.sequence ≠ none ∧ d.rules.hasSequences = true) ∨
    (f.sequence = none ∧ f.autoIncrement = true ∧ d.rules.identity = .generator)

theorem sequence?_eq_none_iff : d.sequence? m f = none ↔ ¬ d.HasSequence f := by
  unfold sequence? HasSequence
  cases f.sequence with
  | some name => cases d.rules.hasSequences <;> simp
  | none => simp

theorem firstOnes_nil_eq_nil_iff {names : List String} : firstOnes [] names = [] ↔ names = [] := by
  simp only [List.eq_nil_iff_forall_not_mem, mem_firstOnes, List.not_mem_nil, not_false_eq_true, and_true]

/-- **The tables that are created without sequences** are those whose fields have none. -/
theorem createSequences_eq_nil_iff :
    d.createSequences m = [] ↔ ∀ f ∈ m.fields, ¬ d.HasSequence f := by
  rw [createSequences, List.map_eq_nil_iff, sequences, firstOnes_nil_eq_nil_iff,
    List.filterMap_eq_nil_iff]
  exact forall₂_congr fun f _ => sequence?_eq_none_iff

/-! ### The run -/

/-- **What is sent for a table that cannot be written** are its sequences, and then the run ends with the
error of the table. -/
theorem unwritable_ran (h : d.createTable m = .error e) (s : Session) :
    s.Ran (d.LetsPass m) (d.createSequences m) (.error e) (d.runCreate m s) := by
  have hran := runCreate_ran d m s
  rw [creation_of_error h, h] at hran
  exact hran

/-- **A table that cannot be written, in front of a database.**  Some field has no column, and the error of
the table is that of the first one.  Sequences are sent, up to the first one whose failure is not let pass.
The creation fails with this failure, or else with the error of the table.  Nothing is sent exactly when no
field has a sequence, and only then are the database left alone and the error that of the table. -/
theorem runCreate_unwritable (h : d.createTable m = .error e) (s : Session) :
    d.FirstColumnless m.fields e ∧
      ∃ executed, executed <+: d.createSequences m ∧ (d.runCreate m s).2 = s.after executed ∧
        (∀ e', (d.runCreate m s).1 = .error e' ↔
          (∃ n, executed.length = n + 1 ∧ s.HaltsAt (d.LetsPass m) n e') ∨
            (e = e' ∧ executed = d.createSequences m ∧
              s.Passes (d.LetsPass m) executed.length)) ∧
        (executed = [] ↔ ∀ f ∈ m.fields, ¬ d.HasSequence f) ∧
        (d.runCreate m s = (.error e, s) ↔ ∀ f ∈ m.fields, ¬ d.HasSequence f) := by
  have hran := unwritable_ran h s
  obtain ⟨executed, hprefix, hafter, -, herror⟩ := hran.executes
  have halone : (d.runCreate m s).2 = s ↔ ∀ f ∈ m.fields, ¬ d.HasSequence f :=
    hran.snd_eq_self_iff.trans createSequences_eq_nil_iff
  refine ⟨createTable_eq_error_iff_firstColumnless.1 h, executed, hprefix, hafter, fun e' => ?_, ?_, ?_⟩
  · rw [herror, Except.error.injEq]
  · rw [← halone, hafter, after_eq_self_iff]
  · constructor
    · intro hclean
      exact halone.1 (congrArg Prod.snd hclean)
    · intro hnone
      rw [createSequences_eq_nil_iff.2 hnone] at hran
      exact hran.of_nil

/-- An amount with more digits than Firebird has. -/
def amount : Field := (Field.new "Amount" .decimal).precision 30 2

/-- A ledger with this amount, whose lines are numbered outside the database. -/
def ledger : Model :=
  { Model.new "Ledger" with fields := [Field.new "Id" .int32, amount] }

/-- Its creation does nothing. -/
theorem runCreate_unwritable_ledger :
    let d := DialectKind.firebird.dialect
    let s := Session.new [.ok 1] []
    let e := Error.precisionTooLarge "Firebird" 18 "Amount" 30
    d.createTable ledger = .error e ∧ d.FirstColumnless ledger.fields e ∧
      d.runCreate ledger s = (.error e, s) := by
  intro d s e
  have h : d.createTable ledger = .error e := by decide +kernel
  obtain ⟨hcolumnless, executed, -, -, -, -, hclean⟩ := runCreate_unwritable h s
  refine ⟨h, hcolumnless, hclean.2 ?_⟩
  unfold HasSequence
  decide

/-- The ledger with lines that the database numbers. -/
def numberedLedger : Model :=
  { Model.new "Ledger" with
    fields := [{ Field.new "Id" .int32 with autoIncrement := true }, amount] }

/-- **A table that cannot be written leaves a generator behind.** -/
theorem runCreate_not_clean :
    let d := DialectKind.firebird.dialect
    let r := d.runCreate numberedLedger (.new [] [])
    numberedLedger.build.isOk = true ∧
      d.createTable numberedLedger = .error (.precisionTooLarge "Firebird" 18 "Amount" 30) ∧
      r.1 = .error (.precisionTooLarge "Firebird" 18 "Amount" 30) ∧
      r.2.log = [Call.statement "CREATE GENERATOR Ledger_Id_GEN;"] := by
  decide +kernel

end ModelSql.Dialect
