/-
**Creating a table, statement by statement.**

The statements that create a table are its sequences, the table and its indexes.  They are sent one
after the other, and each is answered by a number of rows or by a failure.  Only a failure to create a
sequence may be let pass; every other one ends the creation, and so does a table that cannot be written,
which is noticed when its sequences have been created.

Main definitions:

* `Session.outcome`, `Session.after` — the answers to come, and a session that has sent statements;
* `Session.Passes`, `Session.HaltsAt` — answers that are all let pass, and the first one that is not;
* `Session.Ran` — **a run of statements, and what came out of it**;
* `Dialect.creation`, `Dialect.LetsPass` — the statements of a table, and the failures let pass.

Main results:

* `Session.Ran.executes` — what a run has sent, and when it succeeds or fails;
* `Session.Ran.snd_eq_self_iff` — when it leaves the database alone;
* `Dialect.runAll_ran` — statements run to their end or to the first failure that is not let pass;
* `Dialect.runCreate_ran` — the creation of a table is one run of its statements;
* `Dialect.runCreate_executes` — **what is sent, when the creation succeeds, and with which error it
  fails**.
-/

import Mathlib.Data.List.Basic
import ModelSql.Command.Schema

set_option relaxedAutoImplicit false
set_option autoImplicit false

namespace ModelSql

/-- The call that sends a statement. -/
def Call.statement (sql : String) : Call := ⟨false, sql, 0⟩

namespace Session

/-! ### Sending statements -/

/-- The answer to the statement at a position, counted from the next one. -/
def outcome (s : Session) (i : Nat) : Except Error Nat := s.rowCounts[i]?.getD (.ok 0)

/-- **The session after some statements**, whatever their answers were. -/
def after (s : Session) : List String → Session
  | [] => s
  | sql :: sqls => (s.execute sql).2.after sqls

variable {s : Session} {tolerates : Nat → Error → Prop}

theorem execute_fst (s : Session) (sql : String) : (s.execute sql).1 = s.outcome 0 := by
  rw [execute, outcome, List.head?_eq_getElem?]

theorem outcome_execute (s : Session) (sql : String) (i : Nat) :
    (s.execute sql).2.outcome i = s.outcome (i + 1) := by
  simp [execute, outcome]

/-- The answers to what is sent later are those that come later. -/
theorem outcome_after (s : Session) (sqls : List String) (i : Nat) :
    (s.after sqls).outcome i = s.outcome (sqls.length + i) := by
  induction sqls generalizing s with
  | nil => rw [after, List.length_nil, Nat.zero_add]
  | cons sql sqls ih =>
      rw [after, ih, outcome_execute, List.length_cons]
      congr 1
      omega

theorem after_append (s : Session) (sqls sqls' : List String) :
    s.after (sqls ++ sqls') = (s.after sqls).after sqls' := by
  induction sqls generalizing s with
  | nil => rfl
  | cons sql sqls ih => rw [List.cons_append, after, after, ih]

/-- **Each statement is logged once, in order.** -/
theorem log_after (s : Session) (sqls : List String) :
    (s.after sqls).log = s.log ++ sqls.map Call.statement := by
  induction sqls generalizing s with
  | nil => simp [after]
  | cons sql sqls ih =>
      rw [after, ih, log_execute, List.map_cons, List.append_assoc]
      rfl

/-- A session that is as it was has sent nothing. -/
theorem after_eq_self_iff {sqls : List String} : s.after sqls = s ↔ sqls = [] := by
  constructor
  · intro h
    have hlog := log_after s sqls
    rw [h] at hlog
    exact List.map_eq_nil_iff.1 (List.append_right_eq_self.1 hlog.symm)
  · rintro rfl
    rfl

/-! ### Answers that are let pass -/

/-- The first answers are successes, or failures that are let pass at their positions. -/
def Passes (s : Session) (tolerates : Nat → Error → Prop) (n : Nat) : Prop :=
  ∀ i < n, ∀ e, s.outcome i = .error e → tolerates i e

/-- **The first answer that is not let pass.** -/
structure HaltsAt (s : Session) (tolerates : Nat → Error → Prop) (n : Nat) (e : Error) : Prop where
  failed : s.outcome n = .error e
  fatal : ¬ tolerates n e
  before : s.Passes tolerates n

theorem passes_zero (s : Session) (tolerates : Nat → Error → Prop) : s.Passes tolerates 0 := by
  intro i hi
  omega

/-- The answers to two parts of a list of statements. -/
theorem passes_append {sqls : List String} {n : Nat} (hfirst : s.Passes tolerates sqls.length)
    (hlast : (s.after sqls).Passes (fun i => tolerates (sqls.length + i)) n) :
    s.Passes tolerates (sqls.length + n) := by
  intro i hi e he
  by_cases h : i < sqls.length
  · exact hfirst i h e he
  · obtain ⟨j, rfl⟩ := Nat.exists_eq_add_of_le (Nat.le_of_not_lt h)
    exact hlast j (by omega) e (by rw [outcome_after, he])

/-- What halts the second part of a list of statements halts the whole list. -/
theorem haltsAt_append {sqls : List String} {n : Nat} {e : Error}
    (hfirst : s.Passes tolerates sqls.length)
    (hlast : (s.after sqls).HaltsAt (fun i => tolerates (sqls.length + i)) n e) :
    s.HaltsAt tolerates (sqls.length + n) e where
  failed := by rw [← outcome_after, hlast.failed]
  fatal := hlast.fatal
  before := passes_append hfirst hlast.before

/-- Answers that are all let pass halt nothing. -/
theorem Passes.not_haltsAt {n k : Nat} {e : Error} (h : s.Passes tolerates n) (hk : k < n) :
    ¬ s.HaltsAt tolerates k e :=
  fun hhalts => hhalts.fatal (h k hk e hhalts.failed)

/-- Only one answer is the first that is not let pass. -/
theorem HaltsAt.unique {n : Nat} {e e' : Error} (h : s.HaltsAt tolerates n e)
    (h' : s.HaltsAt tolerates n e') : e = e' := by
  have heq := h.failed.symm.trans h'.failed
  cases heq
  rfl

/-! ### Runs -/

/-- **A run of statements, and what came out of it.**  It comes to its end, with an outcome that is known
beforehand, or it halts at the first answer that is not let pass, whose statement is the last one sent. -/
inductive Ran (s : Session) (tolerates : Nat → Error → Prop) (sqls : List String)
    (ending : Except Error Unit) : Except Error Unit × Session → Prop
  | ended (h : s.Passes tolerates sqls.length) : Ran s tolerates sqls ending (ending, s.after sqls)
  | halted {n : Nat} {e : Error} (hn : n < sqls.length) (h : s.HaltsAt tolerates n e) :
      Ran s tolerates sqls ending (.error e, s.after (sqls.take (n + 1)))

variable {ending : Except Error Unit} {r : Except Error Unit × Session}

/-- A run that goes on with more statements. -/
theorem Ran.append {sqls sqls' : List String} (hfirst : s.Passes tolerates sqls.length)
    (hlast : (s.after sqls).Ran (fun i => tolerates (sqls.length + i)) sqls' ending r) :
    s.Ran tolerates (sqls ++ sqls') ending r := by
  cases hlast with
  | ended h =>
      rw [← after_append]
      refine .ended ?_
      rw [List.length_append]
      exact passes_append hfirst h
  | @halted n e hn h =>
      rw [← after_append, ← List.take_length_add_append, ← Nat.add_assoc]
      refine .halted ?_ (haltsAt_append hfirst h)
      rw [List.length_append]
      omega

/-- What halts a run halts it in front of more statements. -/
theorem Ran.of_haltsAt {sqls : List String} (sqls' : List String) {n : Nat} {e : Error}
    (hn : n < sqls.length) (h : s.HaltsAt tolerates n e) :
    s.Ran tolerates (sqls ++ sqls') ending (.error e, s.after (sqls.take (n + 1))) := by
  have htake : (sqls ++ sqls').take (n + 1) = sqls.take (n + 1) :=
    List.take_append_of_le_length hn
  rw [← htake]
  refine .halted ?_ h
  rw [List.length_append]
  omega

/-- **What a run has sent and what came out of it.**  The statements that were sent are the first ones of
the list.  The run succeeds exactly when they are all of them, every failure was let pass and so it was
meant to end.  It fails with the first failure that is not let pass, which the last statement sent was
answered with, or as it was meant to end. -/
theorem Ran.executes {sqls : List String} (h : s.Ran tolerates sqls ending r) :
    ∃ executed, executed <+: sqls ∧ r.2 = s.after executed ∧
      (r.1 = .ok () ↔
        ending = .ok () ∧ executed = sqls ∧ s.Passes tolerates executed.length) ∧
      ∀ e, r.1 = .error e ↔
        (∃ n, executed.length = n + 1 ∧ s.HaltsAt tolerates n e) ∨
          (ending = .error e ∧ executed = sqls ∧ s.Passes tolerates executed.length) := by
  cases h with
  | ended hpass =>
      have hnever : ∀ e, ¬ ∃ n, sqls.length = n + 1 ∧ s.HaltsAt tolerates n e := by
        rintro e ⟨n, hn, hhalts⟩
        exact hpass.not_haltsAt (by omega) hhalts
      refine ⟨sqls, List.prefix_rfl, rfl, ?_, fun e => ?_⟩
      · exact ⟨fun hok => ⟨hok, rfl, hpass⟩, fun hok => hok.1⟩
      · rw [or_iff_right (hnever e)]
        exact ⟨fun herror => ⟨herror, rfl, hpass⟩, fun herror => herror.1⟩
  | @halted n e hn hhalts =>
      have hlength : (sqls.take (n + 1)).length = n + 1 := by
        rw [List.length_take]
        omega
      have hfatal : ¬ s.Passes tolerates (n + 1) :=
        fun hpass => hpass.not_haltsAt (Nat.lt_succ_self n) hhalts
      refine ⟨sqls.take (n + 1), List.take_prefix _ _, rfl, ?_, fun e' => ?_⟩
      · rw [hlength]
        exact ⟨nofun, fun hok => absurd hok.2.2 hfatal⟩
      · rw [hlength]
        constructor
        · intro heq
          cases heq
          exact .inl ⟨n, rfl, hhalts⟩
        · rintro (⟨k, hk, hhalts'⟩ | ⟨-, -, hpass⟩)
          · obtain rfl : n = k := Nat.succ.inj hk
            rw [hhalts.unique hhalts']
          · exact absurd hpass hfatal

/-- A run of nothing ends at once. -/
theorem Ran.of_nil (h : s.Ran tolerates [] ending r) : r = (ending, s) := by
  cases h with
  | ended _ => rfl
  | halted hn _ => exact absurd hn (Nat.not_lt_zero _)

/-- **A run leaves the database alone** exactly when there is nothing to send. -/
theorem Ran.snd_eq_self_iff {sqls : List String} (h : s.Ran tolerates sqls ending r) :
    r.2 = s ↔ sqls = [] := by
  cases h with
  | ended _ => exact after_eq_self_iff
  | @halted n e hn _ =>
      -- the statement with the fatal answer has been sent
      rw [after_eq_self_iff, List.take_eq_nil_iff]
      exact or_iff_right (Nat.succ_ne_zero n)

/-- A failure that is let pass wherever it comes. -/
def anywhere (tolerates : Error → Bool) (_ : Nat) (e : Error) : Prop := tolerates e = true

end Session

open Session

namespace Dialect

variable {d : Dialect} {m : Model} {s : Session}

/-- A statement in front of others: what its answer does. -/
theorem runAll_cons (tolerates : Error → Bool) (sql : String) (sqls : List String) (s : Session) :
    runAll tolerates (sql :: sqls) s =
      match s.outcome 0 with
      | .ok _ => runAll tolerates sqls (s.execute sql).2
      | .error e =>
        if tolerates e then runAll tolerates sqls (s.execute sql).2
        else (.error e, (s.execute sql).2) := by
  rw [← execute_fst s sql]
  rfl

/-- **Statements run to their end, or up to the first failure that is not let pass.** -/
theorem runAll_ran (tolerates : Error → Bool) (sqls : List String) (s : Session) :
    s.Ran (anywhere tolerates) sqls (.ok ()) (runAll tolerates sqls s) := by
  induction sqls generalizing s with
  | nil => exact .ended (passes_zero s _)
  | cons sql sqls ih =>
      rw [runAll_cons]
      cases h : s.outcome 0 with
      | ok rows =>
          have hpass : s.Passes (anywhere tolerates) [sql].length := by
            intro i hi e he
            obtain rfl : i = 0 := by simpa using hi
            rw [h] at he
            cases he
          exact Ran.append hpass (ih (s.execute sql).2)
      | error e =>
          simp only
          split
          · rename_i htolerated
            have hpass : s.Passes (anywhere tolerates) [sql].length := by
              intro i hi e' he
              obtain rfl : i = 0 := by simpa using hi
              rw [h] at he
              cases he
              exact htolerated
            exact Ran.append hpass (ih (s.execute sql).2)
          · rename_i hfatal
            exact Ran.halted (Nat.zero_lt_succ _) ⟨h, hfatal, passes_zero s _⟩

/-! ### The creation of a table -/

/-- **The statements that create a table**: its sequences, and behind them the table and its indexes, if
the table can be written. -/
def creation (d : Dialect) (m : Model) : List String :=
  d.createSequences m ++
    match d.createTable m with
    | .ok sql => sql :: d.createIndexes m
    | .error _ => []

/-- **The failures that are let pass**: of a sequence that exists already, where the configuration says
so. -/
def LetsPass (d : Dialect) (m : Model) (i : Nat) (e : Error) : Prop :=
  i < (d.createSequences m).length ∧ e.isDuplicateObject = true ∧ d.config.duplicates = .ignore

/-- Among the sequences, these are the failures that the creation tolerates. -/
theorem letsPass_of_lt {i : Nat} (hi : i < (d.createSequences m).length) {e : Error} :
    d.LetsPass m i e ↔ anywhere d.toleratesDuplicate i e := by
  rw [anywhere, toleratesDuplicate, Bool.and_eq_true, beq_iff_eq, LetsPass, and_iff_right hi, and_comm]

/-- Behind the sequences, there are none. -/
theorem not_letsPass {i : Nat} {e : Error} :
    ¬ d.LetsPass m ((d.createSequences m).length + i) e := by
  rintro ⟨hi, -⟩
  omega

theorem creation_of_ok {sql : String} (h : d.createTable m = .ok sql) :
    d.creation m = d.createSequences m ++ sql :: d.createIndexes m := by
  rw [creation, h]

theorem creation_of_error {e : Error} (h : d.createTable m = .error e) :
    d.creation m = d.createSequences m := by
  rw [creation, h, List.append_nil]

/-- All statements of a table are its list, if the table can be written. -/
theorem createStatements_eq_ok_iff {sqls : List String} :
    d.createStatements m = .ok sqls ↔
      (d.createTable m).map (fun _ => ()) = .ok () ∧ sqls = d.creation m := by
  rw [createStatements]
  cases h : d.createTable m with
  | error e => exact ⟨nofun, fun hok => by cases hok.1⟩
  | ok sql =>
      rw [creation_of_ok h]
      constructor
      · intro hok
        cases hok
        exact ⟨rfl, rfl⟩
      · rintro ⟨-, rfl⟩
        rfl

/-- What is sent for a table that cannot be written. -/
theorem createTable_eq_error_iff {sqls : List String} {e : Error} :
    (d.createTable m).map (fun _ => ()) = .error e ∧ sqls = d.creation m ↔
      d.createTable m = .error e ∧ sqls = d.createSequences m := by
  cases h : d.createTable m with
  | ok sql => exact ⟨fun herror => (by cases herror.1), fun herror => (by cases herror.1)⟩
  | error e' =>
      rw [creation_of_error h]
      constructor
      · rintro ⟨heq, rfl⟩
        cases heq
        exact ⟨rfl, rfl⟩
      · rintro ⟨heq, rfl⟩
        cases heq
        exact ⟨rfl, rfl⟩

theorem passes_sequences {n : Nat} (hn : n ≤ (d.createSequences m).length)
    (h : s.Passes (anywhere d.toleratesDuplicate) n) : s.Passes (d.LetsPass m) n :=
  fun i hi e he => (letsPass_of_lt (by omega)).2 (h i hi e he)

/-- Statements of which no failure is let pass, behind the sequences. -/
theorem ran_behind {sqls : List String} {ending : Except Error Unit}
    {r : Except Error Unit × Session} (h : s.Ran (anywhere fun _ => false) sqls ending r) :
    s.Ran (fun i => d.LetsPass m ((d.createSequences m).length + i)) sqls ending r := by
  cases h with
  | ended h => exact .ended fun i hi e he => absurd (h i hi e he) Bool.false_ne_true
  | halted hn h =>
      exact .halted hn ⟨h.failed, not_letsPass,
        fun i hi e he => absurd (h.before i hi e he) Bool.false_ne_true⟩

/-- **The creation of a table is a run of its statements.**  Where the table cannot be written, that is
how the run ends. -/
theorem runCreate_ran (d : Dialect) (m : Model) (s : Session) :
    s.Ran (d.LetsPass m) (d.creation m) ((d.createTable m).map fun _ => ()) (d.runCreate m s) := by
  unfold runCreate
  have hsequences := runAll_ran d.toleratesDuplicate (d.createSequences m) s
  generalize runAll d.toleratesDuplicate (d.createSequences m) s = r at hsequences
  cases hsequences with
  | halted hn h =>
      exact Ran.of_haltsAt _ hn
        ⟨h.failed, fun hpass => h.fatal ((letsPass_of_lt hn).1 hpass),
          passes_sequences (Nat.le_of_lt hn) h.before⟩
  | ended h =>
      have hpass := passes_sequences (Nat.le_refl _) h
      cases htable : d.createTable m with
      | error e =>
          rw [creation_of_error htable]
          exact .ended hpass
      | ok sql =>
          rw [creation_of_ok htable]
          exact Ran.append hpass (ran_behind (runAll_ran _ _ _))

/-- **What the creation of a table sends, when it succeeds, and with which error it fails.**  It sends the
first statements of the list, each once and in order.  It succeeds exactly when it has sent them all and
every failure was let pass.  Otherwise the last statement that was sent is the first whose failure is not
let pass, and that failure is the error; or the table cannot be written, and the sequences have been sent.
-/
theorem runCreate_executes (d : Dialect) (m : Model) (s : Session) :
    ∃ executed, executed <+: d.creation m ∧ (d.runCreate m s).2 = s.after executed ∧
      (d.runCreate m s).2.log = s.log ++ executed.map Call.statement ∧
      ((d.runCreate m s).1 = .ok () ↔
        d.createStatements m = .ok executed ∧ s.Passes (d.LetsPass m) executed.length) ∧
      ∀ e, (d.runCreate m s).1 = .error e ↔
        (∃ n, executed.length = n + 1 ∧ s.HaltsAt (d.LetsPass m) n e) ∨
          (d.createTable m = .error e ∧ executed = d.createSequences m ∧
            s.Passes (d.LetsPass m) executed.length) := by
  obtain ⟨executed, hprefix, hafter, hok, herror⟩ := (runCreate_ran d m s).executes
  refine ⟨executed, hprefix, hafter, by rw [hafter, log_after], ?_, fun e => ?_⟩
  · rw [hok, createStatements_eq_ok_iff, and_assoc]
  · rw [herror, ← and_assoc, createTable_eq_error_iff, and_assoc]

end Dialect

end ModelSql
