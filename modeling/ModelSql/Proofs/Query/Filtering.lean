/-
**The filter in every statement.**

A descriptor writes six kinds of statements, and each of them may keep to the rows of the filter.
Two of them put the filter on a line of its own, as it is, unless it is empty; the others put it
behind a blank, trimmed, unless it is blank.  So a filter of blanks is a condition for the first two
and none for the others, and that is the only case in which they differ.

Main definitions:

* `Statement`, `Query.text` — the kinds of statements, and their texts;
* `Query.withFilter` — the descriptor with another text for its filter;
* `Query.tail` — what stands behind the place of the condition;
* `Carries`, `Query.FiltersBy` — **statements that keep to the rows of one condition**.

Main results:

* `Query.text_withFilter` — a statement is its head, its condition and its tail, and neither head nor
  tail depends on the filter;
* `Query.filtersBy_trim`, `Query.filtersBy_none` — all statements carry the trimmed filter, or none
  carries a condition;
* `Query.filters_alike_iff` — **this is so unless the filter consists of blanks**.
-/

import Mathlib.Data.List.DropRight
import ModelSql.Proofs.Query.Operation

set_option relaxedAutoImplicit false
set_option autoImplicit false

namespace ModelSql

/-! ### Trimmed texts -/

/-- Dropping the blanks at the end leaves no blanks at the start where there are none. -/
theorem Text.dropBlanks_dropTrailingBlanks {cs : List Char} (h : dropBlanks cs = cs) :
    dropBlanks (dropTrailingBlanks cs) = dropTrailingBlanks cs := by
  refine List.dropWhile_eq_self_iff.2 fun hl => ?_
  have hfront : dropTrailingBlanks cs <+: cs := List.rdropWhile_prefix isBlank cs
  rw [hfront.getElem hl]
  exact List.dropWhile_eq_self_iff.1 h (Nat.lt_of_lt_of_le hl hfront.length_le)

/-- A text that has been trimmed has no blanks around it. -/
theorem Text.trim_trim (s : String) : trim (trim s) = trim s := by
  have hdrop : dropBlanks (dropBlanks s.toList) = dropBlanks s.toList :=
    List.dropWhile_idempotent isBlank s.toList
  have hend : dropTrailingBlanks (dropTrailingBlanks (dropBlanks s.toList)) =
      dropTrailingBlanks (dropBlanks s.toList) :=
    List.rdropWhile_idempotent isBlank (dropBlanks s.toList)
  simp only [trim, String.toList_ofList, dropBlanks_dropTrailingBlanks hdrop, hend]

/-! ### Statements -/

/-- The kinds of statements that a descriptor writes. -/
inductive Statement
  | select | count | anyRow | delete
  | update (row : Row)
  | insert (row : Row)

/-- How a statement puts a filter behind what it filters. -/
def Statement.condition (filter : String) : Statement → String
  | select | count => Query.line "WHERE " filter
  | anyRow | delete | update _ | insert _ => whereSuffix filter

namespace Query

/-- The text of a statement. -/
def text (q : Query) : Statement → Except Error String
  | .select => .ok q.selectStatement
  | .count => .ok q.countStatement
  | .anyRow => .ok q.existsStatement
  | .delete => .ok q.deleteStatement
  | .update row => (q.updateStatement row).1
  | .insert row => (q.insertStatement row).1

/-- What stands behind the place of the condition in a statement. -/
def tail (q : Query) : Statement → String
  | .select =>
    line "" q.groupBy ++ line "HAVING " q.having ++ line "" q.orderByText ++ line "" q.pagingText
  | .count => line "" q.groupBy ++ line "HAVING " q.having
  | .anyRow =>
    match q.dialect.kind with
    | .sqlserver => ") THEN 1 ELSE 0 END"
    | _ => ")"
  | .delete | .update _ => ""
  | .insert _ => ")"

/-- The descriptor with another text for its filter. -/
def withFilter (q : Query) (filter : String) : Query := { q with filterText := filter }

@[simp] theorem filterText_withFilter (q : Query) (filter : String) :
    (q.withFilter filter).filterText = filter := rfl

@[simp] theorem dialect_withFilter (q : Query) (filter : String) :
    (q.withFilter filter).dialect = q.dialect := rfl

@[simp] theorem model_withFilter (q : Query) (filter : String) :
    (q.withFilter filter).model = q.model := rfl

@[simp] theorem dualSource_withFilter (q : Query) (filter : String) :
    (q.withFilter filter).dualSource = q.dualSource := rfl

@[simp] theorem scope_withFilter (q : Query) (filter : String) :
    (q.withFilter filter).scope = q.scope := rfl

@[simp] theorem updateFieldsOf_withFilter (q : Query) (filter : String) :
    (q.withFilter filter).updateFieldsOf = q.updateFieldsOf := rfl

@[simp] theorem insertFieldsOf_withFilter (q : Query) (filter : String) :
    (q.withFilter filter).insertFieldsOf = q.insertFieldsOf := rfl

/-! ### Statements around their condition -/

/-- Writing a clause does not look at the filter, and leaves it as it is. -/
theorem write_withFilter {α : Type} (q : Query) (c : Clause) (extend : Bool) (step : Compile α) :
    (∃ e q', ∀ filter,
        (q.withFilter filter).write c extend step = .error (e, withFilter q' filter)) ∨
      ∃ a q', ∀ filter,
        (q.withFilter filter).write c extend step = .ok (a, withFilter q' filter) := by
  cases h : q.write c extend step with
  | error failed =>
      refine .inl ⟨failed.1, failed.2, fun filter => ?_⟩
      cases hb : step ⟨q.parameters, q.counter⟩ with
      | ok p => simp [write, hb] at h
      | error stopped =>
          simp only [write, hb, Except.error.injEq] at h
          simp [write, withFilter, hb, ← h]
  | ok p =>
      refine .inr ⟨p.1, p.2, fun filter => ?_⟩
      cases hb : step ⟨q.parameters, q.counter⟩ with
      | error stopped => simp [write, hb] at h
      | ok r =>
          simp only [write, hb, Except.ok.injEq] at h
          simp [write, withFilter, hb, ← h]

/-- The statement with assignments ends with the condition. -/
theorem updateStatement_withFilter (q : Query) (row : Row) :
    ∃ head : Except Error String, ∀ filter,
      ((q.withFilter filter).updateStatement row).1 =
        head.map fun text => text ++ whereSuffix filter := by
  obtain ⟨e, q', h⟩ | ⟨columns, q', h⟩ :=
    q.write_withFilter .update false (fieldValues q.scope row q.updateFieldsOf)
  · exact ⟨.error e, fun filter => by simp [updateStatement, h, Except.map]⟩
  · cases hc : columns.isEmpty with
    | true =>
        refine ⟨.error (.nothingToUpdate q'.model.name), fun filter => ?_⟩
        simp only [updateStatement, scope_withFilter, updateFieldsOf_withFilter, h, hc, if_true,
          model_withFilter, Except.map]
    | false =>
        refine ⟨.ok ("UPDATE " ++ q'.dialect.quotedTable q'.model ++ " SET " ++
          Text.joinWith ", " (columns.map fun c => c.1 ++ " = " ++ c.2)), fun filter => ?_⟩
        simp only [updateStatement, scope_withFilter, updateFieldsOf_withFilter, h, hc,
          Bool.false_eq_true, if_false, model_withFilter, dialect_withFilter, filterText_withFilter,
          Except.map]

/-- The statement that looks for a row before it inserts one closes a parenthesis behind the
condition. -/
theorem insertStatement_withFilter (q : Query) (row : Row) :
    ∃ head : Except Error String, ∀ filter,
      ((q.withFilter filter).insertStatement row).1 =
        head.map fun text => text ++ whereSuffix filter ++ ")" := by
  obtain ⟨e, q', h⟩ | ⟨columns, q', h⟩ :=
    q.write_withFilter .insert false (fieldValues q.scope row q.insertFieldsOf)
  · exact ⟨.error e, fun filter => by simp [insertStatement, h, Except.map]⟩
  · cases hc : columns.isEmpty with
    | true =>
        refine ⟨.error (.nothingToInsert q'.model.name), fun filter => ?_⟩
        simp only [insertStatement, scope_withFilter, insertFieldsOf_withFilter, h, hc, if_true,
          model_withFilter, Except.map]
    | false =>
        refine ⟨.ok ("INSERT INTO " ++ q'.dialect.quotedTable q'.model ++ " (" ++
          Text.joinWith "," (columns.map (·.1)) ++ ") SELECT " ++
          Text.joinWith "," (columns.map (·.2)) ++ q'.dualSource ++
          " WHERE NOT EXISTS (SELECT 1 FROM " ++ q'.dialect.quotedTable q'.model), fun filter => ?_⟩
        simp only [insertStatement, scope_withFilter, insertFieldsOf_withFilter, h, hc,
          Bool.false_eq_true, if_false, model_withFilter, dialect_withFilter, dualSource_withFilter,
          filterText_withFilter, Except.map]

/-- The question whether there is a row goes on behind the condition as the database wants it. -/
theorem existsStatement_withFilter (q : Query) :
    ∃ head, ∀ filter,
      (q.withFilter filter).existsStatement = head ++ whereSuffix filter ++ q.tail .anyRow := by
  let inner := "EXISTS(SELECT 1 FROM " ++ q.dialect.quotedTable q.model
  cases hk : q.dialect.kind with
  | firebird =>
      exact ⟨"SELECT 1 FROM RDB$DATABASE WHERE " ++ inner, fun filter => by
        simp [existsStatement, Dialect.existsRow, withFilter, tail, hk, inner, String.append_assoc]⟩
  | sqlserver =>
      exact ⟨"SELECT CASE WHEN " ++ inner, fun filter => by
        simp [existsStatement, Dialect.existsRow, withFilter, tail, hk, inner, String.append_assoc]⟩
  | mysql | postgres | sqlite =>
      exact ⟨"SELECT " ++ inner, fun filter => by
        simp [existsStatement, Dialect.existsRow, withFilter, tail, hk, inner, String.append_assoc]⟩

/-- **A statement is its head, its condition and its tail**, and only the condition depends on the
filter. -/
theorem text_withFilter (q : Query) (s : Statement) :
    ∃ head : Except Error String, ∀ filter,
      (q.withFilter filter).text s =
        head.map fun text => text ++ s.condition filter ++ q.tail s := by
  cases s with
  | select =>
      refine ⟨.ok q.select, fun filter => ?_⟩
      simp only [Except.map, tail, String.append_assoc, text, selectStatement, filterLines]
      rfl
  | count =>
      refine ⟨.ok (q.selectFrom "COUNT(*)"), fun filter => ?_⟩
      simp only [Except.map, tail, String.append_assoc, text, countStatement, filterLines]
      rfl
  | anyRow =>
      obtain ⟨head, hhead⟩ := q.existsStatement_withFilter
      exact ⟨.ok head, fun filter => congrArg Except.ok (hhead filter)⟩
  | delete =>
      refine ⟨.ok ("DELETE FROM " ++ q.dialect.quotedTable q.model), fun filter => ?_⟩
      simp only [Except.map, tail, String.append_empty]
      rfl
  | update row =>
      obtain ⟨head, hhead⟩ := q.updateStatement_withFilter row
      refine ⟨head, fun filter => ?_⟩
      simp only [tail, String.append_empty]
      exact hhead filter
  | insert row => exact q.insertStatement_withFilter row

/-! ### One condition for all statements -/

/-- A statement that carries a condition, or none: it is the statement without condition, `plain`, with
the condition put in before the tail, behind a blank or on a new line. -/
def Carries (plain tail : String) : Option String → String → Prop
  | none, sql => sql = plain
  | some condition, sql =>
    ∃ head gap filter, plain = head ++ tail ∧ (gap = " " ∨ gap = "\n") ∧
      Text.trim filter = condition ∧ sql = head ++ gap ++ "WHERE " ++ filter ++ tail

/-- **Every statement carries the same condition**, compared without the blanks around it, or none of
them carries one.  The statement without condition is that of the descriptor without filter. -/
def FiltersBy (q : Query) (condition : Option String) : Prop :=
  ∀ s sql, q.text s = .ok sql →
    ∃ plain, (q.withFilter "").text s = .ok plain ∧ Carries plain (q.tail s) condition sql

/-- A condition that some way of putting it in shows trimmed. -/
theorem carries_some {head tail clause filter gap : String} (hgap : gap = " " ∨ gap = "\n")
    (hclause : clause = gap ++ "WHERE " ++ filter) :
    Carries (head ++ tail) tail (some (Text.trim filter)) (head ++ clause ++ tail) :=
  ⟨head, gap, filter, rfl, hgap, rfl, by simp only [hclause, String.append_assoc]⟩

/-- A statement that carries a condition is longer than the one without. -/
theorem Carries.length_lt {plain tail condition sql : String}
    (h : Carries plain tail (some condition) sql) : plain.length < sql.length := by
  obtain ⟨head, gap, filter, rfl, -, -, rfl⟩ := h
  simp only [String.length_append, show "WHERE ".length = 6 from rfl]
  omega

theorem condition_empty (s : Statement) : s.condition "" = "" := by
  cases s <;> rfl

/-- A statement that succeeds, and the statement without condition beside it. -/
theorem exists_head {q : Query} {s : Statement} {sql : String} (h : q.text s = .ok sql) :
    ∃ head, sql = head ++ s.condition q.filterText ++ q.tail s ∧
      (q.withFilter "").text s = .ok (head ++ q.tail s) := by
  obtain ⟨head, hhead⟩ := q.text_withFilter s
  have hsql := hhead q.filterText
  have hplain := hhead ""
  cases head with
  | error e =>
      rw [show q.withFilter q.filterText = q from rfl, h] at hsql
      cases hsql
  | ok head =>
      rw [show q.withFilter q.filterText = q from rfl, h, Except.map, Except.ok.injEq] at hsql
      simp only [condition_empty, String.append_empty] at hplain
      exact ⟨head, hsql, hplain⟩

/-- Without filter no statement carries a condition. -/
theorem filtersBy_none {q : Query} (h : q.filterText = "") : q.FiltersBy none := by
  intro s sql hsql
  obtain ⟨head, rfl, hplain⟩ := exists_head hsql
  rw [h, condition_empty, String.append_empty]
  exact ⟨_, hplain, rfl⟩

/-- **A filter that has more than blanks is in every statement**, trimmed or as it is. -/
theorem filtersBy_trim {q : Query} (h : Text.isAllBlank q.filterText = false) :
    q.FiltersBy (some (Text.trim q.filterText)) := by
  have hne : q.filterText.isEmpty = false := by
    rw [String.isEmpty_eq_false_iff]
    rintro hempty
    rw [hempty] at h
    cases h
  intro s sql hsql
  obtain ⟨head, rfl, hplain⟩ := exists_head hsql
  refine ⟨_, hplain, ?_⟩
  cases s with
  | select | count =>
      exact carries_some (.inr rfl) (by simp [Statement.condition, line, hne])
  | anyRow | delete | update row | insert row =>
      have htrim := Text.trim_trim q.filterText
      rw [← htrim]
      exact carries_some (.inl rfl) (by simp [Statement.condition, whereSuffix, h])

/-- **A filter of blanks is in some statements and not in others.** -/
theorem not_filtersBy {q : Query} (hne : q.filterText ≠ "") (h : Text.isAllBlank q.filterText = true)
    (condition : Option String) : ¬ q.FiltersBy condition := by
  intro hall
  cases condition with
  | none =>
      -- the statement that counts rows carries the blanks
      obtain ⟨head, hsql, hplain⟩ := exists_head (q := q) (s := .count) rfl
      obtain ⟨plain, hplain', hcarries⟩ := hall .count _ rfl
      rw [hplain, Except.ok.injEq] at hplain'
      have hline : Statement.condition q.filterText .count = "\n" ++ "WHERE " ++ q.filterText := by
        rw [Statement.condition, line, if_neg (by simpa using hne)]
      have hlonger : (head ++ q.tail .count).length < q.countStatement.length := by
        rw [hsql]
        exact (carries_some (.inr rfl) hline).length_lt
      rw [show q.countStatement = plain from hcarries, ← hplain'] at hlonger
      exact Nat.lt_irrefl _ hlonger
  | some condition =>
      -- the statement that deletes rows carries nothing
      obtain ⟨plain, hplain, hcarries⟩ := hall .delete _ rfl
      have hdelete : (q.withFilter "").text .delete = .ok q.deleteStatement := by
        simp only [text, deleteStatement, whereSuffix, h, if_true]
        rfl
      rw [hdelete, Except.ok.injEq] at hplain
      exact Nat.lt_irrefl _ (hplain ▸ hcarries.length_lt)

/-- **All statements filter by the same condition unless the filter consists of blanks.** -/
theorem filters_alike_iff (q : Query) :
    (∃ condition, q.FiltersBy condition) ↔
      q.filterText = "" ∨ Text.isAllBlank q.filterText = false := by
  constructor
  · rintro ⟨condition, h⟩
    by_cases hempty : q.filterText = ""
    · exact .inl hempty
    · exact .inr (Bool.eq_false_iff.2 fun hblank => not_filtersBy hempty hblank condition h)
  · rintro (h | h)
    · exact ⟨none, filtersBy_none h⟩
    · exact ⟨_, filtersBy_trim h⟩

/-- A descriptor whose filter is a blank. -/
def blankFiltered : Query :=
  ((new DialectKind.sqlite.dialect people).perform (.filterRaw " " [])).2

/-- It counts the rows with a condition, which is no SQL, and deletes every row. -/
theorem blankFiltered_not_alike :
    blankFiltered.Reachable ∧
      blankFiltered.text .count = .ok "SELECT COUNT(*) \nFROM \"Person\"\nWHERE  " ∧
      blankFiltered.text .delete = .ok "DELETE FROM \"Person\"" ∧
      ¬ ∃ condition, blankFiltered.FiltersBy condition :=
  ⟨.perform _ (.new _ _), by rfl, by rfl,
    fun ⟨condition, h⟩ => not_filtersBy (by decide) (by decide) condition h⟩

end Query

end ModelSql
