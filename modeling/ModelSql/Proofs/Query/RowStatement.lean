/-
**The values of a row, with a descriptor and without one.**

A row is written into a table in two ways: by a statement of its own, which finds the row by its key,
and by the statement of a descriptor, which keeps to the filter.  Each goes through the fields by
itself, but with literals both leave out the same fields, write the same columns with the same values,
and refuse the same rows with the same error.

Main definitions:

* `Dialect.rowLiterals` — columns with the literals of a row;
* `Dialect.setList` — the assignments of an update.

Main results:

* `Query.allows_eq`, `Query.skips_eq` — both leave out the same fields;
* `Dialect.assignments_eq`, `Dialect.insertColumns_eq`, `Query.fieldValues_eq` — all fields are gone
  through alike;
* `Dialect.insertText_eq_insertDefaults_iff` — when a row of defaults is inserted;
* `Query.rowStatements_agree` — **the statements of a descriptor and those of a row agree**.
-/

import ModelSql.Proofs.Model.Built
import ModelSql.Proofs.Query.Binding
import ModelSql.Proofs.Syntax.Quotation

set_option relaxedAutoImplicit false
set_option autoImplicit false

namespace ModelSql

/-! ### The fields of a statement -/

namespace Query

/-- The statements of a descriptor keep to the fields that those of a row keep to. -/
theorem allows_eq (allowed : List String) (f : Field) : allows allowed f = selects allowed f := by
  have hcomm : (fun name => name == f.name) = (f.name == ·) := funext fun _ => BEq.comm
  rw [allows, selects, List.contains_eq_any_beq, hcomm]

/-- **An update of a descriptor assigns the fields that an update of a row sets.** -/
theorem skips_eq (m : Model) (allowed : List String) (f : Field) :
    (!skips m allowed f) = Dialect.updates m allowed f := by
  rw [skips, Dialect.updates, allows_eq, Bool.not_or, Bool.not_or, Bool.not_or, Bool.not_not]

theorem updateFieldsOf_eq (q : Query) :
    q.updateFieldsOf = q.model.fields.filter (Dialect.updates q.model q.updateFields) := by
  unfold updateFieldsOf
  simp only [skips_eq]

end Query

/-! ### Columns with literals -/

namespace Dialect

/-- The columns of some fields, each with the literal of its value in a row. -/
def rowLiterals (d : Dialect) (row : Row) : List Field → Except Error (List (String × String))
  | [] => .ok []
  | f :: fs =>
    match d.fieldLiteral f (row.value f.name) with
    | .error e => .error e
    | .ok sql => (rowLiterals d row fs).map ((d.quotedField f, sql) :: ·)

/-- The assignments of an update of a row, of which there must be one. -/
def setList (d : Dialect) (m : Model) (row : Row) (allowed : List String) : Except Error String :=
  match d.rowLiterals row (m.fields.filter (updates m allowed)) with
  | .error e => .error e
  | .ok columns =>
    if columns.isEmpty then .error (.nothingToUpdate m.name)
    else .ok (Text.joinWith ", " (columns.map fun c => c.1 ++ " = " ++ c.2))

variable {d : Dialect} {m : Model} {allowed : List String} {row : Row} {fs : List Field}
  {columns : List (String × String)}

theorem assignments_eq :
    d.assignments row fs =
      (d.rowLiterals row fs).map (List.map fun c => c.1 ++ " = " ++ c.2) := by
  induction fs with
  | nil => rfl
  | cons f fs ih =>
      rw [assignments, rowLiterals, ih]
      cases d.fieldLiteral f (row.value f.name) with
      | error e => rfl
      | ok sql => cases d.rowLiterals row fs <;> rfl

/-- The columns are those of the fields, each with the literal of the value that the row holds. -/
theorem forall₂_of_rowLiterals (h : d.rowLiterals row fs = .ok columns) :
    List.Forall₂ (fun f c => c.1 = d.quotedField f ∧ d.fieldLiteral f (row.value f.name) = .ok c.2)
      fs columns := by
  induction fs generalizing columns with
  | nil =>
      cases h
      exact .nil
  | cons f fs ih =>
      rw [rowLiterals] at h
      cases hsql : d.fieldLiteral f (row.value f.name) with
      | error e =>
          rw [hsql] at h
          cases h
      | ok sql =>
          rw [hsql] at h
          obtain ⟨rest, hrest, rfl⟩ := map_eq_ok h
          exact .cons ⟨rfl, hsql⟩ (ih hrest)

/-- **The update of a row that its key finds.** -/
theorem updateRow_eq {condition : String} (hkey : m.primaryKeys ≠ [])
    (hcondition : d.rowFilter m row = .ok condition) :
    d.updateRow m row allowed =
      (d.setList m row allowed).map fun sets =>
        "UPDATE " ++ d.quotedTable m ++ " SET " ++ sets ++ " WHERE " ++ condition := by
  rw [updateRow, if_neg (by simpa using hkey), assignments_eq, setList, hcondition]
  cases d.rowLiterals row (m.fields.filter (updates m allowed)) with
  | error e => rfl
  | ok columns => cases columns <;> rfl

/-! ### Insertions without a session -/

/-- Without a session, an insertion gives values to the fields that the database does not make. -/
theorem insertValue_without_session {f : Field} {last : Option Int64} :
    d.insertValue m allowed f ⟨row, none, last⟩ =
      (.ok (if Query.inserts allowed f then some (row.value f.name) else none), ⟨row, none, last⟩) := by
  unfold insertValue Query.inserts
  rw [Query.allows_eq]
  cases f.isComputed with
  | true => rfl
  | false =>
      cases selects allowed f with
      | false => simp
      | true =>
          cases f.isGenerated with
          | false => rfl
          | true => cases d.sequence? m f <;> rfl

theorem insertColumns_eq {last : Option Int64} :
    d.insertColumns m allowed fs ⟨row, none, last⟩ =
      (d.rowLiterals row (fs.filter (Query.inserts allowed)), ⟨row, none, last⟩) := by
  induction fs with
  | nil => rfl
  | cons f fs ih =>
      rw [insertColumns, insertValue_without_session]
      by_cases hinserts : Query.inserts allowed f = true
      · rw [List.filter_cons_of_pos hinserts, if_pos hinserts, rowLiterals]
        simp only [ih]
        cases d.fieldLiteral f (row.value f.name) <;> rfl
      · rw [List.filter_cons_of_neg hinserts, if_neg hinserts]
        exact ih

/-! ### A row of defaults -/

/-- No name starts with a closing parenthesis. -/
theorem head_quoteName_ne_close (name : String) :
    ∃ c cs, (d.quoteName name).toList = c :: cs ∧ c ≠ ')' := by
  have hopen (k : DialectKind) : k.rules.openQuote ≠ ')' := by
    cases k <;> decide
  unfold quoteName
  split
  · rw [escapeName, String.toList_ofList]
    exact ⟨_, _, rfl, hopen d.kind⟩
  · rename_i hq
    have hplain := isPlainName_of_not_needsQuotes hq
    cases hname : name.toList with
    | nil => simp [hname, Text.isPlainName] at hplain
    | cons c cs =>
        refine ⟨c, cs, rfl, ?_⟩
        rintro rfl
        rw [hname] at hplain
        have hstart : Text.isNameStart ')' = true := by
          simp only [Text.isPlainName, Bool.and_eq_true] at hplain
          exact hplain.1
        revert hstart
        decide

theorem head_joinWith {c : Char} {cs : List Char} {text : String} (sep : String) (texts : List String)
    (h : text.toList = c :: cs) : ∃ rest, (Text.joinWith sep (text :: texts)).toList = c :: rest := by
  cases texts with
  | nil => exact ⟨cs, h⟩
  | cons t texts =>
      rw [Text.joinWith_cons_cons, String.toList_append, String.toList_append, h]
      exact ⟨_, rfl⟩

/-- **A row of defaults is inserted exactly when no column is named.** -/
theorem insertText_eq_insertDefaults_iff (hcolumns : columns.map (·.1) = fs.map d.quotedField) :
    d.insertText m columns = d.insertDefaults (d.quotedTable m) ↔ columns = [] := by
  constructor
  · intro h
    by_contra hne
    obtain ⟨column, rest, rfl⟩ := List.exists_cons_of_ne_nil hne
    obtain ⟨f, gs, rfl⟩ : ∃ f gs, fs = f :: gs := by
      cases fs with
      | nil => cases hcolumns
      | cons f gs => exact ⟨f, gs, rfl⟩
    rw [List.map_cons, List.map_cons, List.cons.injEq] at hcolumns
    obtain ⟨c, cs, hname, hc⟩ := d.head_quoteName_ne_close (d.columnName f.column)
    obtain ⟨tail, hjoin⟩ := head_joinWith "," (rest.map (·.1))
      ((congrArg String.toList hcolumns.1).trans hname)
    -- behind the table the texts go on with different characters
    have hlist := congrArg String.toList h
    unfold insertText insertDefaults at hlist
    rw [if_neg (by simp), List.map_cons] at hlist
    split at hlist
    · simp only [String.toList_append, List.append_assoc, List.append_cancel_left_eq, hjoin] at hlist
      simp only [String.reduceToList, List.cons_append, List.nil_append, List.cons.injEq] at hlist
      exact hc hlist.2.2.1
    · simp only [String.toList_append, List.append_assoc, List.append_cancel_left_eq] at hlist
      simp at hlist
  · rintro rfl
    rfl

end Dialect

/-! ### Literals of a descriptor -/

namespace Query

/-- **With literals, a descriptor goes through the fields as a row of its own does.** -/
theorem fieldValues_eq {s : Scope} {row : Row} {fs : List Field} (hs : s.parameterized = false) :
    fieldValues s row fs = outcome (s.dialect.rowLiterals row fs) := by
  induction fs with
  | nil => rfl
  | cons f fs ih =>
      rw [fieldValues, ih, Dialect.rowLiterals, fieldValue, hs]
      rw [if_neg (by simp)]
      cases s.dialect.fieldLiteral f (row.value f.name) with
      | error e => rfl
      | ok sql => cases s.dialect.rowLiterals row fs <;> rfl

variable {q : Query} {row : Row}

/-- The statement of a descriptor that inserts the columns, of which there must be one. -/
def insertSelect (q : Query) (columns : List (String × String)) : Except Error String :=
  let table := q.dialect.quotedTable q.model
  if columns.isEmpty then .error (.nothingToInsert q.model.name)
  else
    .ok ("INSERT INTO " ++ table ++ " (" ++ Text.joinWith "," (columns.map (·.1)) ++ ") SELECT " ++
      Text.joinWith "," (columns.map (·.2)) ++ q.dualSource ++ " WHERE NOT EXISTS (SELECT 1 FROM " ++
      table ++ whereSuffix q.filterText ++ ")")

theorem insertSelect_eq_error_iff {columns : List (String × String)} :
    (∃ e, q.insertSelect columns = .error e) ↔ columns = [] := by
  unfold insertSelect
  cases columns with
  | nil => simp
  | cons c cs => simp

theorem updateStatement_eq (hq : q.parameterized = false) :
    (q.updateStatement row).1 =
      (q.dialect.setList q.model row q.updateFields).map fun sets =>
        "UPDATE " ++ q.dialect.quotedTable q.model ++ " SET " ++ sets ++ whereSuffix q.filterText := by
  have hvalues : fieldValues q.scope row q.updateFieldsOf =
      outcome (q.dialect.rowLiterals row q.updateFieldsOf) := fieldValues_eq hq
  rw [updateStatement, hvalues, Dialect.setList, ← updateFieldsOf_eq]
  cases q.dialect.rowLiterals row q.updateFieldsOf with
  | error e => rfl
  | ok columns => cases columns <;> rfl

theorem insertStatement_eq (hq : q.parameterized = false) :
    (q.insertStatement row).1 =
      (q.dialect.rowLiterals row q.insertFieldsOf).bind q.insertSelect := by
  have hvalues : fieldValues q.scope row q.insertFieldsOf =
      outcome (q.dialect.rowLiterals row q.insertFieldsOf) := fieldValues_eq hq
  rw [insertStatement, hvalues]
  cases q.dialect.rowLiterals row q.insertFieldsOf with
  | error e => rfl
  | ok columns => cases columns <;> rfl

/-- **With literals, the statements of a descriptor and those of a row agree.**  An update of a row that
its key finds sets the same columns to the same values, and fails with the same error.  An insertion has
the same columns and values or fails with the same error; without columns the descriptor refuses it, and
a row of defaults is inserted otherwise. -/
theorem rowStatements_agree (hq : q.parameterized = false) (row : Row) (last : Option Int64) :
    let sets := q.dialect.setList q.model row q.updateFields
    let lists := q.dialect.rowLiterals row (q.model.fields.filter (inserts q.insertFields))
    let table := q.dialect.quotedTable q.model
    let inserted := q.dialect.insertRow q.model q.insertFields ⟨row, none, last⟩
    (∀ condition, q.model.primaryKeys ≠ [] → q.dialect.rowFilter q.model row = .ok condition →
      (q.updateStatement row).1 =
        sets.map (fun s => "UPDATE " ++ table ++ " SET " ++ s ++ whereSuffix q.filterText) ∧
      q.dialect.updateRow q.model row q.updateFields =
        sets.map (fun s => "UPDATE " ++ table ++ " SET " ++ s ++ " WHERE " ++ condition)) ∧
    (q.insertStatement row).1 = lists.bind q.insertSelect ∧
    inserted = (lists.map (q.dialect.insertText q.model), ⟨row, none, last⟩) ∧
    ∀ columns, lists = .ok columns →
      ((∃ e, (q.insertStatement row).1 = .error e) ↔ columns = []) ∧
      (inserted.1 = .ok (q.dialect.insertDefaults table) ↔ columns = []) := by
  intro sets lists table inserted
  have hinsert : (q.insertStatement row).1 = lists.bind q.insertSelect := insertStatement_eq hq
  have hinserted : inserted = (lists.map (q.dialect.insertText q.model), ⟨row, none, last⟩) := by
    simp only [inserted, lists, Dialect.insertRow, Dialect.insertColumns_eq]
  refine ⟨fun condition hkey hcondition => ⟨updateStatement_eq hq, ?_⟩, hinsert, hinserted,
    fun columns hlists => ⟨?_, ?_⟩⟩
  · exact Dialect.updateRow_eq hkey hcondition
  · rw [hinsert, hlists]
    exact insertSelect_eq_error_iff
  · rw [hinserted, hlists, ← Dialect.insertText_eq_insertDefaults_iff
      (map_eq_of_forall₂ (fun _ _ hc => hc.1) (Dialect.forall₂_of_rowLiterals hlists))]
    exact ⟨fun h => Except.ok.inj h, fun h => congrArg Except.ok h⟩

/-- Items with a key and a name. -/
def items : Model :=
  { Model.new "Item" with fields := [(Field.new "Id" .int64).primaryKey, Field.new "Name" .string] }

/-- A row with a key and a name. -/
def itemRow : Row := .ofRecord ((Record.empty.set "Id" (.int 1)).set "Name" (.text "a"))

theorem rowStatements_agree_items :
    let q := new DialectKind.sqlite.dialect items
    items.build = .ok items ∧ q.parameterized = false ∧ q.model.primaryKeys ≠ [] ∧
      q.dialect.rowFilter items itemRow = .ok "\"Id\" = 1" ∧
      (q.updateStatement itemRow).1 = .ok "UPDATE \"Item\" SET \"Name\" = 'a'" ∧
      q.dialect.updateRow items itemRow [] =
        .ok "UPDATE \"Item\" SET \"Name\" = 'a' WHERE \"Id\" = 1" ∧
      (q.insertStatement itemRow).1 = .ok ("INSERT INTO \"Item\" (\"Id\",\"Name\") SELECT 1,'a'" ++
        " WHERE NOT EXISTS (SELECT 1 FROM \"Item\")") := by
  intro q
  have hfilter : q.dialect.rowFilter items itemRow = .ok "\"Id\" = 1" := by
    decide +kernel
  have hagree := rowStatements_agree (q := q) rfl itemRow none
  obtain ⟨hupdate, hrow⟩ := hagree.1 _ (by decide) hfilter
  exact ⟨by rfl, rfl, by decide, hfilter, hupdate.trans (by decide +kernel),
    hrow.trans (by decide +kernel), hagree.2.1.trans (by decide +kernel)⟩

end Query

end ModelSql
