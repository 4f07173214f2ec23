/-
**One identifier for a table and for each of its columns.**

The statements for a model are written by functions of their own: for its table, its indexes and its keys,
for the selection of its columns, and for inserting, changing and finding a row.  Each of them goes from
the model to the names of table and columns and puts these between quotes.  Read back from the statements,
the identifiers are the same in all of them, whatever rule turns names into those of tables and columns.

The definition of a column may carry the text of a default, which can be anything, and so the statement
that creates the table is taken line by line: a column is what its line starts with.

Main definitions:

* `Model.indexFields`, `Model.constraintFields` — the fields of indexes and constraints;
* `Dialect.Creates` — what the statement that creates a table declares;
* `Dialect.Agrees` — **statements that name one table and the same columns**.

Main results:

* `Dialect.parse_insertRow`, `Dialect.parse_updateRow`, `Dialect.parse_rowFilter` — statements about rows;
* `Dialect.parse_createIndexes`, `Dialect.parse_constraints` — indexes and constraints;
* `Dialect.creates_createTable` — the statement that creates the table;
* `Dialect.identifiers_agree` — **the statements for a checked model agree**.
-/

import ModelSql.Proofs.Dialect.Distinct
import ModelSql.Proofs.Dialect.Insertion
import ModelSql.Proofs.Dialect.Mention
import ModelSql.Proofs.Model.Acceptance
import ModelSql.Proofs.Query.RowStatement
import ModelSql.Proofs.Query.Selection

set_option relaxedAutoImplicit false
set_option autoImplicit false

namespace ModelSql

/-! ### The fields of indexes and constraints -/

namespace Model

/-- Whether a field has an index of its own. -/
def hasIndex (m : Model) (f : Field) : Bool := f.isIndexed && !m.isKeyField f

/-- The field of a column of an index. -/
def indexField? (m : Model) (c : String × Bool) : Option Field := m.field? c.1

/-- **The fields of the indexes**, index by index: first those of fields, then composite ones. -/
def indexFields (m : Model) : List (List Field) :=
  (m.fields.filter m.hasIndex).map (fun f => [f]) ++
    m.indexes.map fun i => i.columns.filterMap m.indexField?

/-- **The fields of the constraints**, one by one: a composite key, then the references. -/
def constraintFields (m : Model) : List (List Field) :=
  (if m.compositeKey.isEmpty then [] else [m.primaryKeys]) ++
    (m.fields.filter fun f => f.foreignKey.isSome).map fun f => [f]

end Model

namespace Dialect

open Nest

variable {d : Dialect} {m b : Model} {f : Field} {fs : List Field} {sql : String} {row : Row}

/-! ### Rows -/

/-- Whether an insertion names a field, with a session or without one. -/
def isInserted (d : Dialect) (m : Model) (allowed : List String) (i : Insertion) (f : Field) : Bool :=
  if i.session.isSome then d.lists m allowed f else Query.inserts allowed f

/-- **An insertion names the columns of the fields that it inserts, in order.** -/
theorem parse_insertRow {allowed : List String} {i i' : Insertion}
    (hnames : (m.fields.map (·.name)).Nodup) (h : d.insertRow m allowed i = (.ok sql, i')) :
    d.parse insertion? sql = some ⟨d.tableIdentifier m,
      (m.fields.filter (d.isInserted m allowed i)).map d.columnIdentifier⟩ := by
  obtain ⟨row, session, last⟩ := i
  cases session with
  | none =>
      rw [insertRow, insertColumns_eq] at h
      obtain ⟨cs, hcs, rfl⟩ := map_eq_ok (congrArg Prod.fst h)
      exact parse_insertText ((forall₂_of_rowLiterals hcs).imp fun f c hc => ⟨hc.1, _, hc.2⟩)
  | some s =>
      obtain ⟨s', ns, cs, hinserted, rfl⟩ := exists_inserted hnames h
      exact parse_insertText (hinserted.columns.imp fun f c hc => ⟨hc.1, _, hc.2⟩)

theorem spellsComparison_fieldCondition (h : d.fieldCondition row f = .ok sql) :
    d.SpellsComparison f sql := by
  unfold fieldCondition at h
  dsimp only at h
  split at h
  · cases h
    exact spellsComparison_null d f
  · obtain ⟨literal, hliteral, rfl⟩ := map_eq_ok h
    exact spellsComparison_equal hliteral

theorem spellsComparison_fieldConditions {conditions : List String}
    (h : d.fieldConditions row fs = .ok conditions) :
    List.Forall₂ d.SpellsComparison fs conditions := by
  induction fs generalizing conditions with
  | nil =>
      cases h
      exact .nil
  | cons f fs ih =>
      rw [fieldConditions] at h
      cases hcondition : d.fieldCondition row f with
      | error e =>
          rw [hcondition] at h
          cases h
      | ok condition =>
          rw [hcondition] at h
          obtain ⟨rest, hrest, rfl⟩ := map_eq_ok h
          exact .cons (spellsComparison_fieldCondition hcondition) (ih hrest)

theorem spellsComparison_assignments {sets : List String} (h : d.assignments row fs = .ok sets) :
    List.Forall₂ d.SpellsComparison fs sets := by
  rw [assignments_eq] at h
  obtain ⟨cs, hcs, rfl⟩ := map_eq_ok h
  rw [List.forall₂_map_right_iff]
  refine (forall₂_of_rowLiterals hcs).imp fun f c hc => ?_
  obtain ⟨hname, hliteral⟩ := hc
  rw [hname]
  exact spellsComparison_equal hliteral

/-- **The condition that finds a row compares the columns of its key.** -/
theorem parse_rowFilter (h : d.rowFilter m row = .ok sql) :
    d.parse (some <| compared ·) sql = some ((filterFields m).map d.columnIdentifier) := by
  obtain ⟨conditions, hconditions, rfl⟩ := map_eq_ok h
  obtain ⟨ns, hns, hcompared, -⟩ :=
    exists_compared separates_and (by decide) (spellsComparison_fieldConditions hconditions)
  rw [parse_of_spells hns, hcompared]

/-- **An update sets columns in the order of the fields**, and compares those of the key. -/
theorem parse_updateRow {allowed : List String} (h : d.updateRow m row allowed = .ok sql) :
    d.parse update? sql = some (⟨d.tableIdentifier m,
      (m.fields.filter (updates m allowed)).map d.columnIdentifier⟩,
      (filterFields m).map d.columnIdentifier) := by
  unfold updateRow at h
  split at h
  · cases h
  split at h
  · cases h
  rename_i sets hsets
  split at h
  · cases h
  obtain ⟨condition, hfilter, rfl⟩ := map_eq_ok h
  obtain ⟨conditions, hconditions, rfl⟩ := map_eq_ok hfilter
  exact parse_update (spellsComparison_assignments hsets) (spellsComparison_fieldConditions hconditions)

/-! ### Indexes -/

/-- The statements for the indexes of fields, one for each field that has one. -/
theorem fieldIndexes_eq (d : Dialect) (m : Model) (fs : List Field) :
    fs.filterMap (d.fieldIndex? m) = (fs.filter m.hasIndex).map fun f =>
      let column := d.columnName f.column
      d.createIndex m f.isUnique (d.indexName m f.isUnique [column]) [(column, false)] := by
  induction fs with
  | nil => rfl
  | cons f fs ih =>
      have hskip : (!f.isIndexed || m.isKeyField f) = !m.hasIndex f := by
        rw [Model.hasIndex, Bool.not_and, Bool.not_not]
      by_cases hf : m.hasIndex f = true
      · have hsome : d.fieldIndex? m f = some (d.createIndex m f.isUnique
            (d.indexName m f.isUnique [d.columnName f.column]) [(d.columnName f.column, false)]) := by
          rw [fieldIndex?, hskip, hf]
          rfl
        rw [List.filterMap_cons_some hsome, List.filter_cons_of_pos hf, List.map_cons, ih]
      · have hnone : d.fieldIndex? m f = none := by
          rw [fieldIndex?, hskip, if_pos (by simpa using hf)]
        rw [List.filterMap_cons_none hnone, List.filter_cons_of_neg hf, ih]

/-- The statements for the indexes of fields name the column of the field. -/
theorem parse_fieldIndexes (d : Dialect) (m : Model) (fs : List Field) :
    (fs.filterMap (d.fieldIndex? m)).map (d.parse index?) =
      (fs.filter m.hasIndex).map fun f => some ⟨d.tableIdentifier m, [d.columnIdentifier f]⟩ := by
  rw [fieldIndexes_eq, List.map_map]
  refine List.map_congr_left fun f _ => ?_
  rw [Function.comp_apply, parse_createIndex]
  rfl

/-- The columns of an index whose entries all name fields. -/
theorem indexColumns_map {i : Index} (h : ∀ c ∈ i.columns, ∃ f, m.indexField? c = some f) :
    (d.indexColumns m i).map (fun c => [d.nameToken c.1]) =
      (i.columns.filterMap m.indexField?).map d.columnIdentifier := by
  rw [indexColumns]
  generalize i.columns = columns at h ⊢
  induction columns with
  | nil => rfl
  | cons c columns ih =>
      obtain ⟨f, hf⟩ := h c List.mem_cons_self
      rw [List.filterMap_cons_some hf, List.map_cons, List.map_cons, List.map_cons,
        ih fun c' hc' => h c' (List.mem_cons_of_mem c hc')]
      rw [Model.indexField?] at hf
      rw [hf]
      rfl

/-- **The statements for indexes over fields of the model name the columns of these.** -/
theorem parse_createIndexes (h : ∀ i ∈ m.indexes, ∀ c ∈ i.columns, ∃ f, m.indexField? c = some f) :
    (d.createIndexes m).map (d.parse index?) = m.indexFields.map fun fs =>
      some ⟨d.tableIdentifier m, fs.map d.columnIdentifier⟩ := by
  rw [createIndexes, Model.indexFields, List.map_append, List.map_append, parse_fieldIndexes,
    List.map_map, List.map_map, List.map_map]
  refine congrArg₂ _ rfl (List.map_congr_left fun i hi => ?_)
  rw [Function.comp_apply, Function.comp_apply, compositeIndex, parse_createIndex,
    indexColumns_map (h i hi)]

/-- Every entry of an index of a checked model names one of its fields. -/
theorem exists_indexField (hb : m.build = .ok b) {i : Index} (hi : i ∈ b.indexes) {c : String × Bool}
    (hc : c ∈ i.columns) : ∃ f, b.indexField? c = some f := by
  have hover := Model.over_of_build hb hi
  obtain ⟨f, hf, hname⟩ := List.mem_map.1 (hover.declared c hc)
  refine ⟨f, ?_⟩
  rw [Model.indexField?, ← hname]
  exact Model.field?_of_mem (Model.distinctFields_of_build hb).names hf

/-! ### Constraints -/

/-- The constraints of references. -/
theorem parse_foreignKeys (d : Dialect) (m : Model) (fs : List Field) :
    (fs.filterMap fun f => f.foreignKey.map (d.foreignKey m f)).map (d.parse key?) =
      (fs.filter fun f => f.foreignKey.isSome).map fun f => some [d.columnIdentifier f] := by
  induction fs with
  | nil => rfl
  | cons f fs ih =>
      cases hk : f.foreignKey with
      | none => simp [hk, ih]
      | some k => simp [hk, ih, parse_foreignKey]

/-- **The constraints name the columns of their fields.** -/
theorem parse_constraints (d : Dialect) (m : Model) :
    (d.constraints m).map (d.parse key?) =
      m.constraintFields.map fun fs => some (fs.map d.columnIdentifier) := by
  rw [constraints, Model.constraintFields, List.map_append, List.map_append, parse_foreignKeys,
    List.map_map]
  refine congrArg₂ _ ?_ rfl
  split
  · rfl
  · rw [List.map_singleton, List.map_singleton, parse_primaryKey]

/-! ### The statement that creates the table -/

/-- **What the statement that creates a table declares**: its name; line by line, the columns of the
fields, each at the start of its definition; and behind them the constraints. -/
def Creates (d : Dialect) (m : Model) (sql : String) (table : List Token)
    (column : Field → List Token) : Prop :=
  ∃ name lines constraints,
    sql = "CREATE TABLE " ++ name ++ " \n(\n  " ++ Text.joinWith ",\n  " lines ++
      (if constraints.isEmpty then "" else ",\n\n  " ++ Text.joinWith ",\n  " constraints) ++ "\n);" ∧
    d.parse (some <| path ·) name = some (table, []) ∧
    List.Forall₂ (fun f line => d.columnDefinition f = .ok line ∧
      (column f).map .token <+: d.lexemes line) m.fields lines ∧
    constraints.map (d.parse key?) = m.constraintFields.map fun fs => some (fs.map column)

/-- The definition of a column starts with its identifier. -/
theorem prefix_columnDefinition {line : String} (h : d.columnDefinition f = .ok line) :
    (d.columnIdentifier f).map .token <+: d.lexemes line := by
  obtain ⟨rest, rfl⟩ := exists_of_columnDefinition h
  -- the definition goes on behind a blank, whatever stands there
  have hboundary : Lexer.Boundary (' ' :: rest.toList) := Lexer.boundary_cons (by decide) _
  have hname := d.lexes_quoteName (d.columnName f.column) _ hboundary
  refine ⟨Lexer.run d.escapes .blank (' ' :: rest.toList), ?_⟩
  rw [lexemes, String.toList_append, String.toList_append, List.append_assoc]
  exact hname.symm

/-- **The statement that creates the table declares the columns of the fields.** -/
theorem creates_createTable (h : d.createTable m = .ok sql) :
    d.Creates m sql (d.tableIdentifier m) d.columnIdentifier := by
  obtain ⟨lines, hlines, rfl⟩ := map_eq_ok h
  refine ⟨d.quotedTable m, lines, d.constraints m, rfl, ?_, ?_, parse_constraints d m⟩
  · rw [parse_of_spells (spells_quotedTable d m), path_table]
  · clear h
    generalize m.fields = fs at hlines ⊢
    induction fs generalizing lines with
    | nil =>
        cases hlines
        exact .nil
    | cons f fs ih =>
        obtain ⟨line, rest, hline, hrest, rfl⟩ := exists_of_columnDefinitions hlines
        exact .cons ⟨hline, prefix_columnDefinition hline⟩ (ih rest hrest)

/-! ### All statements -/

/-- **Statements that name one table and the same columns.** -/
structure Agrees (d : Dialect) (m : Model) (table : List Token) (column : Field → List Token) : Prop where
  /-- The table is created under the name, with the columns in order and as the constraints name
  them. -/
  created {sql : String} (h : d.createTable m = .ok sql) : d.Creates m sql table column
  /-- The selection of a descriptor lists the columns in order, behind the name of the table if asked to,
  whatever calls have led to the descriptor, unless something else was to be selected. -/
  selected {q : Query} (hq : q.Reachable) (hd : q.dialect = d) (hm : q.model = m)
    (hdefault : q.customSelect = false) : d.parse selection? q.select =
      some ⟨table, m.fields.map fun f => (if q.qualified then table else []) ++ column f⟩
  /-- An insertion names the columns that it fills in order. -/
  inserted {allowed : List String} {i i' : Insertion} {sql : String}
    (h : d.insertRow m allowed i = (.ok sql, i')) : d.parse insertion? sql =
      some ⟨table, (m.fields.filter (d.isInserted m allowed i)).map column⟩
  /-- An update sets columns in order, and finds the row by those of the condition. -/
  updated {row : Row} {allowed : List String} {sql : String} (h : d.updateRow m row allowed = .ok sql) :
    d.parse update? sql = some (⟨table, (m.fields.filter (updates m allowed)).map column⟩,
      (filterFields m).map column)
  /-- The condition that finds a row. -/
  filtered {row : Row} {sql : String} (h : d.rowFilter m row = .ok sql) :
    d.parse (some <| compared ·) sql = some ((filterFields m).map column)
  /-- The indexes, one statement for each of them. -/
  indexed : (d.createIndexes m).map (d.parse index?) =
    m.indexFields.map fun fs => some ⟨table, fs.map column⟩

/-- **The statements for a checked model agree**, whatever the dialect and its configuration, and with any
naming rule: each names the table by one identifier, and the column of a field by the one that the table
declares. -/
theorem identifiers_agree (d : Dialect) (hb : m.build = .ok b) :
    d.Agrees b (d.tableIdentifier b) d.columnIdentifier where
  created := creates_createTable
  selected := by
    rintro q hq rfl rfl hdefault
    rw [hq.selectsAll hdefault]
    exact parse_defaultSelect q
  inserted := parse_insertRow (Model.distinctFields_of_build hb).names
  updated := parse_updateRow
  filtered := parse_rowFilter
  indexed := parse_createIndexes fun _ hi _ hc => exists_indexField hb hi hc

/-- Lines of orders with a schema, a key of two columns, a reserved word, and an index of two columns. -/
def orderLines : Model :=
  { Model.new "OrderLine" with
    schema := some "shop"
    fields :=
      [{ Field.new "OrderId" .int64 with foreignKey := some (ForeignKey.new "Order") },
        { Field.new "Position" .int32 with storedName := some "LineNo" },
        { Field.new "Group" .int32 with isIndexed := true }]
    indexes := [⟨["Group DESC", "Position"], true, none⟩]
    compositeKey := ["OrderId", "Position"] }

/-- PostgreSQL with names in snake case, and quotes only where they have to be. -/
def snakePostgres : Dialect :=
  ⟨.postgres, { DialectKind.postgres.defaultConfig with quote := .reserved, naming := .snakeCase }⟩

/-- The statements for the lines of orders. -/
theorem identifiers_agree_orderLines :
    let table : List Token := [.word "shop".toList, .word "order_line".toList]
    let column := snakePostgres.columnIdentifier
    orderLines.build = .ok orderLines ∧
      (Query.new snakePostgres orderLines).select =
        "SELECT order_id, line_no, \"group\" \nFROM shop.order_line" ∧
      snakePostgres.createTable orderLines = .ok ("CREATE TABLE shop.order_line \n(\n  " ++
        "order_id BIGINT NOT NULL,\n  line_no INTEGER NOT NULL,\n  \"group\" INTEGER NOT NULL,\n\n  " ++
        "PRIMARY KEY (order_id, line_no),\n  CONSTRAINT FK_order_line_order_order_id " ++
        "FOREIGN KEY (order_id) REFERENCES \"order\" (id)\n);") ∧
      snakePostgres.createIndexes orderLines =
        ["CREATE INDEX idx_order_line_group ON shop.order_line (\"group\" ASC);",
          "CREATE UNIQUE INDEX uidx_order_line_group_line_no ON shop.order_line " ++
            "(\"group\" DESC, line_no ASC);"] ∧
      orderLines.fields.map column =
        [[.word "order_id".toList], [.word "line_no".toList], [.name "group".toList]] ∧
      snakePostgres.Agrees orderLines table column := by
  intro table column
  have hb : orderLines.build = .ok orderLines := by rfl
  have htable : snakePostgres.tableIdentifier orderLines = table := by decide +kernel
  have hagree := identifiers_agree snakePostgres hb
  rw [htable] at hagree
  exact ⟨hb, by decide +kernel, by decide +kernel, by decide +kernel, by decide +kernel, hagree⟩

end Dialect

end ModelSql
