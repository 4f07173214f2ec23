/-
**Fields that are left to the database.**

An insertion with a session leaves out the fields that the database makes by itself, and the table has
to be declared so that it can.  Two functions decide this apart from each other: the insertion asks
whether a field is generated and has a sequence to draw from, while the declaration puts a keyword
behind a key, takes a serial type, or gives a default.  They agree on PostgreSQL, on keys, on fields
that may be null and on fields with a default.  Elsewhere a field that is numbered but is no key is
left out by every insertion and declared `NOT NULL`, without anything that would give it a value.

Main definitions:

* `ColumnClause`, `Dialect.columnClauses` — the clauses behind the type of a column;
* `Dialect.Fills` — **a table that gives the database a way to fill a column**;
* `Dialect.LeavesOut` — the fields that an insertion with a session leaves out;
* `Dialect.HasWay` — what a declaration offers for such a field.

Main results:

* `Dialect.columnDefinition_eq` — a definition of a column is its name, its type and its clauses;
* `Dialect.eq_notNull_of_clausesText` — clauses that say `NOT NULL` say nothing else;
* `Dialect.LeavesOut.fills`, `Dialect.LeavesOut.not_fills` — a field with a way is filled, and one
  without is `NOT NULL` and nothing else;
* `Dialect.fills_iff_of_insertRow` — **when the table fills what an insertion leaves out**.
-/

import ModelSql.Dialect.Table
import ModelSql.Proofs.Dialect.Insertion

set_option relaxedAutoImplicit false
set_option autoImplicit false

namespace ModelSql

/-! ### Clauses of a column -/

/-- The clauses behind the type of a column. -/
inductive ColumnClause
  | primaryKey
  | identity (word : String)
  | null
  | notNull
  | default (sql : String)

/-- A clause as it is written. -/
def ColumnClause.text (d : Dialect) : ColumnClause → String
  | primaryKey => " PRIMARY KEY"
  | identity word => " " ++ word
  | null => " NULL"
  | notNull => " NOT NULL"
  | default sql => d.defaultClause sql

/-- Whether a database has a clause: the keyword for numbered keys must be its own. -/
def ColumnClause.IsFor (d : Dialect) : ColumnClause → Prop
  | identity word => d.rules.identity = .keyword word
  | _ => True

namespace Dialect

variable {d : Dialect} {m : Model} {f : Field}

/-- Clauses as they are written one behind the other. -/
def clausesText (d : Dialect) : List ColumnClause → String
  | [] => ""
  | c :: cs => c.text d ++ clausesText d cs

theorem clausesText_append (d : Dialect) (cs cs' : List ColumnClause) :
    d.clausesText (cs ++ cs') = d.clausesText cs ++ d.clausesText cs' := by
  induction cs with
  | nil => simp [clausesText]
  | cons c cs ih => simp [clausesText, ih, String.append_assoc]

/-- The clause for a default, if there is one. -/
def defaultClauses (sql : Option String) : List ColumnClause := (sql.map .default).toList

/-- The clause that numbers a key. -/
def identityClauses (d : Dialect) (f : Field) : List ColumnClause :=
  match d.rules.identity with
  | .keyword word => if d.isIdentity f then [.identity word] else []
  | _ => []

/-- **The clauses of a column**, in the order of the database. -/
def columnClauses (d : Dialect) (f : Field) : List ColumnClause :=
  match d.kind with
  | .firebird =>
    defaultClauses f.default ++
      (if f.isPrimaryKey then [.notNull, .primaryKey] else if f.isNullable then [] else [.notNull])
  | _ =>
    (if f.isPrimaryKey then .primaryKey :: d.identityClauses f
      else if f.isNullable then [.null] else [.notNull]) ++ defaultClauses (d.columnDefault? f)

theorem clausesText_defaultClauses (sql : Option String) :
    d.clausesText (defaultClauses sql) = d.defaultSuffix sql := by
  cases sql <;> simp [defaultClauses, clausesText, defaultSuffix, ColumnClause.text]

theorem clausesText_identityClauses : d.clausesText (d.identityClauses f) = d.identitySuffix f := by
  unfold identityClauses identitySuffix
  cases d.rules.identity with
  | keyword word => cases d.isIdentity f <;> simp [clausesText, ColumnClause.text]
  | serial | generator => rfl

/-- **A definition of a column is its name, its type and its clauses.** -/
theorem columnDefinition_eq (d : Dialect) (f : Field) :
    d.columnDefinition f =
      (d.columnType f).map fun type =>
        d.quotedField f ++ " " ++ type ++ d.clausesText (d.columnClauses f) := by
  unfold columnDefinition columnClauses
  congr 1
  funext type
  simp only
  cases d.kind <;> simp only
  all_goals
    split
    · simp [clausesText, clausesText_append, ColumnClause.text, clausesText_defaultClauses,
        clausesText_identityClauses, String.append_assoc]
    · split <;>
      simp [clausesText, clausesText_append, ColumnClause.text, clausesText_defaultClauses,
        String.append_assoc]

/-! ### Reading clauses -/

/-- Every clause starts with a blank, and only `NOT NULL` goes on with `NO`. -/
theorem eq_notNull_of_text {c : ColumnClause} {rest : List Char} (hc : c.IsFor d)
    (h : (c.text d).toList ++ rest = " NOT NULL".toList) : c = .notNull ∧ rest = [] := by
  cases c with
  | notNull => simpa [ColumnClause.text] using h
  | primaryKey => simp [ColumnClause.text] at h
  | null => simp [ColumnClause.text] at h
  | identity word =>
      have hword : d.rules.identity = .keyword word := hc
      cases hk : d.kind <;>
        simp [rules, hk, DialectKind.rules, firebirdRules, mysqlRules, postgresRules,
          sqlserverRules, sqliteRules] at hword
      all_goals
        rw [← hword] at h
        simp [ColumnClause.text] at h
  | default sql =>
      simp only [ColumnClause.text, defaultClause] at h
      split at h <;> simp at h

theorem text_ne_empty (d : Dialect) (c : ColumnClause) : c.text d ≠ "" := by
  cases c with
  | default sql => cases hk : d.kind <;> simp [ColumnClause.text, defaultClause, hk]
  | _ => simp [ColumnClause.text]

theorem eq_nil_of_clausesText {cs : List ColumnClause} (h : d.clausesText cs = "") : cs = [] := by
  cases cs with
  | nil => rfl
  | cons c cs => exact absurd (String.append_eq_empty_iff.1 h).1 (text_ne_empty d c)

/-- **Clauses that say `NOT NULL` say nothing else.** -/
theorem eq_notNull_of_clausesText {cs : List ColumnClause} (hcs : ∀ c ∈ cs, c.IsFor d)
    (h : d.clausesText cs = " NOT NULL") : cs = [.notNull] := by
  cases cs with
  | nil => simp [clausesText] at h
  | cons c cs =>
      have htext : (c.text d).toList ++ (d.clausesText cs).toList = " NOT NULL".toList := by
        rw [← String.toList_append, ← h]
        rfl
      obtain ⟨rfl, hrest⟩ := eq_notNull_of_text (hcs c List.mem_cons_self) htext
      rw [eq_nil_of_clausesText (String.toList_eq_nil_iff.1 hrest)]

/-! ### Tables that fill their columns -/

/-- **A table that gives the database a way to fill a column.**  The statement that creates the table
has the definition of the column on a line of its own, and the definition reads as the name, the type
and clauses, among which there is a keyword for numbered keys or a default; or the type is serial; or
nothing forbids null. -/
def Fills (d : Dialect) (m : Model) (f : Field) : Prop :=
  ∃ sql before after definition type clauses,
    d.createTable m = .ok sql ∧ d.columnDefinition f = .ok definition ∧ d.columnType f = .ok type ∧
      sql = before ++ "\n  " ++ definition ++ after ∧
      definition = d.quotedField f ++ " " ++ type ++ d.clausesText clauses ∧
      (∀ c ∈ clauses, c.IsFor d) ∧
      ((∃ word, .identity word ∈ clauses) ∨ serialType? f.type = some type ∨
        (∃ sql, .default sql ∈ clauses) ∨ (.notNull ∉ clauses ∧ .primaryKey ∉ clauses))

/-- Each of some lines stands on a line of its own. -/
theorem exists_line {line : String} {lines : List String} (h : line ∈ lines) :
    ∃ before after, "\n  " ++ Text.joinWith ",\n  " lines = before ++ "\n  " ++ line ++ after := by
  induction lines with
  | nil => cases h
  | cons s rest ih =>
      cases rest with
      | nil =>
          obtain rfl := List.mem_singleton.1 h
          exact ⟨"", "", by simp⟩
      | cons t rest =>
          have hcut : "\n  " ++ Text.joinWith ",\n  " (s :: t :: rest) =
              "\n  " ++ s ++ "," ++ ("\n  " ++ Text.joinWith ",\n  " (t :: rest)) := by
            rw [Text.joinWith_cons_cons, show ",\n  " = "," ++ "\n  " from rfl]
            simp only [String.append_assoc]
          rcases List.mem_cons.1 h with rfl | h
          · exact ⟨"", _, by rw [hcut, String.empty_append, String.append_assoc]⟩
          · obtain ⟨before, after, hline⟩ := ih h
            exact ⟨"\n  " ++ s ++ "," ++ before, after, by
              rw [hcut, hline]
              simp only [String.append_assoc]⟩

/-- The lines of a table are those of its fields, one by one. -/
theorem exists_of_columnDefinitions {fs : List Field} {lines : List String}
    (h : d.columnDefinitions (f :: fs) = .ok lines) :
    ∃ line rest, d.columnDefinition f = .ok line ∧ d.columnDefinitions fs = .ok rest ∧
      lines = line :: rest := by
  rw [columnDefinitions] at h
  cases hline : d.columnDefinition f with
  | error e =>
      rw [hline] at h
      cases h
  | ok line =>
      rw [hline] at h
      cases hrest : d.columnDefinitions fs with
      | error e =>
          rw [hrest] at h
          cases h
      | ok rest =>
          rw [hrest] at h
          cases h
          exact ⟨line, rest, rfl, rfl, rfl⟩

theorem mem_columnDefinitions {fs : List Field} {definitions : List String} {definition : String}
    (hf : f ∈ fs) (h : d.columnDefinitions fs = .ok definitions)
    (hdef : d.columnDefinition f = .ok definition) : definition ∈ definitions := by
  induction fs generalizing definitions with
  | nil => cases hf
  | cons g fs ih =>
      obtain ⟨line, rest, hline, hrest, rfl⟩ := exists_of_columnDefinitions h
      rcases List.mem_cons.1 hf with rfl | hf
      · rw [hdef] at hline
        cases hline
        exact List.mem_cons_self
      · exact List.mem_cons_of_mem _ (ih hf hrest)

/-- **A table has the definition of each field on a line of its own.** -/
theorem exists_line_createTable {sql definition : String} (hf : f ∈ m.fields)
    (h : d.createTable m = .ok sql) (hdef : d.columnDefinition f = .ok definition) :
    ∃ before after, sql = before ++ "\n  " ++ definition ++ after := by
  unfold createTable at h
  cases hdefs : d.columnDefinitions m.fields with
  | error e =>
      rw [hdefs] at h
      cases h
  | ok definitions =>
      rw [hdefs, Except.map, Except.ok.injEq] at h
      obtain ⟨before, after, hline⟩ := exists_line (mem_columnDefinitions hf hdefs hdef)
      simp only at h
      generalize (if (d.constraints m).isEmpty = true then "" else
        ",\n\n  " ++ Text.joinWith ",\n  " (d.constraints m)) = tail at h
      have hsplit : sql = "CREATE TABLE " ++ d.quotedTable m ++ " \n(" ++
          ("\n  " ++ Text.joinWith ",\n  " definitions) ++ (tail ++ "\n);") := by
        rw [← h, show " \n(\n  " = " \n(" ++ "\n  " from rfl]
        simp only [String.append_assoc]
      refine ⟨"CREATE TABLE " ++ d.quotedTable m ++ " \n(" ++ before, after ++ (tail ++ "\n);"), ?_⟩
      rw [hsplit, hline]
      simp only [String.append_assoc]

/-! ### Fields that an insertion leaves out -/

/-- What gives a database a way to fill the column of a field that it numbers: its serial types, the
word for numbered keys, null, or a default. -/
def HasWay (d : Dialect) (f : Field) : Prop :=
  d.kind = .postgres ∨ f.isPrimaryKey = true ∨ f.isNullable = true ∨ f.default.isSome = true

instance (d : Dialect) (f : Field) : Decidable (d.HasWay f) :=
  inferInstanceAs (Decidable (_ ∨ _ ∨ _ ∨ _))

/-- **The fields that an insertion with a session leaves out** though they are stored. -/
structure LeavesOut (d : Dialect) (m : Model) (f : Field) : Prop where
  mem : f ∈ m.fields
  stored : f.isComputed = false
  unlisted : d.lists m [] f = false

theorem columnClauses_eq (hk : d.kind ≠ .firebird) :
    d.columnClauses f =
      (if f.isPrimaryKey then .primaryKey :: d.identityClauses f
        else if f.isNullable then [.null] else [.notNull]) ++ defaultClauses (d.columnDefault? f) := by
  unfold columnClauses
  cases hkind : d.kind <;> first
    | rfl
    | exact absurd hkind hk

theorem isFor_identityClauses {c : ColumnClause} (hc : c ∈ d.identityClauses f) : c.IsFor d := by
  unfold identityClauses at hc
  split at hc
  · rename_i word hword
    split at hc
    · obtain rfl := List.mem_singleton.1 hc
      exact hword
    · cases hc
  · cases hc

theorem isFor_defaultClauses {sql : Option String} {c : ColumnClause} (hc : c ∈ defaultClauses sql) :
    c.IsFor d := by
  cases sql with
  | none => cases hc
  | some s =>
      obtain rfl := List.mem_singleton.1 hc
      trivial

/-- Outside of Firebird, the clauses of a column are ones that its database has. -/
theorem isFor_columnClauses (hk : d.kind ≠ .firebird) {c : ColumnClause} (hc : c ∈ d.columnClauses f) :
    c.IsFor d := by
  rw [columnClauses_eq hk, List.mem_append] at hc
  rcases hc with hc | hc
  · split at hc
    · rcases List.mem_cons.1 hc with rfl | hc
      · trivial
      · exact isFor_identityClauses hc
    · split at hc <;> obtain rfl := List.mem_singleton.1 hc <;> trivial
  · exact isFor_defaultClauses hc

/-- Databases that make keys neither by generators nor by serial types have a word for them. -/
theorem exists_identityWord (hfirebird : d.kind ≠ .firebird) (hpostgres : d.kind ≠ .postgres) :
    ∃ word, d.rules.identity = .keyword word := by
  cases hk : d.kind <;> first
    | exact absurd hk hfirebird
    | exact absurd hk hpostgres
    | exact ⟨_, by rw [rules, hk]; rfl⟩

namespace LeavesOut

variable (h : d.LeavesOut m f)

include h

/-- It is generated, and there is no sequence to draw its values from. -/
theorem isGenerated_and_sequence? : f.isGenerated = true ∧ d.sequence? m f = none := by
  have hunlisted := h.unlisted
  simp only [lists, draws, h.stored, show selects [] f = true from rfl, Bool.not_false,
    Bool.true_and, Bool.or_eq_false_iff, Bool.not_eq_false'] at hunlisted
  exact ⟨hunlisted.2, Option.isSome_eq_false_iff.1 hunlisted.1 |> Option.isNone_iff_eq_none.1⟩

/-- The database numbers it, without a generator, and it has no default but its own. -/
theorem isIdentity : d.isIdentity f = true ∧ d.kind ≠ .firebird ∧ d.columnDefault? f = f.default := by
  obtain ⟨hgenerated, hseq⟩ := h.isGenerated_and_sequence?
  cases hs : f.sequence with
  | some s =>
      have hnone : d.rules.hasSequences = false := by simpa [sequence?, hs] using hseq
      refine ⟨by simp [Dialect.isIdentity, hs, hnone], ?_, ?_⟩
      · rintro hk
        simp [rules, hk, DialectKind.rules, firebirdRules] at hnone
      · cases hdefault : f.default <;> simp [columnDefault?, hdefault, hs, hnone]
  | none =>
      have hauto : f.autoIncrement = true := by simpa [Field.isGenerated, hs] using hgenerated
      refine ⟨by simp [Dialect.isIdentity, hs, hauto], ?_, ?_⟩
      · rintro hk
        simp [sequence?, hs, hauto, rules, hk, DialectKind.rules, firebirdRules] at hseq
      · cases hdefault : f.default <;> simp [columnDefault?, hdefault, hs]

/-- The type of the column is the serial one on PostgreSQL, and is not serial anywhere else. -/
theorem exists_columnType (hinteger : f.type.isInteger = true) :
    ∃ type, d.columnType f = .ok type ∧ (serialType? f.type = some type ↔ d.kind = .postgres) := by
  obtain ⟨hidentity, hfirebird, -⟩ := h.isIdentity
  cases hk : d.kind with
  | firebird => exact absurd hk hfirebird
  | postgres =>
      cases htype : f.type <;> simp [htype, FieldType.isInteger] at hinteger
      all_goals simp [columnType, hk, hidentity, htype, serialType?]
  | mysql | sqlserver | sqlite =>
      cases htype : f.type <;> simp [htype, FieldType.isInteger] at hinteger
      all_goals
        simp [columnType, standardType, hk, htype, serialType?, rules, DialectKind.rules, mysqlRules,
          sqlserverRules, sqliteRules]

/-- **The table fills the column** on PostgreSQL, of a key, where it may be null, and with a default. -/
theorem fills (hinteger : f.type.isInteger = true) (htable : ∃ sql, d.createTable m = .ok sql)
    (hway : HasWay d f) : d.Fills m f := by
  obtain ⟨sql, hsql⟩ := htable
  obtain ⟨hidentity, hfirebird, hdefault⟩ := h.isIdentity
  obtain ⟨type, htype, hserial⟩ := h.exists_columnType hinteger
  have hdefinition := d.columnDefinition_eq f
  rw [htype, Except.map] at hdefinition
  obtain ⟨before, after, hline⟩ := exists_line_createTable h.mem hsql hdefinition
  refine ⟨sql, before, after, _, type, d.columnClauses f, hsql, hdefinition, htype, hline, rfl,
    fun c hc => isFor_columnClauses hfirebird hc, ?_⟩
  rw [columnClauses_eq hfirebird, hdefault]
  by_cases hpostgres : d.kind = .postgres
  · exact .inr (.inl (hserial.2 hpostgres))
  cases hsome : f.default with
  | some default => exact .inr (.inr (.inl ⟨default, by simp [defaultClauses]⟩))
  | none =>
      cases hkey : f.isPrimaryKey with
      | true =>
          obtain ⟨word, hword⟩ := exists_identityWord hfirebird hpostgres
          exact .inl ⟨word, by simp [identityClauses, hword, hidentity]⟩
      | false =>
          have hnull : f.isNullable = true := by
            simpa [HasWay, hpostgres, hkey, hsome] using hway
          exact .inr (.inr (.inr (by simp [hnull, defaultClauses])))

/-- **Otherwise it does not**: the column is `NOT NULL` and nothing else. -/
theorem not_fills (hinteger : f.type.isInteger = true) (hway : ¬ HasWay d f) : ¬ d.Fills m f := by
  obtain ⟨hpostgres, hkey, hnull, hnone⟩ : d.kind ≠ .postgres ∧ f.isPrimaryKey = false ∧
      f.isNullable = false ∧ f.default = none := by
    simpa [HasWay] using hway
  rintro ⟨-, -, -, definition, type, clauses, -, hdefinition, htype, -, hread, hfor, hfill⟩
  obtain ⟨-, hfirebird, hdefault⟩ := h.isIdentity
  have hclauses : d.clausesText (d.columnClauses f) = " NOT NULL" := by
    rw [columnClauses_eq hfirebird, hdefault]
    simp [hkey, hnull, hnone, defaultClauses, clausesText, ColumnClause.text]
  -- every reading of the definition has the same clauses
  rw [columnDefinition_eq, htype, Except.map, Except.ok.injEq, hread, hclauses,
    String.append_right_inj] at hdefinition
  obtain rfl := eq_notNull_of_clausesText hfor hdefinition.symm
  obtain ⟨type', htype', hserial⟩ := h.exists_columnType hinteger
  rw [htype, Except.ok.injEq] at htype'
  rcases hfill with ⟨word, hword⟩ | hserial' | ⟨default, hdefault⟩ | ⟨hnotNull, -⟩
  · cases List.mem_singleton.1 hword
  · exact hpostgres (hserial.1 (htype' ▸ hserial'))
  · cases List.mem_singleton.1 hdefault
  · exact hnotNull List.mem_cons_self

end LeavesOut

/-- **When the table fills what an insertion leaves out.**  The statement names the listed fields, and
each stored field that it does not name is filled if there is a table at all and the field is a key, may
be null or has a default, or the database is PostgreSQL. -/
theorem fills_iff_of_insertRow {m b : Model} {row : Row} {s : Session} {last : Option Int64}
    {i' : Insertion} {sql : String} (hb : m.build = .ok b)
    (h : d.insertRow b [] ⟨row, some s, last⟩ = (.ok sql, i')) :
    ∃ cs, sql = d.insertText b cs ∧
      cs.map (·.1) = (b.fields.filter (d.lists b [])).map d.quotedField ∧
      ∀ f, d.LeavesOut b f →
        (d.Fills b f ↔ (∃ table, d.createTable b = .ok table) ∧ d.HasWay f) := by
  obtain ⟨s', ns, cs, hinserted, hsql⟩ :=
    exists_inserted (Model.distinctFields_of_build hb).names h
  refine ⟨cs, hsql, hinserted.map_fst, fun f hf => ?_⟩
  have hinteger := (Model.sound_of_build hb hf.mem).integer hf.isGenerated_and_sequence?.1
  constructor
  · intro hfills
    have htable : ∃ table, d.createTable b = .ok table := by
      obtain ⟨table, -, -, -, -, -, htable, -⟩ := hfills
      exact ⟨table, htable⟩
    exact ⟨htable, Decidable.byContradiction fun hway => hf.not_fills hinteger hway hfills⟩
  · rintro ⟨htable, hway⟩
    exact hf.fills hinteger htable hway

/-! ### A numbered field beside the key -/

/-- Items with a key and a field that is numbered, but no key. -/
def numbered : Model :=
  { Model.new "Item" with
    fields := [(Field.new "Id" .int64).primaryKey,
      { Field.new "Number" .int64 with autoIncrement := true }] }

/-- A row with a key. -/
def numberedRow : Row := .ofRecord (Record.empty.set "Id" (.int 1))

/-- On PostgreSQL the number is left out and filled by its serial type. -/
theorem fills_iff_of_insertRow_numbered :
    let d := DialectKind.postgres.dialect
    let i : Insertion := ⟨numberedRow, some (.new [] []), none⟩
    numbered.build = .ok numbered ∧
      d.insertRow numbered [] i = (.ok "INSERT INTO \"Item\" (\"Id\") VALUES (1)", i) ∧
      ∃ f, f.name = "Number" ∧ d.LeavesOut numbered f ∧ d.Fills numbered f := by
  intro d i
  let f : Field := { Field.new "Number" .int64 with autoIncrement := true }
  have hb : numbered.build = .ok numbered := by rfl
  have h : d.insertRow numbered [] i = (.ok "INSERT INTO \"Item\" (\"Id\") VALUES (1)", i) :=
    Prod.ext (by decide +kernel) rfl
  have hf : d.LeavesOut numbered f := ⟨.tail _ (.head _), rfl, by decide⟩
  obtain ⟨cs, -, -, hfills⟩ := fills_iff_of_insertRow hb h
  exact ⟨hb, h, f, rfl, hf, (hfills f hf).2 ⟨⟨_, rfl⟩, .inl rfl⟩⟩

/-- On SQL Server it is left out as well, and the table has nothing to fill it with. -/
theorem numbered_not_filled :
    let d := DialectKind.sqlserver.dialect
    let i : Insertion := ⟨numberedRow, some (.new [] []), none⟩
    numbered.build = .ok numbered ∧
      d.insertRow numbered [] i = (.ok "INSERT INTO [Item] ([Id]) VALUES (1)", i) ∧
      d.createTable numbered =
        .ok "CREATE TABLE [Item] \n(\n  [Id] BIGINT PRIMARY KEY,\n  [Number] BIGINT NOT NULL\n);" ∧
      ∃ f, f.name = "Number" ∧ d.LeavesOut numbered f ∧ ¬ d.Fills numbered f := by
  intro d i
  let f : Field := { Field.new "Number" .int64 with autoIncrement := true }
  have hf : d.LeavesOut numbered f := ⟨.tail _ (.head _), rfl, by decide⟩
  exact ⟨by rfl, Prod.ext (by decide +kernel) rfl, by decide +kernel, f, rfl, hf,
    hf.not_fills rfl (by decide)⟩

end Dialect

end ModelSql
