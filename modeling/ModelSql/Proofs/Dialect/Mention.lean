/-
**What a statement names.**

A statement is read by its kind: a selection, an insertion, an update, an index, or the constraint of a
key.  What is read is the identifier of its table and those of its columns, token by token and in order.
The statements that a dialect writes are read as what they were written for, whatever the values in them.

Main definitions:

* `Dialect.tableIdentifier`, `Dialect.columnIdentifier` — the identifiers of a table and of a column;
* `Mention` — what a statement names;
* `Nest.selection?`, `Nest.insertion?`, `Nest.update?`, `Nest.index?`, `Nest.key?`, `Nest.reference?` —
  **the readers**, one for each kind of statement, and two for the constraint of a foreign key;
* `Dialect.parse` — what a reader makes of a text.

Main results:

* `Dialect.parse_defaultSelect` — the selection of all columns;
* `Dialect.parse_insertText`, `Dialect.parse_update` — insertions and updates;
* `Dialect.parse_createIndex` — indexes;
* `Dialect.parse_primaryKey`, `Dialect.parse_foreignKey` — the constraints of keys;
* `Dialect.parse_reference` — what a foreign key refers to.
-/

import Mathlib.Data.List.Forall2
import ModelSql.Dialect.RowStatement
import ModelSql.Dialect.Table
import ModelSql.Proofs.Model.Built
import ModelSql.Proofs.Syntax.Clause
import ModelSql.Query

set_option relaxedAutoImplicit false
set_option autoImplicit false

namespace ModelSql

/-! ### What a statement names -/

/-- What a statement names: a table, and columns, each with the tokens of its parts. -/
structure Mention where
  table : List Token
  columns : List (List Token)
  deriving DecidableEq, Repr

namespace Nest

/-- The names of the list in parentheses that comes first. -/
def list? : List Nest → Option (List (List Token))
  | .group items :: _ => some (listed items)
  | _ => none

/-- The table at the start, and the names of the list in parentheses behind it, if there is one. -/
def tableAndList (ns : List Nest) : Mention := ⟨(path ns).1, (list? (path ns).2).getD []⟩

/-- **What a selection names**: `SELECT` columns `FROM` table. -/
def selection? (ns : List Nest) : Option Mention :=
  (behind? ["select"] ns).map fun ns => ⟨(path (cut "from" ns).2).1, listed (cut "from" ns).1⟩

/-- **What an insertion names**: `INSERT INTO` table, and columns in parentheses. -/
def insertion? (ns : List Nest) : Option Mention := (behind? ["insert", "into"] ns).map tableAndList

/-- **What an update names**: `UPDATE` table `SET` assignments; and the columns of the condition behind
`WHERE`. -/
def update? (ns : List Nest) : Option (Mention × List (List Token)) :=
  (behind? ["update"] ns).bind fun ns => (behind? ["set"] (path ns).2).map fun rest =>
    (⟨(path ns).1, compared (cut "where" rest).1⟩, compared (cut "where" rest).2)

/-- What an index names: `INDEX` name `ON` table, and columns in parentheses. -/
def indexed? (ns : List Nest) : Option Mention :=
  (behind? ["index"] ns).bind fun ns => (behind? ["on"] (path ns).2).map tableAndList

/-- **What the statement for an index names**; it is behind `CREATE` or `CREATE UNIQUE`. -/
def index? (ns : List Nest) : Option Mention :=
  (behind? ["create"] ns).bind fun ns => indexed? ((behind? ["unique"] ns).getD ns)

/-- **The columns of the key of a constraint**: of a primary key, or of a foreign one. -/
def key? (ns : List Nest) : Option (List (List Token)) :=
  ((behind? ["primary", "key"] ns).orElse fun _ =>
    (behind? ["constraint"] ns).bind fun ns => behind? ["foreign", "key"] (path ns).2).bind list?

/-- The columns of the constraint of a primary key. -/
def primary? (ns : List Nest) : Option (List (List Token)) := (behind? ["primary", "key"] ns).bind list?

/-- **What the constraint of a foreign key refers to**: behind its own columns, `REFERENCES` table, and
columns in parentheses. -/
def reference? (ns : List Nest) : Option Mention :=
  (behind? ["constraint"] ns).bind fun ns => (behind? ["foreign", "key"] (path ns).2).bind fun ns =>
    (behind? ["references"] ns.tail).map tableAndList

end Nest

namespace Dialect

open Nest

/-- What a reader of tokens and groups makes of a text. -/
def parse {α : Type} (d : Dialect) (reader : List Nest → Option α) (sql : String) : Option α :=
  (d.nests sql).bind reader

/-- The names that a table is written with. -/
def tableParts (d : Dialect) (m : Model) : List String := m.schema.toList ++ [d.tableName m]

/-- **The identifier of the table of a model**, behind its schema. -/
def tableIdentifier (d : Dialect) (m : Model) : List Token := (d.tableParts m).map d.nameToken

/-- **The identifier of the column of a field.** -/
def columnIdentifier (d : Dialect) (f : Field) : List Token := [d.nameToken (d.columnName f.column)]

variable {d : Dialect} {m : Model} {f : Field} {fs : List Field} {sql : String} {ns : List Nest}

theorem parse_of_spells {α : Type} {reader : List Nest → Option α} (h : Spells d sql ns) :
    d.parse reader sql = reader ns := by
  rw [parse, nests_of_spells h, Option.bind_some]

theorem spells_quotedTable (d : Dialect) (m : Model) :
    Spells d (d.quotedTable m) (d.pathNests (d.tableParts m)) := spells_qualifiedName _ _

/-- The name of a table is read back. -/
theorem path_tableParts (h : ∀ n ∈ ns.head?, n.isSign "." = false) :
    path (d.pathNests (d.tableParts m) ++ ns) = (d.tableIdentifier m, ns) :=
  path_pathNests (by simp [tableParts]) h

theorem path_table : path (d.pathNests (d.tableParts m)) = (d.tableIdentifier m, []) := by
  have hname : path (d.pathNests (d.tableParts m) ++ []) = _ := path_tableParts nofun
  rwa [List.append_nil] at hname

/-- A name of one part is read back. -/
theorem path_nameToken {name : String} {n : Nest} (hn : n.isSign "." = false) :
    path ([token (d.nameToken name)] ++ n :: ns) = ([d.nameToken name], n :: ns) :=
  path_pathNests (List.cons_ne_nil name []) (forall_head_cons hn)

/-- The column of a field is one token. -/
theorem spells_quotedField (d : Dialect) (f : Field) :
    Spells d (d.quotedField f) (d.pathNests [d.columnName f.column]) := spells_quoteName _

/-- Items of the same form are spelled one by one. -/
theorem forall₂_spells {α : Type} {text : α → String} {nests : α → List Nest} {xs : List α}
    (h : ∀ x ∈ xs, Spells d (text x) (nests x)) :
    List.Forall₂ (Spells d) (xs.map text) (xs.map nests) :=
  List.forall₂_map_left_iff.2 (List.forall₂_map_right_iff.2 (List.forall₂_same.2 h))

/-! ### Selections -/

/-- The names that a column is written with, in front of them those of the table if it is qualified. -/
theorem map_nameToken_path (q : Query) (f : Field) :
    (q.scope.path f).map q.dialect.nameToken =
      (if q.qualified then q.dialect.tableIdentifier q.model else []) ++
        q.dialect.columnIdentifier f := by
  unfold Scope.path tableIdentifier tableParts columnIdentifier
  rw [List.map_append, show q.scope.qualified = q.qualified from rfl]
  cases q.qualified <;> rfl

/-- **The default selection names the columns of the fields, in order.** -/
theorem parse_defaultSelect (q : Query) :
    q.dialect.parse selection? q.defaultSelect =
      some ⟨q.dialect.tableIdentifier q.model, q.model.fields.map fun f =>
        (if q.qualified then q.dialect.tableIdentifier q.model else []) ++
          q.dialect.columnIdentifier f⟩ := by
  let list := [signNest ","].intercalate
    (q.model.fields.map fun f => q.dialect.pathNests (q.scope.path f) ++ [])
  have htable : Spells q.dialect ("FROM " ++ q.dialect.quotedTable q.model)
      (wordNest "FROM" :: q.dialect.pathNests (q.dialect.tableParts q.model)) :=
    .keyword (by decide) (by decide) (spells_quotedTable _ _)
  have hlist : Spells q.dialect (Text.joinWith ", " (q.model.fields.map q.scope.column)) list :=
    spells_joinWith separates_commaBlank <| forall₂_spells fun f _ => by
      rw [List.append_nil]
      exact spells_column q.scope f
  have hall : Spells q.dialect ("SELECT " ++ _) (wordNest "SELECT" :: _) :=
    .keyword (by decide) (by decide) (hlist.spaced htable.newline)
  have hbreak : " \nFROM " = " " ++ ("\n" ++ "FROM ") := by decide
  have hsql : Spells q.dialect q.defaultSelect (wordNest "SELECT" :: (list ++
      wordNest "FROM" :: q.dialect.pathNests (q.dialect.tableParts q.model))) := by
    simpa only [Query.defaultSelect, Query.selectFrom, hbreak, String.append_assoc] using hall
  have hfrom : ∀ n ∈ list, n.isWord "from" = false := by
    intro n hn
    obtain rfl | ⟨item, hitem, hn⟩ := mem_intercalate hn
    · decide
    · obtain ⟨f, -, rfl⟩ := List.mem_map.1 hitem
      rw [List.append_nil] at hn
      exact isWord_of_isKeyword (isKeyword_of_mem_pathNests hn) (by decide)
  have hcolumns : listed list = q.model.fields.map fun f => (q.scope.path f).map q.dialect.nameToken :=
    listed_names (by decide) _ (fun f => by simp [Scope.path]) fun f => nofun
  rw [parse_of_spells hsql, selection?, behind?_cons (by decide), behind?, Option.map_some,
    cut_append hfrom (by decide), path_table, hcolumns]
  simp only [map_nameToken_path]

/-! ### Insertions -/

theorem literal_of_fieldLiteral {v : Value} (h : d.fieldLiteral f v = .ok sql) :
    d.literal (some f.type) v = .ok sql := by
  unfold fieldLiteral at h
  split at h
  · split at h
    · cases h
    · exact h
  · exact h

/-- A column of an insertion, with a literal, for a field. -/
def IsColumn (d : Dialect) (f : Field) (c : String × String) : Prop :=
  c.1 = d.quotedField f ∧ ∃ v, d.fieldLiteral f v = .ok c.2

/-- The literals of columns are spelled one by one. -/
theorem exists_spells_values {cs : List (String × String)} (h : List.Forall₂ d.IsColumn fs cs) :
    ∃ nss, List.Forall₂ (Spells d) (cs.map (·.2)) nss := by
  induction h with
  | nil => exact ⟨[], .nil⟩
  | cons hc _ ih =>
      obtain ⟨-, v, hv⟩ := hc
      obtain ⟨nss, hnss⟩ := ih
      obtain ⟨ns, hns, -⟩ := exists_spells_literal (literal_of_fieldLiteral hv)
      exact ⟨ns :: nss, .cons hns hnss⟩

/-- The columns of some fields, with commas between them. -/
theorem spells_columns {sep : String} (hsep : Separates d sep (signNest ",")) (fs : List Field) :
    ∃ list, Spells d (Text.joinWith sep (fs.map d.quotedField)) list ∧
      listed list = fs.map d.columnIdentifier := by
  refine ⟨[signNest ","].intercalate (fs.map fun f => d.pathNests [d.columnName f.column] ++ []),
    spells_joinWith hsep (forall₂_spells fun f _ => ?_), ?_⟩
  · rw [List.append_nil]
    exact spells_quotedField d f
  · exact listed_names (by decide) fs (fun f => List.cons_ne_nil _ _) fun f => nofun

/-- **What stands behind the table of an insertion** is a list of columns, or no list. -/
theorem exists_insertTail {cs : List (String × String)} (h : List.Forall₂ d.IsColumn fs cs) :
    ∃ rest tail, d.insertText m cs = "INSERT INTO " ++ d.quotedTable m ++ " " ++ rest ∧
      Spells d rest tail ∧ (list? tail).getD [] = fs.map d.columnIdentifier ∧
      ∀ n ∈ tail.head?, n.isSign "." = false := by
  have hvalues : Spells d "VALUES" [wordNest "VALUES"] := .word (by decide)
  have hcolumns : cs.map (·.1) = fs.map d.quotedField := map_eq_of_forall₂ (fun _ _ hc => hc.1) h
  obtain ⟨nss, hnss⟩ := exists_spells_values h
  cases h with
  | nil =>
      have hempty : Spells d ("(" ++ "" ++ ")") [.group []] := Spells.empty.group
      unfold insertText insertDefaults
      rw [List.isEmpty_nil, if_pos rfl]
      split
      · have hsplit : " () VALUES ()" =
            " " ++ ("(" ++ "" ++ ")" ++ " " ++ "VALUES" ++ " " ++ ("(" ++ "" ++ ")")) := by decide
        refine ⟨_, _, ?_, hvalues.infixed hempty hempty, rfl, by decide⟩
        rw [hsplit, ← String.append_assoc]
      · have hdefault : Spells d ("DEFAULT " ++ "VALUES") [wordNest "DEFAULT", wordNest "VALUES"] :=
          .keyword (by decide) (by decide) hvalues
        have hsplit : " DEFAULT VALUES" = " " ++ ("DEFAULT " ++ "VALUES") := by decide
        refine ⟨_, _, ?_, hdefault, rfl, by decide⟩
        rw [hsplit, String.append_assoc, String.append_assoc, String.append_assoc]
  | @cons f c fs cs =>
      obtain ⟨list, hlist, hread⟩ := spells_columns separates_comma (f :: fs)
      rw [← hcolumns] at hlist
      have hrest := hvalues.infixed hlist.group (spells_joinWith separates_comma hnss).group
      refine ⟨_, _, ?_, hrest, hread, by simp [isSign]⟩
      have hsplit : ") VALUES (" = ")" ++ (" " ++ ("VALUES" ++ (" " ++ "("))) ∧ " (" = " " ++ "(" := by
        decide
      simp only [insertText, List.isEmpty_cons, Bool.false_eq_true, if_false, hsplit,
        String.append_assoc]

/-- **The statement for an insertion names the columns that it fills.** -/
theorem parse_insertText {cs : List (String × String)} (h : List.Forall₂ d.IsColumn fs cs) :
    d.parse insertion? (d.insertText m cs) =
      some ⟨d.tableIdentifier m, fs.map d.columnIdentifier⟩ := by
  obtain ⟨rest, tail, htext, hrest, hlist, hhead⟩ := exists_insertTail (m := m) h
  have hinto : Spells d ("INTO " ++ (d.quotedTable m ++ " " ++ rest))
      (wordNest "INTO" :: (d.pathNests (d.tableParts m) ++ tail)) :=
    .keyword (by decide) (by decide) ((spells_quotedTable d m).spaced hrest)
  have hall : Spells d ("INSERT " ++ _) (wordNest "INSERT" :: _) :=
    .keyword (by decide) (by decide) hinto
  have hsplit : "INSERT INTO " = "INSERT " ++ "INTO " := by decide
  have hsql : Spells d (d.insertText m cs)
      (wordNest "INSERT" :: wordNest "INTO" :: (d.pathNests (d.tableParts m) ++ tail)) := by
    simpa only [htext, hsplit, String.append_assoc] using hall
  rw [parse_of_spells hsql, insertion?, behind?_cons (by decide), behind?_cons (by decide), behind?,
    Option.map_some, tableAndList, path_tableParts hhead, hlist]

/-! ### Conditions and assignments -/

/-- A text that compares the column of a field with something, or assigns something to it. -/
def SpellsComparison (d : Dialect) (f : Field) (text : String) : Prop :=
  ∃ ns, Spells d text ns ∧ Compares (d.nameToken (d.columnName f.column)) ns

theorem spellsComparison_equal {v : Value} (h : d.fieldLiteral f v = .ok sql) :
    d.SpellsComparison f (d.quotedField f ++ " = " ++ sql) := by
  obtain ⟨ns, hns, hquiet⟩ := exists_spells_literal (literal_of_fieldLiteral h)
  have hsign : (signNest "=").isComparison = true := by decide
  exact ⟨_, spells_equal (spells_quotedField d f) hns, .intro (isMark_nameToken d _) hsign hquiet⟩

theorem spellsComparison_null (d : Dialect) (f : Field) :
    d.SpellsComparison f (d.quotedField f ++ " IS NULL") := by
  have his : (wordNest "IS").isComparison = true := by decide
  exact ⟨_, spells_isNull .eq (spells_quotedField d f), .intro (isMark_nameToken d _) his (by decide)⟩

/-- **The columns of comparisons with something between them.** -/
theorem exists_compared {sep : String} {n : Nest} (hsep : Separates d sep n) (hn : n.isMark = false)
    {texts : List String} (h : List.Forall₂ d.SpellsComparison fs texts) :
    ∃ ns, Spells d (Text.joinWith sep texts) ns ∧ compared ns = fs.map d.columnIdentifier ∧
      ∀ x ∈ ns, x.isWord "where" = false := by
  obtain ⟨nss, hspells, hcompares⟩ : ∃ nss, List.Forall₂ (Spells d) texts nss ∧
      List.Forall₂ Compares (fs.map fun f => d.nameToken (d.columnName f.column)) nss := by
    induction h with
    | nil => exact ⟨[], .nil, .nil⟩
    | cons ht _ ih =>
        obtain ⟨ns, hns, hcompares⟩ := ht
        obtain ⟨nss, hspells, hrest⟩ := ih
        exact ⟨ns :: nss, .cons hns hspells, .cons hcompares hrest⟩
  refine ⟨_, spells_joinWith hsep hspells, ?_, isWord_where_intercalate hn hcompares⟩
  rw [compared_intercalate (isComparison_of_isMark hn) hcompares, List.map_map]
  rfl

/-- **An update names the columns that it sets**, and those of the condition. -/
theorem parse_update {gs : List Field} {sets conditions : List String}
    (hsets : List.Forall₂ d.SpellsComparison fs sets)
    (hconditions : List.Forall₂ d.SpellsComparison gs conditions) :
    d.parse update? ("UPDATE " ++ d.quotedTable m ++ " SET " ++ Text.joinWith ", " sets ++ " WHERE " ++
        Text.joinWith " AND " conditions) =
      some (⟨d.tableIdentifier m, fs.map d.columnIdentifier⟩, gs.map d.columnIdentifier) := by
  obtain ⟨assigned, hassigned, hset, hwhere⟩ :=
    exists_compared separates_commaBlank (by decide) hsets
  obtain ⟨found, hfound, hkey, -⟩ := exists_compared separates_and (by decide) hconditions
  have hword : Spells d "WHERE" [wordNest "WHERE"] := .word (by decide)
  have hclauses : Spells d ("SET " ++ _) (wordNest "SET" :: _) :=
    .keyword (by decide) (by decide) (hword.infixed hassigned hfound)
  have hall : Spells d ("UPDATE " ++ _) (wordNest "UPDATE" :: _) :=
    .keyword (by decide) (by decide) ((spells_quotedTable d m).spaced hclauses)
  have hsplit : " SET " = " " ++ "SET " ∧ " WHERE " = " " ++ ("WHERE" ++ " ") := by decide
  have hset? : (wordNest "SET").isSign "." = false := by decide
  simp only [hsplit, String.append_assoc] at hall ⊢
  rw [parse_of_spells hall, update?, behind?_cons (by decide), behind?, Option.bind_some,
    path_tableParts (forall_head_cons hset?), behind?_cons (by decide), behind?, Option.map_some,
    cut_append hwhere (by decide), hset, hkey]

/-! ### Indexes -/

/-- The columns of an index, each with its direction behind it. -/
theorem exists_spells_directed (d : Dialect) (columns : List (String × Bool)) :
    ∃ list, Spells d (Text.joinWith ", "
        (columns.map fun c => d.quoteName c.1 ++ if c.2 then " DESC" else " ASC")) list ∧
      listed list = columns.map fun c => [d.nameToken c.1] := by
  let direction (c : String × Bool) : List Nest := [wordNest (if c.2 then "DESC" else "ASC")]
  have hitem (c : String × Bool) : Spells d (d.quoteName c.1 ++ if c.2 then " DESC" else " ASC")
      (d.pathNests [c.1] ++ direction c) := by
    have hwords : " DESC" = " " ++ "DESC" ∧ " ASC" = " " ++ "ASC" := by decide
    simp only [direction, hwords]
    cases c.2
    · exact (spells_quoteName c.1).append (Spells.word (by decide)).space (Spells.starts_space _)
    · exact (spells_quoteName c.1).append (Spells.word (by decide)).space (Spells.starts_space _)
  refine ⟨_, spells_joinWith separates_commaBlank (forall₂_spells fun c _ => hitem c), ?_⟩
  refine listed_names (by decide) columns (fun c => List.cons_ne_nil _ _) fun c n hn => ?_
  obtain rfl := List.mem_singleton.1 hn
  cases c.2 <;> decide

/-- What stands behind `CREATE` or `CREATE UNIQUE`. -/
theorem exists_spells_index (d : Dialect) (m : Model) (name : String)
    (columns : List (String × Bool)) :
    ∃ ns, Spells d ("INDEX " ++ (d.quoteName name ++ (" ON " ++ (d.quotedTable m ++ (" (" ++
        (Text.joinWith ", " (columns.map fun c => d.quoteName c.1 ++ if c.2 then " DESC" else " ASC") ++
          ");")))))) (wordNest "INDEX" :: ns) ∧
      indexed? (wordNest "INDEX" :: ns) =
        some ⟨d.tableIdentifier m, columns.map fun c => [d.nameToken c.1]⟩ := by
  obtain ⟨list, hlist, hcolumns⟩ := exists_spells_directed d columns
  have hend : Spells d ";" [signNest ";"] := spells_sign fun _ _ => rfl
  have hon : Spells d ("ON " ++ _) (wordNest "ON" :: _) :=
    .keyword (by decide) (by decide) ((spells_quotedTable d m).spaced (hlist.enclosed hend))
  have hindex : Spells d ("INDEX " ++ _) (wordNest "INDEX" :: _) :=
    .keyword (by decide) (by decide) ((spells_quoteName name).spaced hon)
  have hsplit : " ON " = " " ++ "ON " ∧ " (" = " " ++ "(" ∧ ");" = ")" ++ ";" := by decide
  refine ⟨_, by simpa only [hsplit, String.append_assoc] using hindex, ?_⟩
  have htable : path (d.pathNests (d.tableParts m) ++ [.group list, signNest ";"]) =
      (d.tableIdentifier m, [.group list, signNest ";"]) := path_tableParts (forall_head_cons rfl)
  rw [indexed?, behind?_cons (by decide), behind?, Option.bind_some, path_nameToken (by decide),
    behind?_cons (by decide), behind?, Option.map_some, tableAndList, htable, list?, Option.getD_some,
    hcolumns]

/-- **The statement for an index names its columns, in order.** -/
theorem parse_createIndex (d : Dialect) (m : Model) (isUnique : Bool) (name : String)
    (columns : List (String × Bool)) :
    d.parse index? (d.createIndex m isUnique name columns) =
      some ⟨d.tableIdentifier m, columns.map fun c => [d.nameToken c.1]⟩ := by
  obtain ⟨ns, hindex, hread⟩ := exists_spells_index d m name columns
  have hcreate {s : String} {ms : List Nest} (h : Spells d s ms) :
      Spells d ("CREATE " ++ s) (wordNest "CREATE" :: ms) := .keyword (by decide) (by decide) h
  unfold createIndex
  cases isUnique with
  | false =>
      have hsql := hcreate hindex
      rw [if_neg (by decide), String.append_empty]
      simp only [String.append_assoc]
      rw [parse_of_spells hsql]
      exact hread
  | true =>
      have hunique : Spells d ("UNIQUE " ++ _) (wordNest "UNIQUE" :: _) :=
        .keyword (by decide) (by decide) hindex
      have hsql := hcreate hunique
      rw [if_pos rfl]
      simp only [String.append_assoc]
      rw [parse_of_spells hsql]
      exact hread

/-! ### Constraints -/

/-- The words for an optional action, behind a blank. -/
theorem exists_spells_actionSuffix {head : String} (verb : String)
    (hhead : head = " ON " ++ verb ++ " ") (hverb : Text.isPlainName verb.toList = true)
    (action : Option ReferentialAction) :
    ∃ ns, Spells d (actionSuffix head action) ns ∧ Starts (actionSuffix head action).toList := by
  cases action with
  | none => exact ⟨[], .empty, fun rest hrest => hrest⟩
  | some a =>
      have hwords (w : String) (hw : Text.isPlainName w.toList = true) : Spells d w [wordNest w] :=
        .word hw
      obtain ⟨ns, hns⟩ : ∃ ns, Spells d a.sql ns := by
        cases a with
        | cascade => exact ⟨_, hwords "CASCADE" (by decide)⟩
        | restrict => exact ⟨_, hwords "RESTRICT" (by decide)⟩
        | setNull => exact ⟨_, (hwords "SET" (by decide)).spaced (hwords "NULL" (by decide))⟩
        | setDefault => exact ⟨_, (hwords "SET" (by decide)).spaced (hwords "DEFAULT" (by decide))⟩
        | noAction => exact ⟨_, (hwords "NO" (by decide)).spaced (hwords "ACTION" (by decide))⟩
      have hall := ((hwords "ON" (by decide)).spaced ((hwords verb hverb).spaced hns)).space
      have htext : actionSuffix head (some a) = " " ++ ("ON" ++ " " ++ (verb ++ " " ++ a.sql)) := by
        have hon : " ON " = " " ++ ("ON" ++ " ") := by decide
        simp only [actionSuffix, hhead, hon, String.append_assoc]
      rw [htext]
      exact ⟨_, hall, Spells.starts_space _⟩

/-- The constraint of a composite key. -/
theorem exists_spells_primaryKey (d : Dialect) (fs : List Field) :
    ∃ list, Spells d ("PRIMARY KEY (" ++ Text.joinWith ", " (fs.map d.quotedField) ++ ")")
        [wordNest "PRIMARY", wordNest "KEY", .group list] ∧
      listed list = fs.map d.columnIdentifier := by
  obtain ⟨list, hlist, hcolumns⟩ := spells_columns (d := d) separates_commaBlank fs
  have hkey : Spells d ("KEY " ++ _) (wordNest "KEY" :: _) := .keyword (by decide) (by decide) hlist.group
  have hall : Spells d ("PRIMARY " ++ _) (wordNest "PRIMARY" :: _) := .keyword (by decide) (by decide) hkey
  have hsplit : "PRIMARY KEY (" = "PRIMARY " ++ ("KEY " ++ "(") := by decide
  refine ⟨list, ?_, hcolumns⟩
  rw [hsplit]
  simp only [String.append_assoc] at hall ⊢
  exact hall

/-- **The constraint of a composite key names the columns of the key.** -/
theorem parse_primaryKey (d : Dialect) (fs : List Field) :
    d.parse key? ("PRIMARY KEY (" ++ Text.joinWith ", " (fs.map d.quotedField) ++ ")") =
      some (fs.map d.columnIdentifier) := by
  obtain ⟨list, hsql, hcolumns⟩ := exists_spells_primaryKey d fs
  rw [parse_of_spells hsql, ← hcolumns]
  rfl

theorem parse_primary (d : Dialect) (fs : List Field) :
    d.parse primary? ("PRIMARY KEY (" ++ Text.joinWith ", " (fs.map d.quotedField) ++ ")") =
      some (fs.map d.columnIdentifier) := by
  obtain ⟨list, hsql, hcolumns⟩ := exists_spells_primaryKey d fs
  rw [parse_of_spells hsql, ← hcolumns]
  rfl

/-- A list of one name. -/
theorem listed_nameToken (name : String) : listed [token (d.nameToken name)] = [[d.nameToken name]] := by
  have hcomma : ∀ n ∈ [token (d.nameToken name)], n.isSign "," = false :=
    List.forall_mem_singleton.2 (isSign_nameToken name)
  rw [listed, List.splitOnP_eq_singleton hcomma]
  rfl

/-- What a reference refers to, and its actions. -/
theorem exists_spells_references (d : Dialect) (k : ForeignKey) :
    ∃ ns, Spells d ("REFERENCES " ++ (d.qualified k.schema (d.tableFor k.table) ++ (" (" ++
      (d.quotedColumn k.column ++ (")" ++ (actionSuffix " ON DELETE " k.onDelete ++
        actionSuffix " ON UPDATE " k.onUpdate)))))) (wordNest "REFERENCES" :: ns) ∧
      tableAndList ns = ⟨(k.schema.toList ++ [d.tableFor k.table]).map d.nameToken,
        [[d.nameToken (d.columnName k.column)]]⟩ := by
  obtain ⟨onDelete, hdelete, hstarts⟩ : ∃ ns, Spells d (actionSuffix " ON DELETE " k.onDelete) ns ∧ _ :=
    exists_spells_actionSuffix "DELETE" (by decide) (by decide) k.onDelete
  obtain ⟨onUpdate, hupdate, hstarts'⟩ : ∃ ns, Spells d (actionSuffix " ON UPDATE " k.onUpdate) ns ∧ _ :=
    exists_spells_actionSuffix "UPDATE" (by decide) (by decide) k.onUpdate
  have hcolumn : Spells d (d.quotedColumn k.column) _ := spells_quoteName _
  have hactions := hcolumn.enclosed (hdelete.append hupdate hstarts')
  have htable := spells_qualifiedName (d := d) k.schema (d.tableFor k.table)
  have hall : Spells d ("REFERENCES " ++ _) (wordNest "REFERENCES" :: _) :=
    .keyword (by decide) (by decide) (htable.spaced hactions)
  have hsplit : " (" = " " ++ "(" := by decide
  simp only [hsplit, String.append_assoc] at hall ⊢
  refine ⟨_, hall, ?_⟩
  rw [tableAndList, path_pathNests (by simp) (forall_head_cons rfl), list?, listed_nameToken]
  rfl

/-- **The constraint of a foreign key**: the column that refers, and what it refers to. -/
theorem exists_spells_foreignKey (d : Dialect) (m : Model) (f : Field) (k : ForeignKey) :
    ∃ list target, Spells d (d.foreignKey m f k) (wordNest "CONSTRAINT" ::
        ([token (d.nameToken (d.constraintName m f k))] ++
          wordNest "FOREIGN" :: wordNest "KEY" :: .group list :: wordNest "REFERENCES" :: target)) ∧
      listed list = [d.columnIdentifier f] ∧
      tableAndList target = ⟨(k.schema.toList ++ [d.tableFor k.table]).map d.nameToken,
        [[d.nameToken (d.columnName k.column)]]⟩ := by
  obtain ⟨list, hlist, hcolumns⟩ := spells_columns (d := d) separates_commaBlank [f]
  obtain ⟨target, htarget, hread⟩ := exists_spells_references d k
  have hkey : Spells d ("KEY " ++ _) (wordNest "KEY" :: _) :=
    .keyword (by decide) (by decide) (hlist.group.spaced htarget)
  have hforeign : Spells d ("FOREIGN " ++ _) (wordNest "FOREIGN" :: _) :=
    .keyword (by decide) (by decide) hkey
  have hall : Spells d ("CONSTRAINT " ++ _) (wordNest "CONSTRAINT" :: _) :=
    .keyword (by decide) (by decide) ((spells_quoteName (d.constraintName m f k)).spaced hforeign)
  have hsplit : " FOREIGN KEY (" = " " ++ ("FOREIGN " ++ ("KEY " ++ "(")) ∧
      ") REFERENCES " = ")" ++ (" " ++ "REFERENCES ") := by decide
  refine ⟨list, target, ?_, hcolumns, hread⟩
  unfold foreignKey
  simp only [hsplit, String.append_assoc, List.map_cons, List.map_nil, Text.joinWith_singleton] at hall ⊢
  exact hall

/-- **The constraint of a reference names the column of the field that refers.** -/
theorem parse_foreignKey (d : Dialect) (m : Model) (f : Field) (k : ForeignKey) :
    d.parse key? (d.foreignKey m f k) = some [d.columnIdentifier f] := by
  obtain ⟨list, target, hsql, hcolumns, -⟩ := exists_spells_foreignKey d m f k
  rw [parse_of_spells hsql, key?, behind?_of_isWord (by decide), Option.orElse_none,
    behind?_cons (by decide), behind?, Option.bind_some, path_nameToken (by decide),
    behind?_cons (by decide), behind?_cons (by decide), behind?, Option.bind_some, list?, hcolumns]

/-- The constraint of a reference is none of a primary key. -/
theorem parse_primary_foreignKey (d : Dialect) (m : Model) (f : Field) (k : ForeignKey) :
    d.parse primary? (d.foreignKey m f k) = none := by
  obtain ⟨list, target, hsql, -⟩ := exists_spells_foreignKey d m f k
  rw [parse_of_spells hsql, primary?, behind?_of_isWord (by decide), Option.bind_none]

/-- **The constraint of a reference names the table and the column that it refers to.** -/
theorem parse_reference (d : Dialect) (m : Model) (f : Field) (k : ForeignKey) :
    d.parse reference? (d.foreignKey m f k) =
      some ⟨(k.schema.toList ++ [d.tableFor k.table]).map d.nameToken,
        [[d.nameToken (d.columnName k.column)]]⟩ := by
  obtain ⟨list, target, hsql, -, hread⟩ := exists_spells_foreignKey d m f k
  rw [parse_of_spells hsql, reference?, behind?_cons (by decide), behind?, Option.bind_some,
    path_nameToken (by decide), behind?_cons (by decide), behind?_cons (by decide), behind?,
    Option.bind_some, List.tail_cons, behind?_cons (by decide), behind?, Option.map_some, hread]

end Dialect

end ModelSql
