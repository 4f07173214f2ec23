/-
**Columns with names of their own.**

A model is checked before any naming rule is known: no two of its fields have columns that are equal up
to the case of ASCII letters.  A naming rule is applied later, when a statement is written.  Of the rules
that settings name, two keep names apart: one leaves them as they are, and one puts letters in front.  As
long as names are made of ASCII characters, so do the two that change their case.  Snake case forgets how the words of a name were set apart,
and the case mappings of other letters forget which letter there was, so that a table may have a column
twice.

Main definitions:

* `NamingKind.Clash` — **names that a rule makes one column of**, though a checked model may have both;
* `Dialect.Declares` — the columns that the statement for a table declares.

Main results:

* `NamingKind.columnName_eq_iff` — a rule gives names that differ one column exactly when they clash;
* `Dialect.declares_createTable` — the statement declares the column of each field;
* `Dialect.distinct_columns_iff` — **when the columns of a table are distinct**.
-/

import ModelSql.Proofs.Dialect.Generated
import ModelSql.Proofs.Syntax.Quotation
import ModelSql.Proofs.Text.Words

set_option relaxedAutoImplicit false
set_option autoImplicit false

namespace ModelSql

/-! ### Naming rules -/

namespace NamingKind

/-- **Names that clash under a rule.**  Unchanged names and names with letters in front never do; names
in lower or upper case do when they are alike and not both made of ASCII characters; names in snake case
do when they have the same words in lower case. -/
def Clash (kind : NamingKind) (s t : String) : Prop :=
  match kind with
  | .unchanged | .prefixed => False
  | .lowerCase => Text.lower s = Text.lower t ∧ ¬ (Text.IsAscii s ∧ Text.IsAscii t)
  | .upperCase => Text.upper s = Text.upper t ∧ ¬ (Text.IsAscii s ∧ Text.IsAscii t)
  | .snakeCase => (Text.nameWords s).map Text.lowerWord = (Text.nameWords t).map Text.lowerWord

/-- **A rule gives two names one column exactly when they clash**, if they differ in more than the case
of ASCII letters. -/
theorem columnName_eq_iff (kind : NamingKind) (table column : String) {s t : String}
    (h : Text.asciiLower s ≠ Text.asciiLower t) :
    (Naming.ofKind kind table column).columnName s = (Naming.ofKind kind table column).columnName t ↔
      kind.Clash s t := by
  have hne : s ≠ t := by
    rintro rfl
    exact h rfl
  cases kind with
  | unchanged => exact iff_of_false hne id
  | prefixed => exact iff_of_false (fun heq => hne (String.append_right_inj column |>.1 heq)) id
  | snakeCase => exact Text.snakeCase_eq_iff
  | lowerCase =>
      refine (and_iff_left_of_imp fun heq hascii => h ?_).symm
      rw [← Text.lower_eq_asciiLower hascii.1, ← Text.lower_eq_asciiLower hascii.2]
      exact heq
  | upperCase =>
      exact (and_iff_left_of_imp fun heq hascii =>
        h (Text.asciiLower_eq_of_upper_eq hascii.1 hascii.2 heq)).symm

end NamingKind

namespace Dialect

variable {d : Dialect} {m b : Model} {sql : String} {kind : NamingKind} {table column : String}

/-! ### The columns of a table -/

/-- **The columns that the statement for a table declares**: each stands at the head of a line of its
own, in order. -/
def Declares (d : Dialect) (m : Model) (sql : String) (columns : List String) : Prop :=
  ∃ lines tail, sql = "CREATE TABLE " ++ d.quotedTable m ++ " \n(\n  " ++
      Text.joinWith ",\n  " lines ++ tail ++ "\n);" ∧
    List.Forall₂ (fun column line => ∃ rest, line = column ++ " " ++ rest) columns lines

theorem exists_of_columnDefinition {f : Field} {line : String} (h : d.columnDefinition f = .ok line) :
    ∃ rest, line = d.quotedField f ++ " " ++ rest := by
  rw [columnDefinition_eq] at h
  cases htype : d.columnType f with
  | error e =>
      rw [htype] at h
      cases h
  | ok type =>
      rw [htype] at h
      cases h
      exact ⟨_, String.append_assoc ..⟩

theorem forall₂_columnDefinitions {fs : List Field} {lines : List String}
    (h : d.columnDefinitions fs = .ok lines) :
    List.Forall₂ (fun column line => ∃ rest, line = column ++ " " ++ rest)
      (fs.map d.quotedField) lines := by
  induction fs generalizing lines with
  | nil =>
      cases h
      exact .nil
  | cons f fs ih =>
      obtain ⟨line, rest, hline, hrest, rfl⟩ := exists_of_columnDefinitions h
      exact .cons (exists_of_columnDefinition hline) (ih hrest)

/-- **The statement for a table declares the column of each field.** -/
theorem declares_createTable (h : d.createTable m = .ok sql) :
    d.Declares m sql (m.fields.map d.quotedField) := by
  unfold createTable at h
  cases hlines : d.columnDefinitions m.fields with
  | error e =>
      rw [hlines] at h
      cases h
  | ok lines =>
      rw [hlines] at h
      cases h
      exact ⟨lines, _, rfl, forall₂_columnDefinitions hlines⟩

/-! ### Distinct columns -/

/-- **The columns of a checked model are written alike only where its fields clash.** -/
theorem nodup_quotedField_iff (hrule : d.config.naming = .ofKind kind table column)
    (hb : m.build = .ok b) : (b.fields.map d.quotedField).Nodup ↔
      b.fields.Pairwise fun f g => ¬ kind.Clash f.column g.column := by
  have hcolumns : b.fields.Pairwise fun f g => Text.asciiLower f.column ≠ Text.asciiLower g.column :=
    List.pairwise_map.1 (Model.distinctFields_of_build hb).columns
  have hquoted {f g : Field} (hne : Text.asciiLower f.column ≠ Text.asciiLower g.column) :
      d.quotedField f ≠ d.quotedField g ↔ ¬ kind.Clash f.column g.column := by
    rw [← kind.columnName_eq_iff table column hne, ← hrule]
    exact not_congr d.injective_quoteName.eq_iff
  rw [List.Nodup, List.pairwise_map]
  constructor
  · intro hdistinct
    exact (hcolumns.and hdistinct).imp fun hne => (hquoted hne.1).1 hne.2
  · intro hclash
    exact (hcolumns.and hclash).imp fun hne => (hquoted hne.1).2 hne.2

/-- **When the columns of a table are distinct.**  Under a rule that settings name, the statement for a
checked model declares the columns of its fields, and no two of them are written alike exactly when no two
fields clash. -/
theorem distinct_columns_iff (hrule : d.config.naming = .ofKind kind table column)
    (hb : m.build = .ok b) (h : d.createTable b = .ok sql) :
    d.Declares b sql (b.fields.map d.quotedField) ∧
      ((b.fields.map d.quotedField).Nodup ↔
        b.fields.Pairwise fun f g => ¬ kind.Clash f.column g.column) :=
  ⟨declares_createTable h, nodup_quotedField_iff hrule hb⟩

/-! ### Two spellings of one street -/

/-- SQLite with a naming rule without letters. -/
def named (kind : NamingKind) : Dialect :=
  ⟨.sqlite, { DialectKind.sqlite.defaultConfig with naming := .ofKind kind "" "" }⟩

/-- A street with and without a letter that upper case spells out. -/
def streets : Model :=
  { Model.new "Street" with fields := [Field.new "Straße" .int32, Field.new "Strasse" .int32] }

/-- The statement for its table in lower case. -/
def streetTable : String :=
  "CREATE TABLE \"street\" \n(\n  \"straße\" INTEGER NOT NULL,\n  \"strasse\" INTEGER NOT NULL\n);"

/-- Lower case keeps the two spellings apart. -/
theorem distinct_columns_iff_streets :
    streets.build = .ok streets ∧ (named .lowerCase).createTable streets = .ok streetTable ∧
      (named .lowerCase).Declares streets streetTable ["\"straße\"", "\"strasse\""] ∧
      (streets.fields.map (named .lowerCase).quotedField).Nodup := by
  have hb : streets.build = .ok streets := by rfl
  have h : (named .lowerCase).createTable streets = .ok streetTable := by decide +kernel
  have hrule : (named .lowerCase).config.naming = .ofKind .lowerCase "" "" := rfl
  obtain ⟨hdeclares, hdistinct⟩ := distinct_columns_iff hrule hb h
  have hcolumns : streets.fields.map (named .lowerCase).quotedField =
      ["\"straße\"", "\"strasse\""] := by decide +kernel
  have hne : Text.lower "Straße" ≠ Text.lower "Strasse" := by decide +kernel
  have hclash : ¬ NamingKind.lowerCase.Clash "Straße" "Strasse" := fun hclash => hne hclash.1
  rw [hcolumns] at hdeclares
  exact ⟨hb, h, hdeclares, hdistinct.2 (List.pairwise_pair.2 hclash)⟩

/-- Upper case does not. -/
example : ¬ (streets.fields.map (named .upperCase).quotedField).Nodup := by decide +kernel

/-- An order line under two names that differ in more than the case of their letters. -/
def doubled : Model :=
  { Model.new "Item" with fields := [Field.new "OrderLine" .int32, Field.new "order_line" .int32] }

/-- The statement for its table in snake case has a column twice. -/
def doubledTable : String :=
  "CREATE TABLE \"item\" \n(\n  \"order_line\" INTEGER NOT NULL,\n  \"order_line\" INTEGER NOT NULL\n);"

/-- Snake case makes one column of two fields. -/
theorem snakeCase_not_distinct :
    doubled.build = .ok doubled ∧ (named .snakeCase).createTable doubled = .ok doubledTable ∧
      ¬ (doubled.fields.map (named .snakeCase).quotedField).Nodup :=
  ⟨by rfl, by decide +kernel, by decide +kernel⟩

end Dialect

end ModelSql
