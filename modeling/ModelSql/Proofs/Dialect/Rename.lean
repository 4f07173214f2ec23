/-
**The column that is renamed.**

On SQL Server a column is given another name by a procedure that takes its address as one text: the schema,
if there is one, the table and the column, with points between them.  The names are written as they are,
where all other statements quote them one by one.  So the text is cut at the points that names hold as
well, and an address can be told from its text only as long as there are none.  Quotes and brackets do no
harm.

Main definitions:

* `ColumnAddress`, `ColumnAddress.text` — addresses, and **the text of one**;
* `ColumnAddress.pieces` — what stands between the points of the text;
* `Dialect.renamed?` — the address that a statement names, read from the statement.

Main results:

* `ColumnAddress.text_eq_iff` — **two addresses have one text** exactly if they have the same pieces;
* `ColumnAddress.text_injective`, `ColumnAddress.unique_iff` — **when an address can be told from its
  text**, among those without points and among all;
* `Dialect.renamedBy_eq` — the text is what the statement hands over;
* `Dialect.renameColumn_determines_iff` — **when the statement determines the column**.
-/

import ModelSql.Dialect.Table
import ModelSql.Model.Build
import ModelSql.Proofs.Syntax.Quotation
import ModelSql.Proofs.Text.Words

set_option relaxedAutoImplicit false
set_option autoImplicit false

namespace ModelSql

/-! ### Addresses of columns -/

/-- The address of a column: the schema of its table, if there is one, the table and the column. -/
structure ColumnAddress where
  schema : Option String
  table : String
  column : String
  deriving DecidableEq, Repr

namespace ColumnAddress

/-- The names of an address. -/
def names (a : ColumnAddress) : List String := a.schema.toList ++ [a.table, a.column]

/-- **The text of an address**: its names, with points between them. -/
def text (a : ColumnAddress) : String := Text.joinWith "." a.names

/-- What stands between the points of the text of an address. -/
def pieces (a : ColumnAddress) : List String := a.names.flatMap (Text.splitOnChar · '.')

/-- Whether no name has a point in it. -/
def IsPlain (a : ColumnAddress) : Prop := ∀ n ∈ a.names, '.' ∉ n.toList

instance (a : ColumnAddress) : Decidable a.IsPlain :=
  inferInstanceAs (Decidable (∀ n ∈ a.names, '.' ∉ n.toList))

variable {a b : ColumnAddress}

theorem names_ne_nil (a : ColumnAddress) : a.names ≠ [] := by simp [names]

theorem names_injective : Function.Injective names := by
  intro a b h
  obtain ⟨s, t, c⟩ := a
  obtain ⟨s', t', c'⟩ := b
  cases s <;> cases s' <;> simp_all [names]

theorem splitOnChar_text (a : ColumnAddress) : Text.splitOnChar a.text '.' = a.pieces :=
  Text.splitOnChar_joinWith_flatMap rfl a.names_ne_nil

theorem joinWith_pieces (a : ColumnAddress) : Text.joinWith "." a.pieces = a.text := by
  rw [← splitOnChar_text, Text.joinWith_splitOnChar rfl]

/-- **Two addresses have one text** exactly if the same stands between the points. -/
theorem text_eq_iff : a.text = b.text ↔ a.pieces = b.pieces := by
  constructor
  · intro h
    rw [← splitOnChar_text, h, splitOnChar_text]
  · intro h
    rw [← joinWith_pieces, h, joinWith_pieces]

theorem pieces_of_isPlain (h : a.IsPlain) : a.pieces = a.names := by
  rw [← splitOnChar_text, text, Text.splitOnChar_joinWith rfl a.names_ne_nil h]

/-- **Addresses without points in their names can be told apart by their texts.** -/
theorem text_injective (ha : a.IsPlain) (hb : b.IsPlain) (h : a.text = b.text) : a = b := by
  rw [text_eq_iff, pieces_of_isPlain ha, pieces_of_isPlain hb] at h
  exact names_injective h

/-! ### How many pieces there are -/

theorem length_names_le (ws : List String) : ws.length ≤ (ws.flatMap (Text.splitOnChar · '.')).length := by
  induction ws with
  | nil => exact Nat.le_refl 0
  | cons w ws ih =>
      have hpos : 0 < (Text.splitOnChar w '.').length :=
        List.length_pos_of_ne_nil (Text.splitOnChar_ne_nil w '.')
      rw [List.flatMap_cons, List.length_append, List.length_cons]
      omega

/-- Names without points are one piece each, and no others are. -/
theorem length_flatMap_eq_iff {ws : List String} :
    (ws.flatMap (Text.splitOnChar · '.')).length = ws.length ↔ ∀ w ∈ ws, '.' ∉ w.toList := by
  induction ws with
  | nil => simp
  | cons w ws ih =>
      have hrest := length_names_le ws
      have hpos : 0 < (Text.splitOnChar w '.').length :=
        List.length_pos_of_ne_nil (Text.splitOnChar_ne_nil w '.')
      rw [List.forall_mem_cons, ← ih, ← Text.length_splitOnChar_eq_one_iff, List.flatMap_cons,
        List.length_append, List.length_cons]
      omega

/-- **Two pieces** are a table and a column without points. -/
theorem length_pieces_eq_two_iff : a.pieces.length = 2 ↔ a.schema = none ∧ a.IsPlain := by
  have hle := length_names_le a.names
  have heq : a.pieces.length = a.names.length ↔ a.IsPlain := length_flatMap_eq_iff
  have hnames : a.names.length = a.schema.toList.length + 2 := by simp [names]
  rw [← pieces] at hle
  rw [← heq, hnames, ← Option.toList_eq_nil_iff, ← List.length_eq_zero_iff]
  omega

/-- **An address that can be told from all others by its text** has no schema, and no point in its
names. -/
theorem unique_iff : (∀ b : ColumnAddress, b.text = a.text → b = a) ↔ a.schema = none ∧ a.IsPlain := by
  rw [← length_pieces_eq_two_iff]
  constructor
  · -- any two parts of the pieces would do as a table and a column
    intro h
    have hparts (front back : List String) (hpieces : a.pieces = front ++ back) (hfront : front ≠ [])
        (hback : back ≠ []) : a = ⟨none, Text.joinWith "." front, Text.joinWith "." back⟩ := by
      refine (h _ ?_).symm
      rw [← joinWith_pieces a, hpieces, Text.joinWith_append hfront hback]
      rfl
    have hle := length_names_le a.names
    rw [← pieces] at hle
    match hpieces : a.pieces with
    | [x, y] => rfl
    | x :: y :: z :: rest =>
        have hone := hparts [x] (y :: z :: rest) hpieces (by simp) (by simp)
        have htwo := hparts [x, y] (z :: rest) hpieces (by simp) (by simp)
        have htable := congrArg (String.toList ∘ table) (hone.symm.trans htwo)
        simp at htable
    | [] | [x] => simp [hpieces, names] at hle
  · intro hlength b htext
    obtain ⟨hschema, hplain⟩ := length_pieces_eq_two_iff.1 hlength
    have hpieces := text_eq_iff.1 htext
    rw [← hpieces] at hlength
    exact text_injective (length_pieces_eq_two_iff.1 hlength).2 hplain htext

end ColumnAddress

/-- The address of a column of a model. -/
def Model.address (m : Model) (column : String) : ColumnAddress := ⟨m.schema, m.table, column⟩

/-! ### The statement -/

namespace Dialect

/-- The address of a column of a model by the names that its database knows. -/
def address (d : Dialect) (m : Model) (column : String) : ColumnAddress :=
  ⟨m.schema, d.tableName m, d.columnName column⟩

/-- **The address that a statement names**: the text behind the name of the procedure. -/
def renamed? (d : Dialect) (sql : String) : Option String :=
  let head := "EXEC sp_rename "
  if Text.startsWith sql head then
    (d.readText (sql.toList.drop head.length)).map fun r => String.ofList r.1
  else none

/-- The address that the statement for a column names. -/
def renamedBy (d : Dialect) (m : Model) (f : Field) (old : String) : Option String :=
  (d.renameColumn m f old).toOption.bind d.renamed?

variable {d : Dialect}

theorem address_of_unchanged (hn : d.config.naming = .unchanged) (m : Model) (column : String) :
    d.address m column = m.address column := by
  rw [address, tableName, tableFor, columnName, hn]
  rfl

theorem text_address (m : Model) (column : String) :
    (d.address m column).text = d.plainTable m ++ "." ++ d.columnName column := by
  rw [address, plainTable, ColumnAddress.text, ColumnAddress.names]
  cases m.schema with
  | none => rfl
  | some s => simp [String.append_assoc]

/-- **The statement names the address**, whatever its names are made of. -/
theorem renamedBy_eq (hd : d.kind = .sqlserver) (m : Model) (f : Field) (old : String) :
    d.renamedBy m f old = some (d.address m old).text := by
  have hescapes : d.escapes = false := by
    rw [escapes, hd]
    rfl
  have hsql : (d.renameColumn m f old).toOption =
      some ("EXEC sp_rename " ++ (Literal.quoteText (d.address m old).text ++ (", " ++
        Literal.quoteText (d.columnName f.column) ++ ", 'COLUMN';"))) := by
    rw [renameColumn, hd, text_address]
    simp [Except.toOption, String.append_assoc]
  have hread (s rest : String) (hrest : rest.toList.head? ≠ some '\'') :
      d.readText (Literal.quoteText s ++ rest).toList = some (s.toList, rest.toList) := by
    rw [String.toList_append, Literal.quoteText, String.toList_ofList, List.append_assoc,
      List.cons_append, readText, hescapes]
    exact Quotation.read_doubleQuotes hrest s.toList
  rw [renamedBy, hsql, Option.bind_some, renamed?, if_pos (by simp [Text.startsWith])]
  rw [String.toList_append, ← String.length_toList, List.drop_left, hread _ _ (by simp)]
  simp

/-- Where names are kept as they are, statements that name one address have columns whose addresses have
one text. -/
theorem renamedBy_eq_iff (hd : d.kind = .sqlserver) (hn : d.config.naming = .unchanged) {m m' : Model}
    {f f' : Field} {old old' : String} : d.renamedBy m' f' old' = d.renamedBy m f old ↔
      (m'.address old').text = (m.address old).text := by
  rw [renamedBy_eq hd, renamedBy_eq hd, address_of_unchanged hn, address_of_unchanged hn,
    Option.some.injEq]

/-- **When the statement determines the column that is renamed.**  Among the columns whose schema, table
and name have no points in them the address in the statement stands for one only.  Among all columns it does
so for those without a schema whose table and name have no points in them, and for no others. -/
theorem renameColumn_determines_iff (hd : d.kind = .sqlserver) (hn : d.config.naming = .unchanged)
    (m : Model) (f : Field) (old : String) :
    ((m.address old).IsPlain → ∀ m' f' old', (m'.address old').IsPlain →
      d.renamedBy m' f' old' = d.renamedBy m f old → m'.address old' = m.address old) ∧
    ((∀ m' f' old', d.renamedBy m' f' old' = d.renamedBy m f old → m'.address old' = m.address old) ↔
      m.schema = none ∧ (m.address old).IsPlain) := by
  constructor
  · intro hplain m' f' old' hplain' h
    exact ColumnAddress.text_injective hplain' hplain ((renamedBy_eq_iff hd hn).1 h)
  · have hunique := ColumnAddress.unique_iff (a := m.address old)
    refine Iff.trans ⟨fun h b htext => ?_, fun h m' f' old' hsame => ?_⟩ hunique
    · -- each address is that of a column of some model
      let m' : Model := { Model.new b.table with schema := b.schema }
      exact h m' f b.column ((renamedBy_eq_iff hd hn).2 htext)
    · exact h _ ((renamedBy_eq_iff hd hn).1 hsame)

/-- A table and a column with quotes and brackets in their names. -/
theorem renameColumn_determines_iff_quotes :
    let d := DialectKind.sqlserver.dialect
    let m := Model.new "it's] [so"
    let f := Field.new "Total" .int64
    d.renamedBy m f "[a]'b" = some "it's] [so.[a]'b" ∧
      ∀ m' f' old', d.renamedBy m' f' old' = some "it's] [so.[a]'b" →
        m'.address old' = m.address "[a]'b" := by
  intro d m f
  have hnamed : d.renamedBy m f "[a]'b" = some "it's] [so.[a]'b" := by decide +kernel
  have hunique := (renameColumn_determines_iff (d := d) rfl rfl m f "[a]'b").2.2 (by decide +kernel)
  refine ⟨hnamed, fun m' f' old' h => hunique m' f' old' ?_⟩
  rw [hnamed]
  exact h

/-- **A point in the name of a table** is taken for the one behind a schema: two models that are as they
should be, and one statement for both. -/
theorem renameColumn_ambiguous :
    let d := DialectKind.sqlserver.dialect
    let f := Field.new "Total" .int64
    let m := { Model.new "sales.item" with fields := [f] }
    let m' := { Model.new "item" with schema := some "sales", fields := [f] }
    m.build = .ok m ∧ m'.build = .ok m' ∧ m.address "price" ≠ m'.address "price" ∧
      d.renameColumn m f "price" = .ok "EXEC sp_rename 'sales.item.price', 'Total', 'COLUMN';" ∧
      d.renameColumn m' f "price" = .ok "EXEC sp_rename 'sales.item.price', 'Total', 'COLUMN';" := by
  decide +kernel

end Dialect

end ModelSql
