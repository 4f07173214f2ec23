/-
**References to the key of a model.**

A reference is made from a model: it takes over the name of the table, its schema, and the column of the
single key.  It is written later, in the statement for another table, and goes through the names of the
dialect again.  There it names the table as the statement for the model itself does, character by character.

It names a column of the key too if the model has a single one, declared or by its name.  If the key is
composite, or if there is none, the reference falls back to the column `Id`, which no key needs to have.

Main definitions:

* `ForeignKey.IsTo` — a reference to the key of a model;
* `Dialect.HasLine` — a text on a line of its own;
* `Dialect.KeyColumn` — **a column that the statement for a table declares as its key**, or as part of it;
* `Dialect.Refers` — **a reference from one statement to the table of another**.

Main results:

* `Dialect.keyColumn_iff` — the columns that are declared are those of the key;
* `Dialect.references_key_iff` — **when a reference names a column of the key**.
-/

import ModelSql.Proofs.Dialect.Generated
import ModelSql.Proofs.Dialect.Mention
import ModelSql.Proofs.Model.Acceptance
import ModelSql.Proofs.Query.Binding

set_option relaxedAutoImplicit false
set_option autoImplicit false

namespace ModelSql

/-- **A reference to the key of a model**, with actions and a name of its own. -/
def ForeignKey.IsTo (k : ForeignKey) (t : Model) : Prop :=
  k = { ForeignKey.toModel t with onDelete := k.onDelete, onUpdate := k.onUpdate, name := k.name }

namespace ForeignKey.IsTo

variable {k : ForeignKey} {t : Model} (h : k.IsTo t)

include h

theorem schema_eq : k.schema = t.schema := congrArg ForeignKey.schema h

theorem table_eq : k.table = t.table := congrArg ForeignKey.table h

theorem column_eq : k.column = (t.primaryKey?.map Field.column).getD idField :=
  congrArg ForeignKey.column h

end ForeignKey.IsTo

namespace Dialect

open Nest

variable {d : Dialect} {plan t m : Model} {f : Field} {k : ForeignKey} {sql target : String}
  {column : List Token}

/-! ### Lines of a table -/

/-- A text on a line of its own. -/
def HasLine (sql line : String) : Prop := ∃ before after, sql = before ++ "\n  " ++ line ++ after

theorem exists_columnDefinition {fs : List Field} {lines : List String}
    (h : d.columnDefinitions fs = .ok lines) (hf : f ∈ fs) :
    ∃ definition, d.columnDefinition f = .ok definition := by
  induction fs generalizing lines with
  | nil => cases hf
  | cons g fs ih =>
      obtain ⟨line, rest, hline, hrest, -⟩ := exists_of_columnDefinitions h
      rcases List.mem_cons.1 hf with rfl | hf
      · exact ⟨line, hline⟩
      · exact ih hrest hf

/-- The statement for a table starts with its name, and each of its constraints has a line of its own. -/
theorem exists_of_createTable (h : d.createTable m = .ok sql) :
    (∃ lines, d.columnDefinitions m.fields = .ok lines) ∧
      (∃ rest, sql = "CREATE TABLE " ++ d.quotedTable m ++ " \n(\n  " ++ rest) ∧
      ∀ constraint ∈ d.constraints m, HasLine sql constraint := by
  obtain ⟨lines, hlines, rfl⟩ := map_eq_ok h
  refine ⟨⟨lines, hlines⟩, ⟨_, by simp only [String.append_assoc]; rfl⟩, fun constraint hc => ?_⟩
  obtain ⟨before, after, hline⟩ := exists_line hc
  have hsome : (d.constraints m).isEmpty = false := by
    cases hcs : d.constraints m with
    | nil => simp [hcs] at hc
    | cons c cs => rfl
  have hbreak : ",\n\n  " = ",\n" ++ "\n  " := by decide
  refine ⟨"CREATE TABLE " ++ d.quotedTable m ++ " \n(\n  " ++ Text.joinWith ",\n  " lines ++ ",\n" ++ before,
    after ++ "\n);", ?_⟩
  have hconstraints : ",\n\n  " ++ Text.joinWith ",\n  " (d.constraints m) =
      ",\n" ++ (before ++ "\n  " ++ constraint ++ after) := by
    rw [hbreak, String.append_assoc, hline]
  dsimp only
  rw [hsome, if_neg Bool.false_ne_true, hconstraints]
  simp only [String.append_assoc]

/-! ### The key of a table -/

/-- **A column that the statement for a table declares as its key**, or as a part of it: on a line of its
own, with the clause for a key behind its name and its type, or in the list of a constraint. -/
inductive KeyColumn (d : Dialect) (m : Model) (sql : String) : List Token → Prop
  | line {f : Field} {definition type : String} (hf : f ∈ m.fields) (hline : HasLine sql definition)
      (hdefinition : d.columnDefinition f = .ok definition)
      (htext : definition = d.quotedField f ++ " " ++ type ++ d.clausesText (d.columnClauses f))
      (hkey : .primaryKey ∈ d.columnClauses f) : KeyColumn d m sql (d.columnIdentifier f)
  | constraint {constraint : String} {columns : List (List Token)} {column : List Token}
      (hc : constraint ∈ d.constraints m) (hline : HasLine sql constraint)
      (hread : d.parse primary? constraint = some columns) (hcolumn : column ∈ columns) :
      KeyColumn d m sql column

/-- A column has the clause for a key exactly if its field is the key. -/
theorem primaryKey_mem_columnClauses_iff :
    .primaryKey ∈ d.columnClauses f ↔ f.isPrimaryKey = true := by
  have hdefault (sql : Option String) : ColumnClause.primaryKey ∉ defaultClauses sql := by
    cases sql <;> simp [defaultClauses]
  unfold columnClauses
  cases d.kind <;> cases f.isPrimaryKey <;> cases f.isNullable <;> simp [hdefault]

/-- The key of an accepted model is its key fields. -/
theorem mem_primaryKeys_of_build (hb : plan.build = .ok t) :
    f ∈ t.primaryKeys ↔ f ∈ t.fields ∧ t.isKeyField f = true :=
  Model.mem_primaryKeys_iff (Model.distinctFields_of_build hb).names (Model.keySound_of_build hb)

/-- A constraint that lists a primary key lists that of the model. -/
theorem eq_of_parse_primary {constraint : String} {columns : List (List Token)}
    (hc : constraint ∈ d.constraints m) (hread : d.parse primary? constraint = some columns) :
    columns = m.primaryKeys.map d.columnIdentifier := by
  rcases List.mem_append.1 hc with hc | hc
  · split at hc
    · cases hc
    · obtain rfl := List.mem_singleton.1 hc
      rw [parse_primary] at hread
      exact (Option.some.inj hread).symm
  · obtain ⟨f, -, hf⟩ := List.mem_filterMap.1 hc
    obtain ⟨k, -, rfl⟩ := Option.map_eq_some_iff.1 hf
    rw [parse_primary_foreignKey] at hread
    cases hread

/-- A field that is the key by itself is declared as such on its own line. -/
theorem keyColumn_of_isPrimaryKey (h : d.createTable m = .ok sql) (hf : f ∈ m.fields)
    (hkey : f.isPrimaryKey = true) : d.KeyColumn m sql (d.columnIdentifier f) := by
  obtain ⟨⟨lines, hlines⟩, -⟩ := exists_of_createTable h
  obtain ⟨definition, hdefinition⟩ := exists_columnDefinition hlines hf
  have htext := hdefinition
  rw [columnDefinition_eq] at htext
  obtain ⟨type, -, htext⟩ := map_eq_ok htext
  exact .line hf (exists_line_createTable hf h hdefinition) hdefinition htext
    (primaryKey_mem_columnClauses_iff.2 hkey)

/-- **The columns that are declared as the key are those of the key.** -/
theorem keyColumn_iff (hb : plan.build = .ok t) (h : d.createTable t = .ok sql) :
    d.KeyColumn t sql column ↔ ∃ f ∈ t.primaryKeys, column = d.columnIdentifier f := by
  constructor
  · intro hcolumn
    cases hcolumn with
    | @line f _ _ hf _ _ _ hkey =>
        refine ⟨f, (mem_primaryKeys_of_build hb).2 ⟨hf, ?_⟩, rfl⟩
        rw [Model.isKeyField, primaryKey_mem_columnClauses_iff.1 hkey, Bool.true_or]
    | constraint hc _ hread hcolumn =>
        rw [eq_of_parse_primary hc hread] at hcolumn
        obtain ⟨f, hf, rfl⟩ := List.mem_map.1 hcolumn
        exact ⟨f, hf, rfl⟩
  · rintro ⟨f, hf, rfl⟩
    obtain ⟨hfield, hkey⟩ := (mem_primaryKeys_of_build hb).1 hf
    by_cases hcomposite : t.compositeKey = []
    · rw [Model.isKeyField, hcomposite, List.contains_nil, Bool.or_false] at hkey
      exact keyColumn_of_isPrimaryKey h hfield hkey
    · have hc : _ ∈ d.constraints t := List.mem_append_left _ (by
        rw [if_neg (by simpa using hcomposite)]
        exact List.mem_singleton_self _)
      obtain ⟨-, -, hlines⟩ := exists_of_createTable h
      exact .constraint hc (hlines _ hc) (parse_primary d t.primaryKeys) (List.mem_map.2 ⟨f, hf, rfl⟩)

/-! ### References -/

/-- **A reference from one statement to the table of another.**  The constraint stands on a line of its own,
and behind `REFERENCES` it has the name under which the other statement creates the table, character by
character, and one column. -/
def Refers (d : Dialect) (sql target constraint : String) (column : List Token) : Prop :=
  HasLine sql constraint ∧ ∃ name rest head tail table,
    target = "CREATE TABLE " ++ name ++ " \n(\n  " ++ rest ∧
    constraint = head ++ " REFERENCES " ++ name ++ " (" ++ tail ∧
    d.parse (some <| path ·) name = some (table, []) ∧
    d.parse reference? constraint = some ⟨table, [column]⟩

theorem injective_nameToken (d : Dialect) : Function.Injective d.nameToken := by
  intro x y h
  unfold nameToken at h
  split at h <;> split at h
  · exact String.toList_inj.1 (Token.name.inj h)
  · cases h
  · cases h
  · exact String.toList_inj.1 (Token.word.inj h)

theorem exists_of_foreignKey (d : Dialect) (m : Model) (f : Field) (k : ForeignKey) :
    ∃ head tail, d.foreignKey m f k =
      head ++ " REFERENCES " ++ d.qualified k.schema (d.tableFor k.table) ++ " (" ++ tail := by
  have hsplit : ") REFERENCES " = ")" ++ " REFERENCES " := by decide
  refine ⟨"CONSTRAINT " ++ d.quoteName (d.constraintName m f k) ++ " FOREIGN KEY (" ++ d.quotedField f ++ ")",
    d.quotedColumn k.column ++ ")" ++ actionSuffix " ON DELETE " k.onDelete ++
      actionSuffix " ON UPDATE " k.onUpdate, ?_⟩
  unfold foreignKey
  rw [hsplit]
  simp only [String.append_assoc]

/-- **A reference is to the table of the model that it is made from**, and to one column. -/
theorem refers_of_isTo (hk : k.IsTo t) (htarget : d.createTable t = .ok target)
    (hsql : d.createTable m = .ok sql) (hf : f ∈ m.fields) (hfk : f.foreignKey = some k) :
    d.Refers sql target (d.foreignKey m f k) [d.nameToken (d.columnName k.column)] := by
  obtain ⟨-, ⟨rest, hrest⟩, -⟩ := exists_of_createTable htarget
  obtain ⟨-, -, hlines⟩ := exists_of_createTable hsql
  obtain ⟨head, tail, htext⟩ := exists_of_foreignKey d m f k
  have hc : d.foreignKey m f k ∈ d.constraints m :=
    List.mem_append_right _ (List.mem_filterMap.2 ⟨f, hf, by rw [hfk, Option.map_some]⟩)
  have hread := parse_reference d m f k
  have hname : d.parse (some <| path ·) (d.quotedTable t) = some (d.tableIdentifier t, []) := by
    rw [parse_of_spells (spells_quotedTable d t), path_table]
  rw [hk.schema_eq, hk.table_eq] at htext hread
  exact ⟨hlines _ hc, _, rest, head, tail, _, hrest, htext, hname, hread⟩

/-- **When a reference names a column of the key.**  Whatever the dialect, a reference that is made from an
accepted model names its table as the statement for the model does.  It names a column that this statement
declares as the key, or as a part of it, exactly if the model has a single key field, or a field of its
composite key has a column with the name of the column `Id`. -/
theorem references_key_iff (hb : plan.build = .ok t) (hk : k.IsTo t)
    (htarget : d.createTable t = .ok target) (hsql : d.createTable m = .ok sql) (hf : f ∈ m.fields)
    (hfk : f.foreignKey = some k) :
    ∃ column, d.Refers sql target (d.foreignKey m f k) column ∧
      (d.KeyColumn t target column ↔ t.primaryKey?.isSome = true ∨
        ∃ g ∈ t.primaryKeys, d.columnName g.column = d.columnName idField) := by
  refine ⟨_, refers_of_isTo hk htarget hsql hf hfk, ?_⟩
  rw [keyColumn_iff hb htarget, hk.column_eq]
  have hsame (g : Field) (name : String) :
      [d.nameToken (d.columnName name)] = d.columnIdentifier g ↔
        d.columnName g.column = d.columnName name := by
    rw [columnIdentifier, List.singleton_inj, d.injective_nameToken.eq_iff, eq_comm]
  simp only [hsame]
  cases hkey : t.primaryKey? with
  | none => simp
  | some g =>
      -- a single key is the whole key
      have hg : t.isKeyField g = true := by rw [Model.isKeyField, List.find?_some hkey, Bool.true_or]
      have hmem : g ∈ t.primaryKeys :=
        (mem_primaryKeys_of_build hb).2 ⟨List.mem_of_find?_eq_some hkey, hg⟩
      simpa using ⟨g, hmem, rfl⟩

/-- Customers in a schema, under a name and a key column that are not those of the model. -/
def customer : Model :=
  { Model.new "Customer" with
    storedName := some "Client"
    schema := some "crm"
    fields := [{ (Field.new "Id" .int64).primaryKey with storedName := some "ClientNo" },
      Field.new "Name" .string] }

/-- The customer of an invoice. -/
def invoiceCustomer : Field :=
  { Field.new "Customer" .int64 with
    foreignKey := some { ForeignKey.toModel customer with onDelete := some .cascade } }

/-- Invoices of customers. -/
def invoice : Model :=
  { Model.new "Invoice" with fields := [(Field.new "Id" .int64).primaryKey, invoiceCustomer] }

/-- MySQL with names in snake case. -/
def snakeMysql : Dialect :=
  ⟨.mysql, { DialectKind.mysql.defaultConfig with naming := .snakeCase }⟩

/-- An invoice refers to the key of its customer, under the names of the statement for customers. -/
theorem references_key_iff_invoice :
    let target := "CREATE TABLE `crm`.`client` \n(\n  `client_no` BIGINT PRIMARY KEY,\n  " ++
      "`name` VARCHAR(255) NULL\n);"
    let constraint := "CONSTRAINT `FK_invoice_client_customer` FOREIGN KEY (`customer`) " ++
      "REFERENCES `crm`.`client` (`client_no`) ON DELETE CASCADE"
    let sql := "CREATE TABLE `invoice` \n(\n  `id` BIGINT PRIMARY KEY,\n  `customer` BIGINT NOT NULL," ++
      "\n\n  " ++ constraint ++ "\n);"
    customer.build = .ok customer ∧ snakeMysql.createTable customer = .ok target ∧
      snakeMysql.createTable invoice = .ok sql ∧
      ∃ column, snakeMysql.Refers sql target constraint column ∧
        snakeMysql.KeyColumn customer target column := by
  intro target constraint sql
  have hb : customer.build = .ok customer := by rfl
  have htarget : snakeMysql.createTable customer = .ok target := by decide +kernel
  have hsql : snakeMysql.createTable invoice = .ok sql := by decide +kernel
  have hf : invoiceCustomer ∈ invoice.fields := List.mem_cons_of_mem _ List.mem_cons_self
  have hk : ForeignKey.IsTo { ForeignKey.toModel customer with onDelete := some .cascade } customer := rfl
  have hconstraint : snakeMysql.foreignKey invoice invoiceCustomer
      { ForeignKey.toModel customer with onDelete := some .cascade } = constraint := by decide +kernel
  obtain ⟨column, hrefers, hkey⟩ := references_key_iff hb hk htarget hsql hf rfl
  rw [hconstraint] at hrefers
  exact ⟨hb, htarget, hsql, column, hrefers, hkey.2 (.inl rfl)⟩

/-- Entries of orders, under the numbers of the order and of the line. -/
def entry : Model :=
  { Model.new "Entry" with
    fields := [Field.new "OrderNo" .int64, Field.new "LineNo" .int32]
    compositeKey := ["OrderNo", "LineNo"] }

/-- The entry of a return. -/
def returnEntry : Field :=
  { Field.new "Entry" .int64 with foreignKey := some (ForeignKey.toModel entry) }

/-- Returns of entries. -/
def returns : Model :=
  { Model.new "Return" with fields := [(Field.new "Id" .int64).primaryKey, returnEntry] }

/-- **A return refers to a column that entries do not have**, in place of one of their key. -/
theorem reference_without_column :
    let d := DialectKind.mysql.dialect
    let target := "CREATE TABLE `Entry` \n(\n  `OrderNo` BIGINT NOT NULL,\n  `LineNo` INT NOT NULL,\n\n  " ++
      "PRIMARY KEY (`OrderNo`, `LineNo`)\n);"
    let constraint := "CONSTRAINT `FK_Return_Entry_Entry` FOREIGN KEY (`Entry`) REFERENCES `Entry` (`Id`)"
    let sql := "CREATE TABLE `Return` \n(\n  `Id` BIGINT PRIMARY KEY,\n  `Entry` BIGINT NOT NULL,\n\n  " ++
      constraint ++ "\n);"
    entry.build = .ok entry ∧ d.createTable entry = .ok target ∧ d.createTable returns = .ok sql ∧
      d.Refers sql target constraint [.name "Id".toList] ∧
      (∀ f ∈ entry.fields, d.columnIdentifier f ≠ [.name "Id".toList]) ∧
      ¬ d.KeyColumn entry target [.name "Id".toList] ∧
      d.KeyColumn entry target [.name "OrderNo".toList] := by
  intro d target constraint sql
  have hb : entry.build = .ok entry := by rfl
  have htarget : d.createTable entry = .ok target := by decide +kernel
  have hsql : d.createTable returns = .ok sql := by decide +kernel
  have hf : returnEntry ∈ returns.fields := List.mem_cons_of_mem _ List.mem_cons_self
  have hconstraint : d.foreignKey returns returnEntry (ForeignKey.toModel entry) = constraint := by
    decide +kernel
  have hk : (ForeignKey.toModel entry).IsTo entry := rfl
  have hrefers := refers_of_isTo hk htarget hsql hf rfl
  rw [hconstraint] at hrefers
  have hfields : ∀ f ∈ entry.fields, d.columnIdentifier f ≠ [.name "Id".toList] := by decide +kernel
  refine ⟨hb, htarget, hsql, hrefers, hfields, fun h => ?_, ?_⟩
  · obtain ⟨f, hf, hcolumn⟩ := (keyColumn_iff hb htarget).1 h
    exact hfields f ((mem_primaryKeys_of_build hb).1 hf).1 hcolumn.symm
  · exact (keyColumn_iff hb htarget).2 ⟨Field.new "OrderNo" .int64, by decide +kernel, rfl⟩

end Dialect

end ModelSql
