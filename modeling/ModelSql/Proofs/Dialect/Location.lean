/-
**Finding the row that is changed or deleted.**

The statements that change and delete a row find it by a list of conditions, one for each field of its
key, or of all stored fields where there is no key.  The list goes through the key as it was declared.
So it has a condition twice where a composite key has a field twice, and it is empty where there is
neither key nor stored field, which leaves a statement that ends with `WHERE`.  In all other cases it has
exactly one condition for each of the fields.

Main definitions:

* `Dialect.Locates` — **the condition on a field**: that it is null, or that it equals a literal;
* `Dialect.Finds` — the conditions on some fields, joined by `AND`;
* `Model.Covers`, `Model.Locating` — fields that find a row, and that find it by each of them once;
* `Dialect.Deletes`, `Dialect.Updates` — **statements that find their row** by such fields.

Main results:

* `Dialect.finds_rowFilter_iff` — the condition that is written;
* `Model.covers_filterFields`, `Model.nodup_filterFields_iff` — the fields that it is about;
* `Dialect.eq_of_finds_finds` — **two lists of conditions of one text have as many fields**;
* `Dialect.deletes_iff`, `Dialect.updates_iff`, `Dialect.located_iff` — **when a statement finds its row
  by one condition on each field**.
-/

import Mathlib.Algebra.GroupWithZero.Nat
import Mathlib.Algebra.Order.BigOperators.Group.List
import Mathlib.Algebra.Order.Group.Nat
import Mathlib.Data.List.Perm.Subperm
import ModelSql.Dialect.RowStatement
import ModelSql.Proofs.Model.Key
import ModelSql.Proofs.Query.Binding
import ModelSql.Proofs.Text.Words

set_option relaxedAutoImplicit false
set_option autoImplicit false

namespace ModelSql

/-! ### Conditions -/

namespace Dialect

/-- **The condition that finds a row by a field**: the field is null, or it equals the literal of its
value. -/
inductive Locates (d : Dialect) (row : Row) (f : Field) : String → Prop
  | isNull (h : row.value f.name = .null) : Locates d row f (d.quotedField f ++ " IS NULL")
  | equals {sql : String} (h : row.value f.name ≠ .null)
      (hsql : d.fieldLiteral f (row.value f.name) = .ok sql) :
      Locates d row f (d.quotedField f ++ " = " ++ sql)

/-- The conditions on some fields, one for each of them and in their order. -/
def Finds (d : Dialect) (row : Row) (fs : List Field) (sql : String) : Prop :=
  ∃ cs, List.Forall₂ (d.Locates row) fs cs ∧ sql = Text.joinWith " AND " cs

variable {d : Dialect} {row : Row} {f : Field} {fs gs : List Field} {sql : String}

/-- The condition on a field is the one that is written. -/
theorem locates_iff : d.Locates row f sql ↔ d.fieldCondition row f = .ok sql := by
  unfold fieldCondition
  dsimp only
  constructor
  · intro h
    cases h with
    | isNull h => rw [h, Value.isNull_null, if_pos rfl]
    | equals h hsql =>
        rw [if_neg (by rwa [Value.isNull_iff]), hsql]
        rfl
  · intro h
    split at h
    · rename_i hnull
      cases h
      exact .isNull ((Value.isNull_iff _).1 hnull)
    · rename_i hnull
      obtain ⟨literal, hliteral, rfl⟩ := map_eq_ok h
      exact .equals (by rwa [Value.isNull_iff] at hnull) hliteral

/-- The conditions on fields are written one by one. -/
theorem forall₂_locates_iff {cs : List String} :
    List.Forall₂ (d.Locates row) fs cs ↔ d.fieldConditions row fs = .ok cs := by
  constructor
  · intro h
    induction h with
    | nil => rfl
    | cons hc _ ih =>
        rw [fieldConditions, locates_iff.1 hc, ih]
        rfl
  · intro h
    induction fs generalizing cs with
    | nil =>
        cases h
        exact .nil
    | cons f fs ih =>
        rw [fieldConditions] at h
        cases hcondition : d.fieldCondition row f with
        | error e =>
            rw [hcondition] at h
            cases h
        | ok c =>
            rw [hcondition] at h
            obtain ⟨cs', hcs', rfl⟩ := map_eq_ok h
            exact .cons (locates_iff.2 hcondition) (ih hcs')

/-- **The condition that finds a row is about the fields of its filter.** -/
theorem finds_rowFilter_iff {m : Model} :
    d.Finds row (filterFields m) sql ↔ d.rowFilter m row = .ok sql := by
  constructor
  · rintro ⟨cs, hcs, rfl⟩
    rw [rowFilter, forall₂_locates_iff.1 hcs]
    rfl
  · intro h
    obtain ⟨cs, hcs, rfl⟩ := map_eq_ok h
    exact ⟨cs, forall₂_locates_iff.2 hcs, rfl⟩

/-! ### The room that conditions take -/

/-- The room of the condition on a field, with the word behind it. -/
def conditionRoom (d : Dialect) (row : Row) (f : Field) : Nat :=
  match d.fieldCondition row f with
  | .ok sql => sql.length + " AND ".length
  | .error _ => 0

theorem conditionRoom_of_locates (h : d.Locates row f sql) :
    d.conditionRoom row f = sql.length + " AND ".length := by
  rw [conditionRoom, locates_iff.1 h]

/-- Each condition takes room. -/
theorem conditionRoom_pos {cs : List String} (h : List.Forall₂ (d.Locates row) fs cs) (hf : f ∈ fs) :
    0 < d.conditionRoom row f := by
  induction h with
  | nil => cases hf
  | @cons g c fs cs hc _ ih =>
      rcases List.mem_cons.1 hf with rfl | hf
      · rw [conditionRoom_of_locates hc]
        exact Nat.add_pos_right _ (by decide)
      · exact ih hf

/-- The room of conditions is that of each of them. -/
theorem sum_conditionRoom {cs : List String} (h : List.Forall₂ (d.Locates row) fs cs) :
    (fs.map (d.conditionRoom row)).sum = (cs.map fun c => c.length + " AND ".length).sum := by
  induction h with
  | nil => rfl
  | cons hc _ ih => rw [List.map_cons, List.sum_cons, ih, conditionRoom_of_locates hc, List.map_cons,
      List.sum_cons]

/-- The room of the conditions on some fields is that of the text. -/
theorem length_of_finds (h : d.Finds row fs sql) (hne : fs ≠ []) :
    sql.length + " AND ".length = (fs.map (d.conditionRoom row)).sum := by
  obtain ⟨cs, hcs, rfl⟩ := h
  have hcs' : cs ≠ [] := by
    rintro rfl
    cases hcs
    exact hne rfl
  rw [sum_conditionRoom hcs, Text.length_joinWith hcs']

/-- **One text has a condition on each field at most once, or at least one twice.**  If the same text
finds a row by distinct fields and by a list with no field besides them, the list has no field twice. -/
theorem nodup_of_finds (hnodup : fs.Nodup) (hmem : ∀ f, f ∈ fs ↔ f ∈ gs) (hfs : d.Finds row fs sql)
    (hgs : d.Finds row gs sql) : gs.Nodup := by
  have hsub : fs.Subperm gs := hnodup.subperm fun f hf => (hmem f).1 hf
  -- a longer list has all the conditions of the shorter one and one more, which takes room
  rcases Nat.lt_or_ge fs.length gs.length with hlt | hge
  · obtain ⟨g, hg⟩ := hsub.exists_of_length_lt hlt
    have hgmem : g ∈ gs := hg.subset List.mem_cons_self
    have hfne : fs ≠ [] := List.ne_nil_of_mem ((hmem g).2 hgmem)
    obtain ⟨hs, hperm, hsublist⟩ := hg
    have hle : (hs.map (d.conditionRoom row)).sum ≤ (gs.map (d.conditionRoom row)).sum :=
      (hsublist.map _).sum_le_sum fun _ _ => Nat.zero_le _
    have hsum : (hs.map (d.conditionRoom row)).sum =
        d.conditionRoom row g + (fs.map (d.conditionRoom row)).sum := by
      rw [(hperm.map _).sum_eq, List.map_cons, List.sum_cons]
    have hpos : 0 < d.conditionRoom row g := by
      obtain ⟨cs, hcs, -⟩ := hgs
      exact conditionRoom_pos hcs hgmem
    have hroom := length_of_finds hfs hfne
    have hroom' := length_of_finds hgs (List.ne_nil_of_mem hgmem)
    omega
  · exact (hsub.perm_of_length_le hge).nodup hnodup

end Dialect

/-! ### The fields of the conditions -/

namespace Model

/-- A model with a key. -/
def HasKey (m : Model) : Prop := ∃ f ∈ m.fields, m.isKeyField f = true

/-- **Fields that find a row**: those of the key, in the order that it is declared in, or the stored ones
of a model without a key. -/
structure Covers (m : Model) (fs : List Field) : Prop where
  keyed : m.HasKey → ∀ f, f ∈ fs ↔ f ∈ m.fields ∧ m.isKeyField f = true
  composite : m.compositeKey ≠ [] → (fs.map (·.name)).Sublist m.compositeKey
  stored : ¬ m.HasKey → ∀ f, f ∈ fs ↔ f ∈ m.fields ∧ f.isComputed = false

/-- Fields that find a row, each of them once and at least one. -/
structure Locating (m : Model) (fs : List Field) : Prop extends m.Covers fs where
  nonempty : fs ≠ []
  once : fs.Nodup

variable {m : Model} {f : Field} {fs gs : List Field}

/-- Lists of fields that find a row have the same fields. -/
theorem Covers.mem_iff (hfs : m.Covers fs) (hgs : m.Covers gs) (f : Field) : f ∈ fs ↔ f ∈ gs := by
  by_cases hkey : m.HasKey
  · rw [hfs.keyed hkey, hgs.keyed hkey]
  · rw [hfs.stored hkey, hgs.stored hkey]

section

variable (hnames : (m.fields.map (·.name)).Nodup) (hkey : m.KeySound)

include hnames hkey

/-- A model has a key when there are fields in the list of it. -/
theorem hasKey_iff : m.HasKey ↔ m.primaryKeys ≠ [] := by
  rw [Ne, List.eq_nil_iff_forall_not_mem, not_forall_not]
  exact exists_congr fun f => (mem_primaryKeys_iff hnames hkey).symm

theorem filterFields_of_hasKey (h : m.HasKey) : Dialect.filterFields m = m.primaryKeys := by
  rw [hasKey_iff hnames hkey] at h
  rw [Dialect.filterFields, if_neg (by simpa using h)]

theorem filterFields_of_not_hasKey (h : ¬ m.HasKey) :
    Dialect.filterFields m = m.fields.filter (!·.isComputed) := by
  rw [hasKey_iff hnames hkey, not_not] at h
  rw [Dialect.filterFields, if_pos (by simp [h])]

/-- A model without a key has no composite one either. -/
theorem compositeKey_eq_nil (h : ¬ m.HasKey) : m.compositeKey = [] := by
  by_contra hcomposite
  rw [hasKey_iff hnames hkey, not_not] at h
  have hlist := map_name_primaryKeys hnames hkey hcomposite
  rw [h, List.map_nil] at hlist
  exact hcomposite hlist.symm

/-- **The conditions are on the fields of the key**, or on the stored ones of a model without a key. -/
theorem covers_filterFields : m.Covers (Dialect.filterFields m) where
  keyed := by
    intro h f
    rw [filterFields_of_hasKey hnames hkey h]
    exact mem_primaryKeys_iff hnames hkey
  composite := by
    intro hcomposite
    by_cases h : m.HasKey
    · rw [filterFields_of_hasKey hnames hkey h, map_name_primaryKeys hnames hkey hcomposite]
    · exact absurd (compositeKey_eq_nil hnames hkey h) hcomposite
  stored := by
    intro h f
    rw [filterFields_of_not_hasKey hnames hkey h, List.mem_filter]
    simp

/-- **No two conditions are on one field** exactly when the composite key has no field twice. -/
theorem nodup_filterFields_iff : (Dialect.filterFields m).Nodup ↔ m.compositeKey.Nodup := by
  by_cases h : m.HasKey
  · rw [filterFields_of_hasKey hnames hkey h]
    exact nodup_primaryKeys_iff hnames hkey
  · rw [filterFields_of_not_hasKey hnames hkey h, compositeKey_eq_nil hnames hkey h]
    exact iff_of_true (hnames.of_map.filter _) List.nodup_nil

/-- There is a condition when there is a key or a stored field. -/
theorem filterFields_ne_nil_iff :
    Dialect.filterFields m ≠ [] ↔
      ∃ f ∈ m.fields, m.isKeyField f = true ∨ f.isComputed = false := by
  have hcovers := covers_filterFields hnames hkey
  rw [Ne, List.eq_nil_iff_forall_not_mem, not_forall_not]
  by_cases h : m.HasKey
  · have hmem := hcovers.keyed h
    obtain ⟨f, hf, hin⟩ := h
    exact iff_of_true ⟨f, (hmem f).2 ⟨hf, hin⟩⟩ ⟨f, hf, .inl hin⟩
  · constructor
    · rintro ⟨f, hf⟩
      obtain ⟨hf, hstored⟩ := (hcovers.stored h f).1 hf
      exact ⟨f, hf, .inr hstored⟩
    · rintro ⟨f, hf, hin | hstored⟩
      · exact absurd ⟨f, hf, hin⟩ h
      · exact ⟨f, (hcovers.stored h f).2 ⟨hf, hstored⟩⟩

/-- **When a condition is one on each field that finds a row.** -/
theorem exists_locating_iff {d : Dialect} {row : Row} {sql : String}
    (h : d.rowFilter m row = .ok sql) :
    (∃ fs, m.Locating fs ∧ d.Finds row fs sql) ↔
      m.compositeKey.Nodup ∧ ∃ f ∈ m.fields, m.isKeyField f = true ∨ f.isComputed = false := by
  have hwritten := Dialect.finds_rowFilter_iff.2 h
  have hcovers := covers_filterFields hnames hkey
  rw [← nodup_filterFields_iff hnames hkey, ← filterFields_ne_nil_iff hnames hkey]
  constructor
  · rintro ⟨fs, hfs, hfinds⟩
    have hmem := hfs.toCovers.mem_iff hcovers
    refine ⟨Dialect.nodup_of_finds hfs.once hmem hfinds hwritten, ?_⟩
    obtain ⟨f, hf⟩ := List.exists_mem_of_ne_nil fs hfs.nonempty
    exact List.ne_nil_of_mem ((hmem f).1 hf)
  · rintro ⟨honce, hnonempty⟩
    exact ⟨Dialect.filterFields m, ⟨hcovers, hnonempty, honce⟩, hwritten⟩

end

end Model

/-! ### Statements -/

namespace Dialect

variable {d : Dialect} {m b : Model} {row : Row} {allowed : List String} {sql : String}

/-- The statement that deletes the rows that satisfy a condition. -/
def deletion (d : Dialect) (m : Model) (condition : String) : String :=
  "DELETE FROM " ++ d.quotedTable m ++ " WHERE " ++ condition

/-- The statement that makes assignments in the rows that satisfy a condition. -/
def change (d : Dialect) (m : Model) (sets : List String) (condition : String) : String :=
  "UPDATE " ++ d.quotedTable m ++ " SET " ++ Text.joinWith ", " sets ++ " WHERE " ++ condition

/-- **A statement that deletes the row it finds** by one condition on each of the fields for it. -/
def Deletes (d : Dialect) (m : Model) (row : Row) (sql : String) : Prop :=
  ∃ fs condition, m.Locating fs ∧ d.Finds row fs condition ∧ sql = d.deletion m condition

/-- **A statement that changes the row it finds** by one condition on each of the fields for it. -/
def Updates (d : Dialect) (m : Model) (row : Row) (allowed : List String) (sql : String) : Prop :=
  ∃ sets fs condition, d.assignments row (m.fields.filter (updates m allowed)) = .ok sets ∧
    m.Locating fs ∧ d.Finds row fs condition ∧ sql = d.change m sets condition

/-- What a successful deletion is made of. -/
theorem deleteRow_eq_ok (h : d.deleteRow m row = .ok sql) :
    ∃ condition, d.rowFilter m row = .ok condition ∧ sql = d.deletion m condition :=
  map_eq_ok h

/-- What a successful change is made of; the model has a key then. -/
theorem updateRow_eq_ok (h : d.updateRow m row allowed = .ok sql) :
    m.primaryKeys ≠ [] ∧ ∃ sets condition,
      d.assignments row (m.fields.filter (updates m allowed)) = .ok sets ∧
        d.rowFilter m row = .ok condition ∧ sql = d.change m sets condition := by
  unfold updateRow at h
  split at h
  · cases h
  rename_i hprimary
  split at h
  · cases h
  rename_i sets hsets
  split at h
  · cases h
  obtain ⟨condition, hfilter, rfl⟩ := map_eq_ok h
  exact ⟨by simpa using hprimary, sets, condition, hsets, hfilter, rfl⟩

/-- The conditions of two deletions from one table are told apart. -/
theorem deletion_inj {s t : String} : d.deletion m s = d.deletion m t ↔ s = t :=
  String.append_right_inj _

/-- The conditions of two changes with the same assignments are told apart. -/
theorem change_inj {sets : List String} {s t : String} :
    d.change m sets s = d.change m sets t ↔ s = t :=
  String.append_right_inj _

section

variable (hb : m.build = .ok b)

include hb

/-- **When a deletion finds its row** by one condition on each field. -/
theorem deletes_iff (h : d.deleteRow b row = .ok sql) :
    d.Deletes b row sql ↔
      b.compositeKey.Nodup ∧ ∃ f ∈ b.fields, b.isKeyField f = true ∨ f.isComputed = false := by
  obtain ⟨condition, hfilter, rfl⟩ := deleteRow_eq_ok h
  rw [← Model.exists_locating_iff (Model.distinctFields_of_build hb).names
    (Model.keySound_of_build hb) hfilter]
  constructor
  · rintro ⟨fs, condition', hfs, hfinds, hsql⟩
    obtain rfl := deletion_inj.1 hsql
    exact ⟨fs, hfs, hfinds⟩
  · rintro ⟨fs, hfs, hfinds⟩
    exact ⟨fs, condition, hfs, hfinds, rfl⟩

/-- **When a change finds its row** by one condition on each field. -/
theorem updates_iff (h : d.updateRow b row allowed = .ok sql) :
    d.Updates b row allowed sql ↔ b.compositeKey.Nodup := by
  have hnames := (Model.distinctFields_of_build hb).names
  have hkey := Model.keySound_of_build hb
  obtain ⟨hprimary, sets, condition, hsets, hfilter, rfl⟩ := updateRow_eq_ok h
  have hlocating := Model.exists_locating_iff hnames hkey hfilter
  constructor
  · rintro ⟨sets', fs, condition', hsets', hfs, hfinds, hsql⟩
    obtain rfl := Except.ok.inj (hsets.symm.trans hsets')
    obtain rfl := change_inj.1 hsql
    exact (hlocating.1 ⟨fs, hfs, hfinds⟩).1
  · intro honce
    obtain ⟨f, hf, hin⟩ := (Model.hasKey_iff hnames hkey).2 hprimary
    obtain ⟨fs, hfs, hfinds⟩ := hlocating.2 ⟨honce, f, hf, .inl hin⟩
    exact ⟨sets, fs, condition, hsets, hfs, hfinds, rfl⟩

end

/-- **How the row that is deleted or changed is found.**  The conditions are on the fields of the key, or
on the stored ones where there is no key, one for each entry of the declared key.  They are one on each of
these fields exactly when the composite key has no field twice and, for a deletion, there is a key or a
stored field at all. -/
theorem located_iff (d : Dialect) (hb : m.build = .ok b) (row : Row) :
    b.Covers (filterFields b) ∧
      (∀ sql, d.deleteRow b row = .ok sql →
        (∃ condition, d.Finds row (filterFields b) condition ∧ sql = d.deletion b condition) ∧
          (d.Deletes b row sql ↔ b.compositeKey.Nodup ∧
            ∃ f ∈ b.fields, b.isKeyField f = true ∨ f.isComputed = false)) ∧
      ∀ allowed sql, d.updateRow b row allowed = .ok sql →
        (∃ sets condition, d.assignments row (b.fields.filter (updates b allowed)) = .ok sets ∧
          d.Finds row (filterFields b) condition ∧ sql = d.change b sets condition) ∧
          (d.Updates b row allowed sql ↔ b.compositeKey.Nodup) := by
  refine ⟨Model.covers_filterFields (Model.distinctFields_of_build hb).names
    (Model.keySound_of_build hb), fun sql h => ⟨?_, deletes_iff hb h⟩,
    fun allowed sql h => ⟨?_, updates_iff hb h⟩⟩
  · obtain ⟨condition, hfilter, hsql⟩ := deleteRow_eq_ok h
    exact ⟨condition, finds_rowFilter_iff.2 hfilter, hsql⟩
  · obtain ⟨-, sets, condition, hsets, hfilter, hsql⟩ := updateRow_eq_ok h
    exact ⟨sets, condition, hsets, finds_rowFilter_iff.2 hfilter, hsql⟩

/-- Seats under a row and a number, with their guests. -/
def seats : Model :=
  { Model.new "Seat" with
    fields :=
      [Field.new "No" .int32, { Field.new "Row" .string with isNullable := false },
        Field.new "Guest" .string]
    compositeKey := ["Row", "No"] }

/-- What is known of a seat: all but its row. -/
def seatRow : Row := .ofRecord ((Record.empty.set "No" (.int 4)).set "Guest" (.text "Ada"))

/-- A seat is found by its row and its number, in this order, and the row is looked for as null. -/
theorem located_iff_seats :
    let d := DialectKind.sqlite.dialect
    let condition := "\"Row\" IS NULL AND \"No\" = 4"
    seats.build = .ok seats ∧
      d.deleteRow seats seatRow = .ok ("DELETE FROM \"Seat\" WHERE " ++ condition) ∧
      d.Deletes seats seatRow ("DELETE FROM \"Seat\" WHERE " ++ condition) ∧
      d.updateRow seats seatRow [] =
        .ok ("UPDATE \"Seat\" SET \"Guest\" = 'Ada' WHERE " ++ condition) ∧
      d.Updates seats seatRow []
        ("UPDATE \"Seat\" SET \"Guest\" = 'Ada' WHERE " ++ condition) := by
  intro d condition
  have hb : seats.build = .ok seats := by rfl
  have hdelete : d.deleteRow seats seatRow = .ok ("DELETE FROM \"Seat\" WHERE " ++ condition) := by
    decide +kernel
  have hupdate : d.updateRow seats seatRow [] =
      .ok ("UPDATE \"Seat\" SET \"Guest\" = 'Ada' WHERE " ++ condition) := by decide +kernel
  obtain ⟨-, hdeletes, hupdates⟩ := located_iff d hb seatRow
  exact ⟨hb, hdelete, (hdeletes _ hdelete).2.2 (by decide), hupdate,
    (hupdates _ _ hupdate).2.2 (by decide)⟩

/-- Totals that the database computes, in a table of their own without a key. -/
def totals : Model :=
  { Model.new "Total" with fields := [{ Field.new "Sum" .int64 with isComputed := true }] }

/-- Tags under a key that has their number twice. -/
def doubledTags : Model :=
  { Model.new "Tag" with
    fields := [Field.new "No" .int32, Field.new "Name" .string]
    compositeKey := ["No", "No"] }

/-- What is known of a tag. -/
def tagRow : Row := .ofRecord ((Record.empty.set "No" (.int 1)).set "Name" (.text "a"))

/-- Totals are deleted by no condition at all, and a tag by the same condition twice. -/
theorem not_located :
    let d := DialectKind.sqlite.dialect
    totals.build = .ok totals ∧
      d.deleteRow totals (.ofRecord .empty) = .ok "DELETE FROM \"Total\" WHERE " ∧
      ¬ d.Deletes totals (.ofRecord .empty) "DELETE FROM \"Total\" WHERE " ∧
      doubledTags.build = .ok doubledTags ∧
      d.deleteRow doubledTags tagRow = .ok "DELETE FROM \"Tag\" WHERE \"No\" = 1 AND \"No\" = 1" ∧
      ¬ d.Deletes doubledTags tagRow "DELETE FROM \"Tag\" WHERE \"No\" = 1 AND \"No\" = 1" := by
  intro d
  have htotals : totals.build = .ok totals := by rfl
  have hdelete : d.deleteRow totals (.ofRecord .empty) = .ok "DELETE FROM \"Total\" WHERE " := by
    decide +kernel
  have htags : doubledTags.build = .ok doubledTags := by rfl
  have hdelete' : d.deleteRow doubledTags tagRow =
      .ok "DELETE FROM \"Tag\" WHERE \"No\" = 1 AND \"No\" = 1" := by decide +kernel
  refine ⟨htotals, hdelete, ?_, htags, hdelete', ?_⟩
  · rw [deletes_iff htotals hdelete]
    decide
  · rw [deletes_iff htags hdelete']
    decide

end Dialect

end ModelSql
