/-
**The names of indexes.**

An index without a name of its own is named after its table and its columns: in lower case, with
underscores between, and cut off where the limit of the database is.  The first letter tells unique indexes
from the others.  Everything else that sets two lists of columns apart can be lost: the case of their
letters, where one column ends and the next begins if a column has an underscore in it, and all that stands
behind the limit.  An index of one field and one over several fields are named alike, so that they can meet
as well.

Main definitions:

* `IndexShape`, `Dialect.indexShapes` — **the indexes that are created**;
* `Dialect.generatedName` — the name of one that has none of its own;
* `IndexShape.label`, `Dialect.visible` — what a name says of the columns, and what the limit leaves of it;
* `Dialect.Merges` — **indexes that cannot be told apart by their names**.

Main results:

* `Dialect.createIndexes_eq` — the statements, one for each index;
* `Dialect.generatedName_eq` — a name in its parts;
* `Dialect.generatedName_eq_iff` — **indexes with one name**;
* `Dialect.indexNames_distinct_iff` — **the names of the indexes of a checked model**.
-/

import ModelSql.Proofs.Dialect.Identifier
import ModelSql.Proofs.Text.LowerCase

set_option relaxedAutoImplicit false
set_option autoImplicit false

namespace ModelSql

/-! ### Names that are cut off -/

namespace DialectRules

/-- As many characters as there is room for, or all of them. -/
def cut (room : Option Nat) (cs : List Char) : List Char :=
  match room with
  | some n => cs.take n
  | none => cs

theorem toList_clamp (r : DialectRules) (name : String) :
    (r.clamp name).toList = cut r.maxNameLength name.toList := by
  unfold clamp cut
  cases r.maxNameLength with
  | none => rfl
  | some most => exact String.toList_ofList

/-- What is in front takes its room first. -/
theorem cut_append (room : Option Nat) (cs ds : List Char) :
    cut room (cs ++ ds) = cut room cs ++ cut (room.map (· - cs.length)) ds := by
  cases room with
  | none => rfl
  | some n => exact List.take_append

/-- What there is room for is left as it is. -/
theorem cut_of_fits {room : Option Nat} {cs : List Char} (h : ∀ n ∈ room, cs.length ≤ n) :
    cut room cs = cs := by
  cases room with
  | none => rfl
  | some n => exact List.take_of_length_le (h n rfl)

/-- What stands behind something is left as it is where both fit. -/
theorem cut_of_append_fits {room : Option Nat} {head tail : String}
    (h : ∀ n ∈ room, (head ++ tail).length ≤ n) :
    cut (room.map (· - head.toList.length)) tail.toList = tail.toList := by
  refine cut_of_fits fun n hn => ?_
  obtain ⟨most, hmost, rfl⟩ := Option.map_eq_some_iff.1 hn
  have hfits := h most hmost
  rw [← String.length_toList, String.toList_append, List.length_append] at hfits
  omega

/-- **A name of two parts that is cut off**: what is left of the first part, and then of the second. -/
theorem toList_clamp_append (r : DialectRules) (head tail : String) :
    (r.clamp (head ++ tail)).toList = cut r.maxNameLength head.toList ++
      cut (r.maxNameLength.map (· - head.toList.length)) tail.toList := by
  rw [toList_clamp, String.toList_append, cut_append]

/-- Where there is any room, the first character stays. -/
theorem head?_cut {room : Option Nat} (h : ∀ n ∈ room, 0 < n) (c : Char) (cs : List Char) :
    (cut room (c :: cs)).head? = some c := by
  cases room with
  | none => rfl
  | some n =>
      obtain ⟨k, rfl⟩ := Nat.exists_eq_succ_of_ne_zero (Nat.ne_of_gt (h n rfl))
      rfl

/-- **A name is no longer than the limit.** -/
theorem length_clamp_le {r : DialectRules} {most : Nat} (h : r.maxNameLength = some most)
    (name : String) : (r.clamp name).length ≤ most := by
  rw [← String.length_toList, toList_clamp, h]
  exact List.length_take_le most _

end DialectRules

open DialectRules (cut)

/-! ### Indexes and their names -/

/-- An index that is created: whether it is unique, and its columns with their directions. -/
structure IndexShape where
  isUnique : Bool
  columns : List (String × Bool)
  deriving DecidableEq, Repr

namespace IndexShape

/-- The names of the columns. -/
def names (x : IndexShape) : List String := x.columns.map (·.1)

/-- What the name of an index says of its columns. -/
def label (x : IndexShape) : String := Text.joinWith "_" (x.names.map Text.lower)

/-- Columns without underscores can be read off the label. -/
theorem map_lower_eq_of_label {x y : IndexShape} (hx : x.columns ≠ []) (hy : y.columns ≠ [])
    (hxs : ∀ c ∈ x.names, '_' ∉ c.toList) (hys : ∀ c ∈ y.names, '_' ∉ c.toList)
    (h : x.label = y.label) : x.names.map Text.lower = y.names.map Text.lower := by
  have hsplit (z : IndexShape) (hz : z.columns ≠ []) (hzs : ∀ c ∈ z.names, '_' ∉ c.toList) :
      Text.splitOnChar z.label '_' = z.names.map Text.lower := by
    refine Text.splitOnChar_joinWith rfl (by simpa [names] using hz) fun w hw => ?_
    obtain ⟨c, hc, rfl⟩ := List.mem_map.1 hw
    exact Text.underscore_not_mem_lower (hzs c hc)
  rw [← hsplit x hx hxs, ← hsplit y hy hys, h]

end IndexShape

namespace Dialect

variable {d : Dialect} {m b : Model} {x y : IndexShape}

/-- **The indexes of a model**: first those of fields, then composite ones. -/
def indexShapes (d : Dialect) (m : Model) : List IndexShape :=
  (m.fields.filter m.hasIndex).map (fun f => ⟨f.isUnique, [(d.columnName f.column, false)]⟩) ++
    m.indexes.map fun i => ⟨i.isUnique, d.indexColumns m i⟩

/-- The name of an index that has none of its own. -/
def generatedName (d : Dialect) (m : Model) (x : IndexShape) : String :=
  d.indexName m x.isUnique x.names

/-- The statement for an index that has no name of its own. -/
def indexCreation (d : Dialect) (m : Model) (x : IndexShape) : String :=
  d.createIndex m x.isUnique (d.generatedName m x) x.columns

/-- **The statements for indexes without names of their own**, one for each of them. -/
theorem createIndexes_eq (hnames : ∀ i ∈ m.indexes, i.name = none) :
    d.createIndexes m = (d.indexShapes m).map (d.indexCreation m) := by
  rw [createIndexes, indexShapes, fieldIndexes_eq, List.map_append, List.map_map, List.map_map]
  refine congrArg₂ _ rfl (List.map_congr_left fun i hi => ?_)
  rw [compositeIndex, hnames i hi]
  rfl

/-! ### A name in its parts -/

/-- What stands in front of the columns. -/
def indexHead (d : Dialect) (m : Model) (isUnique : Bool) : String :=
  (if isUnique then "uidx" else "idx") ++ "_" ++ Text.lower (d.tableName m) ++ "_"

/-- The characters that the limit leaves of the label of an index. -/
def visible (d : Dialect) (m : Model) (x : IndexShape) : List Char :=
  cut (d.rules.maxNameLength.map (· - (d.indexHead m x.isUnique).toList.length)) x.label.toList

/-- **Indexes that cannot be told apart by their names**: they are both unique or both not, and the limit
leaves the same of the columns. -/
def Merges (d : Dialect) (m : Model) (x y : IndexShape) : Prop :=
  x.isUnique = y.isUnique ∧ d.visible m x = d.visible m y

instance (d : Dialect) (m : Model) : DecidableRel (d.Merges m) := fun x y =>
  inferInstanceAs (Decidable (x.isUnique = y.isUnique ∧ d.visible m x = d.visible m y))

/-- **A name in its parts**: kind, table and columns, in lower case and cut off. -/
theorem generatedName_eq (d : Dialect) (m : Model) (x : IndexShape) :
    d.generatedName m x = d.rules.clamp (d.indexHead m x.isUnique ++ x.label) := by
  have hkinds : Text.lower "uidx" = "uidx" ∧ Text.lower "idx" = "idx" := by decide +kernel
  have hhead : (if x.isUnique then "u" else "") ++ "idx_" =
      (if x.isUnique then "uidx" else "idx") ++ "_" := by
    cases x.isUnique with
    | true => rfl
    | false => rfl
  have hkind : Text.lower (if x.isUnique then "uidx" else "idx") =
      if x.isUnique then "uidx" else "idx" := by
    cases x.isUnique with
    | true => exact hkinds.1
    | false => exact hkinds.2
  rw [generatedName, indexName, hhead, Text.lower_underscore, Text.lower_underscore, hkind,
    Text.lower_joinWith]
  rfl

/-- The letters of a name: what is left of its head, and then of its label. -/
theorem toList_generatedName (d : Dialect) (m : Model) (x : IndexShape) :
    (d.generatedName m x).toList =
      cut d.rules.maxNameLength (d.indexHead m x.isUnique).toList ++ d.visible m x := by
  rw [generatedName_eq, DialectRules.toList_clamp_append]
  rfl

/-- Every limit leaves the first letter of a name, which tells unique indexes from the others. -/
theorem head?_generatedName (d : Dialect) (m : Model) (x : IndexShape) :
    (d.generatedName m x).toList.head? = some (if x.isUnique then 'u' else 'i') := by
  have hfirst : ∃ cs, (d.indexHead m x.isUnique).toList = (if x.isUnique then 'u' else 'i') :: cs := by
    rw [indexHead]
    simp only [String.toList_append]
    cases x.isUnique with
    | true => exact ⟨_, rfl⟩
    | false => exact ⟨_, rfl⟩
  have hroom : ∀ n ∈ d.rules.maxNameLength, 0 < n := by
    unfold rules
    cases d.kind with
    | firebird => decide
    | mysql => decide
    | postgres => decide
    | sqlite => decide
    | sqlserver => decide
  obtain ⟨cs, hcs⟩ := hfirst
  rw [toList_generatedName, hcs, List.head?_append, DialectRules.head?_cut hroom, Option.some_or]

/-- **Indexes with one name** are those that cannot be told apart. -/
theorem generatedName_eq_iff : d.generatedName m x = d.generatedName m y ↔ d.Merges m x y := by
  constructor
  · intro h
    have hletters := congrArg String.toList h
    -- the first letters agree, so the heads do, and what is left are the labels
    have hhead := congrArg List.head? hletters
    rw [head?_generatedName, head?_generatedName] at hhead
    have hunique : x.isUnique = y.isUnique := by
      revert hhead
      cases x.isUnique <;> cases y.isUnique <;> decide
    rw [toList_generatedName, toList_generatedName, hunique] at hletters
    exact ⟨hunique, List.append_cancel_left hletters⟩
  · rintro ⟨hunique, hvisible⟩
    apply String.toList_inj.1
    rw [toList_generatedName, toList_generatedName, hunique, hvisible]

/-! ### Distinct names -/

/-- **Indexes have names of their own** exactly when no two of them merge. -/
theorem nodup_generatedName_iff {xs : List IndexShape} :
    (xs.map (d.generatedName m)).Nodup ↔ xs.Pairwise fun x y => ¬ d.Merges m x y := by
  rw [List.Nodup, List.pairwise_map]
  exact List.Pairwise.iff fun {x y} => not_congr generatedName_eq_iff

/-- The limit leaves all of a label that it has room for. -/
theorem visible_of_fits
    (h : ∀ n ∈ d.rules.maxNameLength, (d.indexHead m x.isUnique ++ x.label).length ≤ n) :
    d.visible m x = x.label.toList := DialectRules.cut_of_append_fits h

/-- The indexes of a checked model have columns. -/
theorem columns_ne_nil (hb : m.build = .ok b) (hx : x ∈ d.indexShapes b) : x.columns ≠ [] := by
  rcases List.mem_append.1 hx with hx | hx
  · obtain ⟨f, -, rfl⟩ := List.mem_map.1 hx
    exact List.cons_ne_nil _ _
  · obtain ⟨i, hi, rfl⟩ := List.mem_map.1 hx
    simpa [indexColumns, Index.columns] using (Model.over_of_build hb hi).nonempty

/-- **Names that fit, of columns without underscores, are distinct** where the columns are, in lower case
and beside the kind of the index. -/
theorem nodup_of_fits (hb : m.build = .ok b)
    (hfits : ∀ x ∈ d.indexShapes b, ∀ n ∈ d.rules.maxNameLength,
      (d.indexHead b x.isUnique ++ x.label).length ≤ n)
    (hplain : ∀ x ∈ d.indexShapes b, ∀ c ∈ x.names, '_' ∉ c.toList)
    (hdistinct : ((d.indexShapes b).map fun x => (x.isUnique, x.names.map Text.lower)).Nodup) :
    ((d.indexShapes b).map (d.generatedName b)).Nodup := by
  rw [nodup_generatedName_iff]
  rw [List.Nodup, List.pairwise_map] at hdistinct
  refine hdistinct.imp_of_mem fun {x y} hx hy hne hmerges => hne ?_
  obtain ⟨hunique, hvisible⟩ := hmerges
  rw [visible_of_fits (hfits x hx), visible_of_fits (hfits y hy)] at hvisible
  rw [hunique, IndexShape.map_lower_eq_of_label (columns_ne_nil hb hx) (columns_ne_nil hb hy)
    (hplain x hx) (hplain y hy) (String.toList_inj.1 hvisible)]

/-- **The names of the indexes of a checked model** that have none of their own.  There is one statement for
each index.  No name is longer than the limit.  Names are distinct exactly when no two indexes merge, and so
in particular where they fit, no column has an underscore in it and the columns differ in lower case. -/
theorem indexNames_distinct_iff (d : Dialect) (hb : m.build = .ok b)
    (hnames : ∀ i ∈ b.indexes, i.name = none) :
    d.createIndexes b = (d.indexShapes b).map (d.indexCreation b) ∧
      (∀ x ∈ d.indexShapes b, ∀ most, d.rules.maxNameLength = some most →
        (d.generatedName b x).length ≤ most) ∧
      (((d.indexShapes b).map (d.generatedName b)).Nodup ↔
        (d.indexShapes b).Pairwise fun x y => ¬ d.Merges b x y) ∧
      ((∀ x ∈ d.indexShapes b, ∀ n ∈ d.rules.maxNameLength,
          (d.indexHead b x.isUnique ++ x.label).length ≤ n) →
        (∀ x ∈ d.indexShapes b, ∀ c ∈ x.names, '_' ∉ c.toList) →
        ((d.indexShapes b).map fun x => (x.isUnique, x.names.map Text.lower)).Nodup →
        ((d.indexShapes b).map (d.generatedName b)).Nodup) :=
  ⟨createIndexes_eq hnames, fun _ _ _ hmost => DialectRules.length_clamp_le hmost _,
    nodup_generatedName_iff, nodup_of_fits hb⟩

/-- Orders with an index on a field, and two over the same two fields in one order and in the other. -/
def ordersByDay : Model :=
  { Model.new "Order" with
    fields := [{ Field.new "Customer" .int64 with isIndexed := true }, Field.new "Day" .date]
    indexes := [⟨["Customer", "Day DESC"], false, none⟩, ⟨["Day", "Customer"], true, none⟩] }

/-- The names of their indexes fit into Firebird, and are distinct. -/
theorem indexNames_distinct_iff_orders :
    let d := DialectKind.firebird.dialect
    let names := (d.indexShapes ordersByDay).map (d.generatedName ordersByDay)
    ordersByDay.build = .ok ordersByDay ∧
      d.createIndexes ordersByDay = (d.indexShapes ordersByDay).map (d.indexCreation ordersByDay) ∧
      names = ["idx_order_customer", "idx_order_customer_day", "uidx_order_day_customer"] ∧
      names.Nodup := by
  intro d names
  have hb : ordersByDay.build = .ok ordersByDay := by rfl
  obtain ⟨hstatements, -, -, hdistinct⟩ := indexNames_distinct_iff d hb (by decide)
  exact ⟨hb, hstatements, by decide +kernel,
    hdistinct (by decide +kernel) (by decide +kernel) (by decide +kernel)⟩

/-- Columns whose underscores hide where one ends. -/
def crossed : Model :=
  { Model.new "Item" with
    fields := ["a_b", "c", "a", "b_c"].map (Field.new · .int32)
    indexes := [⟨["a_b", "c"], false, none⟩, ⟨["a", "b_c"], false, none⟩] }

/-- Columns that differ behind the limit only. -/
def lengthy : Model :=
  { Model.new "Subscription" with
    fields := ["ReferenceNumberOld", "ReferenceNumberNew"].map (Field.new · .int32)
    indexes := [⟨["ReferenceNumberOld"], false, none⟩, ⟨["ReferenceNumberNew"], false, none⟩] }

/-- A column with an index of its own, and a composite index over this column alone. -/
def indexedTwice : Model :=
  { Model.new "Item" with
    fields := [{ Field.new "Code" .int32 with isIndexed := true }]
    indexes := [⟨["Code DESC"], false, none⟩] }

/-- **Composite indexes over different columns may get one name**, and so may an index of a field and a
composite one. -/
theorem indexNames_not_distinct :
    DialectKind.sqlite.dialect.createIndexes crossed =
        ["CREATE INDEX \"idx_item_a_b_c\" ON \"Item\" (\"a_b\" ASC, \"c\" ASC);",
          "CREATE INDEX \"idx_item_a_b_c\" ON \"Item\" (\"a\" ASC, \"b_c\" ASC);"] ∧
      ∀ p ∈ [(DialectKind.sqlite.dialect, crossed), (DialectKind.firebird.dialect, lengthy),
          (DialectKind.sqlite.dialect, indexedTwice)],
        p.2.build = .ok p.2 ∧ (∀ i ∈ p.2.indexes, i.name = none) ∧
          (p.2.indexes.map fun i => i.columns.map (·.1)).Nodup ∧
          ¬ ((p.1.indexShapes p.2).map (p.1.generatedName p.2)).Nodup := by
  refine ⟨by decide +kernel, ?_⟩
  simp only [List.forall_mem_cons]
  exact ⟨⟨by rfl, by decide, by decide, by decide +kernel⟩,
    ⟨by rfl, by decide, by decide, by decide +kernel⟩,
    ⟨by rfl, by decide, by decide, by decide +kernel⟩, List.forall_mem_nil _⟩

end Dialect

end ModelSql
