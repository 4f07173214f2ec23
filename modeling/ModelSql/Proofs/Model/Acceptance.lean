/-
**Which models are accepted, and what becomes of them.**

A model is accepted exactly when it is well formed: it has a name and fields, its fields are sound on
their own and beside each other, its indexes and its composite key speak of fields that it has, and it
has one kind of key.  What comes out is the same model, with its key settled: fields outside of the key
are as they were, and the two ways to ask for the key, by listing it and field by field, agree.

Main definitions:

* `Index.Over` — an index over fields of the given names;
* `Model.KeySound`, `Model.WellFormed` — **what a model has to satisfy**;
* `Model.SettledTo` — a model before and after its key is settled.

Main results:

* `Model.exists_build_iff` — the models that are accepted;
* `Model.settledTo_of_settleKey` — what settling the key changes;
* `Model.mem_primaryKeys_iff` — the key, listed and asked for;
* `Model.build_accepts_wellFormed` — **all of this for the check of a model**.
-/

import Mathlib.Data.List.Nodup
import ModelSql.Proofs.Model.Built

set_option relaxedAutoImplicit false
set_option autoImplicit false

namespace ModelSql

/-! ### Indexes -/

/-- An index that has entries, each of which names one of the fields. -/
structure Index.Over (names : List String) (i : Index) : Prop where
  nonempty : i.entries ≠ []
  declared : ∀ c ∈ i.columns, c.1 ∈ names

namespace Model

variable (model : String) {names : List String}

/-- What the check of an index asks for. -/
theorem checkIndex_eq_ok_iff {i : Index} : checkIndex model names i = .ok () ↔ i.Over names := by
  unfold checkIndex
  constructor
  · intro h
    split at h
    · cases h
    rename_i hentries
    split at h
    · cases h
    rename_i hnone
    refine ⟨by simpa using hentries, fun c hc => ?_⟩
    have hfound := List.find?_eq_none.1 hnone c.1 (List.mem_map_of_mem hc)
    simpa using hfound
  · intro h
    have hentries : i.entries.isEmpty = false := by simpa using h.nonempty
    have hnone : (i.columns.map (·.1)).find? (!names.contains ·) = none := by
      rw [List.find?_eq_none]
      intro field hfield
      obtain ⟨c, hc, rfl⟩ := List.mem_map.1 hfield
      simpa using h.declared c hc
    rw [hentries, hnone]
    rfl

/-- What the checks of indexes ask for. -/
theorem checkIndexes_eq_ok_iff {is : List Index} :
    checkIndexes model names is = .ok () ↔ ∀ i ∈ is, i.Over names := by
  induction is with
  | nil => simp [checkIndexes]
  | cons i is ih =>
      rw [List.forall_mem_cons, ← ih, ← checkIndex_eq_ok_iff model, checkIndexes]
      cases checkIndex model names i with
      | error e => simp
      | ok u => simp

/-! ### Keys -/

/-- **One kind of key**: a composite key of fields that the model has, and then no key field, or at
most one key field. -/
structure KeySound (m : Model) : Prop where
  declared : ∀ k ∈ m.compositeKey, k ∈ m.fields.map (·.name)
  composite : m.compositeKey ≠ [] → ∀ f ∈ m.fields, f.isPrimaryKey = false
  single : m.compositeKey = [] → m.fields.countP (·.isPrimaryKey) ≤ 1

/-- The fields with the key settled: those of a composite key are never null, and where no field is the
key the first one named `Id` is. -/
def settledFields (m : Model) : List Field :=
  if m.compositeKey = [] then
    if m.fields.countP (·.isPrimaryKey) = 0 then
      changeFirst (·.name == idField) Field.primaryKey m.fields
    else m.fields
  else m.fields.map fun f =>
    if m.compositeKey.contains f.name then { f with isNullable := false } else f

variable {m b : Model} {f : Field} {fs : List Field}

/-- Without a composite key, at most one field is the key. -/
theorem settleKey_eq_ok_iff_of_single (hcomposite : m.compositeKey = []) :
    m.settleKey = .ok b ↔
      m.fields.countP (·.isPrimaryKey) ≤ 1 ∧ b = { m with fields := m.settledFields } := by
  have hcount : (m.fields.filter (·.isPrimaryKey)).length = m.fields.countP (·.isPrimaryKey) :=
    List.countP_eq_length_filter.symm
  unfold settleKey settledFields
  simp only [hcount]
  rw [if_neg (by simp [hcomposite]), if_pos hcomposite]
  by_cases hseveral : 1 < m.fields.countP (·.isPrimaryKey)
  · rw [if_pos hseveral]
    exact ⟨nofun, fun h => absurd h.1 (by omega)⟩
  · have hle : m.fields.countP (·.isPrimaryKey) ≤ 1 := by omega
    rw [if_neg hseveral]
    by_cases hnone : m.fields.countP (·.isPrimaryKey) = 0
    · rw [if_pos hnone, if_pos hnone]
      exact ⟨fun h => ⟨hle, (Except.ok.inj h).symm⟩, fun h => congrArg _ h.2.symm⟩
    · rw [if_neg hnone, if_neg hnone]
      exact ⟨fun h => ⟨hle, (Except.ok.inj h).symm⟩, fun h => congrArg _ h.2.symm⟩

/-- Beside a composite key, no field is the key. -/
theorem settleKey_eq_ok_iff_of_composite (hcomposite : m.compositeKey ≠ []) :
    m.settleKey = .ok b ↔
      (∀ f ∈ m.fields, f.isPrimaryKey = false) ∧
        (∀ k ∈ m.compositeKey, k ∈ m.fields.map (·.name)) ∧
          b = { m with fields := m.settledFields } := by
  have hcount : (m.fields.filter (·.isPrimaryKey)).length = m.fields.countP (·.isPrimaryKey) :=
    List.countP_eq_length_filter.symm
  unfold settleKey settledFields
  simp only [hcount]
  rw [if_pos (by simpa using hcomposite), if_neg hcomposite]
  by_cases hfields : 0 < m.fields.countP (·.isPrimaryKey)
  · rw [if_pos hfields]
    refine ⟨nofun, fun h => ?_⟩
    obtain ⟨f, hf, hkey⟩ := List.countP_pos_iff.1 hfields
    rw [h.1 f hf] at hkey
    cases hkey
  · rw [if_neg hfields]
    have hnokey : ∀ f ∈ m.fields, f.isPrimaryKey = false := fun f hf => by
      simpa using List.countP_eq_zero.1 (Nat.eq_zero_of_not_pos hfields) f hf
    cases hfind : m.compositeKey.find? (!(m.fields.map (·.name)).contains ·) with
    | some key =>
        refine ⟨nofun, fun h => ?_⟩
        have hunknown := List.find?_some hfind
        have hdeclared := h.2.1 key (List.mem_of_find?_eq_some hfind)
        simp [hdeclared] at hunknown
    | none =>
        have hdeclared : ∀ k ∈ m.compositeKey, k ∈ m.fields.map (·.name) := fun k hk => by
          simpa using List.find?_eq_none.1 hfind k hk
        exact ⟨fun h => ⟨hnokey, hdeclared, (Except.ok.inj h).symm⟩, fun h => congrArg _ h.2.2.symm⟩

/-- **What settling the key asks for, and what it makes of a model.** -/
theorem settleKey_eq_ok_iff :
    m.settleKey = .ok b ↔ m.KeySound ∧ b = { m with fields := m.settledFields } := by
  by_cases hcomposite : m.compositeKey = []
  · rw [settleKey_eq_ok_iff_of_single hcomposite]
    refine and_congr_left fun _ => ⟨fun hone => ?_, fun hkey => hkey.single hcomposite⟩
    exact ⟨by simp [hcomposite], fun hne => absurd hcomposite hne, fun _ => hone⟩
  · rw [settleKey_eq_ok_iff_of_composite hcomposite, ← and_assoc]
    refine and_congr_left fun _ => ⟨fun h => ?_, fun hkey => ⟨hkey.composite hcomposite, hkey.declared⟩⟩
    exact ⟨h.2, fun _ => h.1, fun hnil => absurd hnil hcomposite⟩

/-- The fields of a model before and after its key is settled: no field changes but in being a key and
in being null, and one that is not in the key does not change at all. -/
structure SettledTo (m b : Model) : Prop where
  rest : b = { m with fields := b.fields }
  fields : List.Forall₂ (fun f g => f.SameButKey g ∧ (b.isKeyField g = false → g = f)) m.fields b.fields

/-- **What settling the key changes.** -/
theorem settledTo_of_settleKey (h : m.settleKey = .ok b) : m.SettledTo b := by
  obtain ⟨-, rfl⟩ := settleKey_eq_ok_iff.1 h
  refine ⟨rfl, ?_⟩
  unfold settledFields
  by_cases hcomposite : m.compositeKey = []
  · rw [if_pos hcomposite]
    split
    · refine (sameButKey_changeFirst (·.name == idField) m.fields).imp fun f g hfg => ⟨hfg.1, ?_⟩
      rw [isKeyField, Bool.or_eq_false_iff]
      exact fun hkey => hfg.2 hkey.1
    · exact List.forall₂_same.2 fun f _ => ⟨.refl f, fun _ => rfl⟩
  · rw [if_neg hcomposite]
    refine List.forall₂_map_right_iff.2 (List.forall₂_same.2 fun f _ => ?_)
    by_cases hkey : m.compositeKey.contains f.name = true
    · rw [if_pos hkey]
      refine ⟨rfl, fun hnokey => ?_⟩
      rw [isKeyField, Bool.or_eq_false_iff] at hnokey
      rw [hkey] at hnokey
      cases hnokey.2
    · rw [if_neg hkey]
      exact ⟨.refl f, fun _ => rfl⟩

/-- Making the first field that passes a test the key makes at most one key. -/
theorem countP_changeFirst_le (test : Field → Bool) (hnone : fs.countP (·.isPrimaryKey) = 0) :
    (changeFirst test Field.primaryKey fs).countP (·.isPrimaryKey) ≤ 1 := by
  induction fs with
  | nil => simp [changeFirst]
  | cons f fs ih =>
      rw [List.countP_cons] at hnone
      have hfs : fs.countP (·.isPrimaryKey) = 0 := by omega
      rw [changeFirst]
      split
      · rw [List.countP_cons, hfs]
        split <;> omega
      · have hrest := ih hfs
        rw [List.countP_cons]
        omega

/-- **A key that is settled is sound.** -/
theorem keySound_of_settleKey (h : m.settleKey = .ok b) : b.KeySound := by
  have hnames : b.fields.map (·.name) = m.fields.map (·.name) :=
    map_eq_of_forall₂ (fun f g hfg => hfg.name_eq) (sameButKey_settleKey h)
  obtain ⟨hm, rfl⟩ := settleKey_eq_ok_iff.1 h
  refine ⟨fun k hk => ?_, fun hcomposite => ?_, fun hcomposite => ?_⟩
  · rw [hnames]
    exact hm.declared k hk
  · have hne : m.compositeKey ≠ [] := hcomposite
    simp only [settledFields, if_neg hne]
    intro g hg
    obtain ⟨f, hf, rfl⟩ := List.mem_map.1 hg
    have hnokey := hm.composite hne f hf
    split
    · exact hnokey
    · exact hnokey
  · have hnil : m.compositeKey = [] := hcomposite
    simp only [settledFields, if_pos hnil]
    split
    · rename_i hnone
      exact countP_changeFirst_le _ hnone
    · exact hm.single hnil

/-! ### The key, listed and asked for -/

/-- Where no name comes twice, a field is found under its name. -/
theorem field?_of_mem (hnames : (m.fields.map (·.name)).Nodup) (hf : f ∈ m.fields) :
    m.field? f.name = some f := by
  have hfind : m.fields.find? (·.name == f.name) = some f := by
    cases hfound : m.fields.find? (·.name == f.name) with
    | none =>
        have hnone := List.find?_eq_none.1 hfound f hf
        simp at hnone
    | some g =>
        have hname : g.name = f.name := by simpa using List.find?_some hfound
        have hg := List.mem_of_find?_eq_some hfound
        exact congrArg some (List.inj_on_of_nodup_map hnames hg hf hname)
  rw [field?, hfind]
  rfl

/-- Where at most one item passes a test, the first one found is every one that passes. -/
theorem find?_eq_some_of_countP_le {test : Field → Bool} (hone : fs.countP test ≤ 1) (hf : f ∈ fs)
    (htest : test f = true) : fs.find? test = some f := by
  induction fs with
  | nil => cases hf
  | cons g fs ih =>
      rw [List.countP_cons] at hone
      by_cases hg : test g = true
      · rw [if_pos hg] at hone
        rw [List.find?_cons_of_pos hg]
        rcases List.mem_cons.1 hf with rfl | hf
        · rfl
        · have hpos : 0 < fs.countP test := List.countP_pos_iff.2 ⟨f, hf, htest⟩
          omega
      · rw [List.find?_cons_of_neg hg]
        rcases List.mem_cons.1 hf with rfl | hf
        · exact absurd htest hg
        · exact ih (by omega) hf

/-- **The key, listed and asked for.** -/
theorem mem_primaryKeys_iff (hnames : (m.fields.map (·.name)).Nodup) (hkey : m.KeySound) :
    f ∈ m.primaryKeys ↔ f ∈ m.fields ∧ m.isKeyField f = true := by
  unfold primaryKeys isKeyField primaryKey?
  by_cases hcomposite : m.compositeKey = []
  · rw [if_pos (by simpa using hcomposite), hcomposite, Option.mem_toList]
    simp only [List.contains_nil, Bool.or_false]
    constructor
    · intro hfound
      exact ⟨List.mem_of_find?_eq_some hfound, by simpa using List.find?_some hfound⟩
    · rintro ⟨hf, hprimary⟩
      exact find?_eq_some_of_countP_le (hkey.single hcomposite) hf hprimary
  · rw [if_neg (by simpa using hcomposite), List.mem_filterMap]
    constructor
    · rintro ⟨k, hk, hfound⟩
      obtain ⟨g, hg, rfl⟩ := List.mem_map.1 (hkey.declared k hk)
      obtain rfl : g = f := Option.some.inj ((field?_of_mem hnames hg).symm.trans hfound)
      exact ⟨hg, by simp [hk]⟩
    · rintro ⟨hf, hin⟩
      rw [hkey.composite hcomposite f hf, Bool.false_or] at hin
      exact ⟨f.name, by simpa using hin, field?_of_mem hnames hf⟩

/-! ### Accepted models -/

/-- **A model that is accepted.** -/
structure WellFormed (m : Model) : Prop where
  named : Text.isAllBlank m.name = false
  nonempty : m.fields ≠ []
  sound : ∀ f ∈ m.fields, f.Sound
  distinct : DistinctFields m.fields
  indexes : ∀ i ∈ m.indexes, i.Over (m.fields.map (·.name))
  key : m.KeySound

/-- **The models that are accepted.** -/
theorem exists_build_iff : (∃ b, m.build = .ok b) ↔ m.WellFormed := by
  constructor
  · rintro ⟨b, hbuild⟩
    obtain ⟨hname, hfields, hchecks, hindexes, hkey⟩ := build_eq_ok_iff.1 hbuild
    obtain ⟨hsound, hdistinct⟩ := checkFields_eq_ok_iff.1 hchecks
    exact ⟨hname, hfields, fun f hf => (hsound f hf).1, hdistinct,
      (checkIndexes_eq_ok_iff _).1 hindexes, (settleKey_eq_ok_iff.1 hkey).1⟩
  · intro hm
    refine ⟨{ m with fields := m.settledFields }, build_eq_ok_iff.2 ⟨hm.named, hm.nonempty, ?_,
      (checkIndexes_eq_ok_iff _).2 hm.indexes, settleKey_eq_ok_iff.2 ⟨hm.key, rfl⟩⟩⟩
    exact checkFields_eq_ok_iff.2 ⟨fun f hf => ⟨hm.sound f hf, by simp, by simp⟩, hm.distinct⟩

/-- The key of an accepted model is sound. -/
theorem keySound_of_build (h : m.build = .ok b) : b.KeySound := by
  obtain ⟨-, -, -, -, hkey⟩ := build_eq_ok_iff.1 h
  exact keySound_of_settleKey hkey

/-- The indexes of an accepted model are over its fields. -/
theorem over_of_build (h : m.build = .ok b) {i : Index} (hi : i ∈ b.indexes) :
    i.Over (b.fields.map (·.name)) := by
  obtain ⟨-, -, -, hchecks, hkey⟩ := build_eq_ok_iff.1 h
  rw [(settledTo_of_settleKey hkey).rest] at hi
  rw [map_eq_of_forall₂ (fun f g hfg => hfg.name_eq) (sameButKey_settleKey hkey)]
  exact (checkIndexes_eq_ok_iff _).1 hchecks i hi

/-- **A model is accepted exactly when it is well formed.**  What comes out is the model with its key
settled, whose key fields are the ones listed as its key. -/
theorem build_accepts_wellFormed (m : Model) :
    ((∃ b, m.build = .ok b) ↔ m.WellFormed) ∧
      ∀ b, m.build = .ok b →
        m.SettledTo b ∧ ∀ f, f ∈ b.primaryKeys ↔ f ∈ b.fields ∧ b.isKeyField f = true := by
  refine ⟨exists_build_iff, fun b hbuild => ?_⟩
  obtain ⟨-, -, -, -, hkey⟩ := build_eq_ok_iff.1 hbuild
  exact ⟨settledTo_of_settleKey hkey, fun f =>
    mem_primaryKeys_iff (distinctFields_of_build hbuild).names (keySound_of_settleKey hkey)⟩

end Model

end ModelSql
