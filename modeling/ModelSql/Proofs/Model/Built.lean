/-
**Checked models.**

What the checks let through: fields that are sound on their own, with names and columns of their own.
Settling the key afterwards changes no field but in being a key and in being null, so all of this is
still so in the model that statements are made from.

Main definitions:

* `Field.Sound` — **a field that the checks let through**, seen alone;
* `Model.DistinctFields` — fields with names and columns of their own;
* `Field.SameButKey` — a field before and after the key is settled.

Main results:

* `Model.checkField_eq_ok_iff`, `Model.checkFields_eq_ok_iff` — **what the checks of fields ask for**;
* `Model.sameButKey_settleKey` — what settling the key changes;
* `Model.sound_of_build`, `Model.distinctFields_of_build` — the fields of a checked model.
-/

import Mathlib.Data.List.Forall2
import ModelSql.Model.Build

set_option relaxedAutoImplicit false
set_option autoImplicit false

namespace ModelSql

/-- What related elements have in common is common to the lists of them. -/
theorem map_eq_of_forall₂ {α β γ : Type} {R : α → β → Prop} {p : α → γ} {q : β → γ}
    (hpq : ∀ a b, R a b → q b = p a) {as : List α} {bs : List β} (h : List.Forall₂ R as bs) :
    bs.map q = as.map p := by
  induction h with
  | nil => rfl
  | cons hab _ ih => rw [List.map_cons, List.map_cons, hpq _ _ hab, ih]

/-! ### Sound fields -/

/-- A field that the checks let through, seen alone. -/
structure Field.Sound (f : Field) : Prop where
  named : Text.isAllBlank f.name = false
  integer : f.isGenerated = true → f.type.isInteger = true
  reference : ∀ k ∈ f.foreignKey, Text.isAllBlank k.table = false ∧ Text.isAllBlank k.column = false

namespace Model

/-- Fields with names and columns of their own; columns are compared without case. -/
structure DistinctFields (fs : List Field) : Prop where
  names : (fs.map (·.name)).Nodup
  columns : (fs.map fun f => Text.asciiLower f.column).Nodup

variable {model : String} {names columns : List String} {f : Field} {fs : List Field}

/-- **What the check of a field asks for.** -/
theorem checkField_eq_ok_iff :
    checkField model names columns f = .ok () ↔
      f.Sound ∧ f.name ∉ names ∧ Text.asciiLower f.column ∉ columns := by
  unfold checkField
  constructor
  · intro h
    split at h <;> try cases h
    rename_i hnamed
    split at h <;> try cases h
    rename_i hname
    split at h <;> try cases h
    rename_i hcolumn
    split at h <;> try cases h
    rename_i hinteger
    split at h <;> try cases h
    rename_i hreference
    refine ⟨⟨by simpa using hnamed, by simpa using hinteger, fun k hk => ?_⟩, by simpa using hname,
      by simpa using hcolumn⟩
    rw [Option.mem_def.1 hk] at hreference
    simpa using hreference
  · rintro ⟨hsound, hname, hcolumn⟩
    have hreference : (f.foreignKey.any fun k =>
        Text.isAllBlank k.table || Text.isAllBlank k.column) = false := by
      cases hk : f.foreignKey with
      | none => rfl
      | some k => simpa using hsound.reference k hk
    have hinteger : (f.isGenerated && !f.type.isInteger) = false := by
      simpa using hsound.integer
    simp [hsound.named, hname, hcolumn, hinteger, hreference]

/-- **What the checks of fields ask for**: every field is sound, and no name or column comes twice. -/
theorem checkFields_eq_ok_iff :
    checkFields model names columns fs = .ok () ↔
      (∀ f ∈ fs, f.Sound ∧ f.name ∉ names ∧ Text.asciiLower f.column ∉ columns) ∧
        DistinctFields fs := by
  induction fs generalizing names columns with
  | nil => exact ⟨fun _ => ⟨by simp, by simp, by simp⟩, fun _ => rfl⟩
  | cons f fs ih =>
      have hstep : checkFields model names columns (f :: fs) = .ok () ↔
          checkField model names columns f = .ok () ∧
            checkFields model (f.name :: names) (Text.asciiLower f.column :: columns) fs =
              .ok () := by
        rw [checkFields]
        cases checkField model names columns f with
        | error e => simp
        | ok u => simp
      rw [hstep, checkField_eq_ok_iff, ih]
      constructor
      · rintro ⟨hf, hfs, hnames, hcolumns⟩
        refine ⟨?_, ?_, ?_⟩
        · rintro g hg
          rcases List.mem_cons.1 hg with rfl | hg
          · exact hf
          · obtain ⟨hsound, hname, hcolumn⟩ := hfs g hg
            exact ⟨hsound, fun h => hname (List.mem_cons_of_mem _ h),
              fun h => hcolumn (List.mem_cons_of_mem _ h)⟩
        · simp only [List.map_cons, List.nodup_cons]
          refine ⟨?_, hnames⟩
          rintro hmem
          obtain ⟨g, hg, heq⟩ := List.mem_map.1 hmem
          exact (hfs g hg).2.1 (by simp [heq])
        · simp only [List.map_cons, List.nodup_cons]
          refine ⟨?_, hcolumns⟩
          rintro hmem
          obtain ⟨g, hg, heq⟩ := List.mem_map.1 hmem
          exact (hfs g hg).2.2 (by simp [heq])
      · rintro ⟨hall, hnames, hcolumns⟩
        simp only [List.map_cons, List.nodup_cons] at hnames hcolumns
        refine ⟨hall f (by simp), fun g hg => ?_, hnames.2, hcolumns.2⟩
        obtain ⟨hsound, hname, hcolumn⟩ := hall g (List.mem_cons_of_mem _ hg)
        refine ⟨hsound, ?_, ?_⟩
        · rw [List.mem_cons, not_or]
          exact ⟨fun h => hnames.1 (h ▸ List.mem_map_of_mem hg), hname⟩
        · rw [List.mem_cons, not_or]
          exact ⟨fun h => hcolumns.1 (List.mem_map.2 ⟨g, hg, h⟩), hcolumn⟩

/-! ### Settling the key -/

end Model

/-- A field before and after the key is settled: it may become a key, and need not be null any more. -/
def Field.SameButKey (f g : Field) : Prop :=
  g = { f with isPrimaryKey := g.isPrimaryKey, isNullable := g.isNullable }

namespace Field.SameButKey

variable {f g : Field}

theorem refl (f : Field) : f.SameButKey f := rfl

theorem name_eq (h : f.SameButKey g) : g.name = f.name := by rw [h]

theorem column_eq (h : f.SameButKey g) : g.column = f.column := by rw [h]; rfl

theorem type_eq (h : f.SameButKey g) : g.type = f.type := by rw [h]

theorem isGenerated_eq (h : f.SameButKey g) : g.isGenerated = f.isGenerated := by rw [h]; rfl

theorem foreignKey_eq (h : f.SameButKey g) : g.foreignKey = f.foreignKey := by rw [h]

theorem sound (h : f.SameButKey g) (hf : f.Sound) : g.Sound where
  named := by rw [h.name_eq, hf.named]
  integer := by rw [h.isGenerated_eq, h.type_eq]; exact hf.integer
  reference := by rw [h.foreignKey_eq]; exact hf.reference

end Field.SameButKey

namespace Model

/-- Making the first field that passes a test the key changes no field but that one. -/
theorem sameButKey_changeFirst (test : Field → Bool) (fs : List Field) :
    List.Forall₂ (fun f g => f.SameButKey g ∧ (g.isPrimaryKey = false → g = f)) fs
      (changeFirst test Field.primaryKey fs) := by
  have hsame : ∀ fs : List Field,
      List.Forall₂ (fun f g => f.SameButKey g ∧ (g.isPrimaryKey = false → g = f)) fs fs :=
    fun fs => List.forall₂_same.2 fun f _ => ⟨.refl f, fun _ => rfl⟩
  induction fs with
  | nil => exact .nil
  | cons f fs ih =>
      rw [changeFirst]
      split
      · exact .cons ⟨rfl, fun hkey => absurd hkey (by simp [Field.primaryKey])⟩ (hsame fs)
      · exact .cons ⟨.refl f, fun _ => rfl⟩ ih

/-- **Settling the key changes no field but in being a key and in being null.** -/
theorem sameButKey_settleKey {m b : Model} (h : m.settleKey = .ok b) :
    List.Forall₂ Field.SameButKey m.fields b.fields := by
  have hsame : List.Forall₂ Field.SameButKey m.fields m.fields :=
    List.forall₂_same.2 fun g _ => .refl g
  unfold settleKey at h
  simp only at h
  split at h
  · split at h
    · cases h
    · split at h
      · cases h
      · cases h
        refine List.forall₂_map_right_iff.2 (List.forall₂_same.2 fun f _ => ?_)
        split <;> rfl
  · split at h
    · cases h
    · split at h
      · cases h
        exact (sameButKey_changeFirst _ m.fields).imp fun _ _ h => h.1
      · cases h
        exact hsame

/-! ### Checked models -/

/-- What the check of a model goes through. -/
theorem build_eq_ok_iff {m b : Model} :
    m.build = .ok b ↔ Text.isAllBlank m.name = false ∧ m.fields ≠ [] ∧
      checkFields m.name [] [] m.fields = .ok () ∧
      checkIndexes m.name (m.fields.map (·.name)) m.indexes = .ok () ∧ m.settleKey = .ok b := by
  unfold build
  by_cases hname : Text.isAllBlank m.name = true
  · simp [hname]
  by_cases hfields : m.fields = []
  · simp [hname, hfields]
  rw [if_neg hname, if_neg (by simpa using hfields)]
  cases hchecks : checkFields m.name [] [] m.fields with
  | error e => simp
  | ok u =>
      cases hindexes : checkIndexes m.name (m.fields.map (·.name)) m.indexes with
      | error e => simp
      | ok u => simp [hname, hfields]

/-- Every field has one that it was before the key was settled. -/
theorem exists_sameButKey {fs gs : List Field} {g : Field}
    (h : List.Forall₂ Field.SameButKey fs gs) (hg : g ∈ gs) : ∃ f ∈ fs, f.SameButKey g := by
  induction h with
  | nil => cases hg
  | @cons f g' fs gs hfg _ ih =>
      rcases List.mem_cons.1 hg with rfl | hg
      · exact ⟨f, List.mem_cons_self, hfg⟩
      · obtain ⟨f', hf', hsame⟩ := ih hg
        exact ⟨f', List.mem_cons_of_mem _ hf', hsame⟩

/-- **Every field of a checked model is sound.** -/
theorem sound_of_build {m b : Model} (h : m.build = .ok b) {f : Field} (hf : f ∈ b.fields) :
    f.Sound := by
  obtain ⟨-, -, hchecks, -, hkey⟩ := build_eq_ok_iff.1 h
  obtain ⟨f', hf', hsame⟩ := exists_sameButKey (sameButKey_settleKey hkey) hf
  exact hsame.sound ((checkFields_eq_ok_iff.1 hchecks).1 f' hf').1

/-- **The fields of a checked model have names and columns of their own.** -/
theorem distinctFields_of_build {m b : Model} (h : m.build = .ok b) : DistinctFields b.fields := by
  obtain ⟨-, -, hchecks, -, hkey⟩ := build_eq_ok_iff.1 h
  have hdistinct := (checkFields_eq_ok_iff.1 hchecks).2
  have hsame := sameButKey_settleKey hkey
  constructor
  · rw [map_eq_of_forall₂ (fun f g hfg => hfg.name_eq) hsame]
    exact hdistinct.names
  · rw [map_eq_of_forall₂ (fun f g hfg => congrArg Text.asciiLower hfg.column_eq) hsame]
    exact hdistinct.columns

end Model

end ModelSql
