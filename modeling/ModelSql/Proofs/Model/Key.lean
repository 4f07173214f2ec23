/-
**When the key of an accepted model is sound.**

The columns of a key must not be null, and a key has each of its columns once.  Settling the key sees to
the first where it makes the key itself, of the field `Id` or of a composite key.  It takes a single key
as it is declared, so that one may still be null, and it keeps the list of a composite key as it is, so
that one may still have a field twice.  There is no third way for a key to go wrong.

Main definitions:

* `FieldSpec.DeclaresNullKey` — a declaration of a key that may be null.

Main results:

* `Model.map_name_primaryKeys` — **a composite key keeps its declared order**;
* `Model.nodup_primaryKeys_iff` — when a key has each field once;
* `Model.keyNotNull_iff` — when no field of a key may be null;
* `Model.key_sound_iff` — **both**, for models and for the documents that declare them.
-/

import ModelSql.Proofs.Model.Acceptance
import ModelSql.Schema.Spec

set_option relaxedAutoImplicit false
set_option autoImplicit false

namespace ModelSql

namespace Model

variable {m b : Model} {f : Field} {fs : List Field}

/-! ### The list of a key -/

/-- Where no name comes twice, names that are declared are the names of the fields found under them. -/
theorem map_name_filterMap (hnames : (m.fields.map (·.name)).Nodup) {ks : List String}
    (hdeclared : ∀ k ∈ ks, k ∈ m.fields.map (·.name)) : (ks.filterMap m.field?).map (·.name) = ks := by
  induction ks with
  | nil => rfl
  | cons k ks ih =>
      rw [List.forall_mem_cons] at hdeclared
      obtain ⟨f, hf, rfl⟩ := List.mem_map.1 hdeclared.1
      rw [List.filterMap_cons_some (field?_of_mem hnames hf), List.map_cons, ih hdeclared.2]

/-- **A composite key keeps its declared order.** -/
theorem map_name_primaryKeys (hnames : (m.fields.map (·.name)).Nodup) (hkey : m.KeySound)
    (hcomposite : m.compositeKey ≠ []) : m.primaryKeys.map (·.name) = m.compositeKey := by
  rw [primaryKeys, if_neg (by simpa using hcomposite)]
  exact map_name_filterMap hnames hkey.declared

/-- **A key has each field once** exactly when it is declared so. -/
theorem nodup_primaryKeys_iff (hnames : (m.fields.map (·.name)).Nodup) (hkey : m.KeySound) :
    m.primaryKeys.Nodup ↔ m.compositeKey.Nodup := by
  by_cases hcomposite : m.compositeKey = []
  · rw [primaryKeys, if_pos (by simpa using hcomposite), hcomposite]
    cases m.primaryKey? with
    | none => simp
    | some f => simp
  · rw [← map_name_primaryKeys hnames hkey hcomposite]
    refine ⟨fun hnodup => ?_, List.Nodup.of_map _⟩
    rw [List.nodup_map_iff_inj_on hnodup]
    intro f hf g hg hname
    rw [mem_primaryKeys_iff hnames hkey] at hf hg
    exact List.inj_on_of_nodup_map hnames hf.1 hg.1 hname

/-! ### Keys that may be null -/

/-- A field that is made the key is not null; the others stay as they are. -/
theorem mem_changeFirst {test : Field → Bool} (hf : f ∈ changeFirst test Field.primaryKey fs) :
    f.isNullable = false ∨ f ∈ fs := by
  induction fs with
  | nil => cases hf
  | cons g fs ih =>
      rw [changeFirst] at hf
      split at hf
      · rcases List.mem_cons.1 hf with rfl | hf
        · exact .inl rfl
        · exact .inr (List.mem_cons_of_mem _ hf)
      · rcases List.mem_cons.1 hf with rfl | hf
        · exact .inr List.mem_cons_self
        · exact (ih hf).imp_right (List.mem_cons_of_mem _)

/-- **No field of a settled key may be null** exactly when none was declared so: a composite key and a
key by its name are made not null, a field that is declared the key is left as it is. -/
theorem keyNotNull_iff (h : m.settleKey = .ok b) :
    (∀ f ∈ b.fields, b.isKeyField f = true → f.isNullable = false) ↔
      ∀ f ∈ m.fields, f.isPrimaryKey = true → f.isNullable = false := by
  obtain ⟨hm, rfl⟩ := settleKey_eq_ok_iff.1 h
  simp only [isKeyField, settledFields]
  -- the three ways to a key: by name, field by field, and composite
  by_cases hcomposite : m.compositeKey = []
  · rw [if_pos hcomposite]
    simp only [hcomposite, List.contains_nil, Bool.or_false]
    by_cases hnone : m.fields.countP (·.isPrimaryKey) = 0
    · rw [if_pos hnone]
      have hfields : ∀ f ∈ m.fields, ¬ f.isPrimaryKey = true := List.countP_eq_zero.1 hnone
      constructor
      · intro _ f hf hprimary
        exact absurd hprimary (hfields f hf)
      · intro _ f hf hprimary
        exact (mem_changeFirst hf).resolve_right fun hold => hfields f hold hprimary
    · rw [if_neg hnone]
  · rw [if_neg hcomposite]
    have hfields := hm.composite hcomposite
    constructor
    · intro _ f hf hprimary
      exact absurd hprimary (by simp [hfields f hf])
    · intro _ g hg hin
      obtain ⟨f, hf, rfl⟩ := List.mem_map.1 hg
      by_cases hlisted : m.compositeKey.contains f.name = true
      · rw [if_pos hlisted]
      · rw [if_neg hlisted, hfields f hf, Bool.false_or] at hin
        exact absurd hin hlisted

end Model

/-! ### Keys in documents -/

/-- A declaration of a key that may be null. -/
def FieldSpec.DeclaresNullKey (s : FieldSpec) : Prop := s.primaryKey = true ∧ s.nullable = some true

/-- A field may be null if its declaration says so, and else if it is no key and its type says so. -/
theorem FieldSpec.eq_of_field {s : FieldSpec} {f : Field} (h : s.field = .ok f) :
    f.isPrimaryKey = s.primaryKey ∧
      f.isNullable = s.nullable.getD (!s.primaryKey && f.type.isNullable) := by
  unfold field at h
  split at h
  · cases h
  split at h
  · cases h
  · cases h
    exact ⟨rfl, rfl⟩

/-- A field is a key that may be null exactly when it is declared so. -/
theorem FieldSpec.declaresNullKey_iff {s : FieldSpec} {f : Field} (h : s.field = .ok f) :
    s.DeclaresNullKey ↔ f.isPrimaryKey = true ∧ f.isNullable = true := by
  obtain ⟨hprimary, hnull⟩ := eq_of_field h
  rw [DeclaresNullKey, hprimary, hnull]
  refine and_congr_right fun hkey => ?_
  rw [hkey]
  cases s.nullable <;> simp

namespace ModelSpec

/-- Fields are declared one by one. -/
theorem forall₂_fieldsOf {ss : List FieldSpec} {fs : List Field} (h : fieldsOf ss = .ok fs) :
    List.Forall₂ (fun s f => s.field = .ok f) ss fs := by
  induction ss generalizing fs with
  | nil =>
      cases h
      exact .nil
  | cons s ss ih =>
      rw [fieldsOf] at h
      cases hs : s.field with
      | error e =>
          rw [hs] at h
          cases h
      | ok f =>
          rw [hs] at h
          cases hss : fieldsOf ss with
          | error e =>
              rw [hss] at h
              cases h
          | ok rest =>
              rw [hss] at h
              cases h
              exact .cons hs (ih hss)

/-- Among declared fields, those of a key that may be null are declared so. -/
theorem forall_not_declaresNullKey_iff {ss : List FieldSpec} {fs : List Field}
    (h : List.Forall₂ (fun s f => s.field = .ok f) ss fs) :
    (∀ s ∈ ss, ¬ s.DeclaresNullKey) ↔ ∀ f ∈ fs, f.isPrimaryKey = true → f.isNullable = false := by
  induction h with
  | nil => simp
  | @cons s f ss fs hs _ ih =>
      rw [List.forall_mem_cons, List.forall_mem_cons, ih, FieldSpec.declaresNullKey_iff hs]
      simp

/-- What the model of a document is made from. -/
theorem exists_build_of_model {s : ModelSpec} {b : Model} (h : s.model = .ok b) :
    ∃ m : Model, m.build = .ok b ∧ List.Forall₂ (fun s f => s.field = .ok f) s.fields m.fields ∧
      m.compositeKey = s.compositeKey := by
  unfold model at h
  split at h
  · cases h
  · rename_i fields hfields
    exact ⟨_, h, forall₂_fieldsOf hfields, rfl⟩

end ModelSpec

/-! ### Sound keys -/

namespace Model

/-- **When the key of an accepted model is sound.**  No field of it may be null exactly when no field is
declared a key that may be null, and it has no field twice exactly when the composite key is declared
without one. -/
theorem key_sound_iff (b : Model) :
    (∀ m : Model, m.build = .ok b →
      ((∀ f ∈ b.fields, b.isKeyField f = true → f.isNullable = false) ↔
        ∀ f ∈ m.fields, f.isPrimaryKey = true → f.isNullable = false) ∧
      (b.primaryKeys.Nodup ↔ m.compositeKey.Nodup)) ∧
    ∀ s : ModelSpec, s.model = .ok b →
      ((∀ f ∈ b.fields, b.isKeyField f = true → f.isNullable = false) ↔
        ∀ t ∈ s.fields, ¬ t.DeclaresNullKey) ∧
      (b.primaryKeys.Nodup ↔ s.compositeKey.Nodup) := by
  have hmodel : ∀ m : Model, m.build = .ok b →
      ((∀ f ∈ b.fields, b.isKeyField f = true → f.isNullable = false) ↔
        ∀ f ∈ m.fields, f.isPrimaryKey = true → f.isNullable = false) ∧
      (b.primaryKeys.Nodup ↔ m.compositeKey.Nodup) := by
    intro m hbuild
    obtain ⟨-, -, -, -, hkey⟩ := build_eq_ok_iff.1 hbuild
    have hlist : b.compositeKey = m.compositeKey := by
      rw [(settledTo_of_settleKey hkey).rest]
    rw [← hlist]
    exact ⟨keyNotNull_iff hkey,
      nodup_primaryKeys_iff (distinctFields_of_build hbuild).names (keySound_of_build hbuild)⟩
  refine ⟨hmodel, fun s hs => ?_⟩
  obtain ⟨m, hbuild, hfields, hlist⟩ := ModelSpec.exists_build_of_model hs
  rw [ModelSpec.forall_not_declaresNullKey_iff hfields, ← hlist]
  exact hmodel m hbuild

/-- The declaration of a field with nothing but a name and a type. -/
def plainField (name : String) (type : TypeName) : FieldSpec :=
  ⟨name, type, none, none, false, false, none, none, false, false, false, none, none, none, none, none⟩

/-- Bookings of a room by the day, under both of them; a day may be null, says its own declaration. -/
def bookings : ModelSpec :=
  { name := "Booking", storedName := none, schema := none
    fields := [plainField "Room" .int32, { plainField "Day" .date with nullable := some true }]
    indexes := []
    compositeKey := ["Day", "Room"] }

/-- What their fields are before the key is settled. -/
def bookingPlan : Model :=
  { Model.new "Booking" with
    fields := [Field.new "Room" .int32, { Field.new "Day" .date with isNullable := true }]
    compositeKey := ["Day", "Room"] }

/-- The model of bookings. -/
def booking : Model :=
  { bookingPlan with fields := [Field.new "Room" .int32, Field.new "Day" .date] }

/-- Bookings are found by a day and a room that are both there, in this order. -/
theorem key_sound_iff_bookings :
    bookings.model = .ok booking ∧ bookingPlan.build = .ok booking ∧
      booking.primaryKeys.map (·.name) = ["Day", "Room"] ∧
      (∀ f ∈ booking.fields, booking.isKeyField f = true → f.isNullable = false) ∧
      booking.primaryKeys.Nodup := by
  have hs : bookings.model = .ok booking := by rfl
  have hb : bookingPlan.build = .ok booking := by rfl
  obtain ⟨hnull, -⟩ := (key_sound_iff booking).1 bookingPlan hb
  obtain ⟨-, honce⟩ := (key_sound_iff booking).2 bookings hs
  exact ⟨hs, hb, by rfl, hnull.2 (by decide), honce.2 (by decide)⟩

/-- Tags under a number that is declared the key and declared to be null. -/
def tags : ModelSpec :=
  { name := "Tag", storedName := none, schema := none
    fields := [{ plainField "No" .int64 with primaryKey := true, nullable := some true }]
    indexes := []
    compositeKey := [] }

/-- The model of tags. -/
def tag : Model :=
  { Model.new "Tag" with
    fields := [{ Field.new "No" .int64 with isPrimaryKey := true, isNullable := true }] }

/-- The same tags under a composite key that has their number twice. -/
def doubledTags : ModelSpec :=
  { tags with fields := [plainField "No" .int64], compositeKey := ["No", "No"] }

/-- The model of these. -/
def doubledTag : Model :=
  { Model.new "Tag" with fields := [Field.new "No" .int64], compositeKey := ["No", "No"] }

/-- Both are accepted, the one with a key that may be null, the other with a key that has a field twice. -/
theorem key_not_sound :
    tags.model = .ok tag ∧ tag.primaryKeys.map (·.isNullable) = [true] ∧
      doubledTags.model = .ok doubledTag ∧ ¬ doubledTag.primaryKeys.Nodup :=
  ⟨by rfl, by rfl, by rfl, by decide⟩

end Model

end ModelSql
