/-
**Settings over others.**

Settings are checked where they are read, each document by itself, and then laid over each other key by
key.  Two checks compare keys: a scale with its precision, and letters in front of names with the naming
rule.  So settings that pass on their own may clash when each of them gives one key of such a pair, and
nothing looks at them again before a dialect is made from them.

Main definitions:

* `Settings.Consistent` — what the check of settings asks for;
* `Settings.ScaleClash`, `Settings.NamingClash` — how two settings clash;
* `Settings.DefaultClash` — settings that clash with what a database starts with.

Main results:

* `Settings.validate_eq_ok_iff` — the check accepts the consistent settings;
* `Settings.consistent_overlay_iff` — **when settings over others are consistent**;
* `Settings.scale_config_iff` — when a configuration has a scale above its precision;
* `Settings.overlay_validates_iff` — both, for the dialect of a target over the settings of a schema.
-/

import ModelSql.CommandLine.Project

set_option relaxedAutoImplicit false
set_option autoImplicit false

namespace ModelSql.Settings

open CommandLine (Target Project)

/-! ### The check -/

/-- Whether settings give letters to put in front of names. -/
def affixes (s : Settings) : Bool := s.tablePrefix.isSome || s.columnPrefix.isSome

/-- A scale and a precision, if both are given, of which the scale is the larger one. -/
def Exceeds (scale precision : Option Nat) : Prop :=
  ∃ n p, scale = some n ∧ precision = some p ∧ p < n

/-- **Settings that go together.** -/
structure Consistent (s : Settings) : Prop where
  length : s.stringLength ≠ some 0
  scale : ¬ Exceeds s.decimalScale s.decimalPrecision
  naming : s.affixes = true → s.naming = some .prefixed

variable {s base : Settings}

theorem not_exceeds_none_left (precision : Option Nat) : ¬ Exceeds none precision := by
  rintro ⟨n, p, h, -⟩
  cases h

theorem not_exceeds_none_right (scale : Option Nat) : ¬ Exceeds scale none := by
  rintro ⟨n, p, -, h, -⟩
  cases h

theorem exceeds_some_iff {n p : Nat} : Exceeds (some n) (some p) ↔ p < n := by
  constructor
  · rintro ⟨n', p', hn, hp, h⟩
    cases hn
    cases hp
    exact h
  · intro h
    exact ⟨n, p, rfl, rfl, h⟩

theorem checkNaming_eq_ok_iff :
    validate.checkNaming s = .ok () ↔ (s.affixes = true → s.naming = some .prefixed) := by
  rw [validate.checkNaming, ← affixes]
  cases haffixes : s.affixes with
  | false => simp
  | true => by_cases hnaming : s.naming = some .prefixed <;> simp [hnaming]

/-- **The check accepts the settings that go together.** -/
theorem validate_eq_ok_iff : s.validate = .ok () ↔ s.Consistent := by
  rw [validate]
  by_cases hlength : s.stringLength = some 0
  · rw [if_pos hlength]
    exact ⟨nofun, fun h => absurd hlength h.length⟩
  rw [if_neg hlength]
  -- only a scale and a precision that are both given are compared
  have hrest (hscale : ¬ Exceeds s.decimalScale s.decimalPrecision) :
      validate.checkNaming s = .ok () ↔ s.Consistent :=
    checkNaming_eq_ok_iff.trans ⟨fun h => ⟨hlength, hscale, h⟩, fun h => h.naming⟩
  cases hprecision : s.decimalPrecision with
  | none => exact hrest (hprecision ▸ not_exceeds_none_right _)
  | some p =>
      cases hscale : s.decimalScale with
      | none => exact hrest (hscale ▸ not_exceeds_none_left _)
      | some n =>
          by_cases hlt : p < n
          · have hexceeds : Exceeds s.decimalScale s.decimalPrecision := ⟨n, p, hscale, hprecision, hlt⟩
            simp only [hlt, if_true]
            exact ⟨nofun, fun h => absurd hexceeds h.scale⟩
          · simp only [hlt, if_false]
            refine hrest ?_
            rwa [hscale, hprecision, exceeds_some_iff]

/-! ### Clashes -/

/-- **A scale above a precision**, one of which is given by the settings on top and the other by those
below. -/
def ScaleClash (s base : Settings) : Prop :=
  (s.decimalScale = none ∧ Exceeds base.decimalScale s.decimalPrecision) ∨
    (s.decimalPrecision = none ∧ Exceeds s.decimalScale base.decimalPrecision)

/-- **Letters in front of names** from the settings below, under another naming rule on top. -/
def NamingClash (s base : Settings) : Prop :=
  base.affixes = true ∧ ∃ rule, s.naming = some rule ∧ rule ≠ .prefixed

/-- A scale or a precision without the other one, which does not fit what a database starts with. -/
def DefaultClash (s : Settings) (k : DialectKind) : Prop :=
  (s.decimalPrecision = none ∧ Exceeds s.decimalScale (some k.defaultConfig.decimalPrecision)) ∨
    (s.decimalScale = none ∧ Exceeds (some k.defaultConfig.decimalScale) s.decimalPrecision)

theorem affixes_overlay (s base : Settings) :
    (s.overlay base).affixes = (s.affixes || base.affixes) := by
  simp only [affixes, overlay, Option.isSome_or]
  cases s.tablePrefix.isSome <;> cases base.tablePrefix.isSome <;> simp

/-- The scale of settings over others is too large exactly when it comes from one side and its precision
from the other. -/
theorem exceeds_overlay_iff (hs : s.Consistent) (hbase : base.Consistent) :
    Exceeds (s.overlay base).decimalScale (s.overlay base).decimalPrecision ↔ s.ScaleClash base := by
  have hown := hs.scale
  have hbelow := hbase.scale
  simp only [overlay, ScaleClash]
  cases hscale : s.decimalScale with
  | none =>
      cases hprecision : s.decimalPrecision with
      | none => simp [not_exceeds_none_left, not_exceeds_none_right, hbelow]
      | some p => simp
  | some n =>
      cases hprecision : s.decimalPrecision with
      | none => simp
      | some p =>
          rw [hscale, hprecision] at hown
          simp [hown]

/-- Letters in front of names lack their rule exactly when they come from below and the rule from the
top. -/
theorem naming_overlay_iff (hs : s.Consistent) (hbase : base.Consistent) :
    ((s.overlay base).affixes = true → (s.overlay base).naming = some .prefixed) ↔
      ¬ s.NamingClash base := by
  rw [affixes_overlay, NamingClash]
  change (_ → s.naming.or base.naming = _) ↔ _
  have hown := hs.naming
  have hbelow := hbase.naming
  cases hnaming : s.naming with
  | none =>
      rw [hnaming] at hown
      cases haffixes : s.affixes with
      | true => cases hown haffixes
      | false => simpa using hbelow
  | some rule =>
      rw [hnaming] at hown
      by_cases hrule : rule = .prefixed
      · simp [hrule]
      · have haffixes : s.affixes = false := by
          rw [Bool.eq_false_iff]
          intro haffixes
          exact hrule (Option.some.inj (hown haffixes))
        simp [haffixes, hrule]

/-- **When consistent settings over consistent ones are consistent.** -/
theorem consistent_overlay_iff (hs : s.Consistent) (hbase : base.Consistent) :
    (s.overlay base).Consistent ↔ ¬ s.ScaleClash base ∧ ¬ s.NamingClash base := by
  rw [← exceeds_overlay_iff hs hbase, ← naming_overlay_iff hs hbase]
  constructor
  · intro h
    exact ⟨h.scale, h.naming⟩
  · rintro ⟨hscale, hnaming⟩
    refine ⟨?_, hscale, hnaming⟩
    change s.stringLength.or base.stringLength ≠ some 0
    cases hlength : s.stringLength with
    | none => exact hbase.length
    | some n =>
        rw [Option.some_or, ← hlength]
        exact hs.length

/-! ### Configurations -/

/-- **A scale above its precision in a configuration** comes from the settings alone, or from one of the
two and what the database starts with. -/
theorem scale_config_iff (s : Settings) (k : DialectKind) :
    (s.config k).decimalPrecision < (s.config k).decimalScale ↔
      Exceeds s.decimalScale s.decimalPrecision ∨ s.DefaultClash k := by
  have hstart : ¬ k.defaultConfig.decimalPrecision < k.defaultConfig.decimalScale := by
    cases k <;> decide
  simp only [config, DefaultClash]
  cases s.decimalScale with
  | none =>
      cases s.decimalPrecision with
      | none => simp [not_exceeds_none_left, not_exceeds_none_right, hstart]
      | some p => simp [not_exceeds_none_left, exceeds_some_iff]
  | some n =>
      cases s.decimalPrecision with
      | none => simp [not_exceeds_none_right, exceeds_some_iff]
      | some p => simp [exceeds_some_iff]

/-- A rule that puts letters in front leaves the end of a name as it is. -/
theorem suffix_of_prefixed {rule : Naming} {table column : String} (h : rule = .prefixed table column)
    (name : String) : name.toList <:+ (rule.tableName name).toList := by
  rw [h, Naming.prefixed, String.toList_append]
  exact List.suffix_append _ _

/-- Names that are left as they are have no letters in front. -/
theorem letters_of_unchanged {table column : String} (h : Naming.unchanged = .prefixed table column) :
    table = "" ∧ column = "" := by
  have htable : "" = table ++ "" := congrArg (Naming.tableName · "") h
  have hcolumn : "" = column ++ "" := congrArg (Naming.columnName · "") h
  rw [String.append_empty] at htable hcolumn
  exact ⟨htable.symm, hcolumn.symm⟩

/-- Names get letters in front of them only by the rule that puts them there, and then those of the
settings. -/
theorem letters_of_config {k : DialectKind} {table column : String}
    (h : (s.config k).naming = .prefixed table column) :
    (table = "" ∧ column = "") ∨ s.naming = some .prefixed ∧
      s.tablePrefix.getD "" = table ∧ s.columnPrefix.getD "" = column := by
  have hstart : k.defaultConfig.naming = .unchanged := by cases k <;> rfl
  simp only [config, hstart] at h
  cases hnaming : s.naming with
  | none =>
      rw [hnaming] at h
      exact .inl (letters_of_unchanged h)
  | some rule =>
      rw [hnaming] at h
      -- a rule that changes the case of a letter does so at the end of a name, too
      cases rule with
      | unchanged => exact .inl (letters_of_unchanged h)
      | snakeCase =>
          have hsuffix : "A".toList <:+ (Naming.snakeCase.tableName "A").toList := suffix_of_prefixed h "A"
          exact absurd hsuffix (by decide +kernel)
      | lowerCase =>
          have hsuffix : "A".toList <:+ (Naming.lowerCase.tableName "A").toList := suffix_of_prefixed h "A"
          exact absurd hsuffix (by decide +kernel)
      | upperCase =>
          have hsuffix : "a".toList <:+ (Naming.upperCase.tableName "a").toList := suffix_of_prefixed h "a"
          exact absurd hsuffix (by decide +kernel)
      | prefixed =>
          refine .inr ⟨rfl, ?_, ?_⟩
          · have htable : s.tablePrefix.getD "" ++ "" = table ++ "" := congrArg (Naming.tableName · "") h
            rwa [String.append_empty, String.append_empty] at htable
          · have hcolumn : s.columnPrefix.getD "" ++ "" = column ++ "" :=
              congrArg (Naming.columnName · "") h
            rwa [String.append_empty, String.append_empty] at hcolumn

/-- The dialect of a target is made from its settings over those of the schema. -/
theorem config_dialectOf {t : Target} (ht : t.settings = some s) :
    (Project.dialectOf base t).config =
      { s.overlay base with kind := some t.dialect }.config t.dialect := by
  simp only [Project.dialectOf, Project.settingsOf, ht, dialect, kindOr, Option.getD_some]

/-- **When settings that pass the check pass it over each other**, and what comes of it in the dialect of
a target over the settings of a schema: the scale is above the precision if the two clash, or if only one
of them is given and does not fit what the database starts with.  Letters in front of names are never
written under another naming rule. -/
theorem overlay_validates_iff (hs : s.validate = .ok ()) (hbase : base.validate = .ok ()) :
    ((s.overlay base).validate = .ok () ↔ ¬ s.ScaleClash base ∧ ¬ s.NamingClash base) ∧
      ∀ t : Target, t.settings = some s →
        ((Project.dialectOf base t).config.decimalPrecision <
            (Project.dialectOf base t).config.decimalScale ↔
          s.ScaleClash base ∨ (s.overlay base).DefaultClash t.dialect) ∧
        ∀ table column, (Project.dialectOf base t).config.naming = .prefixed table column →
          (table = "" ∧ column = "") ∨ (s.overlay base).naming = some .prefixed ∧
            (s.overlay base).tablePrefix.getD "" = table ∧
            (s.overlay base).columnPrefix.getD "" = column := by
  have hs := validate_eq_ok_iff.1 hs
  have hbase := validate_eq_ok_iff.1 hbase
  refine ⟨validate_eq_ok_iff.trans (consistent_overlay_iff hs hbase), fun t ht => ?_⟩
  rw [config_dialectOf ht]
  refine ⟨?_, fun table column h => letters_of_config h⟩
  rw [scale_config_iff, ← exceeds_overlay_iff hs hbase]
  rfl

/-- Settings of a target that change the case of names and not much else. -/
def plainTarget : Settings := { empty with naming := some .lowerCase, useUnicode := some false }

/-- Settings of a schema that say how names are quoted. -/
def quietSchema : Settings := { empty with quote := some .reserved, useUnicode := some true }

/-- The two do not clash. -/
theorem overlay_validates_iff_plain :
    plainTarget.validate = .ok () ∧ quietSchema.validate = .ok () ∧
      (plainTarget.overlay quietSchema).validate = .ok () := by
  have hs : plainTarget.validate = .ok () := by rfl
  have hbase : quietSchema.validate = .ok () := by rfl
  refine ⟨hs, hbase, (overlay_validates_iff hs hbase).1.2 ⟨?_, ?_⟩⟩
  · rintro (⟨-, h⟩ | ⟨-, h⟩)
    · exact not_exceeds_none_left _ h
    · exact not_exceeds_none_left _ h
  · rintro ⟨h, -⟩
    cases h

/-- Settings that say how many digits decimals have. -/
def fiveDigits : Settings := { empty with decimalPrecision := some 5 }

/-- Settings that say how many digits of decimals stand behind the point. -/
def eightPlaces : Settings := { empty with decimalScale := some 8 }

/-- A target with five digits. -/
def fiveDigitTarget : Target := ⟨.sqlite, ⟨"a.sql"⟩, some fiveDigits⟩

/-- Settings that put letters in front of the names of tables. -/
def lettered : Settings := { empty with naming := some .prefixed, tablePrefix := some "t_" }

/-- **Settings that pass the check and clash over each other**: five digits over eight places, of which a
dialect is made all the same, and a naming rule over letters in front of names. -/
theorem overlay_not_validates :
    fiveDigits.validate = .ok () ∧ eightPlaces.validate = .ok () ∧
      (fiveDigits.overlay eightPlaces).validate = .error (.settingsScale 8 5) ∧
      (Project.dialectOf eightPlaces fiveDigitTarget).config.decimalPrecision = 5 ∧
      (Project.dialectOf eightPlaces fiveDigitTarget).config.decimalScale = 8 ∧
      plainTarget.validate = .ok () ∧ lettered.validate = .ok () ∧
      (plainTarget.overlay lettered).validate = .error .affixesWithoutNaming :=
  ⟨rfl, rfl, rfl, rfl, rfl, rfl, rfl, rfl⟩

end ModelSql.Settings
