/-
**Decimals of checked settings.**

Settings may give the precision of decimals, their scale, both or none.  Where they give both, the check
compares them.  Where they give one, the other one is what every database starts with, and nothing compares
the two: a precision that is too small, or a scale that is too large, passes the check and makes a dialect
that has no column for a decimal without numbers of its own.

Main definitions:

* `Settings.Lopsided` — **settings with one of the two numbers that does not fit the start**.

Main results:

* `Settings.defaultClash_iff` — every database starts with the same two numbers;
* `Settings.checked_decimal_iff` — **when the decimals of checked settings have a column**.
-/

import ModelSql.Proofs.Dialect.Decimal
import ModelSql.Proofs.Settings.Overlay

set_option relaxedAutoImplicit false
set_option autoImplicit false

namespace ModelSql.Settings

variable {s : Settings} {k : DialectKind}

/-- **Settings with one of the two numbers of a decimal**, which does not fit the other one of a database
that starts with 18 digits, 12 of them behind the point. -/
def Lopsided (s : Settings) : Prop :=
  (s.decimalPrecision = none ∧ ∃ scale, s.decimalScale = some scale ∧ 18 < scale) ∨
    (s.decimalScale = none ∧ ∃ precision, s.decimalPrecision = some precision ∧ precision < 12)

instance (s : Settings) : Decidable s.Lopsided :=
  inferInstanceAs (Decidable
    ((s.decimalPrecision = none ∧ ∃ scale ∈ s.decimalScale, 18 < scale) ∨
      (s.decimalScale = none ∧ ∃ precision ∈ s.decimalPrecision, precision < 12)))

theorem decimal_defaultConfig (k : DialectKind) :
    k.defaultConfig.decimalPrecision = 18 ∧ k.defaultConfig.decimalScale = 12 := by
  cases k with
  | firebird => exact ⟨rfl, rfl⟩
  | mysql => exact ⟨rfl, rfl⟩
  | postgres => exact ⟨rfl, rfl⟩
  | sqlite => exact ⟨rfl, rfl⟩
  | sqlserver => exact ⟨rfl, rfl⟩

/-- Every database starts with the same two numbers. -/
theorem defaultClash_iff : s.DefaultClash k ↔ s.Lopsided := by
  obtain ⟨hprecision, hscale⟩ := decimal_defaultConfig k
  rw [DefaultClash, Lopsided, hprecision, hscale]
  constructor
  · rintro (⟨hnone, n, _, hn, ⟨⟩, h⟩ | ⟨hnone, _, p, ⟨⟩, hp, h⟩)
    · exact .inl ⟨hnone, n, hn, h⟩
    · exact .inr ⟨hnone, p, hp, h⟩
  · rintro (⟨hnone, n, hn, h⟩ | ⟨hnone, p, hp, h⟩)
    · exact .inl ⟨hnone, n, 18, hn, rfl, h⟩
    · exact .inr ⟨hnone, 12, p, rfl, hp, h⟩

/-- **A scale above its precision in the configuration of checked settings** is one that is given alone, or
one above a precision that is. -/
theorem scale_config_of_validate (hs : s.validate = .ok ()) (k : DialectKind) :
    (s.config k).decimalPrecision < (s.config k).decimalScale ↔ s.Lopsided := by
  rw [scale_config_iff, or_iff_right (validate_eq_ok_iff.1 hs).scale, defaultClash_iff]

/-- A precision that is too small for its scale is one that every database takes. -/
theorem precision_le_of_lopsided (h : s.Lopsided) :
    (s.config k).decimalPrecision ≤ k.rules.maxPrecision := by
  have hmost : 18 ≤ k.rules.maxPrecision := by cases k <;> decide
  rcases h with ⟨hnone, -⟩ | ⟨-, p, hp, hlt⟩
  · simpa only [config, hnone, Option.getD_none, (decimal_defaultConfig k).1] using hmost
  · simp only [config, hp, Option.getD_some]
    omega

/-- **When the decimals of checked settings have a column.**  The scale of the configuration is above its
precision exactly when the settings give one of the two, and it does not fit the start.  Exactly then a
decimal without precision and scale of its own is refused for its scale, on every database. -/
theorem checked_decimal_iff (hs : s.validate = .ok ()) (k : DialectKind) :
    ((s.config k).decimalScale ≤ (s.config k).decimalPrecision ↔ ¬ s.Lopsided) ∧
      ∀ f : Field, f.type = .decimal → f.length = none → f.scale = none →
        ((∃ name scale precision, Dialect.columnType ⟨k, s.config k⟩ f =
            .error (.scaleAbovePrecision name scale precision)) ↔ s.Lopsided) := by
  have hscale := scale_config_of_validate hs k
  refine ⟨by rw [← hscale, Nat.not_lt], fun f htype hlength hown => ?_⟩
  have hnumbers : Dialect.precisionOf ⟨k, s.config k⟩ f = (s.config k).decimalPrecision ∧
      Dialect.scaleOf ⟨k, s.config k⟩ f = (s.config k).decimalScale := by
    rw [Dialect.precisionOf, Dialect.scaleOf, hlength, hown]
    exact ⟨rfl, rfl⟩
  rw [Dialect.exists_scaleAbovePrecision_iff, hnumbers.1, hnumbers.2, hscale, and_iff_right htype]
  exact and_iff_right_of_imp precision_le_of_lopsided

/-- Settings with both numbers, and a price without its own. -/
theorem checked_decimal_iff_both :
    let s : Settings := { empty with decimalPrecision := some 5, decimalScale := some 2 }
    s.validate = .ok () ∧ (s.config .sqlite).decimalScale ≤ (s.config .sqlite).decimalPrecision ∧
      ∀ name scale precision, Dialect.columnType ⟨.sqlite, s.config .sqlite⟩ (.new "Price" .decimal) ≠
        .error (.scaleAbovePrecision name scale precision) := by
  intro s
  have hs : s.validate = .ok () := by decide
  have hfits : ¬ s.Lopsided := by decide
  obtain ⟨hscale, hcolumn⟩ := checked_decimal_iff hs .sqlite
  refine ⟨hs, hscale.2 hfits, fun name scale precision herror => hfits ?_⟩
  exact (hcolumn (.new "Price" .decimal) rfl rfl rfl).1 ⟨name, scale, precision, herror⟩

/-- **A precision alone, and a scale alone**, that pass the check and refuse a price without numbers of its
own. -/
theorem checked_decimal_refused :
    let price := Field.new "Price" .decimal
    let short : Settings := { empty with decimalPrecision := some 5 }
    let sqlite : Dialect := ⟨.sqlite, short.config .sqlite⟩
    let long : Settings := { empty with decimalScale := some 20 }
    let mysql : Dialect := ⟨.mysql, long.config .mysql⟩
    (short.validate = .ok () ∧ ¬ sqlite.config.decimalScale ≤ sqlite.config.decimalPrecision ∧
        sqlite.columnType price = .error (.scaleAbovePrecision "Price" 12 5)) ∧
      long.validate = .ok () ∧ ¬ mysql.config.decimalScale ≤ mysql.config.decimalPrecision ∧
        mysql.columnType price = .error (.scaleAbovePrecision "Price" 20 18) := by
  decide +kernel

end ModelSql.Settings
