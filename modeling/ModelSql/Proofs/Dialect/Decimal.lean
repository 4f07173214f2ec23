/-
**Decimals that have no column.**

A decimal is declared with a precision and a scale.  Both may be left out, and then they are those of the
configuration.  Every type of a field has a column on every database but for a decimal: the precision may be
larger than the database takes, and the scale may be larger than the precision.  The statement that creates
a table has the definitions of its columns in it, so it fails with the first field that has no column.

Main definitions:

* `Dialect.precisionOf` — the precision that a field is declared with;
* `Dialect.Columnless` — **a field that has no column**, and the error that says why;
* `Dialect.FirstColumnless` — the first one of some fields.

Main results:

* `Dialect.columnType_eq_error_iff`, `Dialect.columnDefinition_eq_error_iff` — the fields without a column;
* `Dialect.exists_scaleAbovePrecision_iff` — those whose scale is to blame;
* `Dialect.createTable_eq_error_iff_firstColumnless` — **when a table cannot be written, and with which
  error**.
-/

import ModelSql.Proofs.Dialect.Generated

set_option relaxedAutoImplicit false
set_option autoImplicit false

namespace ModelSql.Dialect

/-! ### Fields without a column -/

/-- The precision that a decimal is declared with: its own, or else that of the configuration. -/
def precisionOf (d : Dialect) (f : Field) : Nat := f.length.getD d.config.decimalPrecision

/-- **A field that has no column**, and the error that says why.  It is a decimal whose precision is larger
than the database takes, or else smaller than its scale. -/
inductive Columnless (d : Dialect) (f : Field) : Error → Prop
  | precision (htype : f.type = .decimal) (h : d.rules.maxPrecision < d.precisionOf f) :
      Columnless d f
        (.precisionTooLarge d.rules.name d.rules.maxPrecision f.name (d.precisionOf f))
  | scale (htype : f.type = .decimal) (hmost : d.precisionOf f ≤ d.rules.maxPrecision)
      (h : d.precisionOf f < d.scaleOf f) :
      Columnless d f (.scaleAbovePrecision f.name (d.scaleOf f) (d.precisionOf f))

/-- **The first field that has no column**, and its error. -/
def FirstColumnless (d : Dialect) (fs : List Field) (e : Error) : Prop :=
  ∃ before f after, fs = before ++ f :: after ∧ d.Columnless f e ∧
    ∀ g ∈ before, ∀ e', ¬ d.Columnless g e'

variable {d : Dialect} {m : Model} {f : Field} {fs : List Field} {e : Error}

/-- Only a decimal can have no column. -/
theorem Columnless.type_eq (h : d.Columnless f e) : f.type = .decimal := by
  cases h with
  | precision htype _ => exact htype
  | scale htype _ _ => exact htype

/-! ### Columns -/

theorem decimalType_eq_error_iff (htype : f.type = .decimal) :
    d.decimalType f = .error e ↔ d.Columnless f e := by
  unfold decimalType
  simp only
  rw [← precisionOf]
  by_cases hlarge : d.rules.maxPrecision < d.precisionOf f
  · rw [if_pos hlarge]
    constructor
    · rintro ⟨⟩
      exact .precision htype hlarge
    · rintro (_ | ⟨_, hmost, _⟩)
      · rfl
      · omega
  rw [if_neg hlarge]
  by_cases hscale : d.precisionOf f < d.scaleOf f
  · rw [if_pos hscale]
    constructor
    · rintro ⟨⟩
      exact .scale htype (Nat.le_of_not_lt hlarge) hscale
    · rintro (⟨_, h⟩ | _)
      · exact absurd h hlarge
      · rfl
  · rw [if_neg hscale]
    constructor
    · nofun
    · rintro (⟨_, h⟩ | ⟨_, _, h⟩)
      · exact absurd h hlarge
      · exact absurd h hscale

theorem standardType_eq_error_iff : d.standardType f = .error e ↔ d.Columnless f e := by
  unfold standardType
  cases htype : f.type with
  | decimal => exact decimalType_eq_error_iff htype
  | _ =>
      constructor
      · nofun
      · intro h
        have hdecimal := h.type_eq
        rw [htype] at hdecimal
        cases hdecimal

/-- **The fields without a column.** -/
theorem columnType_eq_error_iff : d.columnType f = .error e ↔ d.Columnless f e := by
  rw [← standardType_eq_error_iff]
  unfold columnType
  cases d.kind with
  | postgres =>
      simp only
      split
      · -- the serial types are for integers
        rename_i type hserial
        refine ⟨nofun, fun h => ?_⟩
        rw [standardType_eq_error_iff] at h
        simp [h.type_eq, serialType?] at hserial
      · exact Iff.rfl
  | firebird =>
      simp only
      cases d.standardType f <;> simp [Except.map]
  | _ => exact Iff.rfl

/-- **A decimal whose scale is too large** for its precision, which the database would take. -/
theorem exists_scaleAbovePrecision_iff :
    (∃ name scale precision, d.columnType f = .error (.scaleAbovePrecision name scale precision)) ↔
      f.type = .decimal ∧ d.precisionOf f ≤ d.rules.maxPrecision ∧ d.precisionOf f < d.scaleOf f := by
  simp only [columnType_eq_error_iff]
  constructor
  · rintro ⟨name, scale, precision, _ | ⟨htype, hmost, h⟩⟩
    exact ⟨htype, hmost, h⟩
  · rintro ⟨htype, hmost, h⟩
    exact ⟨_, _, _, .scale htype hmost h⟩

theorem columnDefinition_eq_error_iff : d.columnDefinition f = .error e ↔ d.Columnless f e := by
  rw [columnDefinition_eq, ← columnType_eq_error_iff]
  cases d.columnType f <;> simp [Except.map]

/-- A field has a definition of its column, or an error. -/
theorem exists_columnDefinition_iff :
    (∃ line, d.columnDefinition f = .ok line) ↔ ∀ e, ¬ d.Columnless f e := by
  simp only [← columnDefinition_eq_error_iff]
  cases d.columnDefinition f with
  | ok line => exact iff_of_true ⟨line, rfl⟩ fun e => nofun
  | error e => exact iff_of_false (fun ⟨line, h⟩ => nomatch h) fun h => h e rfl

/-! ### Tables -/

/-- A field has one error. -/
theorem Columnless.unique {e' : Error} (h : d.Columnless f e) (h' : d.Columnless f e') : e = e' := by
  rw [← columnDefinition_eq_error_iff] at h h'
  exact Except.error.inj (h.symm.trans h')

/-- A field without a column in front is the first one. -/
theorem firstColumnless_cons_of_columnless {e' : Error} (hf : d.Columnless f e') :
    d.FirstColumnless (f :: fs) e ↔ e' = e := by
  constructor
  · rintro ⟨before, g, after, hfs, hg, hbefore⟩
    cases before with
    | nil =>
        cases hfs
        exact hf.unique hg
    | cons _ before =>
        cases hfs
        exact absurd hf (hbefore f List.mem_cons_self e')
  · rintro rfl
    exact ⟨[], f, fs, rfl, hf, fun g hg => absurd hg List.not_mem_nil⟩

/-- Behind a field that has a column, the first field without one stays the first. -/
theorem firstColumnless_cons_of_not (hf : ∀ e', ¬ d.Columnless f e') :
    d.FirstColumnless (f :: fs) e ↔ d.FirstColumnless fs e := by
  constructor
  · rintro ⟨before, g, after, hfs, hg, hbefore⟩
    cases before with
    | nil =>
        cases hfs
        exact absurd hg (hf e)
    | cons _ before =>
        cases hfs
        exact ⟨before, g, after, rfl, hg, fun g' hg' => hbefore g' (List.mem_cons_of_mem _ hg')⟩
  · rintro ⟨before, g, after, rfl, hg, hbefore⟩
    exact ⟨f :: before, g, after, rfl, hg, List.forall_mem_cons.2 ⟨hf, hbefore⟩⟩

/-- **The definitions of columns fail with the first field that has none.** -/
theorem columnDefinitions_eq_error_iff : d.columnDefinitions fs = .error e ↔ d.FirstColumnless fs e := by
  induction fs with
  | nil =>
      refine iff_of_false nofun ?_
      rintro ⟨before, f, after, hfs, -⟩
      exact List.append_ne_nil_of_right_ne_nil before (List.cons_ne_nil f after) hfs.symm
  | cons f fs ih =>
      rw [columnDefinitions]
      cases hline : d.columnDefinition f with
      | error e' =>
          rw [firstColumnless_cons_of_columnless (columnDefinition_eq_error_iff.1 hline)]
          exact ⟨Except.error.inj, congrArg Except.error⟩
      | ok line =>
          rw [firstColumnless_cons_of_not (exists_columnDefinition_iff.1 ⟨line, hline⟩), ← ih]
          cases d.columnDefinitions fs <;> simp [Except.map]

/-- **When a table cannot be written**: some field has no column, and the error is that of the first one. -/
theorem createTable_eq_error_iff_firstColumnless :
    d.createTable m = .error e ↔ d.FirstColumnless m.fields e := by
  rw [createTable, ← columnDefinitions_eq_error_iff]
  cases d.columnDefinitions m.fields <;> simp [Except.map]

end ModelSql.Dialect
