/-
**Ranges of rows at the ends of the numbers.**

Firebird is asked for rows by the first and the last one, counted from one.  A row number has 63 bits, but
the numbers that rows are counted with have 64.  Behind some skipped rows, a last row that no row number
reaches is replaced by a number that stands for no bound, and so it is where no number of rows is given.
That number has 31 bits only.  A range is what it should be up to the end of the row numbers; beyond it, the
range ends where the number of 31 bits says.

Main definitions:

* `Dialect.unboundedRow` — the number that stands for no bound;
* `Dialect.IsExact` — rows whose last one is written as it is;
* `Dialect.rangeEnd` — **the last row of a range**.

Main results:

* `Dialect.window_range` — **the range that a clause asks for**;
* `Dialect.range_le_maxRow_iff` — when both ends are row numbers;
* `Dialect.first_le_last_iff` — when there is a row between them;
* `Dialect.rangeEnd_le_iff` — when more rows reach as far as fewer;
* `Dialect.has_range_iff` — when a range without a bound leaves out no row number;
* `Dialect.rowRange_sound_iff` — **all of this**, for a clause.
-/

import ModelSql.Proofs.Dialect.Window

set_option relaxedAutoImplicit false
set_option autoImplicit false

namespace ModelSql.Dialect

/-! ### Ranges -/

/-- The number that stands for no bound in a range. -/
def unboundedRow : Nat := 2147483647

/-- **Rows whose last one is written as it is**: any number of them if none are skipped, and else as many
as there are row numbers for. -/
def IsExact (skip rows : Option Nat) : Prop :=
  ∃ n, rows = some n ∧ (skip = none ∨ skip.getD 0 + n ≤ maxRow)

/-- **The last row of a range.** -/
def rangeEnd : Option Nat → Option Nat → Nat
  | none, some n => n
  | some skip, some n => if skip + n ≤ maxRow then skip + n else unboundedRow
  | _, none => unboundedRow

variable {skip rows : Option Nat} {n more : Nat}

theorem isExact_some_iff : IsExact skip (some n) ↔ skip = none ∨ skip.getD 0 + n ≤ maxRow := by
  constructor
  · rintro ⟨k, hk, h⟩
    cases hk
    exact h
  · exact fun h => ⟨n, rfl, h⟩

/-- The last row, as it is. -/
theorem rangeEnd_of_isExact (h : IsExact skip (some n)) :
    rangeEnd skip (some n) = skip.getD 0 + n := by
  rw [isExact_some_iff] at h
  cases skip with
  | none => exact (Nat.zero_add n).symm
  | some s => exact if_pos (h.resolve_left nofun)

/-- The number that stands for no bound. -/
theorem rangeEnd_of_not_isExact (h : ¬ IsExact skip rows) : rangeEnd skip rows = unboundedRow := by
  cases rows with
  | none => cases skip <;> rfl
  | some n =>
      rw [isExact_some_iff, not_or] at h
      cases skip with
      | none => exact absurd rfl h.1
      | some s => exact if_neg h.2

/-! ### The range of a clause -/

section

variable {d : Dialect}

theorem limitStyle_firebird (hd : d.kind = .firebird) : d.rules.limitStyle = .rows := by
  rw [rules, hd]
  rfl

/-- What is written in the place of the last row. -/
theorem unboundedRows_firebird (hd : d.kind = .firebird) :
    d.rules.unboundedRows = toString unboundedRow := by
  rw [rules, hd]
  decide

/-- A clause for rows behind some skipped ones names both ends. -/
theorem paging_range (hd : d.kind = .firebird) (s : Nat) (rows : Option Nat) (isOrdered : Bool) :
    d.paging (some s) rows isOrdered =
      "ROWS " ++ toString (firstRow s) ++ " TO " ++ toString (rangeEnd (some s) rows) := by
  unfold paging
  rw [limitStyle_firebird hd, unboundedRows_firebird hd]
  cases rows with
  | none => rfl
  | some n =>
      simp only [lastRow, rangeEnd]
      rw [apply_ite toString]

/-- **The range that a clause asks for.** -/
theorem window_range (hd : d.kind = .firebird) (hclause : skip ≠ none ∨ rows ≠ none) (isOrdered : Bool) :
    d.window? (d.paging skip rows isOrdered) =
      some (.between (firstRow (skip.getD 0)) (rangeEnd skip rows)) := by
  have hstyle := limitStyle_firebird hd
  cases skip with
  | some s =>
      rw [paging_range hd, window?, nests_of_spells (spells_rowsTo _ _), hstyle]
      simp [LimitStyle.clause, LimitStyle.window?]
  | none =>
      obtain ⟨n, rfl⟩ := Option.ne_none_iff_exists'.1 (hclause.resolve_left (· rfl))
      have htext : d.paging none (some n) isOrdered = "ROWS " ++ toString n := by
        unfold paging
        rw [hstyle]
      have hfirst : firstRow 0 = 1 := by decide
      rw [htext, window?, nests_of_spells (spells_rows n), hstyle]
      simp [LimitStyle.clause, LimitStyle.window?, hfirst, rangeEnd]

end

/-! ### The ends of a range -/

/-- **Both ends are row numbers** exactly when the last skipped row has a number behind it, and no rows are
asked for by a number that is none. -/
theorem range_le_maxRow_iff :
    firstRow (skip.getD 0) ≤ maxRow ∧ rangeEnd skip rows ≤ maxRow ↔
      skip.getD 0 < maxRow ∧ ∀ n, skip = none → rows = some n → n ≤ maxRow := by
  have hfirst (s : Nat) : firstRow s ≤ maxRow ↔ s < maxRow := by
    unfold firstRow maxCount maxRow
    omega
  have hunbounded : unboundedRow ≤ maxRow := by decide
  rw [hfirst]
  refine and_congr_right fun _ => ?_
  by_cases hexact : IsExact skip rows
  · obtain ⟨n, rfl, hn⟩ := id hexact
    rw [rangeEnd_of_isExact hexact]
    cases skip with
    | none => simp
    | some s => simpa using hn
  · rw [rangeEnd_of_not_isExact hexact]
    refine iff_of_true hunbounded fun n hskip hrows => absurd ⟨n, hrows, .inl hskip⟩ hexact

/-- **There is a row between the ends**, if any is wanted, exactly when the last one is written as it is or
the number in its place is behind the skipped rows. -/
theorem first_le_last_iff (hrows : rows ≠ some 0) (hskip : skip.getD 0 < maxRow) :
    firstRow (skip.getD 0) ≤ rangeEnd skip rows ↔
      IsExact skip rows ∨ skip.getD 0 < unboundedRow := by
  rw [firstRow_of_le (n := 1) hskip]
  by_cases hexact : IsExact skip rows
  · obtain ⟨n, rfl, -⟩ := id hexact
    have hn : n ≠ 0 := fun h => hrows (congrArg some h)
    rw [rangeEnd_of_isExact hexact]
    exact iff_of_true (by omega) (.inl hexact)
  · rw [rangeEnd_of_not_isExact hexact, or_iff_right hexact]
    exact Iff.rfl

/-- **More rows reach as far as fewer** exactly when their last row is written as it is, or neither is, or
the last one of the fewer is not behind the number that is written for the other. -/
theorem rangeEnd_le_iff (hmore : n ≤ more) :
    rangeEnd skip (some n) ≤ rangeEnd skip (some more) ↔
      IsExact skip (some more) ∨ ¬ IsExact skip (some n) ∨ skip.getD 0 + n ≤ unboundedRow := by
  by_cases hexact : IsExact skip (some more)
  · have hfewer : IsExact skip (some n) := by
      rw [isExact_some_iff] at hexact ⊢
      exact hexact.imp_right fun h => by omega
    rw [rangeEnd_of_isExact hexact, rangeEnd_of_isExact hfewer]
    exact iff_of_true (by omega) (.inl hexact)
  · rw [rangeEnd_of_not_isExact hexact, or_iff_right hexact]
    by_cases hfewer : IsExact skip (some n)
    · rw [rangeEnd_of_isExact hfewer, or_iff_right (not_not.2 hfewer)]
    · rw [rangeEnd_of_not_isExact hfewer]
      exact iff_of_true (Nat.le_refl _) (.inl hfewer)

/-- **A range that is to have no end leaves out no row number** exactly when no row is skipped or there is
no row number behind the skipped ones. -/
theorem has_range_iff (hclause : skip ≠ none ∨ rows ≠ none)
    (hend : ∀ n, rows = some n → maxRow < skip.getD 0 + n) :
    (∀ p, skip.getD 0 < p → p ≤ maxRow →
        (Window.between (firstRow (skip.getD 0)) (rangeEnd skip rows)).Has p) ↔
      skip = none ∨ maxRow ≤ skip.getD 0 := by
  cases skip with
  | none =>
      obtain ⟨n, rfl⟩ := Option.ne_none_iff_exists'.1 (hclause.resolve_left (· rfl))
      have hn := hend n rfl
      rw [Option.getD_none, Nat.zero_add] at hn
      refine iff_of_true (fun p hfirst hlast => ?_) (.inl rfl)
      exact ⟨hfirst, Nat.le_trans hlast (Nat.le_of_lt hn)⟩
  | some s =>
      have hexact : ¬ IsExact (some s) rows := by
        rintro ⟨n, hrows, h⟩
        have hn := hend n hrows
        have hle := h.resolve_left nofun
        omega
      have hunbounded : unboundedRow < maxRow := by decide
      rw [rangeEnd_of_not_isExact hexact, or_iff_right nofun, Option.getD_some]
      constructor
      · -- the last row number is behind the end
        intro hall
        by_contra hskip
        have hlast := (hall maxRow (by omega) (Nat.le_refl _)).2
        omega
      · intro hskip p hfirst hlast
        omega

/-- **When the range of a clause is what it should be.**  A clause asks for the rows from the first one to
the last one.  Both are row numbers, there is a row between them, more rows reach as far as fewer, and a range
that is to have no end leaves out no row number, each of them exactly when the numbers are as said. -/
theorem rowRange_sound_iff {d : Dialect} (hd : d.kind = .firebird)
    (hclause : skip ≠ none ∨ rows ≠ none) (isOrdered : Bool) :
    ∃ first last, d.window? (d.paging skip rows isOrdered) = some (.between first last) ∧
      (first ≤ maxRow ∧ last ≤ maxRow ↔
        skip.getD 0 < maxRow ∧ ∀ n, skip = none → rows = some n → n ≤ maxRow) ∧
      (rows ≠ some 0 → skip.getD 0 < maxRow →
        (first ≤ last ↔ IsExact skip rows ∨ skip.getD 0 < unboundedRow)) ∧
      (∀ n more, rows = some n → n ≤ more →
        ∃ last', d.window? (d.paging skip (some more) isOrdered) = some (.between first last') ∧
          (last ≤ last' ↔ IsExact skip (some more) ∨ ¬ IsExact skip rows ∨
            skip.getD 0 + n ≤ unboundedRow)) ∧
      ((∀ n, rows = some n → maxRow < skip.getD 0 + n) →
        ((∀ p, skip.getD 0 < p → p ≤ maxRow → (Window.between first last).Has p) ↔
          skip = none ∨ maxRow ≤ skip.getD 0)) := by
  refine ⟨firstRow (skip.getD 0), rangeEnd skip rows, window_range hd hclause isOrdered,
    range_le_maxRow_iff, first_le_last_iff, ?_, has_range_iff hclause⟩
  rintro n more rfl hmore
  exact ⟨_, window_range hd (.inr (Option.some_ne_none more)) isOrdered, rangeEnd_le_iff hmore⟩

/-- The last hundred row numbers. -/
theorem rowRange_sound_iff_hundred :
    let d := DialectKind.firebird.dialect
    d.paging (some (maxRow - 100)) (some 100) false =
        "ROWS 9223372036854775708 TO 9223372036854775807" ∧
      ∃ first last, d.window? (d.paging (some (maxRow - 100)) (some 100) false) =
          some (.between first last) ∧
        first ≤ maxRow ∧ last ≤ maxRow ∧ first ≤ last := by
  intro d
  have hclause : some (maxRow - 100) ≠ none ∨ some 100 ≠ none := .inl (Option.some_ne_none _)
  have hexact : IsExact (some (maxRow - 100)) (some 100) := isExact_some_iff.2 (.inr (by decide))
  obtain ⟨first, last, hwindow, hnumbers, hbetween, -, -⟩ :=
    rowRange_sound_iff (d := d) rfl hclause false
  obtain ⟨hfirst, hlast⟩ := hnumbers.2 ⟨by decide, nofun⟩
  exact ⟨by decide +kernel, first, last, hwindow, hfirst, hlast,
    (hbetween (by decide) (by decide)).2 (.inl hexact)⟩

/-- **Ranges that are not what they should be**: one with its last row before the first, one that ends before
that of fewer rows and leaves out row numbers, and two whose ends are no row numbers. -/
theorem rowRange_not_sound :
    let d := DialectKind.firebird.dialect
    (d.paging (some 3000000000) none false = "ROWS 3000000001 TO 2147483647" ∧
        3000000000 < maxRow ∧ ¬ 3000000001 ≤ 2147483647) ∧
      (d.paging (some 10) (some 3000000000) false = "ROWS 11 TO 3000000010" ∧
        d.paging (some 10) (some maxCount) false = "ROWS 11 TO 2147483647" ∧
        ¬ 3000000010 ≤ 2147483647 ∧ ¬ (Window.between 11 2147483647).Has maxRow) ∧
      (d.paging (some maxCount) (some 5) false = "ROWS 18446744073709551615 TO 2147483647" ∧
        d.paging none (some maxCount) false = "ROWS 18446744073709551615" ∧
        ¬ 18446744073709551615 ≤ maxRow) := by
  refine ⟨⟨by decide +kernel, by decide, by decide⟩, ⟨by decide +kernel, by decide +kernel, by decide, ?_⟩,
    by decide +kernel, by decide +kernel, by decide⟩
  rintro ⟨-, hlast⟩
  exact absurd hlast (by decide)

end ModelSql.Dialect
