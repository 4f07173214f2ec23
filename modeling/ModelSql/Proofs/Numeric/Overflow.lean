/-
**Numbers beyond a format.**

Rounding to a format with full precision goes through one exponent, the least for which the mantissa
stays below its bound.  A number is too large exactly when its rounding takes the exponent past the
largest of the format, and that is decided by half of a step: half a step below the power of two that
follows the largest float, ties go to the even mantissa, which is that power.

Main definitions:

* `Numeric.Binary.magnitude` — the magnitude of a datum;
* `Numeric.Format.limit` — **the least magnitude that is too large for a format**;
* `Numeric.fittingExponent` — the exponent that a quotient is rounded at.

Main results:

* `Numeric.le_roundHalfEven_iff` — **when rounding reaches an even number**;
* `Numeric.fittingExponent_spec` — the quotient has full precision at its exponent, or the least one;
* `Numeric.nearest_eq_none_iff` — **a quotient is too large exactly from the limit on**;
* `Numeric.narrow_of_magnitude` — narrowing is finite below the limit, and infinite from there on.
-/

import Mathlib.Algebra.Order.Field.Power
import Mathlib.Tactic.FieldSimp
import Mathlib.Tactic.Linarith
import Mathlib.Tactic.Positivity
import Mathlib.Tactic.Ring
import ModelSql.Numeric.Binary

set_option relaxedAutoImplicit false
set_option autoImplicit false

namespace ModelSql.Numeric

/-- The magnitude of a finite datum; the others have none. -/
def Binary.magnitude : Binary → Option Rat
  | .finite _ m e => some (m * (2 : Rat) ^ e)
  | _ => none

/-- **The least magnitude that is too large for a format**: half a step below the power of two that
follows the largest float. -/
def Format.limit (fmt : Format) : Rat :=
  (2 : Rat) ^ (fmt.precision + fmt.maxExponent) - (2 : Rat) ^ (fmt.maxExponent - 1)

variable {fmt : Format} {num den : Nat}

/-! ### Ties -/

/-- **Rounding reaches an even number** from half a step below it on. -/
theorem le_roundHalfEven_iff {bound : Nat} (hden : 0 < den) (heven : bound % 2 = 0) :
    bound ≤ roundHalfEven num den ↔ 2 * bound * den ≤ 2 * num + den := by
  have hnum : den * (num / den) + num % den = num := Nat.div_add_mod num den
  have hrest : num % den < den := Nat.mod_lt num hden
  unfold roundHalfEven
  generalize num / den = q at hnum
  generalize num % den = r at hnum hrest
  subst hnum
  dsimp only
  have hstep (k : Nat) : den * (q + k) = den * q + den * k := Nat.mul_add den q k
  rcases Nat.lt_trichotomy bound (q + 1) with h | rfl | h
  · -- the quotient is there already
    have hle : den * bound ≤ den * q := Nat.mul_le_mul_left den (by omega)
    have hmul : 2 * bound * den = 2 * (den * bound) := by ring
    constructor
    · intro _
      omega
    · intro _
      split <;> omega
  · -- the quotient is odd and one below: half of the divisor decides
    have hodd : q % 2 = 1 := by omega
    have hmul : 2 * (q + 1) * den = 2 * (den * q) + 2 * den := by ring
    rw [hmul]
    simp only [Bool.or_eq_true, decide_eq_true_eq, Bool.and_eq_true, beq_iff_eq, hodd, and_true]
    split <;> omega
  · -- the quotient is too far below
    have hle : den * (q + 2) ≤ den * bound := Nat.mul_le_mul_left den (by omega)
    have hmul : 2 * bound * den = 2 * (den * bound) := by ring
    have htwo := hstep 2
    constructor
    · intro _
      split at * <;> omega
    · intro _
      omega

/-! ### Quotients over powers of two -/

theorem two_zpow_pos (e : Int) : (0 : Rat) < (2 : Rat) ^ e := zpow_pos (by norm_num) e

theorem two_zpow_add (a b : Int) : (2 : Rat) ^ (a + b) = (2 : Rat) ^ a * (2 : Rat) ^ b :=
  zpow_add₀ (by norm_num) a b

theorem two_zpow_le {a b : Int} (h : a ≤ b) : (2 : Rat) ^ a ≤ (2 : Rat) ^ b :=
  zpow_le_zpow_right₀ (by norm_num) h

theorem cast_twoTo (n : Nat) : ((twoTo n : Nat) : Rat) = (2 : Rat) ^ (n : Int) := by
  simp [twoTo]

/-- The fraction over a power of two as a rational. -/
theorem overPower_spec (num : Nat) (hden : 0 < den) (e : Int) : 0 < (overPower num den e).2 ∧
    ((overPower num den e).1 : Rat) * (2 : Rat) ^ e * den = num * (overPower num den e).2 := by
  unfold overPower
  split
  · rename_i he
    have hcast : ((e.toNat : Nat) : Int) = e := Int.toNat_of_nonneg he
    refine ⟨Nat.mul_pos hden (Nat.two_pow_pos _), ?_⟩
    push_cast [cast_twoTo, hcast]
    ring
  · rename_i he
    have hcast : (((-e).toNat : Nat) : Int) = -e := Int.toNat_of_nonneg (by omega)
    refine ⟨hden, ?_⟩
    push_cast [cast_twoTo, hcast]
    rw [mul_assoc (num : Rat), ← two_zpow_add, neg_add_cancel, zpow_zero, mul_one]

/-- A bound on the fraction over a power of two is a bound on the quotient. -/
theorem overPower_le_iff (num : Nat) (hden : 0 < den) (e : Int) (a b : Nat) :
    a * (overPower num den e).2 ≤ b * (overPower num den e).1 ↔
      (a : Rat) * (2 : Rat) ^ e ≤ b * (num / den : Rat) := by
  obtain ⟨hpos, hfraction⟩ := overPower_spec num hden e
  generalize (overPower num den e).1 = c at *
  generalize (overPower num den e).2 = d at *
  have hpos' : (0 : Rat) < d := Nat.cast_pos.2 hpos
  have hden' : (0 : Rat) < den := Nat.cast_pos.2 hden
  have hquotient : (num / den : Rat) = c * (2 : Rat) ^ e / d := by
    field_simp
    linarith
  rw [hquotient, ← mul_div_assoc, le_div_iff₀ hpos', mul_right_comm, ← mul_assoc,
    mul_le_mul_iff_left₀ (two_zpow_pos e)]
  exact_mod_cast Iff.rfl

/-! ### The exponent -/

/-- The least exponent of the format, or the one that the lengths of the two numbers suggest. -/
def lowExponent (fmt : Format) (num den : Nat) : Int :=
  max fmt.minExponent ((num.log2 : Int) - den.log2 - fmt.precision)

/-- **The exponent that a quotient is rounded at.** -/
def fittingExponent (fmt : Format) (num den : Nat) : Int :=
  let f := overPower num den (lowExponent fmt num den)
  if f.1 / f.2 < twoTo fmt.precision then lowExponent fmt num den else lowExponent fmt num den + 1

/-- What the lengths of two numbers say of their quotient. -/
theorem quotient_bounds (hnum : 0 < num) (hden : 0 < den) :
    (2 : Rat) ^ ((num.log2 : Int) - den.log2 - 1) ≤ num / den ∧
      (num / den : Rat) < (2 : Rat) ^ ((num.log2 : Int) - den.log2 + 1) := by
  have hden' : (0 : Rat) < den := Nat.cast_pos.2 hden
  have hlow {n : Nat} (hn : 0 < n) : (2 : Rat) ^ (n.log2 : Int) ≤ n := by
    exact_mod_cast Nat.log2_self_le (by omega)
  have hhigh (n : Nat) : (n : Rat) < (2 : Rat) ^ ((n.log2 : Int) + 1) := by
    exact_mod_cast Nat.lt_log2_self (n := n)
  constructor
  · rw [le_div_iff₀ hden']
    calc (2 : Rat) ^ ((num.log2 : Int) - den.log2 - 1) * den
        ≤ (2 : Rat) ^ ((num.log2 : Int) - den.log2 - 1) * (2 : Rat) ^ ((den.log2 : Int) + 1) :=
          mul_le_mul_of_nonneg_left (hhigh den).le (two_zpow_pos _).le
      _ = (2 : Rat) ^ (num.log2 : Int) := by rw [← two_zpow_add]; ring_nf
      _ ≤ num := hlow hnum
  · rw [div_lt_iff₀ hden']
    calc (num : Rat) < (2 : Rat) ^ ((num.log2 : Int) + 1) := hhigh num
      _ = (2 : Rat) ^ ((num.log2 : Int) - den.log2 + 1) * (2 : Rat) ^ (den.log2 : Int) := by
          rw [← two_zpow_add]; ring_nf
      _ ≤ (2 : Rat) ^ ((num.log2 : Int) - den.log2 + 1) * den :=
          mul_le_mul_of_nonneg_left (hlow hden) (two_zpow_pos _).le

/-- Whether the mantissa stays below its bound at an exponent. -/
theorem overPower_div_lt_iff (fmt : Format) (num : Nat) (hden : 0 < den) (e : Int) :
    (overPower num den e).1 / (overPower num den e).2 < twoTo fmt.precision ↔
      (num / den : Rat) < (2 : Rat) ^ (fmt.precision + e) := by
  have hpos := (overPower_spec num hden e).1
  have hbound := overPower_le_iff num hden e (twoTo fmt.precision) 1
  rw [Nat.div_lt_iff_lt_mul hpos, ← not_le, ← not_le, not_iff_not, two_zpow_add, ← cast_twoTo]
  simpa using hbound

/-- **The exponent fits**: the mantissa is below its bound, and has full precision unless the exponent is
the least of the format. -/
theorem fittingExponent_spec (fmt : Format) (hnum : 0 < num) (hden : 0 < den) :
    fmt.minExponent ≤ fittingExponent fmt num den ∧
    (num / den : Rat) < (2 : Rat) ^ (fmt.precision + fittingExponent fmt num den) ∧
    (fittingExponent fmt num den = fmt.minExponent ∨
      (2 : Rat) ^ (fmt.precision + fittingExponent fmt num den - 1) ≤ num / den) := by
  obtain ⟨hlow, hhigh⟩ := quotient_bounds hnum hden
  have hfits := overPower_div_lt_iff fmt num hden (lowExponent fmt num den)
  have hleast : fmt.minExponent ≤ lowExponent fmt num den := le_max_left _ _
  have hsuggested : (num.log2 : Int) - den.log2 - fmt.precision ≤ lowExponent fmt num den :=
    le_max_right _ _
  simp only [fittingExponent]
  split
  · rename_i h
    refine ⟨hleast, hfits.1 h, ?_⟩
    rcases max_choice fmt.minExponent ((num.log2 : Int) - den.log2 - fmt.precision) with hmax | hmax
    · exact Or.inl hmax
    · refine Or.inr (le_trans (two_zpow_le ?_) hlow)
      change lowExponent fmt num den = _ at hmax
      omega
  · rename_i h
    refine ⟨by omega, lt_of_lt_of_le hhigh (two_zpow_le (by omega)), Or.inr ?_⟩
    have hle := le_of_not_gt (mt hfits.2 h)
    exact le_trans (two_zpow_le (by omega)) hle

/-! ### Too large a number -/

/-- Whether the mantissa rounds to its bound. -/
theorem twoTo_le_roundHalfEven_iff (num : Nat) (hprecision : 0 < fmt.precision) (hden : 0 < den)
    (e : Int) :
    twoTo fmt.precision ≤ roundHalfEven (overPower num den e).1 (overPower num den e).2 ↔
      (2 : Rat) ^ (fmt.precision + e) - (2 : Rat) ^ (e - 1) ≤ num / den := by
  obtain ⟨p, hp⟩ := Nat.exists_eq_add_of_lt hprecision
  have heven : twoTo fmt.precision % 2 = 0 := by
    rw [hp, Nat.zero_add, twoTo_succ]
    exact Nat.mul_mod_left _ 2
  have hpositive : 0 < twoTo fmt.precision := Nat.two_pow_pos _
  have hpos := (overPower_spec num hden e).1
  rw [le_roundHalfEven_iff hpos heven]
  have hbound := overPower_le_iff num hden e (2 * twoTo fmt.precision - 1) 2
  have hless : (2 * twoTo fmt.precision - 1) * (overPower num den e).2 =
      2 * twoTo fmt.precision * (overPower num den e).2 - (overPower num den e).2 := by
    rw [Nat.sub_mul, Nat.one_mul]
  have hcast : ((2 * twoTo fmt.precision - 1 : Nat) : Rat) = 2 * (2 : Rat) ^ (fmt.precision : Int) - 1 := by
    rw [Nat.cast_sub (by omega)]
    push_cast [cast_twoTo]
    rfl
  have hhalf : (2 : Rat) ^ e = 2 * (2 : Rat) ^ (e - 1) := by
    rw [show e = 1 + (e - 1) by ring, two_zpow_add, zpow_one]
    ring_nf
  have hpower := two_zpow_add fmt.precision e
  rw [hless, hcast] at hbound
  constructor
  · intro h
    have hle := hbound.1 (by omega)
    push_cast at hle
    nlinarith
  · intro h
    have hle := hbound.2 (by push_cast; nlinarith)
    omega

/-- A quotient is too large by its exponent, or because its mantissa rounds to the bound at the largest one. -/
theorem nearest_eq_none_iff_rounded (fmt : Format) (num den : Nat) : nearest fmt num den = none ↔
    fmt.maxExponent < fittingExponent fmt num den ∨
      (fittingExponent fmt num den = fmt.maxExponent ∧ twoTo fmt.precision ≤
        roundHalfEven (overPower num den (fittingExponent fmt num den)).1
          (overPower num den (fittingExponent fmt num den)).2) := by
  change (if (if _ < _ then _ else _ : Nat × Int).2 ≤ _ then some _ else none) = none ↔ _
  rw [ite_eq_right_iff]
  simp only [reduceCtorEq, imp_false, not_le]
  change fmt.maxExponent < (if roundHalfEven (overPower num den (fittingExponent fmt num den)).1
    (overPower num den (fittingExponent fmt num den)).2 < twoTo fmt.precision then
      (_, fittingExponent fmt num den) else (_, fittingExponent fmt num den + 1) : Nat × Int).2 ↔ _
  split <;> omega

/-- **A quotient is too large exactly from the limit on.** -/
theorem nearest_eq_none_iff (hprecision : 0 < fmt.precision)
    (hrange : fmt.minExponent ≤ fmt.maxExponent) (hnum : 0 < num) (hden : 0 < den) :
    nearest fmt num den = none ↔ fmt.limit ≤ num / den := by
  obtain ⟨hleast, hhigh, hlow⟩ := fittingExponent_spec fmt hnum hden
  have hrounds := twoTo_le_roundHalfEven_iff num hprecision hden (fittingExponent fmt num den)
  rw [nearest_eq_none_iff_rounded]
  generalize fittingExponent fmt num den = e at *
  have hhalf : (2 : Rat) ^ (fmt.maxExponent - 1) ≤ (2 : Rat) ^ (fmt.precision + fmt.maxExponent - 1) :=
    two_zpow_le (by omega)
  have hdouble : (2 : Rat) ^ (fmt.precision + fmt.maxExponent) =
      2 * (2 : Rat) ^ (fmt.precision + fmt.maxExponent - 1) := by
    rw [← zpow_one_add₀ (by norm_num)]
    ring_nf
  have hpositive := two_zpow_pos (fmt.maxExponent - 1)
  unfold Format.limit
  rcases lt_trichotomy e fmt.maxExponent with h | rfl | h
  · -- a smaller exponent stays in the format, and keeps the quotient below the limit
    have hsmall : (num / den : Rat) < (2 : Rat) ^ (fmt.precision + fmt.maxExponent - 1) :=
      lt_of_lt_of_le hhigh (two_zpow_le (by omega))
    constructor
    · rintro (hmore | ⟨heq, -⟩) <;> omega
    · intro hlimit
      linarith
  · rw [← hrounds]
    constructor
    · rintro (hmore | ⟨-, hrounded⟩)
      · omega
      · exact hrounded
    · intro hrounded
      exact Or.inr ⟨rfl, hrounded⟩
  · -- a larger exponent leaves it, and is taken for a quotient beyond the limit only
    have hlarge : (2 : Rat) ^ (fmt.precision + fmt.maxExponent) ≤ num / den := by
      rcases hlow with hmin | hlow
      · omega
      · exact le_trans (two_zpow_le (by omega)) hlow
    constructor
    · intro _
      linarith
    · intro _
      exact Or.inl h

/-- Narrowing rounds a quotient of the same magnitude. -/
theorem exists_narrow_eq_ofQuotient (fmt : Format) (negative : Bool) {m : Nat} (hm : m ≠ 0) (e : Int) :
    ∃ num den : Nat, 0 < num ∧ 0 < den ∧ (num / den : Rat) = m * (2 : Rat) ^ e ∧
      narrow fmt (.finite negative m e) = ofQuotient fmt negative num den := by
  have hm' : 0 < m := Nat.pos_of_ne_zero hm
  by_cases he : 0 ≤ e
  · have hcast : ((e.toNat : Nat) : Int) = e := Int.toNat_of_nonneg he
    refine ⟨m * twoTo e.toNat, 1, Nat.mul_pos hm' (Nat.two_pow_pos _), Nat.one_pos, ?_, ?_⟩
    · push_cast [cast_twoTo, hcast]
      exact div_one _
    · rw [narrow, if_neg hm, if_pos he]
  · have hcast : (((-e).toNat : Nat) : Int) = -e := Int.toNat_of_nonneg (by omega)
    refine ⟨m, twoTo (-e).toNat, hm', Nat.two_pow_pos _, ?_, ?_⟩
    · rw [cast_twoTo, hcast, zpow_neg, div_inv_eq_mul]
    · rw [narrow, if_neg hm, if_neg he]

/-- **Narrowing is finite below the limit**, and infinite from there on. -/
theorem narrow_of_magnitude (fmt : Format) (hprecision : 0 < fmt.precision)
    (hrange : fmt.minExponent ≤ fmt.maxExponent) (hpositive : 0 < fmt.limit) (negative : Bool) (m : Nat)
    (e : Int) :
    if fmt.limit ≤ m * (2 : Rat) ^ e then narrow fmt (.finite negative m e) = .infinite negative
    else ∃ m' e', narrow fmt (.finite negative m e) = .finite negative m' e' := by
  by_cases hm : m = 0
  · have hsmall : ¬ fmt.limit ≤ (m : Rat) * (2 : Rat) ^ e := by
      rw [hm, Nat.cast_zero, zero_mul, not_le]
      exact hpositive
    rw [if_neg hsmall, narrow, if_pos hm]
    exact ⟨_, _, rfl⟩
  · obtain ⟨num, den, hnum, hden, hvalue, hnarrow⟩ := exists_narrow_eq_ofQuotient fmt negative hm e
    rw [hnarrow, ← hvalue, ofQuotient]
    have hnone := nearest_eq_none_iff hprecision hrange hnum hden
    cases h : nearest fmt num den with
    | none => exact (if_pos (hnone.1 h)).mpr rfl
    | some rounded =>
        have hsmall : ¬ fmt.limit ≤ (num / den : Rat) := fun hlimit => by
          rw [hnone.2 hlimit] at h
          cases h
        rw [if_neg hsmall]
        exact ⟨rounded.1, rounded.2, rfl⟩

end ModelSql.Numeric
