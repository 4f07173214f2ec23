/-
**Arithmetic on integers.**

Two integers have one sum, one difference and one product, and, unless the second one is zero, one
quotient, which is cut off toward zero, and one remainder, which has the sign of the first.  An operator on
two integers of 64 bits makes this exact result or none at all: a divisor that is zero and a result that
needs more bits are errors.  So is one result that does not need more, the remainder of the least integer by
minus one: it is zero, but the quotient that belongs to it has no 64 bits.

Main definitions:

* `BinaryOp.isArithmetic`, `BinaryOp.isDivision` — the operators of arithmetic, and those that divide;
* `Value.Divides` — division with a remainder;
* `Value.IsExact` — **the exact result of an operator**;
* `Value.LosesQuotient` — the one remainder that is refused.

Main results:

* `Value.divides_iff` — quotient and remainder are what is left of exact division;
* `Value.existsUnique_isExact` — there is one exact result, unless a divisor is zero;
* `Value.binary_int_iff` — **when an operator on integers has a result, and which**.
-/

import Mathlib.Logic.ExistsUnique
import ModelSql.Value.Arithmetic

set_option relaxedAutoImplicit false
set_option autoImplicit false

namespace ModelSql

/-! ### Operators -/

namespace BinaryOp

/-- **The operators of arithmetic.** -/
def isArithmetic : BinaryOp → Bool
  | add | sub | mul | div | mod => true
  | _ => false

/-- The operators that divide. -/
def isDivision : BinaryOp → Bool
  | div | mod => true
  | _ => false

end BinaryOp

namespace Value

/-! ### Exact results -/

/-- **Division with a remainder**: the remainder is smaller than the divisor and on the same side of zero as
the dividend, so that the quotient is cut off toward zero. -/
structure Divides (a b q r : Int) : Prop where
  sum : r + b * q = a
  small : r.natAbs < b.natAbs
  nonneg : 0 ≤ a → 0 ≤ r
  nonpos : a ≤ 0 → r ≤ 0

/-- **The exact result of an operator** on two integers. -/
def IsExact : BinaryOp → Int → Int → Int → Prop
  | .add, a, b, n => a + b = n
  | .sub, a, b, n => a - b = n
  | .mul, a, b, n => a * b = n
  | .div, a, b, n => ∃ r, Divides a b n r
  | .mod, a, b, n => ∃ q, Divides a b q n
  | _, _, _, _ => False

variable {op : BinaryOp} {a b n q r : Int}

theorem Divides.ne_zero (h : Divides a b q r) : b ≠ 0 := by
  rintro rfl
  exact Nat.not_lt_zero _ h.small

/-- **Quotient and remainder**, where the divisor is not zero. -/
theorem divides_iff : Divides a b q r ↔ b ≠ 0 ∧ a.tdiv b = q ∧ a.tmod b = r := by
  constructor
  · intro h
    have hb := h.ne_zero
    have hsmall := h.small
    refine ⟨hb, ?_⟩
    rcases Int.le_total 0 a with ha | ha
    · have hr := h.nonneg ha
      exact (Int.tdiv_tmod_unique ha hb).2 ⟨h.sum, hr, by omega⟩
    · have hr := h.nonpos ha
      exact (Int.tdiv_tmod_unique' ha hb).2 ⟨h.sum, by omega, hr⟩
  · rintro ⟨hb, hdivides⟩
    rcases Int.le_total 0 a with ha | ha
    · obtain ⟨hsum, hr, hsmall⟩ := (Int.tdiv_tmod_unique ha hb).1 hdivides
      refine ⟨hsum, by omega, fun _ => hr, fun ha' => ?_⟩
      -- nothing is left of zero
      obtain rfl : a = 0 := Int.le_antisymm ha' ha
      exact Int.le_of_eq (hdivides.2.symm.trans (Int.zero_tmod b))
    · obtain ⟨hsum, hsmall, hr⟩ := (Int.tdiv_tmod_unique' ha hb).1 hdivides
      refine ⟨hsum, by omega, fun ha' => ?_, fun _ => hr⟩
      obtain rfl : a = 0 := Int.le_antisymm ha ha'
      exact Int.le_of_eq ((Int.zero_tmod b).symm.trans hdivides.2)

theorem isExact_div_iff : IsExact .div a b n ↔ b ≠ 0 ∧ a.tdiv b = n := by
  simp only [IsExact, divides_iff, exists_and_left, exists_eq', and_true]

theorem isExact_mod_iff : IsExact .mod a b n ↔ b ≠ 0 ∧ a.tmod b = n := by
  constructor
  · rintro ⟨q, h⟩
    exact ⟨h.ne_zero, (divides_iff.1 h).2.2⟩
  · rintro ⟨hb, hn⟩
    exact ⟨a.tdiv b, divides_iff.2 ⟨hb, rfl, hn⟩⟩

/-- **There is one exact result**, unless a divisor is zero. -/
theorem existsUnique_isExact (hop : op.isArithmetic = true) (hb : op.isDivision = true → b ≠ 0) :
    ∃! n, IsExact op a b n := by
  cases op with
  | add => exact ⟨a + b, rfl, fun _ h => h.symm⟩
  | sub => exact ⟨a - b, rfl, fun _ h => h.symm⟩
  | mul => exact ⟨a * b, rfl, fun _ h => h.symm⟩
  | div => exact ⟨a.tdiv b, isExact_div_iff.2 ⟨hb rfl, rfl⟩, fun _ h => (isExact_div_iff.1 h).2.symm⟩
  | mod => exact ⟨a.tmod b, isExact_mod_iff.2 ⟨hb rfl, rfl⟩, fun _ h => (isExact_mod_iff.1 h).2.symm⟩
  | _ => cases hop

/-! ### Results of 64 bits -/

/-- An integer of 64 bits. -/
theorem int64?_eq_some_iff {k : Int64} : int64? n = some k ↔ n = k.toInt := by
  unfold int64?
  constructor
  · intro h
    split at h
    · rename_i hn
      cases h
      have hmin := Int64.toInt_minValue
      have hmax := Int64.toInt_maxValue
      exact (Int64.toInt_ofInt_of_le (by omega) (by omega)).symm
    · cases h
  · rintro rfl
    rw [if_pos ⟨k.minValue_le_toInt, k.toInt_le⟩, Int64.ofInt_toInt]

/-- The remainder of the least integer by minus one, whose quotient has no 64 bits. -/
def LosesQuotient (op : BinaryOp) (a b : Int64) : Prop :=
  op = .mod ∧ a = Int64.minValue ∧ b = -1

instance (op : BinaryOp) (a b : Int64) : Decidable (LosesQuotient op a b) :=
  inferInstanceAs (Decidable (_ ∧ _ ∧ _))

theorem not_losesQuotient {a b : Int64} (hop : op ≠ .mod) : ¬ LosesQuotient op a b := fun h => hop h.1

/-- **An operator makes the exact result**, or none. -/
theorem intArithmetic_eq_some_iff {a b k : Int64} (hop : op.isArithmetic = true)
    (hb : op.isDivision = true → b ≠ 0) :
    intArithmetic op a.toInt b.toInt = some k ↔
      IsExact op a.toInt b.toInt k.toInt ∧ ¬ LosesQuotient op a b := by
  have hzero (h : b ≠ 0) : b.toInt ≠ 0 := fun h' => h (Int64.toInt_inj.1 h')
  cases op with
  | add | sub | mul =>
      rw [and_iff_left (not_losesQuotient (by decide))]
      exact int64?_eq_some_iff
  | div =>
      rw [and_iff_left (not_losesQuotient (by decide)), isExact_div_iff, and_iff_right (hzero (hb rfl))]
      exact int64?_eq_some_iff
  | mod =>
      have hloses : b.toInt = -1 ∧ a.toInt = Int64.minValue.toInt ↔ LosesQuotient .mod a b := by
        rw [show (-1 : Int) = (-1 : Int64).toInt from rfl, Int64.toInt_inj, Int64.toInt_inj, and_comm,
          LosesQuotient, and_iff_right rfl]
      have hmod : intArithmetic .mod a.toInt b.toInt =
          if b.toInt = -1 ∧ a.toInt = Int64.minValue.toInt then none
          else int64? (a.toInt.tmod b.toInt) := rfl
      rw [isExact_mod_iff, and_iff_right (hzero (hb rfl)), hmod, ← hloses]
      split
      · rename_i h
        exact iff_of_false nofun fun h' => h'.2 h
      · rename_i h
        rw [and_iff_left h]
        exact int64?_eq_some_iff
  | _ => cases hop

/-! ### Operators on values -/

section

variable {α : Type} {isZero : Bool} {overflow e : Error} {result : Option α} {k : α}

/-- Only a division looks at whether the divisor is zero. -/
theorem zeroDivision_eq_none_iff : zeroDivision op = none ↔ op.isDivision = false := by
  cases op <;> decide

theorem guarded_eq_ok_iff : guarded op isZero overflow result = .ok k ↔
    (op.isDivision = true → isZero = false) ∧ result = some k := by
  unfold guarded
  cases isZero with
  | false => cases result <;> simp
  | true =>
      rw [if_pos rfl]
      cases hzero : zeroDivision op with
      | none =>
          rw [zeroDivision_eq_none_iff.1 hzero]
          cases result <;> simp
      | some e =>
          have hop : op.isDivision = true := by
            rw [← Bool.not_eq_false, ← zeroDivision_eq_none_iff, hzero]
            exact Option.some_ne_none e
          simp [hop]

/-- An error says that the divisor is zero, or else that the result does not fit. -/
theorem cause_of_guarded (h : guarded op isZero overflow result = .error e) :
    isZero = true ∧ zeroDivision op = some e ∨
      ¬ (op.isDivision = true ∧ isZero = true) ∧ e = overflow := by
  unfold guarded at h
  split at h
  · rename_i cause hcause
    cases h
    split at hcause
    · exact .inl ⟨‹_›, hcause⟩
    · cases hcause
  · cases h
  · rename_i hcause
    cases h
    refine .inr ⟨fun ⟨hop, hzero⟩ => ?_, rfl⟩
    rw [if_pos hzero, zeroDivision_eq_none_iff, hop] at hcause
    cases hcause

end

theorem kind_zeroDivision {e : Error} (h : zeroDivision op = some e) : e.kind = .evaluation := by
  cases op <;> cases h <;> rfl

theorem binary_int (hop : op.isArithmetic = true) (a b : Int64) :
    binary op (int a) (int b) =
      (guarded op (b == 0) (.integerOverflow op) (intArithmetic op a.toInt b.toInt)).map int := by
  cases op with
  | add | sub | mul | div | mod => rfl
  | _ => cases hop

/-- **When an operator on integers has a result, and which.**  Unless a divisor is zero there is one exact
result, and the operator makes it whenever it has 64 bits, but for the remainder of the least integer by
minus one.  In every other case it is an error of evaluation, which says that the divisor is zero, or else
that the result does not fit. -/
theorem binary_int_iff (hop : op.isArithmetic = true) (a b : Int64) :
    ((op.isDivision = true → b ≠ 0) → ∃! n, IsExact op a.toInt b.toInt n) ∧
      (∀ v, binary op (int a) (int b) = .ok v ↔
        ∃ k : Int64, v = int k ∧ (op.isDivision = true → b ≠ 0) ∧
          IsExact op a.toInt b.toInt k.toInt ∧ ¬ LosesQuotient op a b) ∧
      ∀ e, binary op (int a) (int b) = .error e → e.kind = .evaluation ∧
        (b = 0 ∧ zeroDivision op = some e ∨
          ¬ (op.isDivision = true ∧ b = 0) ∧ e = .integerOverflow op) := by
  have hguard (k : Int64) :
      guarded op (b == 0) (.integerOverflow op) (intArithmetic op a.toInt b.toInt) = .ok k ↔
        (op.isDivision = true → b ≠ 0) ∧ IsExact op a.toInt b.toInt k.toInt ∧
          ¬ LosesQuotient op a b := by
    rw [guarded_eq_ok_iff, beq_eq_false_iff_ne]
    exact and_congr_right fun hb => intArithmetic_eq_some_iff hop hb
  refine ⟨fun hb => existsUnique_isExact hop fun hdiv h => hb hdiv (Int64.toInt_inj.1 h), ?_⟩
  rw [binary_int hop]
  cases hresult : guarded op (b == 0) (.integerOverflow op) (intArithmetic op a.toInt b.toInt) with
  | error e =>
      constructor
      · refine fun v => iff_of_false nofun ?_
        rintro ⟨k, -, hk⟩
        rw [(hguard k).2 hk] at hresult
        cases hresult
      · rintro e ⟨⟩
        rcases cause_of_guarded hresult with ⟨hzero, he⟩ | ⟨hzero, rfl⟩
        · exact ⟨kind_zeroDivision he, .inl ⟨beq_iff_eq.1 hzero, he⟩⟩
        · rw [beq_iff_eq] at hzero
          exact ⟨rfl, .inr ⟨hzero, rfl⟩⟩
  | ok k =>
      refine ⟨fun v => ⟨?_, ?_⟩, ?_⟩
      · rintro ⟨⟩
        exact ⟨k, rfl, (hguard k).1 hresult⟩
      · rintro ⟨k', rfl, hk'⟩
        rw [(hguard k').2 hk'] at hresult
        cases hresult
        rfl
      · rintro e ⟨⟩

/-- The least integer by three, whose quotient is cut off and not rounded down, and by minus one, whose
quotient has no 64 bits. -/
theorem binary_int_iff_least :
    BinaryOp.div.isArithmetic = true ∧
      binary .div (int Int64.minValue) (int 3) = .ok (int (-3074457345618258602)) ∧
      ∀ v, binary .div (int Int64.minValue) (int (-1)) ≠ .ok v := by
  refine ⟨rfl, ?_, fun v h => ?_⟩
  · have hexact : IsExact .div Int64.minValue.toInt (3 : Int64).toInt
        (-3074457345618258602 : Int64).toInt := ⟨-2, by decide, by decide, by decide, by decide⟩
    exact ((binary_int_iff rfl Int64.minValue 3).2.1 _).2
      ⟨_, rfl, fun _ => by decide, hexact, not_losesQuotient nofun⟩
  · obtain ⟨k, -, -, hexact, -⟩ := ((binary_int_iff rfl Int64.minValue (-1)).2.1 v).1 h
    have hquotient := (isExact_div_iff.1 hexact).2
    have hk := k.toInt_lt
    have hleast : Int64.minValue.toInt.tdiv (-1 : Int64).toInt = 2 ^ 63 := by decide
    omega

/-- **The remainder of the least integer by minus one** is zero, and is refused. -/
theorem remainder_refused :
    BinaryOp.mod.isArithmetic = true ∧ (-1 : Int64) ≠ 0 ∧
      IsExact .mod Int64.minValue.toInt (-1 : Int64).toInt (0 : Int64).toInt ∧
      binary .mod (int Int64.minValue) (int (-1)) = .error (.integerOverflow .mod) :=
  ⟨rfl, by decide, isExact_mod_iff.2 ⟨by decide, by decide⟩, by rfl⟩

end Value

end ModelSql
