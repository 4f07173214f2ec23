/-
**Digits of numbers.**

The digits of a number tell it from every other number, and so do those of a fixed width, which have
zeros in front.  An integer that is negative has a minus before them.

Main results:

* `Text.isDigit_of_mem_toDigits`, `Text.isDigit_of_mem_padded` — digits are digits;
* `Text.natOfDigits_padNat`, `Text.length_padNat` — **numbers of a fixed width**;
* `Text.toDigits_injective`, `Text.toString_int_injective` — **numbers told apart by their texts**.
-/

import Mathlib.Algebra.Group.Nat.Defs
import ModelSql.Text.Basic

set_option relaxedAutoImplicit false
set_option autoImplicit false

namespace ModelSql.Text

/-! ### Natural numbers -/

theorem isDigit_of_mem_toDigits {n : Nat} {c : Char} (h : c ∈ Nat.toDigits 10 n) :
    c.isDigit = true := Nat.isDigit_of_mem_toDigits (by decide) (by decide) h

/-- The digits of a number are some digit and further ones. -/
theorem toDigits_eq_cons (n : Nat) : ∃ c cs, Nat.toDigits 10 n = c :: cs ∧ c.isDigit = true ∧
    ∀ x ∈ cs, x.isDigit = true := by
  cases h : Nat.toDigits 10 n with
  | nil => exact absurd h Nat.toDigits_ne_nil
  | cons c cs =>
      refine ⟨c, cs, rfl, ?_, fun x hx => ?_⟩
      · exact isDigit_of_mem_toDigits (n := n) (h ▸ List.mem_cons_self)
      · exact isDigit_of_mem_toDigits (n := n) (h ▸ List.mem_cons_of_mem c hx)

/-- Different numbers have different digits. -/
theorem toDigits_injective : Function.Injective (Nat.toDigits 10) := fun m n h => by
  rw [← Nat.ofDigitChars_ten_toDigits (n := m), h, Nat.ofDigitChars_ten_toDigits]

theorem isDigit_of_mem_padded {k n : Nat} {c : Char}
    (h : c ∈ List.replicate k '0' ++ Nat.toDigits 10 n) : c.isDigit = true := by
  rcases List.mem_append.1 h with h | h
  · rw [List.eq_of_mem_replicate h]
    decide
  · exact isDigit_of_mem_toDigits h

/-! ### Numbers of a fixed width -/

theorem toList_padNat (w n : Nat) : (padNat w n).toList =
    List.replicate (w - (Nat.toDigits 10 n).length) '0' ++ Nat.toDigits 10 n := String.toList_ofList

theorem isDigit_padNat (w n : Nat) : ∀ c ∈ (padNat w n).toList, c.isDigit = true := by
  intro c hc
  rw [toList_padNat] at hc
  exact isDigit_of_mem_padded hc

theorem not_mem_padNat {w n : Nat} {c : Char} (hc : c.isDigit = false) : c ∉ (padNat w n).toList := by
  intro hmem
  rw [isDigit_padNat w n c hmem] at hc
  cases hc

theorem padNat_ne_nil (w n : Nat) : (padNat w n).toList ≠ [] := by
  rw [toList_padNat]
  simp [Nat.toDigits_ne_nil]

/-- The digits of a number are those that spell it, whatever zeros stand in front. -/
theorem natOfDigits_padNat (w n : Nat) : natOfDigits (padNat w n).toList = n := by
  change Nat.ofDigitChars 10 (padNat w n).toList 0 = n
  rw [toList_padNat, Nat.ofDigitChars_append, Nat.ofDigitChars_replicate_zero, Nat.mul_zero]
  exact Nat.ofDigitChars_ten_toDigits

/-- A number that fits into a width takes all of it. -/
theorem length_padNat {w n : Nat} (hw : 0 < w) (hn : n < 10 ^ w) : (padNat w n).toList.length = w := by
  have hfits : (Nat.toDigits 10 n).length ≤ w := (Nat.length_toDigits_le_iff (by decide) hw).2 hn
  rw [toList_padNat, List.length_append, List.length_replicate]
  omega

/-! ### Integers -/

/-- The text of an integer: maybe a sign, and digits. -/
theorem toList_toString_int (n : Int) : ∃ (negative : Bool) (m : Nat),
    (toString n).toList = (if negative then ['-'] else []) ++ Nat.toDigits 10 m := by
  cases n with
  | ofNat n =>
      refine ⟨false, n, ?_⟩
      change (Nat.repr n).toList = _
      simp [Nat.repr_eq_ofList_toDigits]
  | negSucc n =>
      refine ⟨true, n + 1, ?_⟩
      change ("-" ++ Nat.repr (n + 1)).toList = _
      simp [Nat.repr_eq_ofList_toDigits]

/-- **Different integers have different texts.** -/
theorem toString_int_injective : Function.Injective (toString : Int → String) := by
  intro m n h
  have hchars : (toString m).toList = (toString n).toList := congrArg String.toList h
  have hnat (k : Nat) : (toString (Int.ofNat k)).toList = Nat.toDigits 10 k := by
    change (Nat.repr k).toList = _
    simp [Nat.repr_eq_ofList_toDigits]
  have hneg (k : Nat) : (toString (Int.negSucc k)).toList = '-' :: Nat.toDigits 10 (k + 1) := by
    change ("-" ++ Nat.repr (k + 1)).toList = _
    simp [Nat.repr_eq_ofList_toDigits]
  have hsign (k : Nat) (cs : List Char) : Nat.toDigits 10 k ≠ '-' :: cs := fun hk =>
    absurd (isDigit_of_mem_toDigits (hk ▸ List.mem_cons_self)) (by decide)
  cases m with
  | ofNat m =>
      cases n with
      | ofNat n => rw [hnat, hnat] at hchars; exact congrArg _ (toDigits_injective hchars)
      | negSucc n => rw [hnat, hneg] at hchars; exact absurd hchars (hsign m _)
  | negSucc m =>
      cases n with
      | ofNat n => rw [hneg, hnat] at hchars; exact absurd hchars.symm (hsign n _)
      | negSucc n =>
          rw [hneg, hneg] at hchars
          exact congrArg _ (Nat.succ.inj (toDigits_injective (List.cons.inj hchars).2))

end ModelSql.Text
