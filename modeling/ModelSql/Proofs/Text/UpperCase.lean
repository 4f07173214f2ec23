/-
**Texts in upper case.**

A character becomes one or several characters in upper case, and never none.  The ASCII characters that
are no letters stand for themselves, and come from no other character: where some of them stand in the
upper-case form of a text, the text has them in the same place.

Main definitions:

* `Text.IsMark` — ASCII characters that are no letters;
* `Text.isRaised` — code points that letters in upper case have.

Main results:

* `Text.upperChar_ne_nil` — no character is lost;
* `Text.eq_of_mem_upperChar` — **a mark in an upper-case form** comes from itself;
* `Text.exists_of_upperChars` — marks in the upper-case form of a text are marks of the text.
-/

import ModelSql.Proofs.Text.Words

set_option relaxedAutoImplicit false
set_option autoImplicit false

namespace ModelSql.Text

/-! ### Marks -/

/-- The ASCII characters that are no letters. -/
def IsMark (c : Char) : Prop := c.toNat < 128 ∧ c.isAlpha = false

instance (c : Char) : Decidable (IsMark c) :=
  inferInstanceAs (Decidable (c.toNat < 128 ∧ c.isAlpha = false))

variable {c x : Char}

theorem IsMark.upperChar (h : IsMark x) : upperChar x = [x] := by
  have hall : ∀ n < 128, (Char.ofNat n).isAlpha = false → (Char.ofNat n).toUpper = Char.ofNat n := by
    decide
  rw [Text.upperChar, if_pos h.1,
    forall_ascii (p := fun c => c.isAlpha = false → c.toUpper = c) hall h.1 h.2]

/-- Whether a number is the code point of an ASCII letter in upper case, or of a character that is not
ASCII. -/
def isRaised (n : Nat) : Bool :=
  65 ≤ n && n ≤ 90 || 128 ≤ n && n < 0xD800 || 0xDFFF < n && n < 0x110000

theorem not_isMark_of_isRaised {n : Nat} (h : isRaised n = true) : ¬ IsMark (Char.ofNat n) := by
  have hletters : ∀ k < 91, 65 ≤ k → (Char.ofNat k).isAlpha = true := by decide
  simp only [isRaised, Bool.or_eq_true, Bool.and_eq_true, decide_eq_true_eq] at h
  rintro ⟨hsmall, hmark⟩
  by_cases hn : n ≤ 90
  · rw [hletters n (by omega) (by omega)] at hmark
    cases hmark
  · have hvalid : n.isValidChar := by
      unfold Nat.isValidChar
      omega
    rw [Char.ofNat, dif_pos hvalid] at hsmall
    have hcode : n < 128 := hsmall
    omega

/-- A letter behind the ASCII ones is shifted behind them, or to one of their letters. -/
theorem not_isMark_shiftBy (hc : ¬ c.toNat < 128) (h : shiftBy upperRuns c = some x) : ¬ IsMark x := by
  have hruns : ∀ r ∈ upperRuns, 128 ≤ r.2.1 →
      65 ≤ (r.1 : Int) + r.2.2.2 ∧ (r.2.1 : Int) + r.2.2.2 ≤ 90 ∨
        128 ≤ (r.1 : Int) + r.2.2.2 ∧ (r.2.1 : Int) + r.2.2.2 < 0xD800 ∨
        0xDFFF < (r.1 : Int) + r.2.2.2 ∧ (r.2.1 : Int) + r.2.2.2 < 0x110000 := by
    decide +kernel
  obtain ⟨r, hr, hfirst, hlast, rfl⟩ := exists_run_of_shiftBy h
  have hplace := hruns r hr (by omega)
  apply not_isMark_of_isRaised
  simp only [isRaised, Bool.or_eq_true, Bool.and_eq_true, decide_eq_true_eq]
  omega

/-- **A mark in an upper-case form** comes from itself. -/
theorem eq_of_mem_upperChar (hx : IsMark x) (h : x ∈ upperChar c) : c = x := by
  have hascii : ∀ n < 128, (Char.ofNat n).toUpper.isAlpha = false →
      (Char.ofNat n).toUpper = Char.ofNat n := by decide
  have hexpansions : ∀ e ∈ upperExpansions, ∀ n ∈ e.2, isRaised n = true := by decide +kernel
  unfold Text.upperChar at h
  split at h
  · rename_i hc
    obtain rfl := List.mem_singleton.1 h
    exact (forall_ascii (p := fun c => c.toUpper.isAlpha = false → c.toUpper = c) hascii hc hx.2).symm
  · rename_i hc
    obtain ⟨e, he, n, hn, rfl⟩ | hshift | hself := mem_mapCase h
    · exact absurd hx (not_isMark_of_isRaised (hexpansions e he n hn))
    · exact absurd hx (not_isMark_shiftBy hc hshift)
    · exact hself

/-- No character is lost. -/
theorem upperChar_ne_nil (c : Char) : upperChar c ≠ [] := by
  unfold Text.upperChar
  split
  · exact List.cons_ne_nil _ _
  · exact mapCase_ne_nil (by decide +kernel) c

/-! ### Texts -/

variable {s t u v w : List Char}

theorem upperChars_cons (c : Char) (s : List Char) :
    upperChars (c :: s) = upperChar c ++ upperChars s := List.flatMap_cons

theorem upperChars_eq_nil_iff : upperChars s = [] ↔ s = [] := by
  constructor
  · intro h
    cases s with
    | nil => rfl
    | cons c s =>
        rw [upperChars_cons, List.append_eq_nil_iff] at h
        exact absurd h.1 (upperChar_ne_nil c)
  · rintro rfl
    rfl

/-- Marks stand for themselves. -/
theorem upperChars_of_isMark (h : ∀ c ∈ w, IsMark c) : upperChars w = w := by
  induction w with
  | nil => rfl
  | cons c w ih =>
      rw [upperChars_cons, (h c List.mem_cons_self).upperChar,
        ih fun x hx => h x (List.mem_cons_of_mem c hx), List.singleton_append]

/-- A mark in an upper-case form is one of the text. -/
theorem mem_of_mem_upperChars (hx : IsMark x) (h : x ∈ upperChars s) : x ∈ s := by
  obtain ⟨c, hc, hmem⟩ := List.mem_flatMap.1 h
  exact eq_of_mem_upperChar hx hmem ▸ hc

/-- What stands around a mark in an upper-case form is the upper-case form of what stands around the mark
in the text. -/
theorem exists_of_upperChars_cons (hx : IsMark x) (h : upperChars s = u ++ x :: v) :
    ∃ a b, s = a ++ x :: b ∧ upperChars a = u ∧ upperChars b = v := by
  induction s generalizing u with
  | nil =>
      rw [upperChars_nil] at h
      simp at h
  | cons c s ih =>
      rw [upperChars_cons] at h
      -- the mark belongs to the first character, or to one behind it
      rcases List.append_eq_append_iff.1 h with ⟨w, rfl, hrest⟩ | ⟨w, hfirst, hrest⟩
      · obtain ⟨a, b, rfl, ha, hb⟩ := ih hrest
        exact ⟨c :: a, b, rfl, by rw [upperChars_cons, ha], hb⟩
      · cases w with
        | nil =>
            obtain ⟨a, b, rfl, ha, hb⟩ := ih (u := []) (by simpa using hrest.symm)
            rw [upperChars_eq_nil_iff] at ha
            subst ha
            refine ⟨[c], b, rfl, ?_, hb⟩
            rw [upperChars_cons, upperChars_nil, List.append_nil, hfirst, List.append_nil]
        | cons y w =>
            rw [List.cons_append, List.cons.injEq] at hrest
            obtain ⟨rfl, rfl⟩ := hrest
            have hmem : x ∈ upperChar c := by
              rw [hfirst]
              exact List.mem_append_right u List.mem_cons_self
            obtain rfl := eq_of_mem_upperChar hx hmem
            rw [hx.upperChar] at hfirst
            cases u with
            | nil =>
                obtain rfl : w = [] := by simpa using hfirst
                exact ⟨[], s, rfl, rfl, rfl⟩
            | cons z u => simp at hfirst

/-- **Marks in the upper-case form of a text** are marks of the text, with the same around them. -/
theorem exists_of_upperChars (hw : ∀ c ∈ w, IsMark c) (hne : w ≠ []) (h : upperChars s = u ++ (w ++ v)) :
    ∃ a b, s = a ++ (w ++ b) ∧ upperChars a = u ∧ upperChars b = v := by
  induction w generalizing s u with
  | nil => exact absurd rfl hne
  | cons x w ih =>
      obtain ⟨a, b, rfl, ha, hb⟩ := exists_of_upperChars_cons (hw x List.mem_cons_self) h
      cases w with
      | nil => exact ⟨a, b, rfl, ha, hb⟩
      | cons y w =>
          obtain ⟨p, q, rfl, hp, hq⟩ := ih (u := []) (fun c hc => hw c (List.mem_cons_of_mem x hc))
            (by simp) hb
          rw [upperChars_eq_nil_iff] at hp
          subst hp
          exact ⟨a, q, rfl, ha, hq⟩

end ModelSql.Text
