/-
**Texts in lower case, part by part.**

Lower-casing looks at the neighbours of a capital sigma, and through characters like dots and accents on
both sides of it.  It does not look through an underscore, which is neither such a character nor a letter.
So a text that is joined by underscores is put into lower case part by part, and the parts come out with
the underscores that they had.

Main definitions:

* `Text.Parts` — **characters that lower-casing does not look through**.

Main results:

* `Text.casedAhead_append`, `Text.lowerAfter_append` — a text behind such a character, and before it;
* `Text.lower_joinWith` — **joined texts in lower case**;
* `Text.underscore_not_mem_lower` — no underscore is made.
-/

import ModelSql.Proofs.Text.Words

set_option relaxedAutoImplicit false
set_option autoImplicit false

namespace ModelSql.Text

/-- Characters that lower-casing neither looks through nor changes. -/
structure Parts (x : Char) : Prop where
  seen : isCaseIgnorable x = false
  caseless : isCased x = false
  same : lowerChar x = [x]

theorem parts_underscore : Parts '_' := ⟨by decide +kernel, by decide +kernel, by decide⟩

variable {x : Char} {cs : List Char}

theorem Parts.ne_sigma (hx : Parts x) : x ≠ 'Σ' := by
  rintro rfl
  exact absurd hx.caseless (by decide +kernel)

/-- A search for a letter ends at a character that it does not look through. -/
theorem casedAhead_append (hx : Parts x) (cs ds : List Char) :
    casedAhead (cs ++ x :: ds) = casedAhead cs := by
  induction cs with
  | nil => simp [casedAhead, hx.seen, hx.caseless]
  | cons c cs ih => rw [List.cons_append, casedAhead, casedAhead, ih]

/-- What stands in front of such a character does not matter. -/
theorem lowerAfter_behind (hx : Parts x) (before es cs : List Char) :
    lowerAfter (before ++ x :: es) cs = lowerAfter before cs := by
  induction cs generalizing before with
  | nil => rfl
  | cons c cs ih => rw [lowerAfter, lowerAfter, casedAhead_append hx, ← List.cons_append, ih]

/-- **A text is put into lower case before such a character and behind it.** -/
theorem lowerAfter_append (hx : Parts x) (before cs ds : List Char) :
    lowerAfter before (cs ++ x :: ds) = lowerAfter before cs ++ x :: lowerChars ds := by
  induction cs generalizing before with
  | nil =>
      have hbehind := lowerAfter_behind hx [] before ds
      rw [List.nil_append] at hbehind
      rw [List.nil_append, lowerAfter, lowerAfter, if_neg hx.ne_sigma, hx.same, hbehind]
      rfl
  | cons c cs ih =>
      rw [List.cons_append, lowerAfter, lowerAfter, casedAhead_append hx, ih, List.append_assoc]

/-- Two texts with an underscore between, in lower case. -/
theorem lower_underscore (s t : String) : lower (s ++ "_" ++ t) = lower s ++ "_" ++ lower t := by
  have hsep : "_".toList = ['_'] := rfl
  have hparts := lowerAfter_append parts_underscore [] s.toList t.toList
  apply String.toList_inj.1
  simp only [toList_lower, String.toList_append, hsep, List.append_assoc, List.singleton_append]
  exact hparts

/-- **Texts joined by underscores, in lower case.** -/
theorem lower_joinWith (ws : List String) : lower (joinWith "_" ws) = joinWith "_" (ws.map lower) := by
  induction ws with
  | nil => rfl
  | cons w ws ih =>
      by_cases hws : ws = []
      · subst hws
        rfl
      · rw [joinWith_cons hws, lower_underscore, ih, List.map_cons, joinWith_cons (by simpa using hws)]

/-- Lower-casing makes no underscores. -/
theorem underscore_not_mem_lowerAfter (h : '_' ∉ cs) (before : List Char) :
    '_' ∉ lowerAfter before cs := by
  induction cs generalizing before with
  | nil => exact h
  | cons c cs ih =>
      rw [List.mem_cons, not_or] at h
      rw [lowerAfter, List.mem_append, not_or]
      refine ⟨?_, ih h.2 _⟩
      split
      · split
        · decide
        · decide
      · exact fun hmem => h.1 (eq_underscore_of_mem_lowerChar hmem).symm

/-- **A text without underscores has none in lower case.** -/
theorem underscore_not_mem_lower {s : String} (h : '_' ∉ s.toList) : '_' ∉ (lower s).toList := by
  rw [toList_lower]
  exact underscore_not_mem_lowerAfter h []

end ModelSql.Text
