/-
**Patterns.**

What the databases match with `LIKE` is a list of characters of which two are wildcards: `%` stands for
any stretch of characters, `_` for any single one, and all the others for themselves.  Nothing takes
that meaning away from a wildcard where the statement names no escape character.

Main definitions:

* `Pattern.Covers`, `Pattern.Accepts` — the stretches that a sign stands for, and **the texts that a
  pattern accepts**;
* `Pattern.IsWildcard` — the two signs that do not only stand for themselves;
* `Pattern.plain` — a text that a pattern accepts, without any wildcards in it.

Main results:

* `Pattern.accepts_append` — patterns one after the other;
* `Pattern.accepts_self` — every text is accepted by itself;
* `Pattern.accepts_iff_eq` — without wildcards a pattern accepts nothing else.
-/

import ModelSql.Proofs.Text.UpperCase

set_option relaxedAutoImplicit false
set_option autoImplicit false

namespace ModelSql.Pattern

open Text (IsMark upperChar upperChars)

/-! ### What a pattern accepts -/

/-- The stretches of characters that a sign of a pattern stands for. -/
def Covers (p : Char) (t : List Char) : Prop :=
  if p = '%' then True else if p = '_' then t.length = 1 else t = [p]

instance (p : Char) (t : List Char) : Decidable (Covers p t) :=
  inferInstanceAs (Decidable (if p = '%' then True else if p = '_' then t.length = 1 else t = [p]))

/-- **The texts that a pattern accepts**: a stretch for each sign, one after the other. -/
def Accepts : List Char → List Char → Prop
  | [], t => t = []
  | p :: ps, t => ∃ a b, t = a ++ b ∧ Covers p a ∧ Accepts ps b

variable {p q t : List Char} {c : Char}

/-- The stretch for the first sign ends somewhere in the text. -/
theorem accepts_cons_iff : Accepts (c :: p) t ↔
    ∃ k ≤ t.length, Covers c (t.take k) ∧ Accepts p (t.drop k) := by
  constructor
  · rintro ⟨a, b, rfl, ha, hb⟩
    refine ⟨a.length, by simp, ?_, ?_⟩
    · rwa [List.take_left]
    · rwa [List.drop_left]
  · rintro ⟨k, -, ha, hb⟩
    exact ⟨t.take k, t.drop k, (List.take_append_drop k t).symm, ha, hb⟩

instance decidableAccepts : (p t : List Char) → Decidable (Accepts p t)
  | [], t => inferInstanceAs (Decidable (t = []))
  | _ :: p, _ =>
    have := decidableAccepts p
    decidable_of_iff _ accepts_cons_iff.symm

/-- **Patterns one after the other** accept texts one after the other. -/
theorem accepts_append : Accepts (p ++ q) t ↔ ∃ a b, t = a ++ b ∧ Accepts p a ∧ Accepts q b := by
  induction p generalizing t with
  | nil =>
      constructor
      · intro h
        exact ⟨[], t, rfl, rfl, h⟩
      · rintro ⟨a, b, rfl, rfl, h⟩
        exact h
  | cons c p ih =>
      constructor
      · rintro ⟨a, b, rfl, ha, hb⟩
        obtain ⟨x, y, rfl, hx, hy⟩ := ih.1 hb
        exact ⟨a ++ x, y, (List.append_assoc a x y).symm, ⟨a, x, rfl, ha, hx⟩, hy⟩
      · rintro ⟨a, b, rfl, ⟨x, y, rfl, hx, hy⟩, hb⟩
        exact ⟨x, y ++ b, List.append_assoc x y b, hx, ih.2 ⟨y, b, rfl, hy, hb⟩⟩

/-- `%` accepts every text. -/
theorem accepts_any (t : List Char) : Accepts ['%'] t :=
  ⟨t, [], (List.append_nil t).symm, trivial, rfl⟩

/-- Every sign stands for itself. -/
theorem covers_self (c : Char) : Covers c [c] := by
  unfold Covers
  split
  · trivial
  · split
    · rfl
    · rfl

/-- **Every text is accepted** by itself. -/
theorem accepts_self (p : List Char) : Accepts p p := by
  induction p with
  | nil => rfl
  | cons c p ih => exact ⟨[c], p, rfl, covers_self c, ih⟩

/-! ### Wildcards -/

/-- The signs that do not only stand for themselves. -/
def IsWildcard (c : Char) : Prop := c = '%' ∨ c = '_'

instance (c : Char) : Decidable (IsWildcard c) := inferInstanceAs (Decidable (_ ∨ _))

theorem IsWildcard.isMark (h : IsWildcard c) : IsMark c := by
  rcases h with rfl | rfl <;> decide

theorem covers_iff_eq (h : ¬ IsWildcard c) : Covers c t ↔ t = [c] := by
  unfold IsWildcard at h
  rw [not_or] at h
  rw [Covers, if_neg h.1, if_neg h.2]

/-- **Without wildcards** a pattern accepts nothing but itself. -/
theorem accepts_iff_eq (h : ∀ c ∈ p, ¬ IsWildcard c) : Accepts p t ↔ t = p := by
  constructor
  · intro hp
    induction p generalizing t with
    | nil => exact hp
    | cons c p ih =>
        obtain ⟨a, b, rfl, ha, hb⟩ := hp
        rw [(covers_iff_eq (h c List.mem_cons_self)).1 ha,
          ih (fun x hx => h x (List.mem_cons_of_mem c hx)) hb, List.singleton_append]
  · rintro rfl
    exact accepts_self t

/-- A stretch for a sign, without any wildcards in it. -/
def plainSign (c : Char) : List Char := if c = '%' then [] else if c = '_' then ['A'] else [c]

/-- A text that a pattern accepts, without any wildcards in it. -/
def plain (p : List Char) : List Char := p.flatMap plainSign

theorem not_isWildcard_of_mem_plain (h : c ∈ plain p) : ¬ IsWildcard c := by
  obtain ⟨x, -, hc⟩ := List.mem_flatMap.1 h
  unfold plainSign at hc
  split at hc
  · cases hc
  · split at hc
    · rw [List.mem_singleton.1 hc]
      decide
    · rw [List.mem_singleton.1 hc]
      rintro (rfl | rfl) <;> contradiction

/-- A pattern in upper case accepts the upper-case form of such a text. -/
theorem accepts_upperChars_plain (p : List Char) : Accepts (upperChars p) (upperChars (plain p)) := by
  have hsign (c : Char) : Accepts (upperChar c) (upperChars (plainSign c)) := by
    unfold plainSign
    split
    · rename_i hc
      subst hc
      exact accepts_any []
    · split
      · rename_i hc
        subst hc
        decide
      · rw [Text.upperChars_cons, Text.upperChars_nil, List.append_nil]
        exact accepts_self _
  induction p with
  | nil => rfl
  | cons c p ih =>
      rw [plain, List.flatMap_cons, Text.upperChars_append, Text.upperChars_cons]
      exact accepts_append.2 ⟨_, _, rfl, hsign c, ih⟩

end ModelSql.Pattern
