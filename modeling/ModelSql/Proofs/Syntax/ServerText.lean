/-
**The outer pair of parentheses in texts of SQL Server.**

A text of SQL Server is put together from names between square brackets, texts between single quotes,
groups in parentheses, and other characters.  Its database reads a closing bracket that is doubled as one
that belongs to the name.  The test for an outer pair of parentheses does not: it takes the first of the
two for the end of the name, and all that stands behind it for characters outside of names, until a quote
opens there.  Whether it comes out of a name where it went in is a matter of what the name has behind its
first closing bracket.

The other three kinds of parts never mislead it, as long as the other characters are none that it takes
for quotes.  These are the quotes of the other databases, and so it is right about all texts made of some
names and some other characters exactly when each of them for itself is harmless.

Main definitions:

* `ServerText` — **texts of SQL Server** with given names and given other characters;
* `IsGroup` — **one pair of parentheses encloses a text** as its database reads it;
* `KeepsPace` — the names that the test comes out of where it went in.

Main results:

* `ServerText.scan_eq` — such a text closes what it opens;
* `ServerText.isGroup_iff`, `ServerText.isWrapped_iff` — what an outer pair is, and what the test takes
  for one;
* `keepsPace_iff` — what stands behind the first closing bracket of a name is all that matters;
* `isWrapped_iff_isGroup` — **when the test is right**.
-/

import ModelSql.Proofs.Syntax.Depth

set_option relaxedAutoImplicit false
set_option autoImplicit false

namespace ModelSql

open Dialect (doubleQuotes)

/-! ### Texts -/

/-- A character that starts no text, no name and no group, and ends none of them. -/
def IsOther (c : Char) : Prop := c ≠ '\'' ∧ c ≠ '[' ∧ c ≠ '(' ∧ c ≠ ')'

instance (c : Char) : Decidable (IsOther c) := inferInstanceAs (Decidable (_ ∧ _))

/-- **A text of SQL Server**, from the first part on, with some names in square brackets and some other
characters outside of texts and names.  A bracket behind a name would belong to it. -/
inductive ServerText (names : List Char → Prop) (others : Char → Prop) : List Char → Prop
  | nil : ServerText names others []
  | other {c : Char} {cs : List Char} (hc : IsOther c) (ho : others c)
      (h : ServerText names others cs) : ServerText names others (c :: cs)
  | text (qs : List Char) {cs : List Char} (h : ServerText names others cs) :
      ServerText names others ('\'' :: doubleQuotes '\'' qs ++ '\'' :: cs)
  | name {n cs : List Char} (hn : names n) (hcs : cs.head? ≠ some ']')
      (h : ServerText names others cs) : ServerText names others ('[' :: doubleQuotes ']' n ++ ']' :: cs)
  | group {inner cs : List Char} (hi : ServerText names others inner) (h : ServerText names others cs) :
      ServerText names others ('(' :: inner ++ ')' :: cs)

/-- **One pair of parentheses encloses a text**: what stands between them closes whatever it opens, as SQL
Server reads it. -/
def IsGroup (s : String) : Prop :=
  ∃ inner, s = "(" ++ inner ++ ")" ∧ DialectKind.sqlserver.dialect.Closes inner

/-- **A name that the test for an outer pair of parentheses comes out of where it went in.** -/
def KeepsPace (n : List Char) : Prop := Balanced ('[' :: doubleQuotes ']' n ++ [']'])

instance (n : List Char) : Decidable (KeepsPace n) := decidable_of_iff _ isWrapped_group_iff

variable {names : List Char → Prop} {others : Char → Prop} {cs n : List Char}

/-! ### The depth of a text -/

/-- Other characters change nothing, but a closing bracket right behind a name. -/
theorem scanChar_other {c : Char} {p : ScanMode} (hc : IsOther c) (hp : p.isOutside = true)
    (hbracket : c = ']' → p ≠ .nameEnd) (depth : Nat) :
    DialectKind.sqlserver.dialect.scanChar p depth c = some (.outside, depth) := by
  obtain ⟨htext, hname, hopen, hclose⟩ := hc
  have houtside : DialectKind.sqlserver.dialect.scanOutside depth c = some (.outside, depth) := by
    have hquote : c ≠ DialectKind.sqlserver.dialect.rules.openQuote := hname
    rw [Dialect.scanOutside, if_neg htext, if_neg hquote, if_neg hopen, if_neg hclose]
  cases p with
  | outside => exact houtside
  | textEnd => rw [Dialect.scanChar, if_neg htext, houtside]
  | nameEnd =>
      have hquote : c ≠ DialectKind.sqlserver.dialect.rules.closeQuote := fun hclose => hbracket hclose rfl
      rw [Dialect.scanChar, if_neg hquote, houtside]
  | text | escape | name => cases hp

namespace ServerText

/-- **Such a text closes what it opens**, read from outside of texts and names. -/
theorem scan_eq (h : ServerText names others cs) {p : ScanMode} {depth : Nat}
    (hp : p.isOutside = true) (hhead : cs.head? = some ']' → p ≠ .nameEnd) :
    ∃ q, q.isOutside = true ∧ DialectKind.sqlserver.dialect.scan p depth cs = some (q, depth) := by
  induction h generalizing p depth with
  | nil => exact ⟨p, hp, rfl⟩
  | @other c cs hc _ _ ih =>
      have hbracket : c = ']' → p ≠ .nameEnd := fun hclose => hhead (by rw [hclose, List.head?_cons])
      rw [Dialect.scan_cons (scanChar_other hc hp hbracket depth)]
      exact ih rfl fun _ => by decide
  | @text qs cs _ ih =>
      have hquoted : '\'' :: doubleQuotes '\'' qs ++ '\'' :: cs =
          DialectKind.sqlserver.dialect.quotation qs ++ cs := by
        simp [Dialect.quotation, Dialect.escape, DialectKind.dialect]
      rw [hquoted, Dialect.scan_quotation hp]
      exact ih rfl fun _ => by decide
  | @name n cs _ hcs _ ih =>
      have hscan := Dialect.scan_quotedName (d := DialectKind.sqlserver.dialect) hp depth n hcs
      exact hscan ▸ ih rfl fun hclose => absurd hclose hcs
  | @group inner cs _ _ ihi ih =>
      obtain ⟨q, hq, hinner⟩ : ∃ q, q.isOutside = true ∧
          DialectKind.sqlserver.dialect.scan .outside (depth + 1) inner = some (q, depth + 1) :=
        ihi (p := .outside) rfl fun _ => by decide
      rw [List.cons_append, Dialect.scan_cons (Dialect.scanChar_opening hp), Dialect.scan_append hinner,
        Dialect.scan_cons (Dialect.scanChar_closing hq)]
      exact ih rfl fun _ => by decide

/-- Behind a parenthesis there is no name that it could go on with. -/
theorem scan_outside (h : ServerText names others cs) (depth : Nat) :
    ∃ q, q.isOutside = true ∧
      DialectKind.sqlserver.dialect.scan .outside depth cs = some (q, depth) :=
  h.scan_eq (p := .outside) rfl fun _ => by decide

/-- A text that starts with a parenthesis starts with a group. -/
theorem exists_group (h : ServerText names others ('(' :: cs)) :
    ∃ inner rest, cs = inner ++ ')' :: rest ∧ ServerText names others inner ∧
      ServerText names others rest := by
  generalize htext : '(' :: cs = text at h
  cases h with
  | nil => cases htext
  | other hc =>
      cases htext
      exact absurd rfl hc.2.2.1
  | text => simp at htext
  | name => simp at htext
  | @group inner rest hi hrest =>
      rw [List.cons_append, List.cons.injEq] at htext
      exact ⟨inner, rest, htext.2, hi, hrest⟩

/-- **An outer pair of parentheses is a group that is all of the text.** -/
theorem isGroup_iff {s : String} (h : ServerText names others s.toList) :
    IsGroup s ↔ ∃ inner, s.toList = '(' :: inner ++ [')'] ∧ ServerText names others inner := by
  constructor
  · rintro ⟨i, rfl, p, hscan, -⟩
    have htext : ("(" ++ i ++ ")").toList = '(' :: (i.toList ++ [')']) := by simp
    rw [htext] at h ⊢
    obtain ⟨inner, rest, heq, hi, -⟩ := h.exists_group
    obtain rfl | ⟨front, c, rfl⟩ := rest.eq_nil_or_concat
    · exact ⟨inner, by rw [heq, List.cons_append], hi⟩
    · -- the first group ends earlier, so its parenthesis is one too many
      have hsplit : i.toList = inner ++ ')' :: front := by
        rw [List.concat_eq_append, ← List.cons_append, ← List.append_assoc] at heq
        exact (List.append_inj' heq rfl).1
      obtain ⟨q, hq, hinner⟩ := hi.scan_outside 0
      rw [hsplit, Dialect.scan_append hinner, Dialect.scan_closing_zero hq] at hscan
      cases hscan
  · rintro ⟨inner, hs, hi⟩
    obtain ⟨q, hq, hscan⟩ := hi.scan_outside 0
    refine ⟨String.ofList inner, ?_, q, ?_, hq⟩
    · rw [← String.toList_inj, hs]
      simp
    · rw [String.toList_ofList, hscan]

section

variable (hn : ∀ n, names n → KeepsPace n) (ho : ∀ c, IsOther c → others c → c ≠ '"' ∧ c ≠ '\x60')

include hn ho

/-- **A text with harmless names and harmless other characters is balanced.** -/
theorem balanced (h : ServerText names others cs) : Balanced cs := by
  induction h with
  | nil => exact .nil
  | @other c cs hc hother _ ih =>
      obtain ⟨htext, hname, hopen, hclose⟩ := hc
      obtain ⟨hdouble, hgrave⟩ := ho c ⟨htext, hname, hopen, hclose⟩ hother
      have hquiet : isQuiet c = true := by
        simp [isQuiet, Parentheses.closing?, htext, hname, hopen, hclose, hdouble, hgrave]
      have hone : Balanced [c] := .quiet (by simp [hquiet])
      exact hone.append ih
  | @text qs cs _ ih =>
      have hquoted : Balanced ('\'' :: doubleQuotes '\'' qs ++ ['\'']) := balanced_doubled (by decide) qs
      simpa using hquoted.append ih
  | @name n cs hname _ _ ih => simpa using (hn n hname).append ih
  | @group inner cs _ _ ihi ih => simpa using ihi.group.append ih

/-- **The test takes the same for an outer pair of parentheses.** -/
theorem isWrapped_iff (h : ServerText names others cs) :
    isWrapped cs = true ↔ ∃ inner, cs = '(' :: inner ++ [')'] ∧ ServerText names others inner := by
  constructor
  · intro hw
    cases cs with
    | nil => cases hw
    | cons c cs =>
        obtain rfl : c = '(' := by
          by_contra hc
          rw [isWrapped_of_head (by simpa using hc)] at hw
          cases hw
        obtain ⟨inner, rest, rfl, hi, -⟩ := h.exists_group
        cases rest with
        | nil => exact ⟨inner, rfl, hi⟩
        | cons c rest =>
            have hnot := isWrapped_group_append (hi.balanced hn ho) (List.cons_ne_nil c rest)
            rw [List.cons_append] at hnot
            rw [hnot] at hw
            cases hw
  · rintro ⟨inner, rfl, hi⟩
    exact isWrapped_group (hi.balanced hn ho)

end

/-- **Where the test is right about all texts**, each of them is balanced. -/
theorem balanced_of_forall
    (hright : ∀ s, ServerText names others s.toList → (isWrapped s.toList = true ↔ IsGroup s))
    (h : ServerText names others cs) : Balanced cs := by
  have hgroup : ServerText names others (String.ofList ('(' :: cs ++ [')'])).toList := by
    rw [String.toList_ofList]
    exact .group h .nil
  have hwrapped := (hright _ hgroup).2 (hgroup.isGroup_iff.2 ⟨cs, String.toList_ofList, h⟩)
  rw [String.toList_ofList] at hwrapped
  exact isWrapped_group_iff.1 hwrapped

end ServerText

/-! ### Names -/

theorem doubleQuotes_append (close : Char) (cs ds : List Char) :
    doubleQuotes close (cs ++ ds) = doubleQuotes close cs ++ doubleQuotes close ds := by
  induction cs with
  | nil => rfl
  | cons c cs ih =>
      rw [List.cons_append, doubleQuotes, doubleQuotes, ih]
      split <;> rfl

/-- A name without a closing bracket does no harm. -/
theorem keepsPace_of_not_mem (h : ']' ∉ n) : KeepsPace n := by
  intro depth rest
  rw [Dialect.doubleQuotes_of_not_mem h, List.append_assoc]
  exact encloses_brackets h (depth + 1) rest

/-- **Any other name does none exactly when what stands behind its first closing bracket is balanced**, read
from outside of names. -/
theorem keepsPace_iff {front back : List Char} (h : ']' ∉ front) :
    KeepsPace (front ++ ']' :: back) ↔ Balanced (doubleQuotes ']' back ++ [']']) := by
  -- the first bracket closes the name, and the second one is quiet
  have hskip (depth : Nat) (rest : List Char) : Parentheses.encloses none depth
      ('[' :: doubleQuotes ']' (front ++ ']' :: back) ++ [']'] ++ rest) =
        Parentheses.encloses none depth (doubleQuotes ']' back ++ [']'] ++ rest) := by
    have hbracket : isQuiet ']' = true := by decide
    have hclose := encloses_brackets h depth (']' :: (doubleQuotes ']' back ++ [']'] ++ rest))
    rw [encloses_quiet hbracket] at hclose
    rw [doubleQuotes_append, Dialect.doubleQuotes_of_not_mem h, doubleQuotes, if_pos rfl, ← hclose]
    simp [Parentheses.encloses, Parentheses.closing?]
  simp only [KeepsPace, Balanced, hskip]

example : KeepsPace "a]b".toList ∧ ¬ KeepsPace "a](b".toList := by decide

/-! ### When the test is right -/

/-- What an outer pair of parentheses encloses is left without it. -/
theorem stripOuter_of_isGroup {s : String} (hw : isWrapped s.toList = true) (h : IsGroup s) :
    ∃ inner, s = "(" ++ inner ++ ")" ∧ DialectKind.sqlserver.dialect.Closes inner ∧
      stripOuter s = inner := by
  obtain ⟨inner, rfl, hcloses⟩ := h
  refine ⟨inner, rfl, hcloses, ?_⟩
  rw [stripOuter, if_pos hw]
  simp

/-- **When the test for an outer pair of parentheses is right**: about all texts of some names and some other
characters, and so no parentheses are taken away that do not belong together, exactly when it comes out of
each of the names where it went in, and none of the other characters is a quote of another database. -/
theorem isWrapped_iff_isGroup (names : List Char → Prop) (others : Char → Prop) :
    (∀ s, ServerText names others s.toList →
      (isWrapped s.toList = true ↔ IsGroup s) ∧
        (stripOuter s = s ∨ ∃ inner, s = "(" ++ inner ++ ")" ∧
          DialectKind.sqlserver.dialect.Closes inner ∧ stripOuter s = inner)) ↔
      (∀ n, names n → KeepsPace n) ∧ ∀ c, IsOther c → others c → c ≠ '"' ∧ c ≠ '\x60' := by
  constructor
  · intro hall
    have hbalanced {cs : List Char} (h : ServerText names others cs) : Balanced cs :=
      h.balanced_of_forall fun s hs => (hall s hs).1
    refine ⟨fun n hn => hbalanced (.name hn (by simp) .nil), fun c hc ho => ?_⟩
    have hone : isWrapped ('(' :: [c] ++ [')']) = true :=
      isWrapped_group (hbalanced (.other hc ho .nil))
    constructor
    · rintro rfl
      cases hone
    · rintro rfl
      cases hone
  · rintro ⟨hn, ho⟩ s hs
    have hiff : isWrapped s.toList = true ↔ IsGroup s :=
      (hs.isWrapped_iff hn ho).trans hs.isGroup_iff.symm
    refine ⟨hiff, ?_⟩
    cases hw : isWrapped s.toList with
    | true => exact .inr (stripOuter_of_isGroup hw (hiff.1 hw))
    | false =>
        left
        rw [stripOuter, hw, if_neg Bool.false_ne_true]

/-- **A name with a closing bracket and a parenthesis behind it** hides the pair of parentheses around it, and
two groups with such names seem to be one. -/
theorem isWrapped_ne_isGroup :
    let names := fun n => n = "a](b".toList ∨ n = "a](".toList ∨ n = "b])".toList
    let others := fun c => c = '+'
    let group := "([a]](b])"
    let sum := "([a]](])+([b]])])"
    ServerText names others group.toList ∧ IsGroup group ∧ isWrapped group.toList = false ∧
      ServerText names others sum.toList ∧ ¬ IsGroup sum ∧ isWrapped sum.toList = true ∧
        stripOuter sum = "[a]](])+([b]])]" := by
  intro names others group sum
  have hname {n : List Char} (hn : names n) :
      ServerText names others ('[' :: doubleQuotes ']' n ++ [']']) := .name hn (by simp) .nil
  have hgroup : ServerText names others group.toList := by
    have htext : group.toList = '(' :: ('[' :: doubleQuotes ']' "a](b".toList ++ [']']) ++ [')'] := by
      decide
    rw [htext]
    exact .group (hname (Or.inl rfl)) .nil
  have hsum : ServerText names others sum.toList := by
    have htext : sum.toList = '(' :: ('[' :: doubleQuotes ']' "a](".toList ++ [']']) ++ ')' ::
        ('+' :: ('(' :: ('[' :: doubleQuotes ']' "b])".toList ++ [']']) ++ [')'])) := by
      decide
    rw [htext]
    exact .group (hname (Or.inr (Or.inl rfl)))
      (.other (by decide) rfl (.group (hname (Or.inr (Or.inr rfl))) .nil))
  refine ⟨hgroup, ⟨"[a]](b]", by decide, .nameEnd, by decide, rfl⟩, by decide, hsum, ?_, by decide,
    by decide⟩
  rintro ⟨inner, heq, p, hscan, -⟩
  have hparts : sum = "(" ++ "[a]](])+([b]])]" ++ ")" := by decide
  rw [hparts, String.append_left_inj, String.append_right_inj] at heq
  rw [← heq] at hscan
  cases hscan

end ModelSql
