/-
**What a pair of parentheses encloses.**

The test for an outer pair of parentheses reads characters.  A text that stands between parentheses
does not disturb it when it is *balanced*: its own parentheses close, and its quotations too.  All that
statements are made of is balanced, except for one thing: between square brackets a doubled closing
bracket is read as the end of the name, and as a character behind it.

Main definitions:

* `Balanced` — **the texts that leave the depth of parentheses as it is**;
* `Neutral` — the balanced texts that do not start with a parenthesis.

Main results:

* `isWrapped_group_iff`, `isWrapped_group_append` — **when a text in parentheses is wrapped**;
* `neutral_form`, `neutral_placeholder` — literals and placeholders are neutral;
* `balanced_quoteName` — names are balanced, but for a closing bracket on SQL Server.
-/

import Mathlib.Data.List.Basic
import ModelSql.Proofs.Dialect.Form
import ModelSql.Query.Parentheses

set_option relaxedAutoImplicit false
set_option autoImplicit false

namespace ModelSql

open Parentheses

/-! ### Balanced texts -/

/-- **A text that leaves the depth of parentheses as it is** wherever one of them is open. -/
def Balanced (cs : List Char) : Prop :=
  ∀ depth rest, encloses none (depth + 1) (cs ++ rest) = encloses none (depth + 1) rest

/-- A balanced text that is not empty and does not start with a parenthesis. -/
structure Neutral (cs : List Char) : Prop where
  ne_nil : cs ≠ []
  head : cs.head? ≠ some '('
  balanced : Balanced cs

theorem Balanced.nil : Balanced [] := fun _ _ => rfl

theorem Balanced.append {cs ds : List Char} (hc : Balanced cs) (hd : Balanced ds) :
    Balanced (cs ++ ds) := by
  intro depth rest
  rw [List.append_assoc, hc, hd]

theorem Balanced.group {cs : List Char} (h : Balanced cs) : Balanced ('(' :: cs ++ [')']) := by
  intro depth rest
  have hopen : encloses none (depth + 1) ('(' :: (cs ++ ')' :: rest)) =
      encloses none (depth + 2) (cs ++ ')' :: rest) := rfl
  have hclose : encloses none (depth + 2) (')' :: rest) = encloses none (depth + 1) rest := by
    simp [encloses, closing?]
  simp only [List.cons_append, List.append_assoc, List.nil_append]
  rw [hopen, h (depth + 1), hclose]

/-- A character that is no quote and no parenthesis. -/
def isQuiet (c : Char) : Bool := (closing? c).isNone && c != '(' && c != ')'

theorem encloses_quiet {c : Char} (h : isQuiet c = true) (depth : Nat) (cs : List Char) :
    encloses none depth (c :: cs) = encloses none depth cs := by
  simp only [isQuiet, Bool.and_eq_true, Option.isNone_iff_eq_none, bne_iff_ne, ne_eq] at h
  obtain ⟨⟨hq, ho⟩, hc⟩ := h
  simp [encloses, hq, ho, hc]

theorem Balanced.quiet {cs : List Char} (h : cs.all isQuiet = true) : Balanced cs := by
  intro depth rest
  induction cs with
  | nil => rfl
  | cons c cs ih =>
      rw [List.all_cons, Bool.and_eq_true] at h
      rw [List.cons_append, encloses_quiet h.1]
      exact ih h.2

/-- A text that starts with a quiet character, or with a quote, does not start with a
parenthesis. -/
theorem Neutral.of_head {c : Char} {cs : List Char} (hc : c ≠ '(') (h : Balanced (c :: cs)) :
    Neutral (c :: cs) := ⟨by simp, by simpa using hc, h⟩

theorem Neutral.quiet {cs : List Char} (hne : cs ≠ []) (h : cs.all isQuiet = true) :
    Neutral cs := by
  cases cs with
  | nil => exact absurd rfl hne
  | cons c cs =>
      refine .of_head ?_ (.quiet h)
      rintro rfl
      simp [isQuiet] at h

theorem Neutral.head_append {cs : List Char} (h : Neutral cs) (ds : List Char) :
    (cs ++ ds).head? ≠ some '(' := by
  rw [List.head?_append_of_ne_nil _ h.ne_nil]
  exact h.head

theorem Neutral.append {cs ds : List Char} (hc : Neutral cs) (hd : Balanced ds) :
    Neutral (cs ++ ds) where
  ne_nil := by simp [hc.ne_nil]
  head := hc.head_append ds
  balanced := hc.balanced.append hd

/-! ### Wrapped texts -/

/-- The last character that closes the parentheses is one. -/
theorem getLast?_of_encloses {quote : Option Char} {depth : Nat} {cs : List Char}
    (h : encloses quote (depth + 1) cs = true) : cs.getLast? = some ')' := by
  induction cs generalizing quote depth with
  | nil => simp [encloses] at h
  | cons c cs ih =>
      have hlast {q : Option Char} {n : Nat} (hn : encloses q (n + 1) cs = true) :
          (c :: cs).getLast? = some ')' := by
        rw [List.getLast?_cons, ih hn]
        rfl
      cases quote with
      | some q => exact hlast h
      | none =>
          simp only [encloses] at h
          split at h
          · exact hlast h
          · split at h
            · exact hlast h
            · split at h
              · rename_i hc
                cases cs with
                | nil => simp [hc]
                | cons e cs =>
                    cases depth with
                    | zero => simp at h
                    | succ depth => exact hlast (by simpa using h)
              · exact hlast h

/-- A text that starts with a parenthesis is wrapped when that parenthesis closes with the last
character. -/
theorem isWrapped_cons (cs : List Char) : isWrapped ('(' :: cs) = encloses none 1 cs := by
  have hopen : encloses none 0 ('(' :: cs) = encloses none 1 cs := rfl
  cases h : encloses none 1 cs with
  | false => simp [isWrapped, hopen, h]
  | true =>
      have hlast := getLast?_of_encloses h
      simp [isWrapped, hopen, h, List.getLast?_cons, hlast]

theorem isWrapped_of_head {cs : List Char} (h : cs.head? ≠ some '(') : isWrapped cs = false := by
  simp [isWrapped, h]

/-- **A balanced text in parentheses is wrapped.** -/
theorem isWrapped_group {cs : List Char} (h : Balanced cs) :
    isWrapped ('(' :: cs ++ [')']) = true := by
  rw [List.cons_append, isWrapped_cons, h 0]
  rfl

/-- A character is quiet, or it opens a quotation, or it is a parenthesis. -/
theorem quiet_or_quote_or_parenthesis (c : Char) :
    isQuiet c = true ∨ (∃ q, closing? c = some q) ∨ c = '(' ∨ c = ')' := by
  cases hq : closing? c with
  | some q => exact .inr (.inl ⟨q, rfl⟩)
  | none =>
      by_cases hopen : c = '('
      · exact .inr (.inr (.inl hopen))
      · by_cases hclose : c = ')'
        · exact .inr (.inr (.inr hclose))
        · exact .inl (by simp [isQuiet, hq, hopen, hclose])

/-- What is passed over when a parenthesis behind it closes the only one that is left is passed over
whatever stands behind it, and at any greater depth. -/
theorem encloses_of_closing {quote : Option Char} {depth : Nat} {cs : List Char}
    (h : encloses quote (depth + 1) (cs ++ [')']) = true) (more : Nat) (rest : List Char) :
    encloses quote (depth + more + 1) (cs ++ rest) = encloses none (more + 1) rest := by
  induction cs generalizing quote depth with
  | nil =>
      cases quote with
      | some q => simp [encloses] at h
      | none =>
          have hdepth : depth = 0 := by simpa [encloses, closing?] using h
          rw [hdepth, Nat.zero_add, List.nil_append]
  | cons c cs ih =>
      cases quote with
      | some q => exact ih h
      | none =>
          rw [List.cons_append] at h ⊢
          obtain hquiet | ⟨q, hq⟩ | rfl | rfl := quiet_or_quote_or_parenthesis c
          · rw [encloses_quiet hquiet] at h ⊢
            exact ih h
          · simp only [encloses, hq] at h ⊢
            exact ih h
          · have hdeep : encloses none (depth + 1 + more + 1) (cs ++ rest) =
                encloses none (more + 1) rest := ih h
            rwa [Nat.add_right_comm depth 1 more] at hdeep
          · -- it is not the last parenthesis, so another one is still open
            cases depth with
            | zero => simp [encloses, closing?] at h
            | succ depth =>
                have hrest : encloses none (depth + 1) (cs ++ [')']) = true := by
                  simpa [encloses, closing?] using h
                have hstep : encloses none (depth + 1 + more + 1) (')' :: (cs ++ rest)) =
                    encloses none (depth + more + 1) (cs ++ rest) := by
                  rw [Nat.add_right_comm depth 1 more]
                  simp [encloses, closing?]
                rw [hstep]
                exact ih hrest

/-- **The texts that are wrapped by a pair of parentheses are the balanced ones.** -/
theorem isWrapped_group_iff {cs : List Char} :
    isWrapped ('(' :: cs ++ [')']) = true ↔ Balanced cs := by
  refine ⟨fun h depth rest => ?_, isWrapped_group⟩
  rw [List.cons_append, isWrapped_cons] at h
  have hall := encloses_of_closing h depth rest
  rwa [Nat.zero_add] at hall

/-- **A balanced text in parentheses with more behind it is not wrapped.** -/
theorem isWrapped_group_append {cs rest : List Char} (h : Balanced cs) (hrest : rest ≠ []) :
    isWrapped ('(' :: cs ++ ')' :: rest) = false := by
  rw [List.cons_append, isWrapped_cons, h 0]
  simp [encloses, closing?, hrest]

/-- **A balanced text that starts with a group**, or without a parenthesis. -/
structure Framed (cs : List Char) : Prop where
  ne_nil : cs ≠ []
  balanced : Balanced cs
  front : cs.head? ≠ some '(' ∨ ∃ inner rest, cs = '(' :: inner ++ ')' :: rest ∧ Balanced inner

namespace Framed

theorem of_neutral {cs : List Char} (h : Neutral cs) : Framed cs := ⟨h.ne_nil, h.balanced, .inl h.head⟩

theorem group {cs : List Char} (h : Balanced cs) : Framed ('(' :: cs ++ [')']) :=
  ⟨by simp, h.group, .inr ⟨cs, [], rfl, h⟩⟩

theorem append {cs ds : List Char} (hc : Framed cs) (hd : Balanced ds) : Framed (cs ++ ds) where
  ne_nil := by simp [hc.ne_nil]
  balanced := hc.balanced.append hd
  front := by
    rcases hc.front with h | ⟨inner, rest, rfl, h⟩
    · left
      rw [List.head?_append_of_ne_nil _ hc.ne_nil]
      exact h
    · right
      exact ⟨inner, rest ++ ds, by simp, h⟩

/-- **With more behind it, such a text is not wrapped.** -/
theorem isWrapped_append {cs ds : List Char} (hc : Framed cs) (hd : ds ≠ []) :
    isWrapped (cs ++ ds) = false := by
  rcases hc.front with h | ⟨inner, rest, rfl, h⟩
  · apply isWrapped_of_head
    rw [List.head?_append_of_ne_nil _ hc.ne_nil]
    exact h
  · have hrest : rest ++ ds ≠ [] := by simp [hd]
    have hwrapped := isWrapped_group_append h hrest
    simpa using hwrapped

end Framed

namespace Balanced

variable {s t : String}

theorem text_append (hs : Balanced s.toList) (ht : Balanced t.toList) : Balanced (s ++ t).toList := by
  rw [String.toList_append]
  exact hs.append ht

theorem text_group (h : Balanced s.toList) : Balanced ("(" ++ s ++ ")").toList := by
  rw [String.toList_append, String.toList_append]
  exact h.group

theorem wrap (h : Balanced s.toList) : Balanced (wrap s).toList := by
  unfold ModelSql.wrap
  split
  · exact h
  · exact h.text_group

/-- Two texts with quiet characters between them. -/
theorem around {sep : String} (hs : Balanced s.toList) (hsep : sep.toList.all isQuiet = true)
    (ht : Balanced t.toList) : Balanced (s ++ sep ++ t).toList :=
  (hs.text_append (.quiet hsep)).text_append ht

/-- Two texts with something between them that blanks set apart. -/
theorem infixed {w : String} (hs : Balanced s.toList) (hw : Balanced w.toList)
    (ht : Balanced t.toList) : Balanced (s ++ " " ++ w ++ " " ++ t).toList :=
  (hs.around (by decide) hw).around (by decide) ht

end Balanced

/-! ### Quotations -/

/-- What stands between quotes is passed over, quotes inside being doubled. -/
theorem encloses_doubleQuotes {q : Char} (hq : closing? q = some q) (cs : List Char) (depth : Nat)
    (rest : List Char) :
    encloses (some q) depth (Dialect.doubleQuotes q cs ++ q :: rest) = encloses none depth rest := by
  induction cs with
  | nil => simp [Dialect.doubleQuotes, encloses]
  | cons c cs ih =>
      by_cases hc : c = q
      · -- the first quote closes, and the second one opens again
        subst hc
        simp only [Dialect.doubleQuotes, if_true, List.cons_append, encloses, hq]
        exact ih
      · simp only [Dialect.doubleQuotes, hc, if_false, List.cons_append, encloses]
        exact ih

theorem balanced_doubled {q : Char} (hq : closing? q = some q) (cs : List Char) :
    Balanced (q :: Dialect.doubleQuotes q cs ++ [q]) := by
  intro depth rest
  simp only [List.cons_append, List.append_assoc, List.nil_append, encloses, hq]
  exact encloses_doubleQuotes hq cs (depth + 1) rest

/-- What stands between square brackets is passed over when it holds no closing one. -/
theorem encloses_brackets {cs : List Char} (h : ']' ∉ cs) (depth : Nat) (rest : List Char) :
    encloses (some ']') depth (cs ++ ']' :: rest) = encloses none depth rest := by
  induction cs with
  | nil => simp [encloses]
  | cons c cs ih =>
      rw [List.mem_cons, not_or] at h
      simp only [List.cons_append, encloses, if_neg (Ne.symm h.1)]
      exact ih h.2

/-! ### Literals, placeholders and names -/

section

variable (d : Dialect)

theorem neutral_quotation (cs : List Char) : Neutral (d.quotation cs) :=
  .of_head (by decide) (balanced_doubled (by decide) (d.escape cs))

theorem isQuiet_of_isAlphanum {c : Char} (h : c.isAlphanum = true) : isQuiet c = true := by
  have hne (x : Char) (hx : x.isAlphanum = false) : c ≠ x := by
    rintro rfl
    rw [h] at hx
    cases hx
  have hquote : closing? c = none := by
    unfold closing?
    rw [if_neg, if_neg]
    · exact hne _ (by decide)
    · rintro (hc | hc | hc) <;> exact hne _ (by decide) hc
  simp [isQuiet, hquote, hne '(' (by decide), hne ')' (by decide)]

theorem isQuiet_of_isNumeric {c : Char} (h : Text.isNumeric c = true) : isQuiet c = true := by
  rw [Text.isNumeric, Bool.or_eq_true] at h
  rcases h with h | h
  · exact isQuiet_of_isAlphanum (by simp [Char.isAlphanum, h])
  · rw [beq_iff_eq.1 h]
    decide

theorem all_isQuiet_of_isNumeral {cs : List Char} (h : Literal.IsNumeral cs) :
    cs.all isQuiet = true := by
  have hdigit {c : Char} (hc : c.isDigit = true) : isQuiet c = true :=
    isQuiet_of_isAlphanum (by simp [Char.isAlphanum, hc])
  cases h with
  | decimal hc hcs =>
      rw [List.all_cons, hdigit hc, Bool.true_and, List.all_eq_true]
      exact fun x hx => isQuiet_of_isNumeric (hcs x hx)
  | @scientific c cs es hc hcs negative hes =>
      have hmantissa : (c :: cs).all isQuiet = true := by
        rw [List.all_cons, hdigit hc, Bool.true_and, List.all_eq_true]
        exact fun x hx => isQuiet_of_isNumeric (hcs x hx)
      have hpower : es.all isQuiet = true := List.all_eq_true.2 fun x hx => hdigit (hes x hx)
      have hmark : ('e' :: if negative then ['-'] else []).all isQuiet = true := by
        cases negative <;> decide
      rw [List.all_append, List.all_append, hmantissa, hpower, hmark]
      rfl
  | hexadecimal hcs =>
      rw [List.all_cons, List.all_cons, List.all_eq_true.2 fun x hx => isQuiet_of_isAlphanum (hcs x hx)]
      decide

/-- **Literals are neutral.** -/
theorem neutral_form {d : Dialect} {cs : List Char} (h : Literal.Form d cs) : Neutral cs := by
  cases h with
  | numeral h =>
      obtain ⟨negative, ds, hds, rfl⟩ := h
      have hne : ds ≠ [] := by
        rintro rfl
        cases hds
      refine .quiet (by simp [hne]) ?_
      rw [List.all_append, all_isQuiet_of_isNumeral hds]
      cases negative <;> decide
  | word h =>
      have hall : ∀ w ∈ Literal.words, w ≠ [] ∧ w.all isQuiet = true := by decide
      exact .quiet (hall cs h).1 (hall cs h).2
  | infinity => exact .quiet (by decide) (by decide)
  | @text mark h cs =>
      have hall : ∀ m ∈ Literal.marks, m = [] ∨ m ≠ [] ∧ m.all isQuiet = true := by decide
      rcases hall mark h with rfl | ⟨hne, hquiet⟩
      · exact neutral_quotation d cs
      · exact (Neutral.quiet hne hquiet).append (neutral_quotation d cs).balanced
  | uuid cs => exact (neutral_quotation d cs).append (.quiet (by decide))
  | decode cs =>
      have hname : Neutral "decode".toList := .quiet (by decide) (by decide)
      have hcomma : Balanced ", ".toList := .quiet (by decide)
      have hhex : Balanced ", 'hex'".toList :=
        hcomma.append (balanced_doubled (by decide) "hex".toList)
      exact hname.append ((neutral_quotation d cs).balanced.append hhex).group
  | cast cs =>
      have htype : Balanced " AS UNIQUEIDENTIFIER".toList := .quiet (by decide)
      have hname : Neutral "CAST".toList := .quiet (by decide) (by decide)
      exact hname.append ((neutral_quotation d cs).balanced.append htype).group

theorem toList_placeholder (n : Nat) :
    (d.placeholder n).toList = d.rules.parameterMark.toList ++ Nat.toDigits 10 n := by
  rw [Dialect.placeholder, String.toList_append]
  congr 1
  change (Nat.repr n).toList = _
  rw [Nat.repr_eq_ofList_toDigits, String.toList_ofList]

/-- **Placeholders are neutral.** -/
theorem neutral_placeholder (n : Nat) : Neutral (d.placeholder n).toList := by
  have hmarks (k : DialectKind) : k.rules.parameterMark.toList.all isQuiet = true := by
    cases k <;> decide
  have hmark : d.rules.parameterMark.toList.all isQuiet = true := hmarks d.kind
  have hdigits : (Nat.toDigits 10 n).all isQuiet = true :=
    all_isQuiet_of_isNumeral (Literal.isNumeral_toDigits n)
  rw [toList_placeholder]
  refine .quiet (by simp [Nat.toDigits_ne_nil]) ?_
  rw [List.all_append, hmark, hdigits]
  rfl

theorem isQuiet_of_isNamePart {c : Char} (h : Text.isNamePart c = true) : isQuiet c = true := by
  rw [Text.isNamePart, Bool.or_eq_true] at h
  rcases h with h | h
  · exact isQuiet_of_isAlphanum h
  · rw [beq_iff_eq.1 h]
    decide

/-- The characters of a name without quotes. -/
theorem all_isNamePart {cs : List Char} (h : Text.isPlainName cs = true) :
    cs.all Text.isNamePart = true := by
  cases cs with
  | nil => rfl
  | cons c cs =>
      rw [Text.isPlainName, Bool.and_eq_true] at h
      rw [List.all_cons, h.2, Bool.and_true, Text.isNamePart, Char.isAlphanum]
      rw [Text.isNameStart] at h
      cases hc : c.isAlpha <;> simp_all

/-- All databases but SQL Server have the same quote on both sides of a name. -/
theorem quotes_of_ne {d : Dialect} (h : d.kind ≠ .sqlserver) :
    d.rules.openQuote = d.rules.closeQuote ∧
      closing? d.rules.closeQuote = some d.rules.closeQuote := by
  have hall (k : DialectKind) (hk : k ≠ .sqlserver) : k.rules.openQuote = k.rules.closeQuote ∧
      closing? k.rules.closeQuote = some k.rules.closeQuote := by
    cases k with
    | sqlserver => exact absurd rfl hk
    | _ => exact ⟨rfl, by decide⟩
  exact hall d.kind h

theorem isPlainName_of_not_needsQuotes {d : Dialect} {name : String}
    (h : ¬ d.needsQuotes name = true) : Text.isPlainName name.toList = true := by
  cases hp : Text.isPlainName name.toList with
  | true => rfl
  | false => simp [Dialect.needsQuotes, hp] at h

/-- A name without quotes is neutral. -/
theorem neutral_plainName {cs : List Char} (h : Text.isPlainName cs = true) : Neutral cs := by
  refine .quiet ?_ (List.all_eq_true.2 fun c hc => isQuiet_of_isNamePart ?_)
  · rintro rfl
    cases h
  · exact List.all_eq_true.1 (all_isNamePart h) c hc

/-- A name with a balanced text in parentheses behind it. -/
theorem neutral_apply {f s : String} (hf : Text.isPlainName f.toList = true)
    (h : Balanced s.toList) : Neutral (f ++ "(" ++ s ++ ")").toList := by
  have htext : f ++ "(" ++ s ++ ")" = f ++ ("(" ++ s ++ ")") := by simp only [String.append_assoc]
  rw [htext, String.toList_append]
  exact (neutral_plainName hf).append h.text_group

/-- A name starts with a quote or a letter. -/
theorem head_quoteName (name : String) :
    ∃ c cs, (d.quoteName name).toList = c :: cs ∧ c ≠ '(' := by
  have hopen (k : DialectKind) : k.rules.openQuote ≠ '(' := by
    cases k <;> decide
  unfold Dialect.quoteName
  split
  · rw [Dialect.escapeName, String.toList_ofList]
    exact ⟨_, _, rfl, hopen d.kind⟩
  · rename_i hq
    have hneutral := neutral_plainName (isPlainName_of_not_needsQuotes hq)
    cases hname : name.toList with
    | nil => exact absurd hname hneutral.ne_nil
    | cons c cs => exact ⟨c, cs, rfl, by simpa [hname] using hneutral.head⟩

/-- **Names are balanced**, but for a closing bracket on SQL Server. -/
theorem balanced_quoteName {name : String} (h : d.kind = .sqlserver → ']' ∉ name.toList) :
    Balanced (d.quoteName name).toList := by
  unfold Dialect.quoteName
  split
  · rw [Dialect.escapeName, String.toList_ofList]
    by_cases hk : d.kind = .sqlserver
    · have hname := h hk
      have hopen : d.rules.openQuote = '[' := by rw [Dialect.rules, hk]; rfl
      have hclose : d.rules.closeQuote = ']' := by rw [Dialect.rules, hk]; rfl
      rw [hopen, hclose, Dialect.doubleQuotes_of_not_mem hname]
      intro depth rest
      simp only [List.append_assoc, List.cons_append, List.nil_append]
      exact encloses_brackets hname (depth + 1) rest
    · obtain ⟨hsame, hquote⟩ := quotes_of_ne hk
      rw [hsame]
      exact balanced_doubled hquote name.toList
  · rename_i hq
    exact (neutral_plainName (isPlainName_of_not_needsQuotes hq)).balanced

end

end ModelSql
