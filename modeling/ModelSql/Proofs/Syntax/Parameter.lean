/-
**The placeholders of a text.**

The placeholders among the words of a statement are told by their numbers.  Names, keywords, signs and
literals are none, whatever they look like; so the placeholders of a text that is put together from others
are those of the others, in every database and for every function and operator.

Main definitions:

* `Dialect.cited` — the numbers of the placeholders among lexemes;
* `Mentions`, `Cites` — **a text with the placeholders of some numbers**, and one whose parentheses nest.

Main results:

* `Cites.placeholder`, `Cites.form`, `Cites.column` — placeholders, literals and columns;
* `Cites.group`, `Cites.list`, `Cites.apply`, … — texts put together;
* `Cites.operator`, `Cites.substring`, … — **operators and functions, as each database has them**;
* `Mentions.stripOuter` — outer parentheses taken away.
-/

import Mathlib.Data.Set.Insert
import ModelSql.Proofs.Query.Ownership
import ModelSql.Proofs.Syntax.Clause
import ModelSql.Proofs.Text.Words

set_option relaxedAutoImplicit false
set_option autoImplicit false

namespace ModelSql

open Lexer

/-! ### Placeholders among lexemes -/

namespace Dialect

/-- **The numbers of the placeholders among lexemes.** -/
def cited (d : Dialect) (ls : List Lexeme) : Set Nat := {n | .token (d.parameterToken n) ∈ ls}

variable {d : Dialect} {ls ks : List Lexeme}

theorem mem_cited {n : Nat} : n ∈ d.cited ls ↔ .token (d.parameterToken n) ∈ ls := Iff.rfl

@[simp] theorem cited_nil : d.cited [] = ∅ := by
  ext n
  simp [cited]

@[simp] theorem cited_append : d.cited (ls ++ ks) = d.cited ls ∪ d.cited ks := by
  ext n
  simp [cited]

/-- A lexeme that is no placeholder. -/
theorem cited_cons {l : Lexeme} (h : ∀ cs, l ≠ .token (.parameter cs)) :
    d.cited (l :: ls) = d.cited ls := by
  ext n
  rw [mem_cited, mem_cited, List.mem_cons]
  exact or_iff_right fun hl => h _ hl.symm

@[simp] theorem cited_opening : d.cited (.opening :: ls) = d.cited ls := cited_cons (by simp)

@[simp] theorem cited_closing : d.cited (.closing :: ls) = d.cited ls := cited_cons (by simp)

@[simp] theorem cited_word (cs : List Char) : d.cited (.token (.word cs) :: ls) = d.cited ls :=
  cited_cons (by simp)

@[simp] theorem cited_sign (cs : List Char) : d.cited (.token (.sign cs) :: ls) = d.cited ls :=
  cited_cons (by simp)

@[simp] theorem cited_number (cs : List Char) : d.cited (.token (.number cs) :: ls) = d.cited ls :=
  cited_cons (by simp)

@[simp] theorem cited_text (mark cs : List Char) :
    d.cited (.token (.text mark cs) :: ls) = d.cited ls := cited_cons (by simp)

@[simp] theorem cited_name (name : String) :
    d.cited (.token (d.nameToken name) :: ls) = d.cited ls := by
  refine cited_cons fun cs => ?_
  unfold nameToken
  split <;> simp

theorem parameterToken_injective {m n : Nat} (h : d.parameterToken m = d.parameterToken n) :
    m = n := by
  rw [parameterToken, parameterToken, Token.parameter.injEq] at h
  exact placeholder_injective (String.toList_inj.1 h)

@[simp] theorem cited_parameter (n : Nat) :
    d.cited (.token (d.parameterToken n) :: ls) = insert n (d.cited ls) := by
  ext m
  rw [mem_cited, List.mem_cons, Set.mem_insert_iff, mem_cited, Lexeme.token.injEq]
  exact or_congr ⟨parameterToken_injective, fun h => h ▸ rfl⟩ Iff.rfl

end Dialect

namespace Nest

/-- The placeholders of groups and tokens are those of their lexemes. -/
@[simp] theorem cited_lexemesAll_cons (d : Dialect) (n : Nest) (ns : List Nest) :
    d.cited (lexemesAll (n :: ns)) = d.cited n.lexemes ∪ d.cited (lexemesAll ns) := by
  rw [lexemesAll, Dialect.cited_append]

@[simp] theorem cited_lexemesAll_nil (d : Dialect) : d.cited (lexemesAll []) = ∅ := by
  rw [lexemesAll, Dialect.cited_nil]

@[simp] theorem cited_lexemesAll_append (d : Dialect) (ns ms : List Nest) :
    d.cited (lexemesAll (ns ++ ms)) = d.cited (lexemesAll ns) ∪ d.cited (lexemesAll ms) := by
  rw [lexemesAll_append, Dialect.cited_append]

@[simp] theorem cited_group (d : Dialect) (ns : List Nest) :
    d.cited (group ns).lexemes = d.cited (lexemesAll ns) := by
  simp [lexemes]

@[simp] theorem cited_wordNest (d : Dialect) (w : String) : d.cited (wordNest w).lexemes = ∅ := by
  simp [wordNest, lexemes]

@[simp] theorem cited_signNest (d : Dialect) (w : String) : d.cited (signNest w).lexemes = ∅ := by
  simp [signNest, lexemes]

/-- **Literals have no placeholders.** -/
theorem cited_isLiteral (d : Dialect) {ns : List Nest} (h : IsLiteral ns) :
    d.cited (lexemesAll ns) = ∅ := by
  cases h <;> simp [lexemes]

/-- Nor have columns. -/
theorem cited_pathNests (d : Dialect) (names : List String) :
    d.cited (lexemesAll (d.pathNests names)) = ∅ := by
  induction names with
  | nil => simp [Dialect.pathNests]
  | cons name names ih =>
      cases names with
      | nil => simp [Dialect.pathNests, lexemes]
      | cons next names => simpa [Dialect.pathNests, lexemes, pointNest] using ih

theorem cited_intNests (d : Dialect) (n : Int) : d.cited (lexemesAll (intNests n)) = ∅ := by
  unfold intNests
  split <;> simp [lexemes]

end Nest

/-! ### Placeholders of texts -/

/-- **A text with the placeholders of some numbers**, wherever it stands in front of a delimiter. -/
def Mentions (d : Dialect) (t : String) (P : Set Nat) : Prop :=
  ∃ ls, Lexes d.escapes t.toList ls ∧ d.cited ls = P

/-- **A text with these placeholders whose parentheses nest.** -/
def Cites (d : Dialect) (t : String) (P : Set Nat) : Prop :=
  ∃ ns, Spells d t ns ∧ d.cited (Nest.lexemesAll ns) = P

theorem Cites.mentions {d : Dialect} {t : String} {P : Set Nat} (h : Cites d t P) : Mentions d t P := by
  obtain ⟨ns, hs, rfl⟩ := h
  exact ⟨_, hs, rfl⟩

theorem Mentions.cited_lexemes {d : Dialect} {t : String} {P : Set Nat} (h : Mentions d t P) :
    d.cited (d.lexemes t) = P := by
  obtain ⟨ls, hs, rfl⟩ := h
  have hrun := hs [] boundary_nil
  rw [List.append_nil, run, finish, List.append_nil] at hrun
  rw [Dialect.lexemes, hrun]

theorem Mentions.eq_empty {d : Dialect} {P : Set Nat} (h : Mentions d "" P) : P = ∅ := by
  rw [← h.cited_lexemes]
  simp [Dialect.lexemes, run, finish]

namespace Cites

variable {d : Dialect} {s t : String} {P Q : Set Nat}

theorem of_eq (h : Cites d t P) (heq : P = Q) : Cites d t Q := heq ▸ h

/-- A text without placeholders. -/
theorem none {ns : List Nest} (h : Spells d t ns) (hns : d.cited (Nest.lexemesAll ns) = ∅) :
    Cites d t ∅ := ⟨ns, h, hns⟩

theorem word {w : String} (h : Text.isPlainName w.toList = true) : Cites d w ∅ :=
  none (.word h) (by simp)

theorem empty : Cites d "" ∅ := none .empty (by simp)

theorem form (h : Literal.Form d t.toList) : Cites d t ∅ := by
  obtain ⟨ns, hs, hlit⟩ := spells_form h
  exact none hs (Nest.cited_isLiteral d hlit)

theorem placeholder (n : Nat) : Cites d (d.placeholder n) {n} :=
  ⟨_, spells_placeholder n, by simp [Nest.lexemes]⟩

theorem column (s : Scope) (f : Field) : Cites s.dialect (s.column f) ∅ :=
  none (spells_column s f) (Nest.cited_pathNests _ _)

theorem truth (b : Bool) : Cites d (if b then "1=1" else "1=0") ∅ :=
  none (spells_truth b) (by simp [truthNests, Nest.lexemes])

theorem int (n : Int) : Cites d (toString n) ∅ := none (spells_int n) (Nest.cited_intNests d n)

/-! ### Texts put together -/

theorem group (h : Cites d s P) : Cites d ("(" ++ s ++ ")") P := by
  obtain ⟨ns, hs, rfl⟩ := h
  exact ⟨_, hs.group, by simp⟩

/-- Two texts with a word between them. -/
theorem infixed {w : String} (hw : Text.isPlainName w.toList = true) (hs : Cites d s P)
    (ht : Cites d t Q) : Cites d (s ++ " " ++ w ++ " " ++ t) (P ∪ Q) := by
  obtain ⟨ns, hs, rfl⟩ := hs
  obtain ⟨ms, ht, rfl⟩ := ht
  exact ⟨_, .infixed (.word hw) hs ht, by simp⟩

theorem pair (hs : Cites d s P) (ht : Cites d t Q) : Cites d (s ++ "," ++ t) (P ∪ Q) := by
  obtain ⟨ns, hs, rfl⟩ := hs
  obtain ⟨ms, ht, rfl⟩ := ht
  exact ⟨_, hs.pair ht, by simp⟩

theorem list (hs : Cites d s P) (ht : Cites d t Q) : Cites d (s ++ ", " ++ t) (P ∪ Q) := by
  obtain ⟨ns, hs, rfl⟩ := hs
  obtain ⟨ms, ht, rfl⟩ := ht
  exact ⟨_, hs.list ht, by simp⟩

/-- A function of a text. -/
theorem apply (f : String) (hf : isFunctionName f = true) (hs : Cites d s P) :
    Cites d (f ++ "(" ++ s ++ ")") P := by
  obtain ⟨ns, hs, rfl⟩ := hs
  exact ⟨_, spells_apply f hf hs, by simp⟩

/-- An operator between two texts, in parentheses. -/
theorem infixText {sign : String} {n : Nest} (hsign : Spells d sign [n]) (hn : d.cited n.lexemes = ∅)
    (hs : Cites d s P) (ht : Cites d t Q) : Cites d (Dialect.infixText s sign t) (P ∪ Q) := by
  obtain ⟨ns, hs, rfl⟩ := hs
  obtain ⟨ms, ht, rfl⟩ := ht
  exact ⟨_, (delimited_infixText hsign hs ht).spells, by simp [hn]⟩

/-- One more text in front of texts with commas between them. -/
theorem joinCons {ts : List String} (ht : Cites d t P) (hts : Cites d (Text.joinWith "," ts) Q) :
    Cites d (Text.joinWith "," (t :: ts)) (P ∪ Q) := by
  cases ts with
  | nil =>
      rw [hts.mentions.eq_empty, Set.union_empty]
      exact ht
  | cons u ts => exact ht.pair hts

theorem wrap (h : Cites d s P) : Cites d (ModelSql.wrap s) P := by
  unfold ModelSql.wrap
  split
  · exact h
  · exact h.group

theorem negative (h : Cites d s P) : Cites d ("-" ++ s) P := by
  obtain ⟨ns, hs, rfl⟩ := h
  exact ⟨_, hs.negative, by simp⟩

theorem not (h : Cites d s P) : Cites d ("NOT " ++ s) P := by
  obtain ⟨ns, hs, rfl⟩ := h
  exact ⟨_, spells_not hs, by simp⟩

theorem equal (hs : Cites d s P) (ht : Cites d t Q) : Cites d (s ++ " = " ++ t) (P ∪ Q) := by
  obtain ⟨ns, hs, rfl⟩ := hs
  obtain ⟨ms, ht, rfl⟩ := ht
  exact ⟨_, spells_equal hs ht, by simp⟩

theorem like (hs : Cites d s P) (ht : Cites d t Q) : Cites d (s ++ " LIKE " ++ t) (P ∪ Q) := by
  obtain ⟨ns, hs, rfl⟩ := hs
  obtain ⟨ms, ht, rfl⟩ := ht
  exact ⟨_, spells_like hs ht, by simp⟩

theorem member (hs : Cites d s P) (ht : Cites d t Q) : Cites d (s ++ " IN (" ++ t ++ ")") (P ∪ Q) := by
  obtain ⟨ns, hs, rfl⟩ := hs
  obtain ⟨ms, ht, rfl⟩ := ht
  exact ⟨_, spells_in hs ht, by simp⟩

theorem nullTest (op : BinaryOp) (h : Cites d s P) :
    Cites d ("(" ++ s ++ (if op = .eq then " IS NULL" else " IS NOT NULL") ++ ")") P := by
  obtain ⟨ns, hs, rfl⟩ := h
  refine ⟨_, spells_nullTest op hs, ?_⟩
  unfold nullNests
  split <;> simp

theorem desc (h : Cites d s P) : Cites d (s ++ " DESC") P := by
  obtain ⟨ns, hs, rfl⟩ := h
  have hdesc : Spells d "DESC" [wordNest "DESC"] := .word (by decide)
  have hsplit : " DESC" = " " ++ "DESC" := by decide
  rw [hsplit, ← String.append_assoc]
  exact ⟨_, hs.spaced hdesc, by simp⟩

theorem named (name : String) (h : Cites d s P) : Cites d (s ++ " AS " ++ d.quoteName name) P := by
  have hname : Cites d (d.quoteName name) ∅ := none (spells_quoteName name) (by simp [Nest.lexemes])
  have hsplit : " AS " = " " ++ ("AS" ++ " ") := by decide
  have hall := h.infixed (w := "AS") (by decide) hname
  rw [Set.union_empty] at hall
  simpa only [hsplit, String.append_assoc] using hall

theorem countAll : Cites d "COUNT(*)" ∅ := by
  have hstar : Spells d "*" [signNest "*"] := spells_sign fun _ _ => rfl
  have hcount : "COUNT(*)" = "COUNT" ++ "(" ++ "*" ++ ")" := by decide
  rw [hcount]
  exact apply "COUNT" (by decide) (none hstar (by simp))

/-! ### Functions -/

theorem trim (h : Cites d s P) : Cites d (d.trim s) P := by
  unfold Dialect.trim
  cases d.kind with
  | sqlserver => exact apply "LTRIM" (by decide) (apply "RTRIM" (by decide) h)
  | _ => exact apply "TRIM" (by decide) h

/-- `TRIM` with the end that it is told of. -/
theorem trimSide (side : String) (hside : Text.isPlainName side.toList = true) (h : Cites d s P) :
    Cites d ("TRIM(" ++ (side ++ " " ++ "FROM" ++ " " ++ s) ++ ")") P := by
  have hname : "TRIM(" = "TRIM" ++ "(" := by decide
  rw [hname]
  exact apply "TRIM" (by decide) (((word hside).infixed (by decide) h).of_eq (Set.empty_union P))

theorem trimStart (h : Cites d s P) : Cites d (d.trimStart s) P := by
  unfold Dialect.trimStart
  cases d.kind with
  | firebird =>
      have hhead : "TRIM(LEADING FROM " = "TRIM(" ++ ("LEADING" ++ " " ++ "FROM" ++ " ") := by decide
      have hall := trimSide "LEADING" (by decide) h
      rwa [← String.append_assoc, ← hhead] at hall
  | _ => exact apply "LTRIM" (by decide) h

theorem trimEnd (h : Cites d s P) : Cites d (d.trimEnd s) P := by
  unfold Dialect.trimEnd
  cases d.kind with
  | firebird =>
      have hhead : "TRIM(TRAILING FROM " = "TRIM(" ++ ("TRAILING" ++ " " ++ "FROM" ++ " ") := by decide
      have hall := trimSide "TRAILING" (by decide) h
      rwa [← String.append_assoc, ← hhead] at hall
  | _ => exact apply "RTRIM" (by decide) h

/-- The words of `SUBSTRING` between its arguments. -/
theorem substringWords (h : Cites d s P) (start : Int) (length : Option Int) :
    Cites d ("SUBSTRING(" ++ s ++ " FROM " ++ toString start ++
      (match length with
        | some n => " FOR " ++ toString n
        | .none => "") ++ ")") P := by
  have hname : "SUBSTRING(" = "SUBSTRING" ++ "(" := by decide
  have hfrom : " FROM " = " " ++ ("FROM" ++ " ") := by decide
  have hfor : " FOR " = " " ++ ("FOR" ++ " ") := by decide
  have hstart := h.infixed (w := "FROM") (by decide) (int start)
  cases length with
  | none =>
      have hall := apply "SUBSTRING" (by decide) hstart
      simpa [hname, hfrom, String.append_assoc] using hall
  | some n =>
      have hall := apply "SUBSTRING" (by decide) (hstart.infixed (w := "FOR") (by decide) (int n))
      simpa [hname, hfrom, hfor, String.append_assoc] using hall

/-- The arguments of `SUBSTRING` with commas between them. -/
theorem substringList {f : String} (hf : isFunctionName f = true) (h : Cites d s P) (start : Int)
    (length : Option Int) :
    Cites d (f ++ "(" ++ s ++ ", " ++ toString start ++
      (match length with
        | some n => ", " ++ toString n
        | .none => if d.kind = .sqlserver then ", " ++ Dialect.apply "LEN" s else "") ++ ")") P := by
  have hstart : Cites d (s ++ ", " ++ toString start) P :=
    (h.list (int start)).of_eq (Set.union_empty P)
  have hmore {t : String} (ht : Cites d t ∅ ∨ Cites d t P) :
      Cites d (f ++ "(" ++ (s ++ ", " ++ toString start ++ ", " ++ t) ++ ")") P := by
    refine apply f hf ?_
    rcases ht with ht | ht
    · exact (hstart.list ht).of_eq (Set.union_empty P)
    · exact (hstart.list ht).of_eq (Set.union_self P)
  cases length with
  | some n => simpa [String.append_assoc] using hmore (.inl (int n))
  | none =>
      dsimp only
      split
      · -- the whole length is that of the text, which stands there once more
        simpa [Dialect.apply, String.append_assoc] using
          hmore (.inr (apply "LEN" (by decide) h))
      · simpa [String.append_assoc] using apply f hf hstart

theorem substring (h : Cites d s P) (start : Int) (length : Option Int) :
    Cites d (d.substring s start length) P := by
  have hlong : "SUBSTRING(" = "SUBSTRING" ++ "(" := by decide
  have hshort : "SUBSTR(" = "SUBSTR" ++ "(" := by decide
  unfold Dialect.substring
  split
  · exact substringWords h start length
  · exact substringWords h start length
  · split
    · rw [hshort]
      exact substringList (by decide) h start length
    · rw [hlong]
      exact substringList (by decide) h start length

/-! ### Operators -/

variable (hs : Cites d s P) (ht : Cites d t Q)

include hs ht

theorem between {sign : String} (hsign : ∀ e, Lexer.Feeds e .blank sign.toList [] (.sign sign.toList)) :
    Cites d (Dialect.infixText s sign t) (P ∪ Q) :=
  infixText (spells_sign hsign) (by simp) hs ht

theorem modulo : Cites d (d.modulo s t) (P ∪ Q) := by
  have hname : "MOD(" = "MOD" ++ "(" := by decide
  unfold Dialect.modulo
  cases d.kind with
  | sqlserver => exact hs.between ht fun _ _ => rfl
  | sqlite => exact hs.between ht fun _ _ => rfl
  | _ => simpa [hname, String.append_assoc] using apply "MOD" (by decide) (hs.pair ht)

theorem coalesce : Cites d (d.coalesce s t) (P ∪ Q) := by
  have hname : "COALESCE(" = "COALESCE" ++ "(" := by decide
  unfold Dialect.coalesce
  simpa [hname, String.append_assoc] using apply "COALESCE" (by decide) (hs.pair ht)

theorem concat : Cites d (d.concat s t) (P ∪ Q) := by
  have hname : "CONCAT(" = "CONCAT" ++ "(" := by decide
  unfold Dialect.concat
  cases d.kind with
  | mysql => simpa [hname, String.append_assoc] using apply "CONCAT" (by decide) (hs.list ht)
  | sqlserver => exact hs.between ht fun _ _ => rfl
  | _ => exact hs.between ht fun _ _ => rfl

theorem bitwise {op : BinaryOp} (hop : op.isBitwise = true) :
    Cites d (d.bitwise op s t) (P ∪ Q) := by
  have hname : "POWER(2, " = "POWER" ++ "(" ++ (toString (2 : Int) ++ ", ") := by decide
  have hpower : Cites d ("POWER(2, " ++ t ++ ")") Q := by
    have hall := apply "POWER" (by decide) ((int 2).list ht)
    rw [Set.empty_union] at hall
    rwa [← String.append_assoc, ← hname] at hall
  have hfunction : isFunctionName (Dialect.bitFunction op) = true := by
    cases op <;> decide
  have hsign : ∀ e, Lexer.Feeds e .blank op.sign.toList [] (.sign op.sign.toList) := by
    cases op with
    | bitAnd | bitOr | bitXor | shl | shr => exact fun _ _ => rfl
    | _ => cases hop
  unfold Dialect.bitwise
  split
  · simpa [String.append_assoc] using apply _ hfunction (hs.list ht)
  · exact hs.between ht fun _ _ => rfl
  · -- the operands stand twice
    have hor : Cites d (Dialect.infixText s "|" t) (P ∪ Q) := hs.between ht fun _ _ => rfl
    have hand : Cites d (Dialect.infixText s "&" t) (P ∪ Q) := hs.between ht fun _ _ => rfl
    have hboth : Cites d (Dialect.infixText (Dialect.infixText s "|" t) "-" (Dialect.infixText s "&" t))
        (P ∪ Q ∪ (P ∪ Q)) := hor.between hand fun _ _ => rfl
    exact hboth.of_eq (Set.union_self _)
  · exact hs.between hpower fun _ _ => rfl
  · exact hs.between hpower fun _ _ => rfl
  · exact hs.between ht hsign

/-- Two conditions with a connective between them. -/
theorem logical {op : BinaryOp} (hop : op.isLogical = true) :
    Cites d (Dialect.infixText s op.sign t) (P ∪ Q) := by
  have hne : op ≠ .coalesce := by
    rintro rfl
    cases hop
  refine infixText (spells_operator hne) ?_ hs ht
  simp [Nest.lexemes, BinaryOp.token, hop]

/-- **An operator on operands**, as each database has it. -/
theorem operator {op : BinaryOp} (text : Bool) (hop : op.isLogical = false) :
    Cites d (d.operatorText op text s t) (P ∪ Q) := by
  cases op with
  | and | or => cases hop
  | bitAnd | bitOr | bitXor | shl | shr => exact hs.bitwise ht rfl
  | mod => exact hs.modulo ht
  | coalesce => exact hs.coalesce ht
  | add =>
      cases text with
      | true => exact hs.concat ht
      | false => exact hs.between ht fun _ _ => rfl
  | _ => exact hs.between ht fun _ _ => rfl

end Cites

/-! ### Texts without outer parentheses -/

section

variable {escapes : Bool} {m : Mode} {cs : List Char}

/-- The modes that reading leads to: nothing that is quoted ends with a delimiter. -/
def Lexer.isSound : Mode → Bool
  | .name close _ | .nameEnd close _ => !isDelimiter close
  | _ => true

theorem isSound_start (c : Char) : isSound (start c).2 = true := by
  unfold start
  repeat' split
  all_goals first | rfl | skip
  rename_i hc
  rcases hc with rfl | rfl <;> rfl

theorem isSound_step (escapes : Bool) (h : isSound m = true) (c : Char) :
    isSound (step escapes m c).2 = true := by
  have hstart : isSound (start c).2 = true := isSound_start c
  cases m <;> unfold step <;> dsimp only <;> repeat' split
  all_goals first | exact hstart | exact h

/-- **Every text is read to some end.** -/
theorem exists_feeds (escapes : Bool) (h : isSound m = true) (cs : List Char) :
    ∃ ls m', Feeds escapes m cs ls m' ∧ isSound m' = true := by
  induction cs generalizing m with
  | nil => exact ⟨[], m, .nil, h⟩
  | cons c cs ih =>
      obtain ⟨ls, m', hfeeds, hm'⟩ := ih (isSound_step escapes h c)
      exact ⟨_, m', hfeeds.cons, hm'⟩

theorem Lexes.unique {ls ks : List Lexeme} (h : Lexes escapes cs ls) (h' : Lexes escapes cs ks) :
    ls = ks := List.append_cancel_right ((h [] boundary_nil).symm.trans (h' [] boundary_nil))

/-- Inside a quotation, a blank behind a closing parenthesis is read as part of it. -/
theorem run_quotation (hsound : isSound m = true) (hm : isReady m = false) :
    run escapes m [')'] ≠ run escapes m [')', ' '] := by
  cases m with
  | name close cs =>
      have hclose : ∀ c, isDelimiter c = true → c ≠ close := by
        rintro c hc rfl
        simp [isSound, hc] at hsound
      simp [run, step, finish, hclose ')' (by decide), hclose ' ' (by decide)]
  | nameEnd close cs =>
      simp only [isSound, isReady] at hsound hm
      rw [hsound] at hm
      cases hm
  | text mark cs => simp [run, step, finish]
  | escape mark cs => simp [run, step, finish]
  | _ => cases hm

/-- **What stands in parentheses is read on its own** where the text with them is, whether or not it nests. -/
theorem Lexes.of_group {ls : List Lexeme} (h : Lexes escapes ('(' :: cs ++ [')']) ls) :
    ∃ ks, Lexes escapes cs ks ∧ ls = .opening :: ks ++ [.closing] := by
  obtain ⟨ks, m, hfeeds, hsound⟩ := exists_feeds escapes (m := .blank) rfl cs
  cases hm : isReady m with
  | true =>
      have hcs : Lexes escapes cs (ks ++ finish m) := .of_feeds hfeeds hm
      exact ⟨_, hcs, h.unique hcs.group⟩
  | false =>
      -- the end of the text would be inside a quotation, and what follows would belong to it
      have hrun (rest : List Char) : run escapes .blank ('(' :: cs ++ [')'] ++ rest) =
          .opening :: (ks ++ run escapes m (')' :: rest)) := by
        have hopen : step escapes .blank '(' = ([.opening], .blank) := rfl
        rw [List.append_assoc, List.cons_append, run, hopen, hfeeds]
        rfl
      have hnone := h [] boundary_nil
      have hblank := h [' '] (boundary_cons (by decide) [])
      rw [hrun] at hnone hblank
      have heq : run escapes m [')'] = run escapes m [')', ' '] := by
        have hall := hnone.trans hblank.symm
        simpa using hall
      exact absurd heq (run_quotation hsound hm)

/-- What is wrapped is a text between parentheses. -/
theorem eq_of_isWrapped (h : isWrapped cs = true) : cs = '(' :: (cs.drop 1).dropLast ++ [')'] := by
  simp only [isWrapped, Bool.and_eq_true, beq_iff_eq] at h
  obtain ⟨⟨hhead, hlast⟩, -⟩ := h
  cases cs with
  | nil => cases hhead
  | cons c cs =>
      cases hhead
      cases cs using List.reverseRecOn with
      | nil => cases hlast
      | append_singleton cs x =>
          rw [← List.cons_append, List.getLast?_concat, Option.some.injEq] at hlast
          rw [hlast]
          simp

end

/-! ### Clauses -/

namespace Mentions

variable {d : Dialect} {s t : String} {P Q : Set Nat}

/-- **Taking outer parentheses away leaves the placeholders as they are.** -/
theorem stripOuter (h : Mentions d t P) : Mentions d (ModelSql.stripOuter t) P := by
  unfold ModelSql.stripOuter
  split
  · rename_i hw
    obtain ⟨ls, hs, rfl⟩ := h
    rw [eq_of_isWrapped hw] at hs
    obtain ⟨ks, hks, rfl⟩ := hs.of_group
    exact ⟨ks, by rwa [String.toList_ofList], by simp⟩
  · exact h

/-- Two texts, the second one starting with a delimiter. -/
theorem append (hs : Mentions d s P) (ht : Mentions d t Q) (hstart : Starts t.toList) :
    Mentions d (s ++ t) (P ∪ Q) := by
  obtain ⟨ls, hs, rfl⟩ := hs
  obtain ⟨ks, ht, rfl⟩ := ht
  exact ⟨_, by rw [String.toList_append]; exact hs.append ht hstart, by simp⟩

theorem space (h : Mentions d s P) : Mentions d (" " ++ s) P := by
  obtain ⟨ls, hs, rfl⟩ := h
  exact ⟨ls, by rw [String.toList_append]; exact hs.space, rfl⟩

theorem newline (h : Mentions d s P) : Mentions d ("\n" ++ s) P := by
  obtain ⟨ls, hs, rfl⟩ := h
  exact ⟨ls, by rw [String.toList_append]; exact hs.delimiter rfl, rfl⟩

theorem comma (h : Mentions d s P) : Mentions d ("," ++ s) P := by
  obtain ⟨ls, hs, rfl⟩ := h
  exact ⟨_, by rw [String.toList_append]; exact hs.comma, by simp⟩

/-- A keyword in front of a text. -/
theorem keyword {w head : String} (hhead : head = w ++ " ") (hw : Text.isPlainName w.toList = true)
    (h : Mentions d s P) : Mentions d (head ++ s) P := by
  have hall := (Cites.word hw).mentions.append h.space (Spells.starts_space s)
  rwa [Set.empty_union, ← String.append_assoc, ← hhead] at hall

/-- `GROUP BY` or `ORDER BY` in front of a text. -/
theorem keywordBy {w head : String}
    (hhead : head = w ++ " " ++ ("BY" ++ " ")) (hw : Text.isPlainName w.toList = true)
    (h : Mentions d s P) : Mentions d (head ++ s) P := by
  rw [hhead, String.append_assoc]
  exact (h.keyword rfl (by decide)).keyword rfl hw

/-- A keyword behind a text. -/
theorem behind {w tail : String} (htail : tail = " " ++ w) (hw : Text.isPlainName w.toList = true)
    (h : Mentions d s P) : Mentions d (s ++ tail) P := by
  have hall := h.append (Cites.word hw).mentions.space (Spells.starts_space w)
  rwa [Set.union_empty, ← htail] at hall

/-- One more text in front of texts with commas between them. -/
theorem joinCons {ts : List String} (ht : Mentions d t P)
    (hts : Mentions d (Text.joinWith "," ts) Q) : Mentions d (Text.joinWith "," (t :: ts)) (P ∪ Q) := by
  cases ts with
  | nil =>
      rw [hts.eq_empty, Set.union_empty]
      exact ht
  | cons u ts =>
      rw [Text.joinWith_cons_cons, String.append_assoc]
      exact ht.append hts.comma (Spells.starts_comma _)

/-- Texts with commas between them, in two parts. -/
theorem joinAppend {ts us : List String} (hts : Mentions d (Text.joinWith "," ts) P)
    (hus : Mentions d (Text.joinWith "," us) Q) :
    Mentions d (Text.joinWith "," (ts ++ us)) (P ∪ Q) := by
  by_cases ht : ts = []
  · subst ht
    rw [hts.eq_empty, Set.empty_union]
    exact hus
  · by_cases hu : us = []
    · subst hu
      rw [hus.eq_empty, Set.union_empty, List.append_nil]
      exact hts
    · rw [Text.joinWith_append ht hu, String.append_assoc]
      exact hts.append hus.comma (Spells.starts_comma _)

end Mentions

end ModelSql
