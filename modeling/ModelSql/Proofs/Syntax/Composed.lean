/-
**What statements are made of.**

A text of a statement is put together from quiet characters, texts and names between quotes, and groups
in parentheses.  A property of texts that each of these keeps is one of everything written; the depth of
parentheses is one, and the test for an outer pair of them finds nothing but groups.

Main definitions:

* `Composed` — **a text made of these parts**.

Main results:

* `Composed.append`, `Composed.enclosed` — texts put together, and behind an opening parenthesis;
* `Composed.level` — **such a text is level**;
* `Composed.stripOuter` — **what is left without its outer parentheses is such a text**;
* `composed_form`, `composed_column`, `composed_operatorText`, … — what is made that way.
-/

import ModelSql.Proofs.Syntax.Depth
import ModelSql.Proofs.Syntax.Operator

set_option relaxedAutoImplicit false
set_option autoImplicit false

namespace ModelSql

/-! ### Texts made of parts -/

/-- **A text made of quiet characters, texts, names and groups**, from the first part on. -/
inductive Composed (d : Dialect) : List Char → Prop
  | nil : Composed d []
  | quiet {c : Char} {cs : List Char} (hc : isQuiet c = true) (h : Composed d cs) :
      Composed d (c :: cs)
  | quotation (qs : List Char) {cs : List Char} (h : Composed d cs) :
      Composed d (d.quotation qs ++ cs)
  | name (n : String) {cs : List Char} (h : Composed d cs) :
      Composed d ((d.quoteName n).toList ++ cs)
  | group {inner cs : List Char} (hi : Composed d inner) (h : Composed d cs) :
      Composed d ('(' :: inner ++ ')' :: cs)

namespace Composed

variable {d : Dialect} {cs ds : List Char}

theorem append (hc : Composed d cs) (hd : Composed d ds) : Composed d (cs ++ ds) := by
  induction hc with
  | nil => exact hd
  | quiet hc _ ih => exact .quiet hc ih
  | quotation qs _ ih =>
      rw [List.append_assoc]
      exact .quotation qs ih
  | name n _ ih =>
      rw [List.append_assoc]
      exact .name n ih
  | group hi _ _ ih =>
      rw [List.append_assoc, List.cons_append]
      exact .group hi ih

theorem of_all_isQuiet (h : cs.all isQuiet = true) : Composed d cs := by
  induction cs with
  | nil => exact .nil
  | cons c cs ih =>
      rw [List.all_cons, Bool.and_eq_true] at h
      exact .quiet h.1 (ih h.2)

theorem of_isPlainName (h : Text.isPlainName cs = true) : Composed d cs := by
  refine .of_all_isQuiet (List.all_eq_true.2 fun c hc => isQuiet_of_isNamePart ?_)
  exact List.all_eq_true.1 (all_isNamePart h) c hc

theorem of_quotation (qs : List Char) : Composed d (d.quotation qs) := by
  have h : Composed d (d.quotation qs ++ []) := .quotation qs .nil
  rwa [List.append_nil] at h

theorem of_name (n : String) : Composed d (d.quoteName n).toList := by
  have h : Composed d ((d.quoteName n).toList ++ []) := .name n .nil
  rwa [List.append_nil] at h

/-- **A text made of parts is level**: one case for each kind of part. -/
theorem level (hd : d.kind ≠ .sqlserver) (h : Composed d cs) : d.Level cs := by
  induction h with
  | nil => exact .nil
  | quiet hc _ ih => exact (Dialect.Level.quiet hd hc).append ih
  | quotation qs _ ih => exact (d.level_quotation qs).append ih
  | name n _ ih => exact (d.level_quoteName hd n).append ih
  | @group inner cs _ _ ihi ih =>
      have hall := ihi.group.append ih
      simpa using hall

/-- A text made of parts is balanced. -/
theorem balanced (hd : d.kind ≠ .sqlserver) (h : Composed d cs) : Balanced cs := by
  have hname (k : d.kind = .sqlserver) (n : String) : ']' ∉ n.toList := absurd k hd
  induction h with
  | nil => exact .nil
  | @quiet c cs hc _ ih =>
      have hquiet : Balanced [c] := .quiet (by simp [hc])
      exact hquiet.append ih
  | quotation qs _ ih => exact (neutral_quotation d qs).balanced.append ih
  | name n _ ih => exact (balanced_quoteName d fun k => hname k n).append ih
  | @group inner cs _ _ ihi ih =>
      have hall := ihi.group.append ih
      simpa using hall

/-- **What one pair of parentheses encloses is one group.** -/
theorem eq_group (hd : d.kind ≠ .sqlserver) (h : Composed d cs) (hw : isWrapped cs = true) :
    ∃ inner, cs = '(' :: inner ++ [')'] ∧ Composed d inner := by
  have hhead (hne : cs.head? ≠ some '(') : False := by
    rw [isWrapped_of_head hne] at hw
    cases hw
  cases h with
  | nil => exact (hhead (by simp)).elim
  | @quiet c cs hc _ =>
      refine (hhead ?_).elim
      rintro heq
      cases heq
      cases hc
  | quotation qs _ => exact (hhead (by simp [Dialect.quotation])).elim
  | name n _ =>
      obtain ⟨c, rest, hcs, hc⟩ := head_quoteName d n
      exact (hhead (by simpa [hcs] using hc)).elim
  | @group inner rest hi _ =>
      cases rest with
      | nil => exact ⟨inner, rfl, hi⟩
      | cons c rest =>
          -- with more behind it, the group is not all of the text
          rw [isWrapped_group_append (hi.balanced hd) (by simp)] at hw
          cases hw

variable {s t : String}

/-- **Taking an outer pair of parentheses away** leaves a text made of parts. -/
theorem stripOuter (hd : d.kind ≠ .sqlserver) (h : Composed d s.toList) :
    Composed d (ModelSql.stripOuter s).toList := by
  unfold ModelSql.stripOuter
  split
  · rename_i hw
    obtain ⟨inner, hs, hi⟩ := h.eq_group hd hw
    rw [String.toList_ofList, hs]
    simpa using hi
  · exact h

/-! ### Texts put together -/

theorem text_append (hs : Composed d s.toList) (ht : Composed d t.toList) :
    Composed d (s ++ t).toList := by
  rw [String.toList_append]
  exact hs.append ht

/-- Two texts with quiet characters between them. -/
theorem around {sep : String} (hs : Composed d s.toList) (hsep : sep.toList.all isQuiet = true)
    (ht : Composed d t.toList) : Composed d (s ++ sep ++ t).toList :=
  (hs.text_append (.of_all_isQuiet hsep)).text_append ht

/-- **A text behind a head that opens a parenthesis**, and has nothing else to close. -/
theorem enclosed (hs : Composed d s.toList) (head : String)
    (hhead : head.toList.filter (fun c => !isQuiet c) = ['(']) :
    Composed d (head ++ s ++ ")").toList := by
  obtain ⟨front, back, hsplit, hfront, -, hback⟩ := List.filter_eq_cons_iff.1 hhead
  have hquiet {xs : List Char} (hxs : ∀ x ∈ xs, ¬ (!isQuiet x) = true) : Composed d xs := by
    refine .of_all_isQuiet (List.all_eq_true.2 fun x hx => ?_)
    simpa using hxs x hx
  have hinner : Composed d (back ++ s.toList) :=
    (hquiet (List.filter_eq_nil_iff.1 hback)).append hs
  have hall := (hquiet hfront).append (.group hinner .nil)
  rw [String.toList_append, String.toList_append, hsplit]
  simpa using hall

theorem parenthesized (h : Composed d s.toList) : Composed d ("(" ++ s ++ ")").toList :=
  h.enclosed _ (by decide)

theorem wrap (h : Composed d s.toList) : Composed d (ModelSql.wrap s).toList := by
  unfold ModelSql.wrap
  split
  · exact h
  · exact h.parenthesized

/-- Texts with commas between them. -/
theorem joinWith {ts : List String} (h : ∀ t ∈ ts, Composed d t.toList) :
    Composed d (Text.joinWith "," ts).toList := by
  induction ts with
  | nil => exact .nil
  | cons t ts ih =>
      have ht := h t List.mem_cons_self
      have hts := ih fun u hu => h u (List.mem_cons_of_mem t hu)
      cases ts with
      | nil => exact ht
      | cons u ts =>
          rw [Text.joinWith_cons_cons]
          exact ht.around (by decide) hts

end Composed

/-! ### Literals, placeholders and columns -/

section

variable {d : Dialect}

/-- **Literals are made of parts.** -/
theorem composed_form {cs : List Char} (h : Literal.Form d cs) : Composed d cs := by
  cases h with
  | numeral h =>
      obtain ⟨negative, ds, hds, rfl⟩ := h
      have hsign : Composed d (if negative then ['-'] else []) :=
        .of_all_isQuiet (by cases negative <;> decide)
      exact hsign.append (.of_all_isQuiet (all_isQuiet_of_isNumeral hds))
  | word h =>
      have hall : ∀ w ∈ Literal.words, w.all isQuiet = true := by decide
      exact .of_all_isQuiet (hall cs h)
  | infinity => exact .of_all_isQuiet (by decide)
  | @text mark h cs =>
      have hall : ∀ m ∈ Literal.marks, m.all isQuiet = true := by decide
      exact (Composed.of_all_isQuiet (hall mark h)).append (.of_quotation cs)
  | uuid cs => exact (Composed.of_quotation cs).append (.of_all_isQuiet (by decide))
  | decode cs =>
      have hhex : d.quotation "hex".toList = "'hex'".toList :=
        (d.toList_bare (by decide) (by decide)).symm
      have hcomma : Composed d ", ".toList := .of_all_isQuiet (by decide)
      have hargs := (Composed.of_quotation cs).append (hcomma.append (.of_quotation "hex".toList))
      have hname : Composed d "decode".toList := .of_all_isQuiet (by decide)
      have hall := hname.append (.group hargs .nil)
      rw [hhex] at hall
      exact hall
  | cast cs =>
      have hname : Composed d "CAST".toList := .of_all_isQuiet (by decide)
      have htype : Composed d " AS UNIQUEIDENTIFIER".toList := .of_all_isQuiet (by decide)
      exact hname.append (.group ((Composed.of_quotation cs).append htype) .nil)

theorem composed_int (n : Int) : Composed d (toString n).toList := composed_form (.int n)

theorem composed_placeholder (n : Nat) : Composed d (d.placeholder n).toList := by
  have hmarks (k : DialectKind) : k.rules.parameterMark.toList.all isQuiet = true := by
    cases k <;> decide
  have hmark : Composed d d.rules.parameterMark.toList := .of_all_isQuiet (hmarks d.kind)
  rw [toList_placeholder]
  exact hmark.append (.of_all_isQuiet (all_isQuiet_of_isNumeral (Literal.isNumeral_toDigits n)))

theorem composed_qualified (schema : Option String) (name : String) :
    Composed d (d.qualified schema name).toList := by
  unfold Dialect.qualified
  split
  · exact (Composed.of_name _).around (by decide) (.of_name _)
  · exact .of_name _

/-- **Columns are made of parts**, with their tables or without. -/
theorem composed_column (s : Scope) (f : Field) : Composed s.dialect (s.column f).toList := by
  unfold Scope.column
  split
  · exact (composed_qualified _ _).around (by decide) (.of_name _)
  · exact .of_name _

/-! ### Operators and functions -/

variable {s t : String}

theorem BinaryOp.all_isQuiet_sign (op : BinaryOp) : op.sign.toList.all isQuiet = true := by
  cases op <;> decide

theorem composed_infixText {sign : String} (hs : Composed d s.toList)
    (hsign : sign.toList.all isQuiet = true) (ht : Composed d t.toList) :
    Composed d (Dialect.infixText s sign t).toList := by
  rw [infixText_eq]
  exact ((hs.around (by decide) (.of_all_isQuiet hsign)).around (by decide) ht).parenthesized

/-- A function of two arguments. -/
theorem composed_call {head sep : String} (hs : Composed d s.toList)
    (hhead : head.toList.filter (fun c => !isQuiet c) = ['(']) (hsep : sep.toList.all isQuiet = true)
    (ht : Composed d t.toList) : Composed d (head ++ s ++ sep ++ t ++ ")").toList := by
  have hall := (hs.around hsep ht).enclosed _ hhead
  simpa only [String.append_assoc] using hall

theorem composed_bitwise (op : BinaryOp) (hs : Composed d s.toList) (ht : Composed d t.toList) :
    Composed d (d.bitwise op s t).toList := by
  have hfunction (op : BinaryOp) :
      (Dialect.bitFunction op ++ "(").toList.filter (fun c => !isQuiet c) = ['('] := by
    cases op <;> decide
  have hpower : Composed d ("POWER(2, " ++ t ++ ")").toList := ht.enclosed _ (by decide)
  unfold Dialect.bitwise
  split
  · exact composed_call hs (hfunction _) (by decide) ht
  · exact composed_infixText hs (by decide) ht
  · exact composed_infixText (composed_infixText hs (by decide) ht) (by decide)
      (composed_infixText hs (by decide) ht)
  · exact composed_infixText hs (by decide) hpower
  · exact composed_infixText hs (by decide) hpower
  · exact composed_infixText hs (BinaryOp.all_isQuiet_sign _) ht

/-- **What operators write is made of parts.** -/
theorem composed_operatorText (op : BinaryOp) (text : Bool) (hs : Composed d s.toList)
    (ht : Composed d t.toList) : Composed d (d.operatorText op text s t).toList := by
  have hinfix : Composed d (Dialect.infixText s op.sign t).toList :=
    composed_infixText hs op.all_isQuiet_sign ht
  have hconcat : Composed d (d.concat s t).toList := by
    unfold Dialect.concat
    split
    · exact composed_call hs (by decide) (by decide) ht
    · exact composed_infixText hs (by decide) ht
    · exact composed_infixText hs (by decide) ht
  have hmodulo : Composed d (d.modulo s t).toList := by
    unfold Dialect.modulo
    split
    · exact composed_infixText hs (by decide) ht
    · exact composed_infixText hs (by decide) ht
    · exact composed_call hs (by decide) (by decide) ht
  unfold Dialect.operatorText
  split
  · split
    · exact hconcat
    · exact hinfix
  · exact hmodulo
  · exact composed_call hs (by decide) (by decide) ht
  · split
    · exact composed_bitwise op hs ht
    · exact hinfix

/-- A function of one argument. -/
theorem composed_apply {f : String} (hf : isFunctionName f = true) (hs : Composed d s.toList) :
    Composed d (Dialect.apply f s).toList := by
  rw [isFunctionName, Bool.and_eq_true] at hf
  have hname : Composed d f.toList := .of_isPlainName hf.1
  have hall := hname.text_append hs.parenthesized
  rwa [← String.append_assoc, ← String.append_assoc] at hall

theorem composed_trim (hs : Composed d s.toList) : Composed d (d.trim s).toList := by
  unfold Dialect.trim
  split
  · exact composed_apply (by decide) (composed_apply (by decide) hs)
  · exact composed_apply (by decide) hs

theorem composed_trimStart (hs : Composed d s.toList) : Composed d (d.trimStart s).toList := by
  unfold Dialect.trimStart
  split
  · exact hs.enclosed _ (by decide)
  · exact composed_apply (by decide) hs

theorem composed_trimEnd (hs : Composed d s.toList) : Composed d (d.trimEnd s).toList := by
  unfold Dialect.trimEnd
  split
  · exact hs.enclosed _ (by decide)
  · exact composed_apply (by decide) hs

theorem composed_substring (hs : Composed d s.toList) (start : Int) (length : Option Int) :
    Composed d (d.substring s start length).toList := by
  have hstart {sep : String} (hsep : sep.toList.all isQuiet = true) :
      Composed d (s ++ sep ++ toString start).toList := hs.around hsep (composed_int start)
  have hwords (tail : String) (ht : Composed d tail.toList) :
      Composed d ("SUBSTRING(" ++ s ++ " FROM " ++ toString start ++ tail ++ ")").toList := by
    have hargs : Composed d (s ++ " FROM " ++ toString start ++ tail).toList :=
      (hstart (by decide)).text_append ht
    have hall := hargs.enclosed "SUBSTRING(" (by decide)
    simpa only [String.append_assoc] using hall
  have hlist (tail : String) (ht : Composed d tail.toList) :
      Composed d ((if d.kind = .sqlite then "SUBSTR(" else "SUBSTRING(") ++ s ++ ", " ++
        toString start ++ tail ++ ")").toList := by
    have hhead : (if d.kind = .sqlite then "SUBSTR(" else "SUBSTRING(").toList.filter
        (fun c => !isQuiet c) = ['('] := by
      split <;> decide
    have hargs : Composed d (s ++ ", " ++ toString start ++ tail).toList :=
      (hstart (by decide)).text_append ht
    have hall := hargs.enclosed _ hhead
    simpa only [String.append_assoc] using hall
  -- a length behind its word or its comma
  have hlength {sep : String} (hsep : sep.toList.all isQuiet = true) (n : Int) :
      Composed d (sep ++ toString n).toList :=
    (Composed.of_all_isQuiet hsep).text_append (composed_int n)
  have hrest : Composed d
      (if d.kind = .sqlserver then ", " ++ Dialect.apply "LEN" s else "").toList := by
    split
    · exact (Composed.of_all_isQuiet (by decide)).text_append (composed_apply (by decide) hs)
    · exact .nil
  unfold Dialect.substring
  cases length with
  | none =>
      split
      · exact hwords _ .nil
      · exact hwords _ .nil
      · exact hlist _ hrest
  | some n =>
      split
      · exact hwords _ (hlength (by decide) n)
      · exact hwords _ (hlength (by decide) n)
      · exact hlist _ (hlength (by decide) n)

end

end ModelSql
