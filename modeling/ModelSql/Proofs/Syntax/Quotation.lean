/-
**Texts and names, read back.**

What stands between quotes is read one character at a time: a doubled closing quote stands for one, a
single one ends what is read, and where backslashes escape, one is read together with the character
behind it.  The readers here follow what the databases do, and know nothing of how statements are
written; that they undo it is what keeps a text or a name from ending early.

Main definitions:

* `Quotation.unescape`, `Quotation.read` — escapes, and **what stands up to a closing quote**;
* `Dialect.readText`, `Dialect.readName` — one text, or one quoted name, at the start of some characters;
* `Dialect.IsBare` — the names that are written without quotes.

Main results:

* `Quotation.read_doubleQuotes`, `Quotation.read_backslashes` — doubling is undone, with escapes too;
* `Dialect.readText_textLiteral` — **texts are read back**, and nothing behind them is touched;
* `Dialect.quoteName_identifies` — **names are bare or read back**, and no two are written alike.
-/

import ModelSql.Proofs.Syntax.Lexer

set_option relaxedAutoImplicit false
set_option autoImplicit false

namespace ModelSql

namespace Quotation

/-! ### Up to the closing quote -/

/-- What a backslash stands for together with the character behind it.  It is kept in front of the two
signs that stand for anything in a pattern. -/
def unescape : Char → List Char
  | '0' => ['\x00']
  | 'b' => ['\x08']
  | 'n' => ['\n']
  | 'r' => ['\r']
  | 't' => ['\t']
  | 'Z' => ['\x1a']
  | '%' => ['\\', '%']
  | '_' => ['\\', '_']
  | c => [c]

/-- Characters in front of what has been read. -/
def before (cs : List Char) (r : List Char × List Char) : List Char × List Char := (cs ++ r.1, r.2)

/-- **What is read up to a closing quote**, and what stands behind it; nothing, when there is none. -/
def read (escapes : Bool) (close : Char) : List Char → Option (List Char × List Char)
  | [] => none
  | [c] => if c = close then some ([], []) else none
  | c :: e :: cs =>
    if c = close then
      if e = close then (read escapes close cs).map (before [close]) else some ([], e :: cs)
    else if escapes && c == '\\' then (read escapes close cs).map (before (unescape e))
    else (read escapes close (e :: cs)).map (before [c])

section

variable {escapes : Bool} {close : Char}

/-- A quote with none behind it ends what is read. -/
theorem read_close {rest : List Char} (h : rest.head? ≠ some close) :
    read escapes close (close :: rest) = some ([], rest) := by
  cases rest with
  | nil => rw [read, if_pos rfl]
  | cons c cs =>
      have hc : c ≠ close := by simpa using h
      rw [read, if_pos rfl, if_neg hc]

/-- Two quotes stand for one. -/
theorem read_doubled (cs : List Char) :
    read escapes close (close :: close :: cs) = (read escapes close cs).map (before [close]) := by
  rw [read, if_pos rfl, if_pos rfl]

/-- Two backslashes stand for one. -/
theorem read_backslash (h : '\\' ≠ close) (cs : List Char) :
    read true close ('\\' :: '\\' :: cs) = (read true close cs).map (before ['\\']) := by
  rw [read, if_neg h]
  rfl

/-- Any other character stands for itself. -/
theorem read_plain {c : Char} (hc : c ≠ close) (hb : (escapes && c == '\\') = false) (cs : List Char) :
    read escapes close (c :: cs) = (read escapes close cs).map (before [c]) := by
  cases cs with
  | nil => simp [read, hc]
  | cons e cs => rw [read, if_neg hc, hb, if_neg Bool.false_ne_true]

end

/-! ### Doubling is undone -/

section

variable {close : Char} {rest : List Char}

/-- **Doubled quotes are read back.** -/
theorem read_doubleQuotes (h : rest.head? ≠ some close) (cs : List Char) :
    read false close (Dialect.doubleQuotes close cs ++ close :: rest) = some (cs, rest) := by
  induction cs with
  | nil => exact read_close h
  | cons c cs ih =>
      rw [Dialect.doubleQuotes]
      split
      · rename_i hc
        rw [List.cons_append, List.cons_append, hc, read_doubled, ih]
        rfl
      · rename_i hc
        rw [List.cons_append, read_plain hc rfl, ih]
        rfl

/-- **Doubled backslashes and doubled quotes are read back by one pass**, in whatever order they
stand. -/
theorem read_backslashes (hclose : '\\' ≠ close) (h : rest.head? ≠ some close) (cs : List Char) :
    read true close (Dialect.doubleQuotes close (Dialect.doubleQuotes '\\' cs) ++ close :: rest) =
      some (cs, rest) := by
  induction cs with
  | nil => exact read_close h
  | cons c cs ih =>
      by_cases hb : c = '\\'
      · -- the quotes are doubled last, and none of the two backslashes is one
        subst hb
        rw [Dialect.doubleQuotes, if_pos rfl, Dialect.doubleQuotes, if_neg hclose,
          Dialect.doubleQuotes, if_neg hclose, List.cons_append, List.cons_append,
          read_backslash hclose, ih]
        rfl
      · rw [Dialect.doubleQuotes, if_neg hb, Dialect.doubleQuotes]
        split
        · rename_i hc
          rw [List.cons_append, List.cons_append, hc, read_doubled, ih]
          rfl
        · rename_i hc
          have hplain : (true && c == '\\') = false := by simpa using hb
          rw [List.cons_append, read_plain hc hplain, ih]
          rfl

end

end Quotation

namespace Dialect

variable (d : Dialect)

/-! ### Texts -/

/-- **The text at the start of some characters**: what it says, and what stands behind it.  SQL Server
takes the letter `N` in front of the quote. -/
def readText : List Char → Option (List Char × List Char)
  | '\'' :: cs => Quotation.read d.escapes '\'' cs
  | 'N' :: '\'' :: cs =>
    if d.kind = .sqlserver then Quotation.read d.escapes '\'' cs else none
  | _ => none

/-- What stands between the quotes of a text is read back. -/
theorem read_quoted {rest : List Char} (h : rest.head? ≠ some '\'') (cs : List Char) :
    Quotation.read d.escapes '\'' (doubleQuotes '\'' (d.escape cs) ++ '\'' :: rest) =
      some (cs, rest) := by
  unfold escape escapes
  split
  · rename_i hk
    rw [hk]
    exact Quotation.read_backslashes (by decide) h cs
  · rename_i hk
    rw [beq_false_of_ne hk]
    exact Quotation.read_doubleQuotes h cs

theorem readText_quotation {rest : List Char} (h : rest.head? ≠ some '\'') (cs : List Char) :
    d.readText (d.quotation cs ++ rest) = some (cs, rest) := by
  rw [quotation, List.append_assoc]
  exact d.read_quoted h cs

/-- The mark of a dialect in front of a quotation belongs to the text. -/
theorem readText_textMark (cs rest : List Char) :
    d.readText (d.textMark ++ (d.quotation cs ++ rest)) = d.readText (d.quotation cs ++ rest) := by
  unfold textMark
  split
  · rename_i hmark
    exact if_pos hmark.1
  · rfl

theorem readText_toList (s : String) {rest : List Char} (h : rest.head? ≠ some '\'') :
    d.readText ((d.textLiteral s).toList ++ rest) = some (s.toList, rest) := by
  rw [toList_textLiteral, List.append_assoc, readText_textMark]
  exact d.readText_quotation h s.toList

/-- **Texts are read back**, whatever they hold, and what stands behind them is left as it is. -/
theorem readText_textLiteral (s t : String) (ht : t.toList.head? ≠ some '\'') :
    d.readText (d.textLiteral s ++ t).toList = some (s.toList, t.toList) := by
  rw [String.toList_append]
  exact d.readText_toList s ht

/-- Backslashes and quotes in a text of MySQL, with more of the statement behind it. -/
theorem readText_textLiteral_mixed :
    DialectKind.mysql.dialect.readText
        (DialectKind.mysql.dialect.textLiteral "\\'\\\\''" ++ " OR 1=1").toList =
      some ("\\'\\\\''".toList, " OR 1=1".toList) :=
  readText_textLiteral _ "\\'\\\\''" " OR 1=1" (by decide)

/-- **No two texts are written alike.** -/
theorem injective_textLiteral : Function.Injective d.textLiteral := by
  intro s t heq
  have hend : ([] : List Char).head? ≠ some '\'' := by simp
  have hread := d.readText_toList s hend
  rw [heq, d.readText_toList t hend, Option.some.injEq, Prod.mk.injEq] at hread
  exact String.toList_injective hread.1.symm

/-! ### Names -/

/-- **The quoted name at the start of some characters**, and what stands behind it. -/
def readName : List Char → Option (List Char × List Char)
  | [] => none
  | c :: cs => if c = d.rules.openQuote then Quotation.read false d.rules.closeQuote cs else none

/-- **The names that need no quotes**: ASCII identifiers that are no reserved word in any letter case. -/
structure IsBare (name : String) : Prop where
  ne_nil : name.toList ≠ []
  ascii : ∀ c ∈ name.toList, c.isAlphanum = true ∨ c = '_'
  head : ∀ c, name.toList.head? = some c → c.isDigit = false
  unreserved : ∀ w ∈ d.rules.reservedWords, Text.asciiLower w ≠ Text.asciiLower name

theorem isDigit_of_isNameStart {c : Char} (h : Text.isNameStart c = true) : c.isDigit = false := by
  rw [Text.isNameStart, Bool.or_eq_true] at h
  rcases h with h | h
  · exact not_isDigit_of_isAlpha h
  · rw [beq_iff_eq.1 h]
    decide

/-- A name that is not quoted is bare. -/
theorem isBare_of_not_needsQuotes {name : String} (h : ¬ d.needsQuotes name = true) :
    d.IsBare name := by
  have hplain := isPlainName_of_not_needsQuotes h
  have hreserved : d.rules.isReserved name = false := by
    cases hr : d.rules.isReserved name with
    | false => rfl
    | true => simp [needsQuotes, hr] at h
  refine ⟨(neutral_plainName hplain).ne_nil, fun c hc => ?_, fun c hc => ?_, fun w hw heq => ?_⟩
  · have hpart := List.all_eq_true.1 (all_isNamePart hplain) c hc
    rw [Text.isNamePart, Bool.or_eq_true, beq_iff_eq] at hpart
    exact hpart
  · obtain ⟨cs, hname⟩ := List.head?_eq_some_iff.1 hc
    rw [hname, Text.isPlainName, Bool.and_eq_true] at hplain
    exact isDigit_of_isNameStart hplain.1
  · have hmem : d.rules.isReserved name = true := by
      rw [Text.asciiLower, Text.asciiLower, String.ofList_inj] at heq
      exact List.any_eq_true.2 ⟨w, hw, beq_iff_eq.2 heq⟩
    rw [hreserved] at hmem
    cases hmem

/-- **A name between quotes is read back.** -/
theorem readName_escapeName (name : String) {rest : List Char}
    (h : rest.head? ≠ some d.rules.closeQuote) :
    d.readName ((d.escapeName name).toList ++ rest) = some (name.toList, rest) := by
  rw [escapeName, String.toList_ofList, List.append_assoc, List.cons_append, readName, if_pos rfl]
  exact Quotation.read_doubleQuotes h name.toList

theorem readName_quoteName {name : String} (hq : d.needsQuotes name = true) {rest : List Char}
    (h : rest.head? ≠ some d.rules.closeQuote) :
    d.readName ((d.quoteName name).toList ++ rest) = some (name.toList, rest) := by
  rw [quoteName, if_pos hq]
  exact d.readName_escapeName name h

/-- No opening quote starts a bare name. -/
theorem readName_bare {name : String} (hq : ¬ d.needsQuotes name = true) (rest : List Char) :
    d.readName ((d.quoteName name).toList ++ rest) = none := by
  have hopen (k : DialectKind) : Text.isNameStart k.rules.openQuote = false := by
    cases k <;> decide
  have hplain := isPlainName_of_not_needsQuotes hq
  rw [quoteName, if_neg hq]
  cases hname : name.toList with
  | nil =>
      rw [hname] at hplain
      cases hplain
  | cons c cs =>
      rw [hname, Text.isPlainName, Bool.and_eq_true] at hplain
      have hc : c ≠ d.rules.openQuote := by
        rintro rfl
        have hstart : Text.isNameStart d.rules.openQuote = false := hopen d.kind
        rw [hstart] at hplain
        cases hplain.1
      rw [List.cons_append, readName, if_neg hc]

/-- **No two names are written alike**: what is read back tells a quoted name, and a bare one is never
read as a quoted one. -/
theorem injective_quoteName : Function.Injective d.quoteName := by
  have hend : ([] : List Char).head? ≠ some d.rules.closeQuote := by simp
  intro m n heq
  have hread : d.readName ((d.quoteName m).toList ++ []) =
      d.readName ((d.quoteName n).toList ++ []) := by rw [heq]
  by_cases hm : d.needsQuotes m = true
  · rw [d.readName_quoteName hm hend] at hread
    by_cases hn : d.needsQuotes n = true
    · rw [d.readName_quoteName hn hend, Option.some.injEq, Prod.mk.injEq] at hread
      exact String.toList_injective hread.1
    · rw [d.readName_bare hn] at hread
      cases hread
  · by_cases hn : d.needsQuotes n = true
    · rw [d.readName_bare hm, d.readName_quoteName hn hend] at hread
      cases hread
    · rw [quoteName, if_neg hm, quoteName, if_neg hn] at heq
      exact heq

/-- **A name is written bare when it is a bare name, or between quotes that it is read back from**, and
no two names are written alike. -/
theorem quoteName_identifies :
    (∀ name : String, d.quoteName name = name ∧ d.IsBare name ∨
      ∀ t : String, t.toList.head? ≠ some d.rules.closeQuote →
        d.readName (d.quoteName name ++ t).toList = some (name.toList, t.toList)) ∧
      Function.Injective d.quoteName := by
  refine ⟨fun name => ?_, d.injective_quoteName⟩
  by_cases hq : d.needsQuotes name = true
  · right
    intro t ht
    rw [String.toList_append]
    exact d.readName_quoteName hq ht
  · left
    exact ⟨if_neg hq, d.isBare_of_not_needsQuotes hq⟩

/-- A name with a closing bracket, on SQL Server. -/
theorem quoteName_identifies_bracket :
    DialectKind.sqlserver.dialect.readName
        (DialectKind.sqlserver.dialect.quoteName "a]b" ++ " = 1").toList =
      some ("a]b".toList, " = 1".toList) :=
  ((quoteName_identifies _).1 "a]b").resolve_left (fun h => absurd h.1 (by decide)) " = 1" (by decide)

end Dialect

end ModelSql
