/-
**The words of a statement.**

A statement is read one character at a time.  A run of letters and digits is a word, a numeral or a
placeholder; what stands between quotes is a name or a text, a doubled quote standing for one; the rest
are signs, taken as long as they can be.  MySQL reads a backslash in a text as an escape.

Main definitions:

* `Token`, `Lexeme` — what is read: tokens and parentheses;
* `Lexer.step`, `Lexer.run` — **the reader**, a machine over the characters;
* `Dialect.lexemes` — the lexemes of a statement;
* `Lexes` — a text whose lexemes do not depend on what stands behind it.

Main results:

* `Lexer.run_boundary` — blanks, commas and parentheses end whatever is being read;
* `Lexes.append`, `Lexes.group`, `Lexes.negative` — texts put together;
* `lexes_quotation`, `lexes_isNumeral`, `lexes_name` — texts, numerals and names.
-/

import ModelSql.Proofs.Query.Parentheses

set_option relaxedAutoImplicit false
set_option autoImplicit false

namespace ModelSql

/-! ### Tokens -/

/-- The tokens of a statement.  A text carries the letters in front of its quote. -/
inductive Token
  | word (cs : List Char)
  | name (cs : List Char)
  | text (mark cs : List Char)
  | number (cs : List Char)
  | parameter (cs : List Char)
  | sign (cs : List Char)
  deriving DecidableEq, Repr

/-- Tokens and parentheses. -/
inductive Lexeme
  | token (t : Token)
  | opening
  | closing
  deriving DecidableEq, Repr

namespace Lexer

/-! ### The machine -/

/-- What is being read. -/
inductive Mode
  | blank
  | word (cs : List Char)
  | number (cs : List Char)
  | parameter (cs : List Char)
  | sign (cs : List Char)
  | name (close : Char) (cs : List Char)
  | nameEnd (close : Char) (cs : List Char)
  | text (mark cs : List Char)
  | escape (mark cs : List Char)
  | textEnd (mark cs : List Char)

/-- The signs of two characters. -/
def longSigns : List (List Char) :=
  ["<>", "<=", ">=", "!=", "||", "<<", ">>", "::"].map String.toList

/-- Whether a numeral may go on with the sign of a power of ten. -/
def takesPower (cs : List Char) : Bool :=
  match cs.getLast? with
  | some c => (c == 'e' || c == 'E') && cs.dropLast.all Text.isNumeric
  | none => false

/-- The lexeme that has been read, when nothing follows. -/
def finish : Mode → List Lexeme
  | .blank => []
  | .word cs => [.token (.word cs)]
  | .number cs => [.token (.number cs)]
  | .parameter cs => [.token (.parameter cs)]
  | .sign cs => [.token (.sign cs)]
  | .name _ cs | .nameEnd _ cs => [.token (.name cs)]
  | .text mark cs | .escape mark cs | .textEnd mark cs => [.token (.text mark cs)]

/-- The first character of a lexeme. -/
def start (c : Char) : List Lexeme × Mode :=
  if Text.isBlank c then ([], .blank)
  else if c = '(' then ([.opening], .blank)
  else if c = ')' then ([.closing], .blank)
  else if c = ',' then ([.token (.sign [','])], .blank)
  else if c = '\'' then ([], .text [] [])
  else if c = '"' ∨ c = '\x60' then ([], .name c [])
  else if c = '[' then ([], .name ']' [])
  else if c = '@' ∨ c = ':' then ([], .parameter [c])
  else if c.isDigit then ([], .number [c])
  else if Text.isNameStart c then ([], .word [c])
  else ([], .sign [c])

/-- A character that ends what is being read and starts something new. -/
def next (m : Mode) (c : Char) : List Lexeme × Mode := (finish m ++ (start c).1, (start c).2)

/-- **One character**: the lexemes that end with it, and what is being read from there on. -/
def step (escapes : Bool) : Mode → Char → List Lexeme × Mode
  | .blank, c => start c
  | .word cs, c =>
    if Text.isNamePart c then ([], .word (cs ++ [c]))
    else if c = '\'' then ([], .text cs [])
    else next (.word cs) c
  | .number cs, c =>
    if c.isAlphanum || c == '.' || (takesPower cs && (c == '-' || c == '+')) then
      ([], .number (cs ++ [c]))
    else next (.number cs) c
  | .parameter cs, c =>
    if Text.isNamePart c then ([], .parameter (cs ++ [c]))
    else if cs = [':'] ∧ c = ':' then ([], .sign [':', ':'])
    else next (.parameter cs) c
  | .sign cs, c =>
    if longSigns.contains (cs ++ [c]) then ([], .sign (cs ++ [c])) else next (.sign cs) c
  | .name close cs, c =>
    if c = close then ([], .nameEnd close cs) else ([], .name close (cs ++ [c]))
  | .nameEnd close cs, c =>
    if c = close then ([], .name close (cs ++ [c])) else next (.nameEnd close cs) c
  | .text mark cs, c =>
    if c = '\'' then ([], .textEnd mark cs)
    else if escapes && c == '\\' then ([], .escape mark cs)
    else ([], .text mark (cs ++ [c]))
  | .escape mark cs, c => ([], .text mark (cs ++ [c]))
  | .textEnd mark cs, c =>
    if c = '\'' then ([], .text mark (cs ++ [c])) else next (.textEnd mark cs) c

/-- **The lexemes of a list of characters**, from what is being read on. -/
def run (escapes : Bool) : Mode → List Char → List Lexeme
  | m, [] => finish m
  | m, c :: cs => (step escapes m c).1 ++ run escapes (step escapes m c).2 cs

/-- Reading some characters takes the machine from one mode to another. -/
def Feeds (escapes : Bool) (m : Mode) (cs : List Char) (ls : List Lexeme) (m' : Mode) : Prop :=
  ∀ rest, run escapes m (cs ++ rest) = ls ++ run escapes m' rest

variable {escapes : Bool} {m m' : Mode}

theorem Feeds.nil : Feeds escapes m [] [] m := fun _ => rfl

theorem Feeds.cons {c : Char} {cs : List Char} {ls : List Lexeme}
    (h : Feeds escapes (step escapes m c).2 cs ls m') :
    Feeds escapes m (c :: cs) ((step escapes m c).1 ++ ls) m' := by
  intro rest
  rw [List.cons_append, run, h, List.append_assoc]

/-- A character that only goes on with what is being read. -/
theorem Feeds.silent {c : Char} {cs : List Char} {ls : List Lexeme} {m₁ : Mode}
    (hc : step escapes m c = ([], m₁)) (h : Feeds escapes m₁ cs ls m') :
    Feeds escapes m (c :: cs) ls m' := by
  intro rest
  rw [List.cons_append, run, hc, List.nil_append]
  exact h rest

theorem Feeds.append {cs ds : List Char} {ls ks : List Lexeme} {m₁ : Mode}
    (hc : Feeds escapes m cs ls m₁) (hd : Feeds escapes m₁ ds ks m') :
    Feeds escapes m (cs ++ ds) (ls ++ ks) m' := by
  intro rest
  rw [List.append_assoc, hc, hd, List.append_assoc]

/-! ### Boundaries -/

/-- The characters that end whatever is being read outside a quotation. -/
def isDelimiter (c : Char) : Bool := [' ', ')', ',', '('].contains c

/-- Nothing, or something that starts with a delimiter. -/
def Boundary (cs : List Char) : Prop := ∀ c, cs.head? = some c → isDelimiter c = true

/-- The modes outside a quotation. -/
def isReady : Mode → Bool
  | .name .. | .text .. | .escape .. => false
  | .nameEnd close _ => !isDelimiter close
  | _ => true

theorem boundary_nil : Boundary [] := by
  intro c hc
  cases hc

theorem boundary_cons {c : Char} (h : isDelimiter c = true) (cs : List Char) : Boundary (c :: cs) := by
  intro x hx
  obtain rfl : c = x := by simpa using hx
  exact h

theorem eq_of_isDelimiter {c : Char} (h : isDelimiter c = true) :
    c = ' ' ∨ c = ')' ∨ c = ',' ∨ c = '(' := by
  simpa [isDelimiter] using h

theorem step_delimiter {c : Char} (h : isDelimiter c = true) (hm : isReady m = true) :
    step escapes m c = next m c := by
  have hpart : Text.isNamePart c = false ∧ c.isAlphanum = false ∧ c ≠ '\'' ∧ c ≠ '.' ∧ c ≠ '-' ∧
      c ≠ '+' ∧ c ≠ ':' ∧ ∀ s ∈ longSigns, s.getLast? ≠ some c := by
    rcases eq_of_isDelimiter h with rfl | rfl | rfl | rfl <;> decide
  obtain ⟨hname, halpha, hquote, hpoint, hminus, hplus, hcolon, hlong⟩ := hpart
  cases m with
  | blank => simp [step, next, finish]
  | word cs => simp [step, hname, hquote]
  | number cs => simp [step, halpha, hpoint, hminus, hplus]
  | parameter cs => simp [step, hname, hcolon]
  | sign cs =>
      have hsign : longSigns.contains (cs ++ [c]) = false := by
        cases hs : longSigns.contains (cs ++ [c]) with
        | false => rfl
        | true => exact absurd (by simp) (hlong _ (List.contains_iff_mem.1 hs))
      rw [step, hsign]
      rfl
  | name close cs => cases hm
  | nameEnd close cs =>
      have hclose : c ≠ close := by
        rintro rfl
        simp [isReady, h] at hm
      simp [step, hclose]
  | text mark cs => cases hm
  | escape mark cs => cases hm
  | textEnd mark cs => simp [step, hquote]

/-- **A delimiter, or the end, ends whatever is being read.** -/
theorem run_boundary (hm : isReady m = true) {rest : List Char} (h : Boundary rest) :
    run escapes m rest = finish m ++ run escapes .blank rest := by
  cases rest with
  | nil => simp [run, finish]
  | cons c cs =>
      rw [run, run, step_delimiter (h c rfl) hm]
      simp [step, next]

end Lexer

open Lexer

/-! ### Texts on their own -/

/-- **A text whose lexemes do not depend on what stands behind it**, if that starts with a delimiter. -/
def Lexes (escapes : Bool) (cs : List Char) (ls : List Lexeme) : Prop :=
  ∀ rest, Boundary rest → run escapes .blank (cs ++ rest) = ls ++ run escapes .blank rest

/-- Nothing, or something that starts with a delimiter or with more of the text. -/
def Starts (cs : List Char) : Prop := ∀ rest, Boundary rest → Boundary (cs ++ rest)

theorem starts_cons {c : Char} (h : isDelimiter c = true) (cs : List Char) : Starts (c :: cs) :=
  fun rest _ => boundary_cons h (cs ++ rest)

namespace Lexes

variable {escapes : Bool} {cs ds : List Char} {ls ks : List Lexeme}

theorem nil : Lexes escapes [] [] := fun _ _ => rfl

/-- A text that ends outside a quotation. -/
theorem of_feeds {m : Mode} (h : Feeds escapes .blank cs ls m) (hm : isReady m = true) :
    Lexes escapes cs (ls ++ finish m) := by
  intro rest hrest
  rw [h, run_boundary hm hrest, List.append_assoc]

/-- **Two texts**, the second one starting with a delimiter. -/
theorem append (hc : Lexes escapes cs ls) (hd : Lexes escapes ds ks) (hs : Starts ds) :
    Lexes escapes (cs ++ ds) (ls ++ ks) := by
  intro rest hrest
  rw [List.append_assoc, hc _ (hs rest hrest), hd rest hrest, List.append_assoc]

/-- A delimiter in front of a text. -/
theorem delimiter {c : Char} (hc : (start c).2 = .blank) (h : Lexes escapes cs ls) :
    Lexes escapes (c :: cs) ((start c).1 ++ ls) := by
  intro rest hrest
  rw [List.cons_append, run, step, hc, h rest hrest, List.append_assoc]

theorem space (h : Lexes escapes cs ls) : Lexes escapes (' ' :: cs) ls := h.delimiter rfl

theorem comma (h : Lexes escapes cs ls) :
    Lexes escapes (',' :: cs) (.token (.sign [',']) :: ls) := h.delimiter rfl

/-- **A text in parentheses.** -/
theorem group (h : Lexes escapes cs ls) :
    Lexes escapes ('(' :: cs ++ [')']) (.opening :: ls ++ [.closing]) := by
  have hclose : Lexes escapes [')'] [.closing] := nil.delimiter rfl
  exact (h.append hclose (starts_cons (by decide) _)).delimiter rfl

/-- A sign of one character that no longer sign starts with. -/
theorem short {c : Char} (hstart : start c = ([], .sign [c]))
    (hc : ∀ x, longSigns.contains [c, x] = false) (h : Lexes escapes cs ls) :
    Lexes escapes (c :: cs) (.token (.sign [c]) :: ls) := by
  intro rest hrest
  have hnext : ∀ xs, run escapes (.sign [c]) xs = .token (.sign [c]) :: run escapes .blank xs := by
    intro xs
    cases xs with
    | nil => rfl
    | cons x xs =>
        have hstep : step escapes (.sign [c]) x = next (.sign [c]) x := by
          rw [step, List.singleton_append, hc x]
          rfl
        rw [run, run, hstep]
        rfl
  rw [List.cons_append, run, step, hstart, List.nil_append, hnext, h rest hrest]
  rfl

theorem longSigns_minus (x : Char) : longSigns.contains ['-', x] = false := by
  simp [longSigns]

/-- A minus sign in front of a text. -/
theorem negative (h : Lexes escapes cs ls) :
    Lexes escapes ('-' :: cs) (.token (.sign ['-']) :: ls) := h.short rfl longSigns_minus

end Lexes

/-! ### Words and numerals -/

section Characters

variable {c : Char}

theorem ne_of_isAlphanum (h : c.isAlphanum = true) {x : Char} (hx : x.isAlphanum = false) : c ≠ x := by
  rintro rfl
  rw [h] at hx
  cases hx

/-- The code points of letters. -/
theorem toNat_of_isAlpha (h : c.isAlpha = true) :
    65 ≤ c.toNat ∧ c.toNat ≤ 90 ∨ 97 ≤ c.toNat ∧ c.toNat ≤ 122 := by
  have hdef : c.isAlpha = (decide (c.val ≥ 'A'.val ∧ c.val ≤ 'Z'.val) ||
      decide (c.val ≥ 'a'.val) && decide (c.val ≤ 'z'.val)) := rfl
  rw [hdef] at h
  simp only [Bool.or_eq_true, Bool.and_eq_true, decide_eq_true_eq, UInt32.le_iff_toNat_le,
    ge_iff_le] at h
  exact h

/-- The code points of digits. -/
theorem toNat_of_isDigit (h : c.isDigit = true) : 48 ≤ c.toNat ∧ c.toNat ≤ 57 :=
  Char.isDigit_iff_toNat.1 h

theorem not_isDigit_of_isAlpha (h : c.isAlpha = true) : c.isDigit = false := by
  cases hd : c.isDigit with
  | false => rfl
  | true =>
      have hletter := toNat_of_isAlpha h
      have hdigit := toNat_of_isDigit hd
      omega

theorem isBlank_of_isAlphanum (h : c.isAlphanum = true) : Text.isBlank c = false := by
  have hrange : 48 ≤ c.toNat ∧ c.toNat ≤ 57 ∨ 65 ≤ c.toNat ∧ c.toNat ≤ 90 ∨
      97 ≤ c.toNat ∧ c.toNat ≤ 122 := by
    rw [Char.isAlphanum, Bool.or_eq_true] at h
    rcases h with h | h
    · exact .inr (toNat_of_isAlpha h)
    · exact .inl (toNat_of_isDigit h)
  simp only [Text.isBlank, Bool.or_eq_false_iff, Bool.and_eq_false_iff, decide_eq_false_iff_not,
    beq_eq_false_iff_ne]
  omega

/-- What a letter or a digit starts. -/
theorem start_of_isAlphanum (h : c.isAlphanum = true) :
    start c = if c.isDigit then ([], .number [c]) else ([], .word [c]) := by
  have hne {x : Char} (hx : x.isAlphanum = false) : c ≠ x := ne_of_isAlphanum h hx
  have hname : c.isDigit = false → Text.isNameStart c = true := by
    intro hdigit
    rw [Char.isAlphanum, hdigit, Bool.or_false] at h
    rw [Text.isNameStart, h, Bool.true_or]
  have hquotes : ¬(c = '"' ∨ c = '\x60') := by
    rintro (hc | hc) <;> exact hne (by decide) hc
  have hmarks : ¬(c = '@' ∨ c = ':') := by
    rintro (hc | hc) <;> exact hne (by decide) hc
  rw [start, isBlank_of_isAlphanum h, if_neg (by decide), if_neg (hne (by decide)),
    if_neg (hne (by decide)), if_neg (hne (by decide)), if_neg (hne (by decide)), if_neg hquotes,
    if_neg (hne (by decide)), if_neg hmarks]
  cases hdigit : c.isDigit with
  | true => rfl
  | false => simp [hname hdigit]

theorem start_digit (h : c.isDigit = true) : start c = ([], .number [c]) := by
  rw [start_of_isAlphanum (by simp [Char.isAlphanum, h]), h, if_pos rfl]

theorem start_nameStart (h : Text.isNameStart c = true) : start c = ([], .word [c]) := by
  rw [Text.isNameStart, Bool.or_eq_true] at h
  rcases h with h | h
  · rw [start_of_isAlphanum (by simp [Char.isAlphanum, h]), not_isDigit_of_isAlpha h]
    rfl
  · rw [beq_iff_eq.1 h]
    rfl

end Characters

section

variable {escapes : Bool}

theorem feeds_word {cs : List Char} (h : cs.all Text.isNamePart = true) (acc : List Char) :
    Feeds escapes (.word acc) cs [] (.word (acc ++ cs)) := by
  induction cs generalizing acc with
  | nil => simpa using Feeds.nil
  | cons c cs ih =>
      rw [List.all_cons, Bool.and_eq_true] at h
      have hstep : step escapes (.word acc) c = ([], .word (acc ++ [c])) := by
        rw [step, if_pos h.1]
      have htail := ih h.2 (acc ++ [c])
      rw [List.append_assoc] at htail
      exact htail.silent hstep

/-- A name without quotes is a word. -/
theorem feeds_plainName {cs : List Char} (h : Text.isPlainName cs = true) :
    Feeds escapes .blank cs [] (.word cs) := by
  cases cs with
  | nil => cases h
  | cons c cs =>
      rw [Text.isPlainName, Bool.and_eq_true] at h
      exact (feeds_word h.2 [c]).silent (start_nameStart h.1)

theorem lexes_word {cs : List Char} (h : Text.isPlainName cs = true) :
    Lexes escapes cs [.token (.word cs)] := .of_feeds (feeds_plainName h) rfl

theorem feeds_number {cs : List Char} (h : ∀ x ∈ cs, (x.isAlphanum || x == '.') = true)
    (acc : List Char) : Feeds escapes (.number acc) cs [] (.number (acc ++ cs)) := by
  induction cs generalizing acc with
  | nil => simpa using Feeds.nil
  | cons c cs ih =>
      have hstep : step escapes (.number acc) c = ([], .number (acc ++ [c])) := by
        rw [step, h c List.mem_cons_self, Bool.true_or, if_pos rfl]
      have htail := ih (fun x hx => h x (List.mem_cons_of_mem c hx)) (acc ++ [c])
      rw [List.append_assoc] at htail
      exact htail.silent hstep

/-- The sign of a power of ten belongs to the numeral. -/
theorem feeds_power {acc : List Char} (h : takesPower acc = true) (negative : Bool) :
    let sign := if negative then ['-'] else []
    Feeds escapes (.number acc) sign [] (.number (acc ++ sign)) := by
  cases negative with
  | false => simpa using Feeds.nil
  | true =>
      have hstep : step escapes (.number acc) '-' = ([], .number (acc ++ ['-'])) := by
        rw [step, h]
        rfl
      exact Feeds.nil.silent hstep

/-- **A numeral is one token.** -/
theorem lexes_isNumeral {cs : List Char} (h : Literal.IsNumeral cs) :
    Lexes escapes cs [.token (.number cs)] := by
  have hnumeric {x : Char} (hx : Text.isNumeric x = true) : (x.isAlphanum || x == '.') = true := by
    rw [Text.isNumeric, Bool.or_eq_true] at hx
    rcases hx with hx | hx
    · simp [Char.isAlphanum, hx]
    · simp [hx]
  have hdigit {x : Char} (hx : x.isDigit = true) : (x.isAlphanum || x == '.') = true :=
    hnumeric (by simp [Text.isNumeric, hx])
  suffices hfeeds : Feeds escapes .blank cs [] (.number cs) from .of_feeds hfeeds rfl
  cases h with
  | @decimal c cs hc hcs =>
      exact (feeds_number (fun x hx => hnumeric (hcs x hx)) [c]).silent (start_digit hc)
  | @scientific c cs es hc hcs negative hes =>
      have hmantissa : (c :: cs).all Text.isNumeric = true := by
        rw [List.all_cons, List.all_eq_true.2 hcs, Text.isNumeric, hc]
        rfl
      -- the sign of the exponent belongs to the number only behind the mark of a decimal one
      have hpower : takesPower (c :: cs ++ ['e']) = true := by
        rw [takesPower, List.getLast?_append, List.dropLast_concat, hmantissa]
        rfl
      have hhead : Feeds escapes .blank (c :: cs ++ ['e']) [] (.number (c :: cs ++ ['e'])) := by
        refine (feeds_number ?_ [c]).silent (start_digit hc)
        intro x hx
        rcases List.mem_append.1 hx with hx | hx
        · exact hnumeric (hcs x hx)
        · rw [List.mem_singleton.1 hx]
          decide
      have hall := (hhead.append (feeds_power hpower negative)).append
        (feeds_number (fun x hx => hdigit (hes x hx)) _)
      simpa using hall
  | @hexadecimal cs hcs =>
      refine (feeds_number ?_ ['0']).silent rfl
      intro x hx
      rcases List.mem_cons.1 hx with rfl | hx
      · decide
      · rw [hcs x hx, Bool.true_or]

end

/-! ### Quotations -/

/-- Whether a backslash is an escape in the texts of a dialect. -/
def Dialect.escapes (d : Dialect) : Bool := d.kind == .mysql

/-- **The lexemes of a statement.** -/
def Dialect.lexemes (d : Dialect) (sql : String) : List Lexeme := run d.escapes .blank sql.toList

theorem feeds_text (mark cs acc : List Char) :
    Feeds false (.text mark acc) (Dialect.doubleQuotes '\'' cs ++ ['\'']) []
      (.textEnd mark (acc ++ cs)) := by
  induction cs generalizing acc with
  | nil => simpa [Dialect.doubleQuotes] using Feeds.nil.silent rfl
  | cons c cs ih =>
      have htail := ih (acc ++ [c])
      rw [List.append_assoc] at htail
      by_cases hc : c = '\''
      · -- the quotation ends, and goes on with the second quote
        subst hc
        exact (htail.silent rfl).silent rfl
      · have hstep : step false (.text mark acc) c = ([], .text mark (acc ++ [c])) := by
          simp [step, hc]
        rw [Dialect.doubleQuotes, if_neg hc]
        exact htail.silent hstep

theorem feeds_escapedText (mark cs acc : List Char) :
    Feeds true (.text mark acc)
      (Dialect.doubleQuotes '\'' (Dialect.doubleQuotes '\\' cs) ++ ['\'']) []
      (.textEnd mark (acc ++ cs)) := by
  induction cs generalizing acc with
  | nil => simpa [Dialect.doubleQuotes] using Feeds.nil.silent rfl
  | cons c cs ih =>
      have htail := ih (acc ++ [c])
      rw [List.append_assoc] at htail
      by_cases hb : c = '\\'
      · subst hb
        exact (htail.silent rfl).silent rfl
      · rw [Dialect.doubleQuotes, if_neg hb]
        by_cases hc : c = '\''
        · subst hc
          exact (htail.silent rfl).silent rfl
        · have hstep : step true (.text mark acc) c = ([], .text mark (acc ++ [c])) := by
            simp [step, hc, hb]
          rw [Dialect.doubleQuotes, if_neg hc]
          exact htail.silent hstep

/-- **Between quotes stands what was quoted.** -/
theorem feeds_quoted (d : Dialect) (mark cs : List Char) :
    Feeds d.escapes (.text mark []) (Dialect.doubleQuotes '\'' (d.escape cs) ++ ['\'']) []
      (.textEnd mark cs) := by
  unfold Dialect.escape Dialect.escapes
  split
  · rename_i hk
    rw [hk]
    exact feeds_escapedText mark cs []
  · rename_i hk
    rw [beq_false_of_ne hk]
    exact feeds_text mark cs []

/-- **A text between quotes is one token**, with the mark in front of it. -/
theorem feeds_quotation (d : Dialect) {mark : List Char} (h : mark ∈ Literal.marks)
    (cs : List Char) :
    Feeds d.escapes .blank (mark ++ d.quotation cs) [] (.textEnd mark cs) := by
  have hmarks : ∀ m ∈ Literal.marks, m = [] ∨ Text.isPlainName m = true := by decide
  rcases hmarks mark h with rfl | hplain
  · exact (feeds_quoted d [] cs).silent rfl
  · have hstep : step d.escapes (.word mark) '\'' = ([], .text mark []) := rfl
    exact (feeds_plainName hplain).append ((feeds_quoted d mark cs).silent hstep)

theorem lexes_quotation (d : Dialect) {mark : List Char} (h : mark ∈ Literal.marks)
    (cs : List Char) : Lexes d.escapes (mark ++ d.quotation cs) [.token (.text mark cs)] :=
  .of_feeds (feeds_quotation d h cs) rfl

/-! ### Names and placeholders -/

theorem feeds_nameEnd {escapes : Bool} {close : Char} (cs acc : List Char) :
    Feeds escapes (.name close acc) (Dialect.doubleQuotes close cs ++ [close]) []
      (.nameEnd close (acc ++ cs)) := by
  induction cs generalizing acc with
  | nil =>
      have hstep : step escapes (.name close acc) close = ([], .nameEnd close acc) := by simp [step]
      simpa [Dialect.doubleQuotes] using Feeds.nil.silent hstep
  | cons c cs ih =>
      have htail := ih (acc ++ [c])
      rw [List.append_assoc] at htail
      by_cases hc : c = close
      · subst hc
        have hend : step escapes (.nameEnd c acc) c = ([], .name c (acc ++ [c])) := by simp [step]
        have hquote : step escapes (.name c acc) c = ([], .nameEnd c acc) := by simp [step]
        rw [Dialect.doubleQuotes, if_pos rfl]
        exact (htail.silent hend).silent hquote
      · have hstep : step escapes (.name close acc) c = ([], .name close (acc ++ [c])) := by
          simp [step, hc]
        rw [Dialect.doubleQuotes, if_neg hc]
        exact htail.silent hstep

namespace Dialect

variable (d : Dialect)

/-- The token of a name. -/
def nameToken (name : String) : Token :=
  if d.needsQuotes name then .name name.toList else .word name.toList

/-- The signs that stand right behind a name: a point, and the end of a statement. -/
def nameEnds : List Char := ['.', ';']

theorem forall_nameEnds {p : Char → Prop} (hpoint : p '.') (hend : p ';') : ∀ c ∈ nameEnds, p c :=
  List.forall_mem_cons.2 ⟨hpoint, List.forall_mem_singleton.2 hend⟩

/-- **A name is read up to its end**, which a sign right behind it is as well. -/
theorem feeds_quoteName (name : String) : ∃ m, Feeds d.escapes .blank (d.quoteName name).toList [] m ∧
    isReady m = true ∧ finish m = [.token (d.nameToken name)] ∧
    ∀ c ∈ nameEnds, ∀ rest, run d.escapes m (c :: rest) = finish m ++ run d.escapes .blank (c :: rest) := by
  unfold quoteName nameToken
  split
  · have hquotes (k : DialectKind) : start k.rules.openQuote = ([], .name k.rules.closeQuote []) ∧
        isDelimiter k.rules.closeQuote = false ∧ ∀ c ∈ nameEnds, c ≠ k.rules.closeQuote := by
      cases k <;> exact ⟨rfl, rfl, forall_nameEnds (by decide) (by decide)⟩
    obtain ⟨hopen, hclose, hends⟩ := hquotes d.kind
    refine ⟨.nameEnd d.rules.closeQuote name.toList, ?_, ?_, rfl, fun c hc rest => ?_⟩
    · rw [escapeName, String.toList_ofList]
      exact (feeds_nameEnd name.toList []).silent hopen
    · rw [isReady, rules, hclose]
      rfl
    · have hstep : step d.escapes (.nameEnd d.rules.closeQuote name.toList) c =
          next (.nameEnd d.rules.closeQuote name.toList) c := by
        rw [step]
        exact if_neg (hends c hc)
      rw [run, run, hstep]
      simp [next, step]
  · rename_i hq
    have hplain := isPlainName_of_not_needsQuotes hq
    have hstep : ∀ c ∈ nameEnds, step d.escapes (.word name.toList) c = next (.word name.toList) c :=
      forall_nameEnds rfl rfl
    refine ⟨.word name.toList, feeds_plainName hplain, rfl, rfl, fun c hc rest => ?_⟩
    rw [run, run, hstep c hc]
    simp [next, step]

theorem lexes_quoteName (name : String) :
    Lexes d.escapes (d.quoteName name).toList [.token (d.nameToken name)] := by
  obtain ⟨m, hfeeds, hm, hfinish, -⟩ := d.feeds_quoteName name
  rw [← hfinish]
  exact .of_feeds hfeeds hm

/-- A name in front of a sign and more. -/
theorem lexes_quoteName_sign (name : String) {c : Char} (hc : c ∈ nameEnds) {cs : List Char}
    {ls : List Lexeme} (h : Lexes d.escapes cs ls) :
    Lexes d.escapes ((d.quoteName name).toList ++ c :: cs)
      (.token (d.nameToken name) :: .token (.sign [c]) :: ls) := by
  have hstart : ∀ c ∈ nameEnds, start c = ([], .sign [c]) := forall_nameEnds rfl rfl
  have hshort : ∀ c ∈ nameEnds, ∀ x, longSigns.contains [c, x] = false :=
    forall_nameEnds (by simp [longSigns]) (by simp [longSigns])
  obtain ⟨m, hfeeds, -, hfinish, hend⟩ := d.feeds_quoteName name
  intro rest hrest
  rw [List.append_assoc, hfeeds, List.cons_append, hend c hc, hfinish, List.nil_append]
  rw [← List.cons_append, h.short (hstart c hc) (hshort c hc) rest hrest]
  rfl

/-- The token of a placeholder. -/
def parameterToken (n : Nat) : Token := .parameter (d.placeholder n).toList

theorem lexes_placeholder (n : Nat) :
    Lexes d.escapes (d.placeholder n).toList [.token (d.parameterToken n)] := by
  have hmarks (k : DialectKind) : ∃ c, k.rules.parameterMark.toList = [c] ∧
      start c = ([], .parameter [c]) := by
    cases k <;> exact ⟨_, rfl, rfl⟩
  obtain ⟨c, hc, hstart⟩ := hmarks d.kind
  have hparts (cs acc : List Char) (h : ∀ x ∈ cs, x.isDigit = true) :
      Feeds d.escapes (.parameter acc) cs [] (.parameter (acc ++ cs)) := by
    induction cs generalizing acc with
    | nil => simpa using Feeds.nil
    | cons x xs ih =>
        have hpart : Text.isNamePart x = true := by
          rw [Text.isNamePart, Char.isAlphanum, h x List.mem_cons_self, Bool.or_true, Bool.true_or]
        have hstep : step d.escapes (.parameter acc) x = ([], .parameter (acc ++ [x])) := by
          rw [step, if_pos hpart]
        have htail := ih (acc ++ [x]) fun y hy => h y (List.mem_cons_of_mem x hy)
        rw [List.append_assoc] at htail
        exact htail.silent hstep
  have hmark : d.rules.parameterMark.toList = [c] := hc
  rw [parameterToken, toList_placeholder, hmark]
  refine .of_feeds ((hparts (Nat.toDigits 10 n) [c] fun x => ?_).silent hstart) rfl
  exact Text.isDigit_of_mem_toDigits

end Dialect

end ModelSql
