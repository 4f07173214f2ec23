/-
**The forms of literals.**

Whatever a value is, its literal has one of a few forms: a numeral, a word, or a text between single
quotes, which may stand in a call or have a type behind it.  What stands between the quotes never
ends the quotation.

Main definitions:

* `Literal.IsNumeral` — digits with a point, a power of ten, or in base 16;
* `Dialect.quotation` — any text between single quotes;
* `Literal.Form` — **the forms**.

Main results:

* `Dialect.literal_list_eq_ok`, `Dialect.literals_eq_ok` — the literals of lists;
* `Literal.form_literal` — **the literal of a value that is no list has one of the forms**;
* `Literal.forms_and` — what holds of the forms, and of lists with it, holds of every literal.
-/

import Mathlib.Data.List.Forall2
import ModelSql.Dialect.Literal
import ModelSql.Proofs.Numeric.Spelling
import ModelSql.Proofs.Value.Scalar

set_option relaxedAutoImplicit false
set_option autoImplicit false

namespace ModelSql

/-! ### Digits -/

namespace Text

/-- Whether `c` may stand in a numeral without a power. -/
def isNumeric (c : Char) : Bool := c.isDigit || c == '.'

theorem isAlphanum_hexDigit (upper : Bool) {n : Nat} (h : n < 16) :
    (hexDigit upper n).isAlphanum = true := by
  have hall : ∀ u : Bool, ∀ m : Fin 16, (hexDigit u m.1).isAlphanum = true := by decide
  exact hall upper ⟨n, h⟩

theorem isAlphanum_of_mem_hex {upper : Bool} {bs : List UInt8} {c : Char}
    (h : c ∈ (hex upper bs).toList) : c.isAlphanum = true := by
  rw [hex, String.toList_ofList, List.mem_flatMap] at h
  obtain ⟨b, -, hc⟩ := h
  have hb : b.toNat < 256 := b.toNat_lt
  simp only [hexByte, List.mem_cons, List.not_mem_nil, or_false] at hc
  rcases hc with rfl | rfl
  · exact isAlphanum_hexDigit upper (by omega)
  · exact isAlphanum_hexDigit upper (Nat.mod_lt _ (by decide))

end Text

namespace Literal

/-! ### Numerals -/

/-- **The numerals**: digits with a point, the same with a power of ten, and digits of base 16. -/
inductive IsNumeral : List Char → Prop
  | decimal {c : Char} {cs : List Char} (hc : c.isDigit = true)
      (hcs : ∀ x ∈ cs, Text.isNumeric x = true) : IsNumeral (c :: cs)
  | scientific {c : Char} {cs es : List Char} (hc : c.isDigit = true)
      (hcs : ∀ x ∈ cs, Text.isNumeric x = true) (negative : Bool)
      (hes : ∀ x ∈ es, x.isDigit = true) :
      IsNumeral (c :: cs ++ 'e' :: (if negative then ['-'] else []) ++ es)
  | hexadecimal {cs : List Char} (hcs : ∀ x ∈ cs, x.isAlphanum = true) : IsNumeral ('0' :: 'x' :: cs)

/-- A numeral with a sign in front, or without. -/
def IsSigned (cs : List Char) : Prop :=
  ∃ (negative : Bool) (ds : List Char), IsNumeral ds ∧ cs = (if negative then ['-'] else []) ++ ds

theorem isNumeric_of_isDigit {c : Char} (h : c.isDigit = true) : Text.isNumeric c = true := by
  simp [Text.isNumeric, h]

theorem isNumeral_digits {cs : List Char} (hne : cs ≠ []) (h : ∀ x ∈ cs, x.isDigit = true) :
    IsNumeral cs := by
  cases cs with
  | nil => exact absurd rfl hne
  | cons c cs =>
      refine .decimal (h c List.mem_cons_self) fun x hx => ?_
      exact isNumeric_of_isDigit (h x (List.mem_cons_of_mem c hx))

theorem isNumeral_toDigits (n : Nat) : IsNumeral (Nat.toDigits 10 n) :=
  isNumeral_digits Nat.toDigits_ne_nil fun _ => Text.isDigit_of_mem_toDigits

theorem isSigned_int (n : Int) : IsSigned (toString n).toList := by
  obtain ⟨negative, m, h⟩ := Text.toList_toString_int n
  exact ⟨negative, _, isNumeral_toDigits m, h⟩

/-- Digits with a point behind some of them. -/
theorem isNumeral_point {front back : List Char} (hne : front ≠ [])
    (hdigit : ∀ x ∈ front ++ back, x.isDigit = true) : IsNumeral (front ++ '.' :: back) := by
  obtain ⟨c, cs, rfl⟩ := List.exists_cons_of_ne_nil hne
  refine .decimal (hdigit c (by simp)) fun x hx => ?_
  rcases List.mem_append.1 hx with hx | hx
  · exact isNumeric_of_isDigit (hdigit x (List.mem_append_left back (List.mem_cons_of_mem c hx)))
  · rcases List.mem_cons.1 hx with rfl | hx
    · decide
    · exact isNumeric_of_isDigit (hdigit x (List.mem_append_right (c :: cs) hx))

/-- A written numeral without a sign. -/
theorem isNumeral_spelling {n : Numeric.Spelling} (hsign : n.negative = false) : IsNumeral n.chars := by
  obtain ⟨negative, whole, fraction, power⟩ := n
  obtain rfl : negative = false := hsign
  obtain ⟨c, cs, hchars⟩ := List.exists_cons_of_ne_nil whole.ne_nil
  have hc : c.isDigit = true := whole.isDigit c (hchars ▸ List.mem_cons_self)
  have hcs : ∀ x ∈ cs ++ Numeric.Spelling.fractionChars ⟨false, whole, fraction, power⟩,
      Text.isNumeric x = true := by
    intro x hx
    rcases List.mem_append.1 hx with hx | hx
    · exact isNumeric_of_isDigit (whole.isDigit x (hchars ▸ List.mem_cons_of_mem c hx))
    · cases fraction with
      | none => cases hx
      | some f =>
          rcases List.mem_cons.1 hx with rfl | hx
          · decide
          · exact isNumeric_of_isDigit (f.isDigit x hx)
  cases power with
  | none =>
      have hform := IsNumeral.decimal hc hcs
      simpa [Numeric.Spelling.chars, Numeric.Spelling.powerChars, Numeric.sign, hchars] using hform
  | some p =>
      have hform := IsNumeral.scientific hc hcs p.1 p.2.isDigit
      simpa [Numeric.Spelling.chars, Numeric.Spelling.powerChars, Numeric.sign, hchars] using hform

theorem isNumeral_plain (n : Numeric.Numeral) : IsNumeral n.plain.toList := by
  obtain ⟨s, hsign, -, hchars⟩ := n.exists_spelling_plain
  rw [hchars]
  exact isNumeral_spelling hsign

theorem isNumeral_scientific (n : Numeric.Numeral) : IsNumeral (n.scientific "e" "").toList := by
  obtain ⟨s, hsign, hchars⟩ := n.exists_spelling_scientific
  rw [hchars]
  exact isNumeral_spelling hsign

end Literal

/-! ### Quotations -/

/-- The marks in front of a text between quotes. -/
def Literal.marks : List (List Char) := ["", "N", "x", "X"].map String.toList

namespace Dialect

variable (d : Dialect)

/-- The characters of a text as they stand between quotes, quotes not yet doubled. -/
def escape (cs : List Char) : List Char := if d.kind = .mysql then doubleQuotes '\\' cs else cs

/-- **A text between single quotes.** -/
def quotation (cs : List Char) : List Char := '\'' :: doubleQuotes '\'' (d.escape cs) ++ ['\'']

theorem doubleQuotes_of_not_mem {close : Char} {cs : List Char} (h : close ∉ cs) :
    doubleQuotes close cs = cs := by
  induction cs with
  | nil => rfl
  | cons c cs ih =>
      rw [List.mem_cons, not_or] at h
      rw [doubleQuotes, if_neg (Ne.symm h.1), ih h.2]

/-- A text without backslashes is quoted in the same way everywhere. -/
theorem toList_quoteText {s : String} (h : '\\' ∉ s.toList) :
    (Literal.quoteText s).toList = d.quotation s.toList := by
  have hescape : d.escape s.toList = s.toList := by
    unfold escape
    split
    · exact doubleQuotes_of_not_mem h
    · rfl
  rw [Literal.quoteText, String.toList_ofList, quotation, hescape]

/-- A text of characters that need no doubling, between quotes. -/
theorem toList_bare {s : String} (hb : '\\' ∉ s.toList) (hq : '\'' ∉ s.toList) :
    '\'' :: s.toList ++ ['\''] = d.quotation s.toList := by
  rw [← d.toList_quoteText hb, Literal.quoteText, String.toList_ofList, doubleQuotes_of_not_mem hq]

/-- The mark in front of the texts of a dialect: SQL Server has one for Unicode. -/
def textMark : List Char := if d.kind = .sqlserver ∧ d.config.useUnicode = true then ['N'] else []

theorem textMark_mem_marks : d.textMark ∈ Literal.marks := by
  unfold textMark
  split <;> decide

/-- **The literal of a text** is its quotation behind the mark of the dialect. -/
theorem toList_textLiteral (s : String) :
    (d.textLiteral s).toList = d.textMark ++ d.quotation s.toList := by
  unfold textLiteral textMark
  split
  · rename_i hk
    simp [Literal.quoteText, quotation, escape, hk]
  · rename_i hk
    cases hu : d.config.useUnicode <;> simp [Literal.quoteText, quotation, escape, hk]
  · rename_i hm hs
    rw [quotation, escape, if_neg hm, if_neg fun h => hs h.1, Literal.quoteText,
      String.toList_ofList, List.nil_append]

end Dialect

/-! ### Stamps -/

namespace Text

/-- Whether `c` may stand in the text of a date or a time. -/
def isStamp (c : Char) : Bool := c.isDigit || ['-', '+', ':', ' ', '.'].contains c

/-- A text of characters of dates and times. -/
def IsStamp (s : String) : Prop := s.toList.all isStamp = true

instance (s : String) : Decidable (IsStamp s) := inferInstanceAs (Decidable (_ = true))

theorem IsStamp.append {s t : String} (hs : IsStamp s) (ht : IsStamp t) : IsStamp (s ++ t) := by
  rw [IsStamp, String.toList_append, List.all_append, hs, ht]
  rfl

theorem isStamp_padNat (w n : Nat) : IsStamp (padNat w n) := by
  rw [IsStamp, List.all_eq_true]
  intro c hc
  simp [isStamp, isDigit_padNat w n c hc]

theorem IsStamp.backslash {s : String} (h : IsStamp s) : '\\' ∉ s.toList := by
  intro hmem
  exact absurd (List.all_eq_true.1 h _ hmem) (by decide)

end Text

open Text in
theorem Date.isStamp_toText (t : Date) : IsStamp t.toText := by
  have hyear : IsStamp (yearText t.year) := by
    unfold yearText
    split
    · exact isStamp_padNat _ _
    · refine IsStamp.append ?_ (isStamp_padNat _ _)
      split <;> decide
  exact (((hyear.append (by decide)).append (isStamp_padNat _ _)).append (by decide)).append
    (isStamp_padNat _ _)

open Text in
theorem TimeOfDay.isStamp_toSeconds (t : TimeOfDay) : IsStamp t.toSeconds :=
  ((((isStamp_padNat _ _).append (by decide)).append (isStamp_padNat _ _)).append (by decide)).append
    (isStamp_padNat _ _)

open Text in
theorem TimeOfDay.isStamp_toMillis (t : TimeOfDay) : IsStamp t.toMillis :=
  (t.isStamp_toSeconds.append (by decide)).append (isStamp_padNat _ _)

open Text in
theorem DateTime.isStamp_toMillis (t : DateTime) : IsStamp t.toMillis :=
  (t.date.isStamp_toText.append (by decide)).append t.time.isStamp_toMillis

namespace Guid

/-- Whether `c` may stand in the text of an identifier. -/
def isPart (c : Char) : Bool := c.isAlphanum || c == '-'

theorem isPart_of_mem_toText {g : Guid} {c : Char} (h : c ∈ g.toText.toList) :
    isPart c = true := by
  have hdigit : ∀ x ∈ g.digits, isPart x = true := by
    intro x hx
    obtain ⟨i, -, rfl⟩ := List.mem_map.1 hx
    rw [isPart, Text.isAlphanum_hexDigit false (Nat.mod_lt _ (by decide))]
    rfl
  have hdash : isPart '-' = true := by decide
  rw [toText, String.toList_ofList] at h
  simp only [List.mem_append, List.mem_cons, or_assoc] at h
  rcases h with h | h | h | h | h | h | h | h | h
  · exact hdigit c (List.mem_of_mem_take h)
  · exact h ▸ hdash
  · exact hdigit c (List.mem_of_mem_drop (List.mem_of_mem_take h))
  · exact h ▸ hdash
  · exact hdigit c (List.mem_of_mem_drop (List.mem_of_mem_take h))
  · exact h ▸ hdash
  · exact hdigit c (List.mem_of_mem_drop (List.mem_of_mem_take h))
  · exact h ▸ hdash
  · exact hdigit c (List.mem_of_mem_drop h)

end Guid

/-! ### Lists -/

namespace Dialect

variable {d : Dialect} {hint : Option FieldType} {vs : List Value} {s : String} {ss : List String}

theorem literal_list_eq_ok :
    d.literal hint (.list vs) = .ok s ↔ ∃ ss, d.literals hint vs = .ok ss ∧ s = Text.joinWith "," ss := by
  rw [literal]
  cases d.literals hint vs with
  | error e => simp [Except.map]
  | ok ss => simp [Except.map, eq_comm]

/-- The literals of some items, one for each. -/
theorem literals_eq_ok :
    d.literals hint vs = .ok ss ↔ List.Forall₂ (fun v s => d.literal hint v = .ok s) vs ss := by
  induction vs generalizing ss with
  | nil => simp [literals, eq_comm]
  | cons v vs ih =>
      rw [literals, List.forall₂_cons_left_iff]
      cases d.literal hint v with
      | error e => simp
      | ok s =>
          simp only [← ih]
          cases d.literals hint vs with
          | error e => simp [Except.map]
          | ok rest => simp [Except.map, eq_comm]

/-- Each of them is the literal of an item. -/
theorem exists_of_mem_literals (h : d.literals hint vs = .ok ss) (hs : s ∈ ss) :
    ∃ v ∈ vs, d.literal hint v = .ok s := by
  rw [literals_eq_ok] at h
  induction h with
  | nil => cases hs
  | cons hv _ ih =>
      rcases List.mem_cons.1 hs with rfl | hs
      · exact ⟨_, List.mem_cons_self, hv⟩
      · obtain ⟨w, hw, hliteral⟩ := ih hs
        exact ⟨w, List.mem_cons_of_mem _ hw, hliteral⟩

end Dialect

/-! ### The forms -/

namespace Literal

/-- The words that stand for values. -/
def words : List (List Char) := ["NULL", "true", "false", "inf", "NaN"].map String.toList

/-- **The forms of literals.** -/
inductive Form (d : Dialect) : List Char → Prop
  | numeral {cs : List Char} (h : IsSigned cs) : Form d cs
  | word {cs : List Char} (h : cs ∈ words) : Form d cs
  | infinity : Form d "-inf".toList
  | text {mark : List Char} (h : mark ∈ marks) (cs : List Char) : Form d (mark ++ d.quotation cs)
  | uuid (cs : List Char) : Form d (d.quotation cs ++ "::uuid".toList)
  | decode (cs : List Char) :
      Form d ("decode(".toList ++ (d.quotation cs ++ ", 'hex'".toList) ++ ")".toList)
  | cast (cs : List Char) :
      Form d ("CAST(".toList ++ (d.quotation cs ++ " AS UNIQUEIDENTIFIER".toList) ++ ")".toList)

variable {d : Dialect}

theorem Form.quotation (cs : List Char) : Form d (d.quotation cs) := by
  have hmark : [] ∈ marks := by decide
  exact .text hmark cs

theorem Form.ne_nil {cs : List Char} (h : Form d cs) : cs ≠ [] := by
  cases h with
  | numeral h =>
      obtain ⟨negative, ds, hds, rfl⟩ := h
      cases hds <;> simp
  | word h =>
      rintro rfl
      revert h
      decide
  | _ => simp [Dialect.quotation]

theorem Form.quoteText {s : String} (h : '\\' ∉ s.toList) : Form d (quoteText s).toList :=
  d.toList_quoteText h ▸ .quotation s.toList

theorem Form.int (n : Int) : Form d (toString n).toList := .numeral (isSigned_int n)

theorem form_textLiteral (s : String) : Form d (d.textLiteral s).toList := by
  rw [d.toList_textLiteral]
  exact .text d.textMark_mem_marks s.toList

theorem form_boolLiteral (b : Bool) : Form d (d.boolLiteral b).toList := by
  have hone : Form d "1".toList := .int 1
  have hzero : Form d "0".toList := .int 0
  have htrue : Form d "true".toList := .word (by decide)
  have hfalse : Form d "false".toList := .word (by decide)
  obtain ⟨kind, config⟩ := d
  cases kind <;> cases b <;> first
    | exact hone
    | exact hzero
    | exact htrue
    | exact hfalse

/-- What is between the quotes of a text of digits of base 16. -/
theorem toList_hex (upper : Bool) (bs : List UInt8) :
    '\'' :: (Text.hex upper bs).toList ++ ['\''] = d.quotation (Text.hex upper bs).toList := by
  apply d.toList_bare <;> intro h <;> exact absurd (Text.isAlphanum_of_mem_hex h) (by decide)

theorem form_bytesLiteral (bs : List UInt8) : Form d (d.bytesLiteral bs).toList := by
  have hhex : Form d ("0x" ++ Text.hex true bs).toList := by
    rw [String.toList_append]
    exact .numeral ⟨false, _, .hexadecimal fun x => Text.isAlphanum_of_mem_hex, rfl⟩
  have hmark (mark : String) (hm : mark.toList ∈ marks) :
      Form d (mark ++ "'" ++ Text.hex true bs ++ "'").toList := by
    have := Form.text (d := d) hm (Text.hex true bs).toList
    rw [← toList_hex] at this
    simpa using this
  unfold Dialect.bytesLiteral
  dsimp only
  split
  · exact hmark "x" (by decide)
  · split
    · rename_i hnil
      have := hmark "X" (by decide)
      rwa [List.isEmpty_iff.1 hnil] at this
    · exact hhex
  · have := Form.decode (d := d) (Text.hex true bs).toList
    rw [← toList_hex] at this
    simpa using this
  · exact hhex
  · exact hmark "X" (by decide)

theorem form_guidLiteral (g : Guid) : Form d (d.guidLiteral g).toList := by
  have hquoted : '\'' :: g.toText.toList ++ ['\''] = d.quotation g.toText.toList := by
    apply d.toList_bare <;> intro h <;> exact absurd (Guid.isPart_of_mem_toText h) (by decide)
  unfold Dialect.guidLiteral
  split
  · exact form_bytesLiteral _
  · split
    · have := Form.uuid (d := d) g.toText.toList
      rw [← hquoted] at this
      simpa using this
    · have := Form.cast (d := d) g.toText.toList
      rw [← hquoted] at this
      simpa using this
    · have := Form.quotation (d := d) g.toText.toList
      rw [← hquoted] at this
      simpa using this

theorem form_write {fmt : Numeric.Format} {t : Numeric.TieRule} {text : Numeric.Numeral → String}
    (h : ∀ n, IsNumeral (text n).toList) (b : Numeric.Binary) :
    Form d (b.write fmt t text).toList := by
  have hnan : Form d "NaN".toList := .word (by decide)
  have hinf : Form d "inf".toList := .word (by decide)
  cases b with
  | nan => exact hnan
  | infinite negative =>
      cases negative with
      | true => exact .infinity
      | false => exact hinf
  | finite negative m q =>
      refine .numeral ⟨negative, _, h (Numeric.shortest fmt t m q), ?_⟩
      cases negative <;> simp [Numeric.Binary.write]

theorem form_ite {p : Prop} [Decidable p] {s t : String} (hs : Form d s.toList)
    (ht : Form d t.toList) : Form d (if p then s else t).toList := by
  split
  · exact hs
  · exact ht

theorem form_float {f : Float} {single : Bool} {s : String} (h : float f single = .ok s) :
    Form d s.toList := by
  unfold float at h
  generalize Numeric.Binary.ofFloat f = b at h
  cases b with
  | nan => simp at h
  | infinite negative => simp at h
  | finite negative m q =>
      simp only [Except.ok.injEq] at h
      rw [← h]
      exact form_ite (form_write isNumeral_plain _) (form_write isNumeral_scientific _)

/-- **The parts of the text of a decimal**: the digits without the point are those of the coefficient, maybe
with zeros in front. -/
theorem exists_toText_decimal (x : Numeric.Decimal) : ∃ front back : List Char,
    x.toText.toList = (if x.negative then ['-'] else []) ++
      (front ++ if x.scale = 0 then [] else '.' :: back) ∧
    front ≠ [] ∧ back.length = x.scale ∧ (∀ c ∈ front ++ back, c.isDigit = true) ∧
    Nat.ofDigitChars 10 (front ++ back) 0 = x.coefficient := by
  let padded := List.replicate (x.scale + 1 - (Nat.toDigits 10 x.coefficient).length) '0' ++
    Nat.toDigits 10 x.coefficient
  have hlength : x.scale < padded.length := by
    simp only [padded, List.length_append, List.length_replicate]
    omega
  have hjoined : padded.take (padded.length - x.scale) ++ padded.drop (padded.length - x.scale) =
      padded := List.take_append_drop _ _
  refine ⟨padded.take (padded.length - x.scale), padded.drop (padded.length - x.scale), ?_, ?_, ?_, ?_, ?_⟩
  · rw [← List.append_assoc]
    exact String.toList_ofList
  · refine List.ne_nil_of_length_pos ?_
    rw [List.length_take]
    omega
  · rw [List.length_drop]
    omega
  · rw [hjoined]
    exact fun c => Text.isDigit_of_mem_padded
  · rw [hjoined, Nat.ofDigitChars_append, Nat.ofDigitChars_replicate_zero, Nat.mul_zero]
    exact Nat.ofDigitChars_ten_toDigits

theorem form_decimal (x : Numeric.Decimal) : Form d x.toText.toList := by
  obtain ⟨front, back, htext, hne, -, hdigits, -⟩ := exists_toText_decimal x
  rw [htext]
  refine .numeral ⟨x.negative, _, ?_, rfl⟩
  split
  · rw [List.append_nil]
    exact isNumeral_digits hne fun c hc => hdigits c (List.mem_append_left back hc)
  · exact isNumeral_point hne hdigits

theorem form_intLiteral {n : Int64} {hint : Option FieldType} {s : String}
    (h : d.intLiteral n hint = .ok s) : Form d s.toList := by
  unfold Dialect.intLiteral at h
  split at h
  · cases h
    exact form_boolLiteral _
  · split at h
    · cases h
      exact .int _
    · split at h
      · cases h
        exact form_textLiteral _
      · cases h
  · cases h
    exact .int _

theorem form_stringLiteral {t : String} {hint : Option FieldType} {s : String}
    (h : d.stringLiteral t hint = .ok s) : Form d s.toList := by
  unfold Dialect.stringLiteral at h
  split at h
  · split at h
    · cases h
      exact form_guidLiteral _
    · cases h
  · split at h
    · split at h
      · cases h
        exact .int _
      · cases h
    · cases h
      exact form_textLiteral _
  · cases h
    exact form_textLiteral _

theorem form_enumLiteral (e : EnumValue) (hint : Option FieldType) :
    Form d (d.enumLiteral e hint).toList := by
  unfold Dialect.enumLiteral
  exact form_ite (.int _) (form_textLiteral _)

/-- **The literal of a value that is no list has one of the forms.** -/
theorem form_literal {v : Value} (hv : ∀ items, v ≠ .list items) {hint : Option FieldType}
    {s : String} (h : d.literal hint v = .ok s) : Form d s.toList := by
  cases v with
  | list items => exact absurd rfl (hv items)
  | int n =>
      rw [Dialect.literal] at h
      exact form_intLiteral h
  | float f =>
      rw [Dialect.literal] at h
      exact form_float h
  | text t =>
      rw [Dialect.literal] at h
      exact form_stringLiteral h
  | null =>
      rw [Dialect.literal] at h
      cases h
      exact .word (by decide)
  | bool b =>
      rw [Dialect.literal] at h
      cases h
      exact form_ite (form_ite (.int 1) (.int 0)) (form_boolLiteral b)
  | decimal x =>
      rw [Dialect.literal] at h
      cases h
      exact form_decimal x
  | guid g =>
      rw [Dialect.literal] at h
      cases h
      exact form_guidLiteral g
  | datetime t =>
      rw [Dialect.literal] at h
      cases h
      refine .quoteText (Text.IsStamp.backslash ?_)
      unfold dateTime
      split
      · exact t.date.isStamp_toText
      · exact t.isStamp_toMillis
  | date t =>
      rw [Dialect.literal] at h
      cases h
      exact .quoteText t.isStamp_toText.backslash
  | time t =>
      rw [Dialect.literal] at h
      cases h
      refine .quoteText (Text.IsStamp.backslash ?_)
      unfold time
      split
      · exact t.isStamp_toSeconds
      · exact t.isStamp_toMillis
  | bytes bs =>
      rw [Dialect.literal] at h
      cases h
      exact form_bytesLiteral bs
  | enum e =>
      rw [Dialect.literal] at h
      cases h
      exact form_enumLiteral e hint

/-- **What holds of the forms, and of lists of texts that it holds of, holds of every literal.** -/
theorem forms_and {P : String → Prop} (hform : ∀ {t : String}, Form d t.toList → P t)
    (hjoin : ∀ {ts : List String}, (∀ t ∈ ts, P t) → P (Text.joinWith "," ts))
    (hint : Option FieldType) :
    (∀ v t, d.literal hint v = .ok t → P t) ∧
      ∀ vs ts, d.literals hint vs = .ok ts → ∀ t ∈ ts, P t := by
  have hone (v : Value) : ∀ t, d.literal hint v = .ok t → P t := by
    induction v using Value.induction with
    | scalar v hv => exact fun t h => hform (form_literal (Value.ne_list_of_isScalar hv) h)
    | list items ih =>
        intro t h
        obtain ⟨ts, hts, rfl⟩ := Dialect.literal_list_eq_ok.1 h
        refine hjoin fun u hu => ?_
        obtain ⟨v, hv, hvu⟩ := Dialect.exists_of_mem_literals hts hu
        exact ih v hv u hvu
  refine ⟨hone, fun vs ts h t ht => ?_⟩
  obtain ⟨v, -, hvt⟩ := Dialect.exists_of_mem_literals h ht
  exact hone v t hvt

end Literal

end ModelSql
