/-
**String matches.**

Whether a text starts with another one, ends with it or contains it is documented to be asked without
regard to the case of letters: in upper case.  Of a column it is asked by a pattern, of a value by a
search.  The pattern has the needle in it as it is, so that the wildcards among its characters accept
other texts, too; the search compares letters as they are, so that it misses other spellings.  Apart
from that both give the documented answer.

Main definitions:

* `StringMethod.Finds` — a text has another one where the match looks for it;
* `StringMethod.Spells` — the closest spellings of a needle;
* `Scope.Carries` — a literal or a placeholder stands for a text.

Main results:

* `StringMethod.accepts_pattern_iff` — **what the pattern of a needle accepts**;
* `Scope.visit_like_iff` — **the match of a column**, and the needles that it is right for;
* `StringMethod.finds_upper_iff` — what the documented match finds are closest spellings;
* `Scope.visit_search_iff` — **the match of a value**, and the texts and needles that it is right for;
* `StringMethod.agrees_iff_of_isAscii` — ASCII needles that it is right for are those without letters.
-/

import Mathlib.Data.List.Infix
import ModelSql.Proofs.Query.Operand
import ModelSql.Proofs.Query.Operation
import ModelSql.Proofs.Syntax.Quotation
import ModelSql.Proofs.Text.Pattern

set_option relaxedAutoImplicit false
set_option autoImplicit false

namespace ModelSql

open Text (upperChar upperChars IsAscii IsMark)

/-- The search for a list in a list finds it wherever it stands. -/
theorem Text.hasInfix_iff {p t : List Char} : Text.hasInfix p t = true ↔ p <:+: t := by
  induction t with
  | nil => rw [Text.hasInfix, List.isEmpty_iff, List.infix_nil]
  | cons c t ih =>
      rw [Text.hasInfix, Bool.or_eq_true, List.isPrefixOf_iff_prefix, ih, List.infix_cons_iff]

namespace StringMethod

/-! ### Where a match looks -/

/-- A text has another one where a string match looks for it: in front, at the end, or anywhere. -/
def Finds (m : StringMethod) (t p : List Char) : Prop :=
  match m with
  | .startsWith => p <+: t
  | .endsWith => p <:+ t
  | _ => p <:+: t

variable {m : StringMethod} {p q r t : List Char}

instance (m : StringMethod) (t p : List Char) : Decidable (m.Finds t p) :=
  match m with
  | .startsWith => inferInstanceAs (Decidable (p <+: t))
  | .endsWith => inferInstanceAs (Decidable (p <:+ t))
  | .trim | .trimStart | .trimEnd | .toUpper | .toLower | .contains | .substring =>
    inferInstanceAs (Decidable (p <:+: t))

/-- What stands around the other text. -/
theorem finds_iff : m.Finds t p ↔
    ∃ a b, t = a ++ (p ++ b) ∧ (m = .startsWith → a = []) ∧ (m = .endsWith → b = []) := by
  unfold Finds
  split
  · constructor
    · rintro ⟨b, rfl⟩
      exact ⟨[], b, rfl, by simp, by simp⟩
    · rintro ⟨a, b, rfl, ha, -⟩
      rw [ha rfl]
      exact ⟨b, rfl⟩
  · constructor
    · rintro ⟨a, rfl⟩
      exact ⟨a, [], by simp, by simp, by simp⟩
    · rintro ⟨a, b, rfl, -, hb⟩
      rw [hb rfl, List.append_nil]
      exact ⟨a, rfl⟩
  · rename_i hstart hend
    constructor
    · rintro ⟨a, b, rfl⟩
      exact ⟨a, b, by simp, fun h => absurd h hstart, fun h => absurd h hend⟩
    · rintro ⟨a, b, rfl, -, -⟩
      exact ⟨a, b, by simp⟩

theorem finds_refl (m : StringMethod) (t : List Char) : m.Finds t t :=
  finds_iff.2 ⟨[], [], by simp, by simp, by simp⟩

theorem Finds.trans (h : m.Finds t q) (h' : m.Finds q p) : m.Finds t p := by
  obtain ⟨a, b, rfl, ha, hb⟩ := finds_iff.1 h
  obtain ⟨x, y, rfl, hx, hy⟩ := finds_iff.1 h'
  refine finds_iff.2 ⟨a ++ x, y ++ b, by simp, fun hm => ?_, fun hm => ?_⟩
  · rw [ha hm, hx hm, List.append_nil]
  · rw [hb hm, hy hm, List.append_nil]

/-- Nothing but the text itself is as long as the text. -/
theorem Finds.eq_of_length_le (h : m.Finds t p) (hle : t.length ≤ p.length) : p = t := by
  obtain ⟨a, b, rfl, -, -⟩ := finds_iff.1 h
  simp only [List.length_append] at hle
  have ha : a = [] := List.eq_nil_of_length_eq_zero (by omega)
  have hb : b = [] := List.eq_nil_of_length_eq_zero (by omega)
  rw [ha, hb, List.append_nil, List.nil_append]

theorem Finds.mem {c : Char} (h : m.Finds t p) (hc : c ∈ p) : c ∈ t := by
  obtain ⟨a, b, rfl, -, -⟩ := finds_iff.1 h
  exact List.mem_append_right a (List.mem_append_left b hc)

/-- What is found as it is, is found in upper case. -/
theorem Finds.upper (h : m.Finds t p) : m.Finds (upperChars t) (upperChars p) := by
  obtain ⟨a, b, rfl, ha, hb⟩ := finds_iff.1 h
  refine finds_iff.2 ⟨upperChars a, upperChars b, by simp, fun hm => ?_, fun hm => ?_⟩
  · rw [ha hm, Text.upperChars_nil]
  · rw [hb hm, Text.upperChars_nil]

/-! ### Patterns -/

/-- **What the pattern of a needle accepts**: the texts in which it finds something that the needle,
taken as a pattern, accepts. -/
theorem accepts_pattern_iff (hm : m.isTest = true) {s : String} :
    Pattern.Accepts (m.pattern s).toList t ↔
      ∃ q, Pattern.Accepts (upperChars s.toList) q ∧ m.Finds t q := by
  have hany : "%".toList = ['%'] := rfl
  have hempty : "".toList = [] := rfl
  cases m with
  | startsWith =>
      simp only [pattern, String.toList_append, Text.toList_upper, hany, hempty, List.nil_append]
      rw [Pattern.accepts_append]
      constructor
      · rintro ⟨q, b, rfl, hq, -⟩
        exact ⟨q, hq, b, rfl⟩
      · rintro ⟨q, hq, b, rfl⟩
        exact ⟨q, b, rfl, hq, Pattern.accepts_any b⟩
  | endsWith =>
      simp only [pattern, String.toList_append, Text.toList_upper, hany, hempty, List.append_nil]
      rw [Pattern.accepts_append]
      constructor
      · rintro ⟨a, q, rfl, -, hq⟩
        exact ⟨q, hq, a, rfl⟩
      · rintro ⟨q, hq, a, rfl⟩
        exact ⟨a, q, rfl, Pattern.accepts_any a, hq⟩
  | contains =>
      simp only [pattern, String.toList_append, Text.toList_upper, hany, List.append_assoc]
      rw [Pattern.accepts_append]
      constructor
      · rintro ⟨a, w, rfl, -, hw⟩
        obtain ⟨q, b, rfl, hq, -⟩ := Pattern.accepts_append.1 hw
        exact ⟨q, hq, a, b, List.append_assoc a q b⟩
      · rintro ⟨q, hq, a, b, rfl⟩
        exact ⟨a, q ++ b, List.append_assoc a q b, Pattern.accepts_any a,
          Pattern.accepts_append.2 ⟨q, b, rfl, hq, Pattern.accepts_any b⟩⟩
  | _ => cases hm

/-- Where the documented match finds the needle, the pattern accepts the text. -/
theorem accepts_of_finds (hm : m.isTest = true) {s : String} (h : m.Finds t (upperChars s.toList)) :
    Pattern.Accepts (m.pattern s).toList t :=
  (accepts_pattern_iff hm).2 ⟨_, Pattern.accepts_self _, h⟩

/-- A needle without wildcards has none in upper case. -/
theorem not_isWildcard_upperChars (h : ∀ c ∈ p, ¬ Pattern.IsWildcard c) :
    ∀ c ∈ upperChars p, ¬ Pattern.IsWildcard c :=
  fun c hc hw => h c (Text.mem_of_mem_upperChars hw.isMark hc) hw

/-- **Without wildcards** the pattern of a needle accepts what it should. -/
theorem accepts_pattern_iff_finds (hm : m.isTest = true) {s : String}
    (h : ∀ c ∈ s.toList, ¬ Pattern.IsWildcard c) :
    Pattern.Accepts (m.pattern s).toList t ↔ m.Finds t (upperChars s.toList) := by
  rw [accepts_pattern_iff hm]
  constructor
  · rintro ⟨q, hq, hfinds⟩
    rwa [(Pattern.accepts_iff_eq (not_isWildcard_upperChars h)).1 hq] at hfinds
  · intro hfinds
    exact ⟨_, Pattern.accepts_self _, hfinds⟩

/-- **The needles with wildcards** are those whose pattern accepts a text that it should not accept. -/
theorem accepts_pattern_iff_forall (hm : m.isTest = true) (s : String) :
    (∀ t : String, Pattern.Accepts (m.pattern s).toList (Text.upper t).toList ↔
      m.Finds (Text.upper t).toList (Text.upper s).toList) ↔
        ∀ c ∈ s.toList, ¬ Pattern.IsWildcard c := by
  simp only [Text.toList_upper]
  constructor
  · intro h c hc hw
    -- the needle without its wildcards is accepted, and has none to be found in it
    have haccepts : Pattern.Accepts (m.pattern s).toList (upperChars (Pattern.plain s.toList)) :=
      (accepts_pattern_iff hm).2 ⟨_, Pattern.accepts_upperChars_plain s.toList, finds_refl m _⟩
    have hfinds := (h (String.ofList (Pattern.plain s.toList))).1 (by simpa using haccepts)
    rw [String.toList_ofList] at hfinds
    have hupper : c ∈ upperChars s.toList :=
      List.mem_flatMap.2 ⟨c, hc, by rw [hw.isMark.upperChar]; exact List.mem_singleton.2 rfl⟩
    have hplain := Text.mem_of_mem_upperChars hw.isMark (hfinds.mem hupper)
    exact Pattern.not_isWildcard_of_mem_plain hplain hw
  · intro h t
    exact accepts_pattern_iff_finds hm h

/-! ### Spellings -/

/-- **The closest spellings of a needle**: the documented match finds the needle in them, and in no part
of them that stands in the same place. -/
def Spells (m : StringMethod) (q p : List Char) : Prop :=
  m.Finds (upperChars q) (upperChars p) ∧
    ∀ r, m.Finds q r → m.Finds (upperChars r) (upperChars p) → r = q

/-- **What the documented match finds** are closest spellings of the needle. -/
theorem finds_upper_iff :
    m.Finds (upperChars t) (upperChars p) ↔ ∃ q, m.Spells q p ∧ m.Finds t q := by
  constructor
  · intro h
    -- a shortest part in which the needle is found
    induction hn : t.length using Nat.strong_induction_on generalizing t with
    | _ n ih =>
        by_cases hpart : ∀ r, m.Finds t r → m.Finds (upperChars r) (upperChars p) → r = t
        · exact ⟨t, ⟨h, hpart⟩, finds_refl m t⟩
        · push Not at hpart
          obtain ⟨r, hr, hfound, hne⟩ := hpart
          have hlt : r.length < t.length :=
            lt_of_not_ge fun hle => hne (hr.eq_of_length_le hle)
          obtain ⟨q, hq, hrq⟩ := ih r.length (hn ▸ hlt) hfound rfl
          exact ⟨q, hq, hr.trans hrq⟩
  · rintro ⟨q, hq, h⟩
    exact h.upper.trans hq.1

/-- A closest spelling in which the needle stands is the needle. -/
theorem Spells.eq_of_finds (hq : m.Spells q p) (h : m.Finds q p) : q = p :=
  (hq.2 p h (finds_refl m _)).symm

/-- The two answers agree on a text when a spelling in it comes with the needle. -/
theorem agrees_iff : (m.Finds t p ↔ m.Finds (upperChars t) (upperChars p)) ↔
    ∀ q, m.Spells q p → m.Finds t q → m.Finds t p := by
  constructor
  · intro h q hq hfinds
    exact h.2 (finds_upper_iff.2 ⟨q, hq, hfinds⟩)
  · intro h
    refine ⟨Finds.upper, fun hupper => ?_⟩
    obtain ⟨q, hq, hfinds⟩ := finds_upper_iff.1 hupper
    exact h q hq hfinds

/-- **The two answers agree on all texts** when the needle has no other spelling. -/
theorem agrees_forall_iff :
    (∀ t, m.Finds t p ↔ m.Finds (upperChars t) (upperChars p)) ↔ ∀ q, m.Spells q p → q = p := by
  constructor
  · intro h q hq
    exact hq.eq_of_finds ((h q).2 hq.1)
  · intro h t
    refine agrees_iff.2 fun q hq hfinds => ?_
    rwa [← h q hq]

/-- An ASCII letter in the other case, and any other character as it is. -/
def otherCase (c : Char) : Char := if c.isLower then c.toUpper else c.toLower

/-- **An ASCII needle** for which the two answers agree on all texts has no letters. -/
theorem agrees_iff_of_isAscii {s : String} (hs : IsAscii s) :
    (∀ t, m.Finds t s.toList ↔ m.Finds (upperChars t) (upperChars s.toList)) ↔
      ∀ c ∈ s.toList, c.isAlpha = false := by
  have hcases : ∀ n < 128, (otherCase (Char.ofNat n)).toNat < 128 ∧
      (otherCase (Char.ofNat n)).toUpper = (Char.ofNat n).toUpper ∧
      ((Char.ofNat n).isAlpha = true → otherCase (Char.ofNat n) ≠ Char.ofNat n) := by
    decide
  have hother {c : Char} (hc : c.toNat < 128) : (otherCase c).toNat < 128 ∧
      (otherCase c).toUpper = c.toUpper ∧ (c.isAlpha = true → otherCase c ≠ c) :=
    Text.forall_ascii (p := fun c => (otherCase c).toNat < 128 ∧
      (otherCase c).toUpper = c.toUpper ∧ (c.isAlpha = true → otherCase c ≠ c)) hcases hc
  constructor
  · intro h c hc
    -- the needle with its letters in the other case is found, and is not the needle
    have hascii : ∀ x ∈ s.toList.map otherCase, x.toNat < 128 := by
      intro x hx
      obtain ⟨y, hy, rfl⟩ := List.mem_map.1 hx
      exact (hother (hs y hy)).1
    have hupper : upperChars (s.toList.map otherCase) = upperChars s.toList := by
      rw [Text.upperChars_eq_map hascii, Text.upperChars_eq_map hs, List.map_map]
      exact List.map_congr_left fun x hx => (hother (hs x hx)).2.1
    have hfinds : m.Finds (s.toList.map otherCase) s.toList := by
      rw [h, hupper]
      exact finds_refl m _
    have heq := hfinds.eq_of_length_le (by rw [List.length_map])
    cases halpha : c.isAlpha with
    | false => rfl
    | true =>
        have hsame := List.map_eq_map_iff.1 (heq.symm.trans (List.map_id s.toList).symm) c hc
        exact absurd hsame ((hother (hs c hc)).2.2 halpha)
  · intro h t
    have hmarks : ∀ c ∈ s.toList, IsMark c := fun c hc => ⟨hs c hc, h c hc⟩
    refine ⟨Finds.upper, fun hupper => ?_⟩
    rw [Text.upperChars_of_isMark hmarks] at hupper
    obtain ⟨u, v, ht, hu, hv⟩ := finds_iff.1 hupper
    by_cases hne : s.toList = []
    · rw [hne]
      unfold Finds
      split
      · exact List.nil_prefix
      · exact List.nil_suffix
      · exact List.nil_infix
    · obtain ⟨a, b, rfl, ha, hb⟩ := Text.exists_of_upperChars hmarks hne ht
      refine finds_iff.2 ⟨a, b, rfl, fun hm => ?_, fun hm => ?_⟩
      · exact Text.upperChars_eq_nil_iff.1 (ha.trans (hu hm))
      · exact Text.upperChars_eq_nil_iff.1 (hb.trans (hv hm))

end StringMethod

namespace Scope

variable {s : Scope} {m : StringMethod} {b c n : Bindings} {e : Expr} {args : List Expr} {v : Value}
  {vs : List Value}

/-! ### The match of a column -/

/-- **What stands for a text**: a literal that is read back, or a placeholder with the text bound to
it. -/
def Carries (s : Scope) (b c : Bindings) (hole text : String) : Prop :=
  if s.parameterized then
    hole = s.dialect.placeholder b.counter ∧
      c = ⟨b.parameters.push hole (.text text), b.counter + 1⟩
  else s.dialect.readText hole.toList = some (text.toList, []) ∧ c = b

theorem exists_bind_text (s : Scope) (text : String) (b : Bindings) :
    ∃ hole c, s.bind none (.text text) b = .ok (hole, c) ∧ s.Carries b c hole text := by
  unfold Carries bind
  split
  · exact ⟨_, _, rfl, rfl, rfl⟩
  · refine ⟨s.dialect.textLiteral text, b, rfl, ?_, rfl⟩
    have hend : ([] : List Char).head? ≠ some '\'' := nofun
    have hread := s.dialect.readText_toList text hend
    rwa [List.append_nil] at hread

/-- The text of a string match: the operand in upper case, and its pattern. -/
theorem exists_methodText_test (hm : m.isTest = true) (s : Scope) (sql : String) (v : Value)
    (vs : List Value) (b : Bindings) : ∃ hole c,
      s.methodText m sql (v :: vs) b = .ok (s.dialect.upper sql ++ " LIKE " ++ hole, c) ∧
        s.Carries b c hole (m.pattern v.toText) := by
  obtain ⟨hole, c, hbind, hcarries⟩ := s.exists_bind_text (m.pattern v.toText) b
  refine ⟨hole, c, ?_, hcarries⟩
  cases m with
  | startsWith | endsWith | contains =>
      exact bind_eq_ok.2 ⟨hole, c, hbind, rfl⟩
  | _ => cases hm

/-- **The match of a column or of any other text of a statement**: a pattern that accepts, in upper case,
every text that the match should find the needle in.  It accepts no other one exactly when no wildcard is
among the characters of the needle. -/
theorem visit_like_iff (hm : m.isTest = true) {p : Fragment} (hp : p.value? = none)
    (he : s.visit e b = .ok (p, c)) (hargs : s.visitAll args c = .ok ((v :: vs).map .value, n)) :
    ∃ sql hole k, s.operand none p n = .ok (sql, n) ∧
      s.visit (.method m e args) b = .ok (.sql (s.dialect.upper sql ++ " LIKE " ++ hole), k) ∧
      s.Carries n k hole (m.pattern v.toText) ∧
      (∀ t, m.Finds t (Text.upper v.toText).toList → Pattern.Accepts (m.pattern v.toText).toList t) ∧
      ((∀ t : String, Pattern.Accepts (m.pattern v.toText).toList (Text.upper t).toList ↔
          m.Finds (Text.upper t).toList (Text.upper v.toText).toList) ↔
        ∀ c ∈ v.toText.toList, ¬ Pattern.IsWildcard c) := by
  have htext : ∃ sql, s.operand none p n = .ok (sql, n) := by
    cases p with
    | value w => cases hp
    | sql t => exact ⟨t, rfl⟩
    | column t type => exact ⟨t, rfl⟩
  obtain ⟨sql, hsql⟩ := htext
  obtain ⟨hole, k, hmatch, hcarries⟩ := exists_methodText_test hm s sql v vs n
  refine ⟨sql, hole, k, hsql, ?_, hcarries, fun t ht => ?_, StringMethod.accepts_pattern_iff_forall hm _⟩
  · have hmethod : s.method m p ((v :: vs).map .value) n =
        .ok (.sql (s.dialect.upper sql ++ " LIKE " ++ hole), k) := by
      rw [method_text s hp]
      exact bind_eq_ok.2 ⟨sql, n, hsql, bind_eq_ok.2 ⟨_, k, hmatch, rfl⟩⟩
    rw [visit]
    exact bind_eq_ok.2 ⟨p, c, he, bind_eq_ok.2 ⟨_, n, hargs, hmethod⟩⟩
  · rw [Text.toList_upper] at ht
    exact StringMethod.accepts_of_finds hm ht

/-- The names that start with `an`, in any letter case. -/
theorem visit_like_iff_prefix :
    let s : Scope := ⟨DialectKind.sqlite.dialect, Query.people, false, false⟩
    let p := Fragment.column (s.column (Field.new "Name" .string)) .string
    let b : Bindings := ⟨⟨[]⟩, 0⟩
    StringMethod.startsWith.isTest = true ∧ p.value? = none ∧
      s.visit (.column "Name") b = .ok (p, b) ∧
      s.visitAll [.value (.text "an")] b = .ok ([.value (.text "an")], b) ∧
      ∀ t : String, Pattern.Accepts (StringMethod.startsWith.pattern "an").toList
          (Text.upper t).toList ↔
        StringMethod.startsWith.Finds (Text.upper t).toList (Text.upper "an").toList := by
  intro s p b
  have he : s.visit (.column "Name") b = .ok (p, b) := rfl
  have hargs : s.visitAll [.value (.text "an")] b =
    .ok ([Value.text "an"].map .value, b) := rfl
  have hall : "an".toList.all (fun c => !decide (Pattern.IsWildcard c)) = true := by decide
  have hplain : ∀ c ∈ "an".toList, ¬ Pattern.IsWildcard c := fun c hc => by
    simpa using List.all_eq_true.1 hall c hc
  obtain ⟨_, _, _, -, -, -, -, hiff⟩ := visit_like_iff (m := .startsWith) rfl rfl he hargs
  exact ⟨rfl, rfl, he, hargs, hiff.2 hplain⟩

/-- **A wildcard in a needle**: the pattern for the names that start with `50%` accepts `500`. -/
theorem visit_like_percent :
    let s : Scope := ⟨DialectKind.sqlite.dialect, Query.people, false, false⟩
    (∃ c, s.visit (.method .startsWith (.column "Name") [.value (.text "50%")]) ⟨⟨[]⟩, 0⟩ =
        .ok (.sql "UPPER(\"Name\") LIKE '50%%'", c)) ∧
      s.dialect.readText "'50%%'".toList = some ("50%%".toList, []) ∧
      Pattern.Accepts "50%%".toList (Text.upper "500").toList ∧
      ¬ StringMethod.startsWith.Finds (Text.upper "500").toList (Text.upper "50%").toList := by
  refine ⟨⟨_, rfl⟩, by decide, ?_, ?_⟩
  · decide
  · decide

/-! ### The match of a value -/

/-- **The search for a needle** compares letters as they are. -/
theorem foldMethod_test (hm : m.isTest = true) (t : String) (v : Value) (vs : List Value) :
    Fold.method m (.text t) (v :: vs) =
      .ok (.bool (decide (m.Finds t.toList v.toText.toList))) := by
  have hfound {found : Bool} (h : found = true ↔ m.Finds t.toList v.toText.toList) :
      (.ok (.bool found) : Except Error Value) =
        .ok (.bool (decide (m.Finds t.toList v.toText.toList))) := by
    have hdecide : found = decide (m.Finds t.toList v.toText.toList) := by
      rw [← Bool.coe_iff_coe, h, decide_eq_true_iff]
    rw [hdecide]
  cases m with
  | startsWith => exact hfound List.isPrefixOf_iff_prefix
  | endsWith => exact hfound List.isSuffixOf_iff_suffix
  | contains => exact hfound Text.hasInfix_iff
  | _ => cases hm

/-- **The match of a value**: the needle is searched for with its letters as they are.  What is found so
should be found; where that is not the documented answer, another spelling of the needle stands in the
text, and the needle itself does not.  The needles for which it always is the documented answer are those
without another spelling. -/
theorem visit_search_iff (hm : m.isTest = true)
    (hargs : s.visitAll args b = .ok ((v :: vs).map .value, c)) :
    (∀ t : String, s.visit (.method m (.value (.text t)) args) b =
      .ok (.value (.bool (decide (m.Finds t.toList v.toText.toList))), c)) ∧
    (∀ t : String, m.Finds t.toList v.toText.toList →
      m.Finds (Text.upper t).toList (Text.upper v.toText).toList) ∧
    (∀ t : String, (m.Finds t.toList v.toText.toList ↔
        m.Finds (Text.upper t).toList (Text.upper v.toText).toList) ↔
      ∀ q, m.Spells q v.toText.toList → m.Finds t.toList q → m.Finds t.toList v.toText.toList) ∧
    ((∀ t : String, m.Finds t.toList v.toText.toList ↔
        m.Finds (Text.upper t).toList (Text.upper v.toText).toList) ↔
      ∀ q, m.Spells q v.toText.toList → q = v.toText.toList) := by
  simp only [Text.toList_upper]
  refine ⟨fun t => ?_, fun t => StringMethod.Finds.upper, fun t => StringMethod.agrees_iff, ?_⟩
  · have hmethod : s.method m (.value (.text t)) ((v :: vs).map .value) c =
        .ok (.value (.bool (decide (m.Finds t.toList v.toText.toList))), c) := by
      rw [method_constant, foldMethod_test hm]
      rfl
    rw [visit]
    exact bind_eq_ok.2 ⟨_, b, rfl, bind_eq_ok.2 ⟨_, c, hargs, hmethod⟩⟩
  · rw [← StringMethod.agrees_forall_iff]
    exact ⟨fun h t => by simpa using h (String.ofList t), fun h t => h t.toList⟩

/-- The values that start with `50%`, which has no letters. -/
theorem visit_search_iff_marks :
    let s : Scope := ⟨DialectKind.sqlite.dialect, Query.people, false, false⟩
    let b : Bindings := ⟨⟨[]⟩, 0⟩
    StringMethod.startsWith.isTest = true ∧
      s.visitAll [.value (.text "50%")] b = .ok ([.value (.text "50%")], b) ∧
      ∀ t : String, StringMethod.startsWith.Finds t.toList "50%".toList ↔
        StringMethod.startsWith.Finds (Text.upper t).toList (Text.upper "50%").toList := by
  intro s b
  have hargs : s.visitAll [.value (.text "50%")] b =
    .ok ([Value.text "50%"].map .value, b) := rfl
  have hall : "50%".toList.all (fun c => decide (IsMark c)) = true := by decide
  have hmarks : ∀ c ∈ "50%".toList, IsMark c := fun c hc => by
    simpa using List.all_eq_true.1 hall c hc
  have hascii : IsAscii "50%" := fun c hc => (hmarks c hc).1
  have honly := StringMethod.agrees_forall_iff.1
    ((StringMethod.agrees_iff_of_isAscii (m := .startsWith) hascii).2 fun c hc => (hmarks c hc).2)
  obtain ⟨-, -, -, hiff⟩ := visit_search_iff (m := .startsWith) rfl hargs
  exact ⟨rfl, hargs, hiff.2 honly⟩

/-- **Letters are compared as they are**: `Ada` does not start with `ada` as a value, but it does where it
is the text of a column. -/
theorem visit_search_letters :
    let s : Scope := ⟨DialectKind.sqlite.dialect, Query.people, false, false⟩
    let b : Bindings := ⟨⟨[]⟩, 0⟩
    s.visit (.method .startsWith (.value (.text "Ada")) [.value (.text "ada")]) b =
        .ok (.value (.bool false), b) ∧
      StringMethod.startsWith.Finds (Text.upper "Ada").toList (Text.upper "ada").toList ∧
      s.visit (.method .startsWith (.column "Name") [.value (.text "ada")]) b =
        .ok (.sql (s.dialect.upper "\"Name\"" ++ " LIKE " ++ s.dialect.textLiteral "ADA%"), b) ∧
      Pattern.Accepts "ADA%".toList (Text.upper "Ada").toList := by
  refine ⟨rfl, by decide, rfl, by decide⟩

end Scope

end ModelSql
