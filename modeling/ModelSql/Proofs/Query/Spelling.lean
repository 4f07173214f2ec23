/-
**The words of expressions.**

Whatever an expression is written as is read as a list of tokens and groups, wherever it stands.  The
connectives `AND` and `OR` stand between parentheses in it, and it starts with `NOT` only where the
expression has one.

Main definitions:

* `Spelled` — a text that is read as a list without connectives, and that may start with `NOT`.

Main results:

* `Spelled.append`, `Spelled.member`, `Spelled.named`, … — texts put together;
* `Scope.keeps_spelled` — **every form of text keeps its words apart**;
* `Scope.writes_visit` — **the words of every expression**.
-/

import ModelSql.Proofs.Query.Written

set_option relaxedAutoImplicit false
set_option autoImplicit false

namespace ModelSql

/-! ### Texts without connectives -/

/-- **A text that is read as a list without connectives**, and that does not start with `NOT` unless it
`inverts`. -/
def Spelled (d : Dialect) (inverts : Bool) (s : String) : Prop :=
  ∃ ns, Spells d s ns ∧ (∀ n ∈ ns, n.isConnective = false) ∧
    (inverts = false → ∀ n, ns.head? = some n → n.isWord "not" = false)

/-! ### Suffixes -/

section

variable {d : Dialect} {s : String} {ns : List Nest}

theorem spells_desc (hs : Spells d s ns) : Spells d (s ++ " DESC") (ns ++ [wordNest "DESC"]) := by
  have hdesc : Spells d "DESC" [wordNest "DESC"] := .word (by decide)
  have hsplit : " DESC" = " " ++ "DESC" := by decide
  rw [hsplit]
  exact hs.append hdesc.space (Spells.starts_space _)

theorem spells_named (name : String) (hs : Spells d s ns) :
    Spells d (s ++ " AS " ++ d.quoteName name) (ns ++ wordNest "AS" :: [.token (d.nameToken name)]) := by
  have has : Spells d "AS" [wordNest "AS"] := .word (by decide)
  have hsplit : " AS " = " " ++ ("AS" ++ " ") := by decide
  simpa only [hsplit, String.append_assoc] using Spells.infixed has hs (spells_quoteName name)

theorem isConnective_nameToken (d : Dialect) (name : String) :
    ∀ k ∈ [Nest.token (d.nameToken name)], k.isConnective = false := by
  intro k hk
  rw [List.mem_singleton.1 hk]
  exact Nest.isConnective_of_isKeyword (isKeyword_nameToken _ _)

theorem isConnective_group (ms : List Nest) : ∀ k ∈ [Nest.group ms], k.isConnective = false := by
  intro k hk
  rw [List.mem_singleton.1 hk]
  rfl

end

namespace Spelled

variable {d : Dialect} {inverts other : Bool} {s t : String}

theorem of_keywords {ns : List Nest} (hs : Spells d s ns) (h : ∀ n ∈ ns, n.isKeyword = false) :
    Spelled d inverts s :=
  ⟨ns, hs, fun n hn => Nest.isConnective_of_isKeyword (h n hn), fun _ n hn =>
    Nest.isWord_of_isKeyword (h n (List.mem_of_mem_head? hn)) (by decide)⟩

theorem of_simple (h : ∃ ns, Spells d s ns ∧ Nest.Simple ns) : Spelled d inverts s := by
  obtain ⟨ns, hs, hsimple⟩ := h
  exact of_keywords hs hsimple.isKeyword

theorem mono (h : Spelled d inverts s) (hle : inverts = true → other = true) :
    Spelled d other s := by
  obtain ⟨ns, hs, hall, hhead⟩ := h
  refine ⟨ns, hs, hall, fun hother => hhead ?_⟩
  cases inverts with
  | false => rfl
  | true => rw [hle rfl] at hother; cases hother

theorem empty : Spelled d inverts "" := of_keywords .empty (by simp)

/-- A text with more behind it. -/
theorem append (hs : Spelled d inverts s) (ht : Spelled d false t) (hstart : Starts t.toList) :
    Spelled d inverts (s ++ t) := by
  obtain ⟨ns, hs, hns, hfirst⟩ := hs
  obtain ⟨ms, ht, hms, hsecond⟩ := ht
  refine ⟨ns ++ ms, hs.append ht hstart, List.forall_mem_append.2 ⟨hns, hms⟩, fun hnot n hn => ?_⟩
  cases ns with
  | nil => exact hsecond rfl n hn
  | cons m ns => exact hfirst hnot n hn

/-- A word that is no connective, with something behind it. -/
theorem cons {n : Nest} {ns : List Nest} (hs : Spells d s (n :: ns)) (hn : n.isConnective = false)
    (hnot : inverts = false → n.isWord "not" = false) (hns : ∀ m ∈ ns, m.isConnective = false) :
    Spelled d inverts s := by
  refine ⟨n :: ns, hs, List.forall_mem_cons.2 ⟨hn, hns⟩, fun hi m hm => ?_⟩
  cases hm
  exact hnot hi

theorem comma (h : Spelled d inverts s) : Spelled d false ("," ++ s) := by
  obtain ⟨ns, hs, hns, -⟩ := h
  exact cons hs.comma (by decide) (fun _ => by decide) hns

/-- Texts with commas between them. -/
theorem joinWith {ts : List String} (h : ∀ t ∈ ts, Spelled d inverts t) :
    Spelled d inverts (Text.joinWith "," ts) := by
  induction ts with
  | nil => exact empty
  | cons t ts ih =>
      have ht := h t List.mem_cons_self
      have hts := ih fun u hu => h u (List.mem_cons_of_mem t hu)
      cases ts with
      | nil => exact ht
      | cons u ts =>
          rw [Text.joinWith_cons_cons, String.append_assoc]
          exact ht.append hts.comma (Spells.starts_comma _)

/-- A text in parentheses. -/
theorem group (h : Spelled d other s) : Spelled d inverts ("(" ++ s ++ ")") := by
  obtain ⟨ns, hs, -⟩ := h
  exact of_simple ⟨_, hs.group, .group ns⟩

/-- A function of a text. -/
theorem apply (f : String) (hf : isFunctionName f = true) (h : Spelled d other s) :
    Spelled d inverts (f ++ "(" ++ s ++ ")") := by
  obtain ⟨ns, hs, -⟩ := h
  exact of_simple ⟨_, spells_apply f hf hs, simple_apply hf ns⟩

/-- What a function makes of a text. -/
theorem applies {f : Tree → Tree} (hs : Spelled d other s)
    (h : ∀ ns, Spells d s ns → Applies d s ns t f) : Spelled d inverts t := by
  obtain ⟨ns, hs, -⟩ := hs
  obtain ⟨ms, ht, -⟩ := h ns hs
  exact of_simple ⟨ms, ht.spells, ht.simple⟩

/-- What an operator makes of two texts. -/
theorem combines {u : String} {k : Nat} {f : Tree → Tree → Tree} (hs : Spelled d other s)
    {b : Bool} (ht : Spelled d b t)
    (h : ∀ ns ms, Spells d s ns → Spells d t ms → Combines d k s ns t ms u f) :
    Spelled d inverts u := by
  obtain ⟨ns, hs, -⟩ := hs
  obtain ⟨ms, ht, -⟩ := ht
  obtain ⟨ks, hu, -⟩ := h ns ms hs ht
  exact of_simple ⟨ks, hu.spells, hu.simple⟩

/-- A text with a word behind it, and something behind that. -/
theorem between {u : String} {n : Nest} {ms : List Nest} (hs : Spelled d inverts s)
    (hn : n.isConnective = false) (hnot : n.isWord "not" = false)
    (hms : ∀ m ∈ ms, m.isConnective = false)
    (h : ∀ ns, Spells d s ns → Spells d u (ns ++ n :: ms)) : Spelled d inverts u := by
  obtain ⟨ns, hs, hns, hfirst⟩ := hs
  refine ⟨_, h ns hs, List.forall_mem_append.2 ⟨hns, List.forall_mem_cons.2 ⟨hn, hms⟩⟩,
    fun hi m hm => ?_⟩
  cases ns with
  | nil =>
      cases hm
      exact hnot
  | cons k ns => exact hfirst hi m hm

/-- A membership in a list. -/
theorem member (hs : Spelled d inverts s) (ht : Spelled d other t) :
    Spelled d inverts (s ++ " IN (" ++ t ++ ")") := by
  obtain ⟨ms, ht, -⟩ := ht
  exact hs.between (by decide) (by decide) (isConnective_group ms) fun _ hs => spells_in hs ht

/-- A sort key in descending order. -/
theorem desc (hs : Spelled d inverts s) : Spelled d inverts (s ++ " DESC") :=
  hs.between (by decide) (by decide) (by simp) fun _ hs => spells_desc hs

/-- A projection with a name of its own. -/
theorem named (name : String) (hs : Spelled d inverts s) :
    Spelled d inverts (s ++ " AS " ++ d.quoteName name) :=
  hs.between (by decide) (by decide) (isConnective_nameToken d name) fun _ hs => spells_named name hs

/-- A text between parentheses, unless it stands between some already. -/
theorem wrap (h : Spelled d inverts s) : Spelled d inverts (ModelSql.wrap s) := by
  unfold ModelSql.wrap
  split
  · exact h
  · exact h.group

theorem negative (h : Spelled d inverts s) : Spelled d other ("-" ++ s) := by
  obtain ⟨ns, hs, hns, -⟩ := h
  exact .cons hs.negative (by decide) (fun _ => by decide) hns

/-- `NOT` in front of a text. -/
theorem not (h : Spelled d inverts s) : Spelled d true ("NOT " ++ s) := by
  obtain ⟨ns, hs, hns, -⟩ := h
  exact .cons (spells_not hs) (by decide) (by simp) hns

/-- A text with a sign of equality behind it, and something behind that. -/
theorem equal (hs : Spelled d inverts s) (ht : Spelled d false t) :
    Spelled d inverts (s ++ " = " ++ t) := by
  obtain ⟨ms, ht, hms, -⟩ := ht
  exact hs.between (by decide) (by decide) hms fun _ hs => spells_equal hs ht

/-- A text that is matched with another one. -/
theorem like (hs : Spelled d inverts s) (ht : Spelled d false t) :
    Spelled d inverts (s ++ " LIKE " ++ t) := by
  obtain ⟨ms, ht, hms, -⟩ := ht
  exact hs.between (by decide) (by decide) hms fun _ hs => spells_like hs ht

/-- Two conditions with a connective between them. -/
theorem logical {op : BinaryOp} (hop : op.isLogical = true) (hs : Spelled d inverts s)
    (ht : Spelled d other t) {b : Bool} : Spelled d b (Dialect.infixText s op.sign t) := by
  obtain ⟨ns, hs, -⟩ := hs
  obtain ⟨ms, ht, -⟩ := ht
  have hne : op ≠ .coalesce := by
    rintro rfl
    cases hop
  exact .of_simple ⟨_, (delimited_infixText (spells_operator hne) hs ht).spells, .group _⟩

theorem operator {op : BinaryOp} (text : Bool) (hlogical : op.isLogical = false)
    (hs : Spelled d inverts s) (ht : Spelled d other t) {b : Bool} :
    Spelled d b (d.operatorText op text s t) := by
  cases hbits : op.isBitwise with
  | false => exact hs.combines ht fun _ _ => combines_operator hlogical hbits text
  | true =>
      obtain ⟨ns, hs, -⟩ := hs
      obtain ⟨ms, ht, -⟩ := ht
      have hall := exists_bitwise hbits hs ht
      have htext : d.operatorText op text s t = d.bitwise op s t := by
        cases op with
        | bitAnd | bitOr | bitXor | shl | shr => rfl
        | _ => cases hbits
      rw [htext]
      exact .of_simple hall

theorem nullTest (op : BinaryOp) (h : Spelled d inverts s) : Spelled d other
    ("(" ++ s ++ (if op = .eq then " IS NULL" else " IS NOT NULL") ++ ")") := by
  obtain ⟨ns, hs, -⟩ := h
  exact .of_simple ⟨_, spells_nullTest op hs, .group _⟩

theorem of_form (h : Literal.Form d s.toList) : Spelled d inverts s := by
  obtain ⟨ns, hs, hlit⟩ := spells_form h
  exact .of_keywords hs (selfDelimiting_isLiteral hlit).1.isKeyword

theorem countAll : Spelled d inverts "COUNT(*)" := by
  have hstar : Spells d "*" [signNest "*"] := spells_sign fun _ _ => rfl
  have hcount : "COUNT(*)" = "COUNT" ++ "(" ++ "*" ++ ")" := by decide
  have hall := spells_apply "COUNT" (by decide) hstar
  rw [← hcount] at hall
  exact .of_simple ⟨_, hall, simple_apply (by decide) _⟩

end Spelled

/-! ### The words of expressions -/

namespace Scope

variable (s : Scope) {inverts : Bool}

/-- **Every form of text keeps its words apart.** -/
theorem keeps_spelled : s.Keeps (Spelled s.dialect) where
  mono := .mono
  form := .of_form
  placeholder n := .of_simple ⟨_, spells_placeholder n, .token rfl⟩
  column f := .of_simple ⟨_, spells_column s f, (s.simple_column f).1⟩
  joinWith := .joinWith
  wrap := .wrap
  truth v := .of_keywords (spells_truth v) (by cases v <;> decide)
  equal := .equal
  logical hop ht hu := .logical hop ht hu
  operator text hop ht hu := .operator text hop ht hu
  nullTest op h := .nullTest op h
  not := .not
  negative := .negative
  null := .of_keywords (.word (by decide)) (by decide)
  member := .member
  like := .like
  apply hf h := .apply _ hf h
  trim h := h.applies fun _ => applies_trim
  trimStart h := h.applies fun _ => applies_trimStart
  trimEnd h := h.applies fun _ => applies_trimEnd
  substring start length h := h.applies fun _ hs => applies_substring hs start length
  desc := .desc
  named name h := .named name h
  countAll := .countAll

/-- A part whose text, if it has one, is spelled. -/
def Writes (inverts : Bool) : Fragment → Prop
  | .value _ => True
  | .sql t | .column t _ => Spelled s.dialect inverts t

variable {p q : Fragment} {b c : Bindings} {t : String}

theorem writes_iff_has : s.Writes inverts p ↔ p.Has (Spelled s.dialect inverts) := by
  cases p <;> exact Iff.rfl

/-- **The words of a value**, a literal or a placeholder. -/
theorem spelled_bind {hint : Option FieldType} {v : Value} (h : s.bind hint v b = .ok (t, c)) :
    Spelled s.dialect inverts t := s.keeps_spelled.anyway (s.keeps_spelled.bind h)

theorem spelled_operand {hint : Option FieldType} (hp : s.Writes inverts p)
    (h : s.operand hint p b = .ok (t, c)) : Spelled s.dialect inverts t :=
  s.keeps_spelled.operand (s.writes_iff_has.1 hp) h

/-- **The words of every expression.** -/
theorem writes_visit {e : Expr} (h : s.visit e b = .ok (p, c)) : s.Writes e.inverts p :=
  s.writes_iff_has.2 (s.keeps_spelled.visit h)

end Scope

/-- The methods that are conditions. -/
def StringMethod.isTest : StringMethod → Bool
  | .startsWith | .endsWith | .contains => true
  | _ => false

end ModelSql
