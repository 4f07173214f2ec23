/-
**Texts that start with `NOT`.**

An inversion is written as `NOT` and a group, with no parentheses around both.  So the `NOT` comes first in
all that an inversion is the first part of: a key in descending order, a projection with a name, a list, a
membership, and the search of a list.  Whatever stands behind such a text, the `NOT` is read as that of the
whole.

Main definitions:

* `Expr.startsWithNot` — **expressions whose text starts with `NOT`**;
* `Inverted` — texts with `NOT` and a group in front;
* `Opens`, `Fragment.Opens` — texts and parts that start with `NOT`, or do not.

Main results:

* `Opens.between` — what stands behind a text does not change how it starts;
* `Opens.reads` — **what is read of such a text with a token behind it**;
* `Scope.opens_visit` — **which expressions are written with `NOT` in front**.
-/

import ModelSql.Proofs.Query.Computed
import ModelSql.Proofs.Query.Spelling
import ModelSql.Proofs.Syntax.Formula
import ModelSql.Proofs.Syntax.Parameter

set_option relaxedAutoImplicit false
set_option autoImplicit false

namespace ModelSql

/-! ### Expressions -/

mutual

/-- **Whether the text of an expression starts with `NOT`**: that of an inversion does, unless it is
computed, and that of any expression which is written with an inversion in front. -/
def Expr.startsWithNot : Expr → Bool
  | .unary op e => op == .not && e.value?.isNone
  | .convert e | .desc e | .named e _ => e.startsWithNot
  | .inList target _ => target.startsWithNot
  | .method m target args =>
    m == .contains && target.value?.any (!·.isScalar) && Expr.lastStartsWithNot args
  | .list (e :: _) => e.startsWithNot
  | _ => false

/-- Whether the text of the last argument that is not computed starts with `NOT`. -/
def Expr.lastStartsWithNot : List Expr → Bool
  | [] => false
  | e :: es => if (Expr.values? es).isSome then e.startsWithNot else lastStartsWithNot es

end

/-! ### Texts -/

/-- A text with `NOT` and a group in front, and no connective behind them. -/
def Inverted (d : Dialect) (t : String) : Prop :=
  ∃ ms ns, Spells d t (wordNest "NOT" :: .group ms :: ns) ∧ ∀ n ∈ ns, n.isConnective = false

/-- **A text that starts with `NOT`**, or does not. -/
def Opens (d : Dialect) : Bool → String → Prop
  | true, t => Inverted d t
  | false, t => Spelled d false t

section

variable {d : Dialect} {i : Bool} {s t : String} {ns ms : List Nest}

/-- A text that starts with a parenthesis starts with a group. -/
theorem exists_group_of_spells (hs : Spells d s ns) (h : s.toList.head? = some '(') :
    ∃ ms rest, ns = .group ms :: rest := by
  obtain ⟨cs, hcs⟩ := List.head?_eq_some_iff.1 h
  have hrun := hs [] Lexer.boundary_nil
  rw [hcs, List.append_nil] at hrun
  have hopen : Lexer.run d.escapes .blank ('(' :: cs) = .opening :: Lexer.run d.escapes .blank cs := rfl
  rw [hopen] at hrun
  cases ns with
  | nil => cases hrun
  | cons n ns =>
      cases n with
      | token t => simp [Nest.lexemesAll, Nest.lexemes] at hrun
      | group ms => exact ⟨ms, ns, rfl⟩

/-- A text in parentheses, its own or some that are put around it, starts with a group. -/
theorem exists_spells_wrap (h : Spelled d i s) :
    ∃ ms ns, Spells d (wrap s) (.group ms :: ns) ∧ ∀ n ∈ ns, n.isConnective = false := by
  obtain ⟨ns, hs, hns, -⟩ := h
  unfold wrap
  split
  · rename_i hwrapped
    have hhead : s.toList.head? = some '(' := by
      rw [eq_of_isWrapped hwrapped]
      rfl
    obtain ⟨ms, rest, rfl⟩ := exists_group_of_spells hs hhead
    exact ⟨ms, rest, hs, (List.forall_mem_cons.1 hns).2⟩
  · exact ⟨ns, [], hs.group, by simp⟩

/-- **An inversion starts with `NOT`**, whatever is inverted. -/
theorem inverted_not (h : Spelled d i s) : Inverted d ("NOT " ++ wrap s) := by
  obtain ⟨ms, ns, hs, hns⟩ := exists_spells_wrap h
  exact ⟨ms, ns, spells_not hs, hns⟩

namespace Opens

theorem spelled (h : Opens d i t) : Spelled d i t := by
  cases i with
  | false => exact h
  | true =>
      obtain ⟨ms, ns, hs, hns⟩ := h
      exact .cons hs (by decide) (by simp) (List.forall_mem_cons.2 ⟨rfl, hns⟩)

/-- **What stands behind a text does not change how it starts.** -/
theorem between {n : Nest} (h : Opens d i s) (hn : n.isConnective = false)
    (hnot : n.isWord "not" = false) (hms : ∀ m ∈ ms, m.isConnective = false)
    (hall : ∀ ns, Spells d s ns → Spells d t (ns ++ n :: ms)) : Opens d i t := by
  cases i with
  | false => exact Spelled.between h hn hnot hms hall
  | true =>
      obtain ⟨ks, ns, hs, hns⟩ := h
      exact ⟨ks, ns ++ n :: ms, hall _ hs,
        List.forall_mem_append.2 ⟨hns, List.forall_mem_cons.2 ⟨hn, hms⟩⟩⟩

theorem member {j : Bool} (h : Opens d i s) (ht : Spelled d j t) :
    Opens d i (s ++ " IN (" ++ t ++ ")") := by
  obtain ⟨ms, ht, -⟩ := ht
  exact h.between (by decide) (by decide) (isConnective_group ms) fun _ hs => spells_in hs ht

theorem desc (h : Opens d i s) : Opens d i (s ++ " DESC") :=
  h.between (by decide) (by decide) (by simp) fun _ hs => spells_desc hs

theorem named (name : String) (h : Opens d i s) : Opens d i (s ++ " AS " ++ d.quoteName name) :=
  h.between (by decide) (by decide) (isConnective_nameToken d name) fun _ hs => spells_named name hs

/-- A text in front of others starts the list of them. -/
theorem joinWith {j : Bool} {ts : List String} (h : Opens d i t) (hts : ∀ u ∈ ts, Spelled d j u) :
    Opens d i (Text.joinWith "," (t :: ts)) := by
  cases ts with
  | nil => exact h
  | cons u ts =>
      obtain ⟨ms, hrest, hms, -⟩ := Spelled.joinWith hts
      refine h.between (n := signNest ",") (by decide) (by decide) hms fun ns hs => ?_
      rw [Text.joinWith_cons_cons, String.append_assoc]
      exact hs.append hrest.comma (Spells.starts_comma _)

/-- **A text with a token behind it that is no connective** is read as an atom or a constant, or as the
inversion of one if it starts with `NOT`. -/
theorem reads (h : Opens d i t) : ∃ ns, Spells d t ns ∧
    ∀ {x : Token} {ms : List Nest}, (Nest.token x).isConnective = false →
      (Nest.token x).isWord "not" = false → (∀ m ∈ ms, m.isConnective = false) →
        ∃ φ : Formula, φ.isAtomic = true ∧ ReadsFormula (ns ++ .token x :: ms) (φ.invert i) := by
  cases i with
  | false =>
      obtain ⟨ns, hs, hns, hhead⟩ := h
      refine ⟨ns, hs, fun hx hnot hms => ?_⟩
      obtain ⟨φ, hφ, hread⟩ := exists_operand_between hns (hhead rfl) hx hnot hms
      exact ⟨φ, hφ, .of_operands hread⟩
  | true =>
      obtain ⟨ks, ns, hs, hns⟩ := h
      refine ⟨_, hs, fun {x ms} hx hnot hms => ?_⟩
      have hgroup : ∀ n ∈ Nest.group ks :: ns, n.isConnective = false :=
        List.forall_mem_cons.2 ⟨rfl, hns⟩
      have hfirst : ∀ n, (Nest.group ks :: ns).head? = some n → n.isWord "not" = false := by
        intro n hn
        cases hn
        rfl
      obtain ⟨φ, hφ, hread⟩ := exists_operand_between hgroup hfirst hx hnot hms
      exact ⟨φ, hφ, .inverted hread⟩

end Opens

end

/-! ### Parts -/

/-- A part whose text starts with `NOT`, or does not; a value never does. -/
def Fragment.Opens (d : Dialect) (i : Bool) : Fragment → Prop
  | .value _ => i = false
  | .sql t | .column t _ => ModelSql.Opens d i t

namespace Scope

variable {s : Scope} {b c : Bindings} {p : Fragment} {e : Expr} {t : String} {i : Bool}

/-- How the last text among the parts of arguments starts; where there is none, all are values. -/
def OpensLast (d : Dialect) (i : Bool) (ps : List Fragment) : Prop :=
  match (texts ps).getLast? with
  | some p => p.Opens d i
  | none => i = false

theorem OpensLast.of_values {d : Dialect} {ps : List Fragment} (h : OpensLast d i ps)
    (htexts : texts ps = []) : i = false := by
  rw [OpensLast, htexts] at h
  exact h

theorem opens_operand {hint : Option FieldType} (hp : p.Opens s.dialect i)
    (h : s.operand hint p b = .ok (t, c)) : Opens s.dialect i t := by
  cases p with
  | value v =>
      obtain rfl : i = false := hp
      exact s.spelled_bind h
  | sql u | column u type =>
      obtain ⟨rfl, -⟩ := pure_eq_ok.1 h
      exact hp

/-- Expressions whose text never starts with `NOT`. -/
theorem opens_of_inverts (hi : e.inverts = false) (h : s.visit e b = .ok (p, c)) :
    p.Opens s.dialect false := by
  have hwrites := s.writes_visit h
  rw [hi] at hwrites
  cases p with
  | value v => rfl
  | sql t | column t type => exact hwrites

theorem writes_visitAll {es : List Expr} {ps : List Fragment} (h : s.visitAll es b = .ok (ps, c)) :
    ∀ q ∈ ps, q.Has (Spelled s.dialect (Expr.anyInverts es)) :=
  s.keeps_spelled.visit_and.2.2 es b ps c h

/-- Nothing but values is left of arguments without texts. -/
theorem texts_eq_nil_iff_values {es : List Expr} {ps : List Fragment}
    (h : s.visitAll es b = .ok (ps, c)) : texts ps = [] ↔ (Expr.values? es).isSome = true := by
  constructor
  · intro htexts
    rw [eq_map_value_of_texts htexts] at h
    rw [((s.visit_value_and.2.2 _ _ _ _).1 h).1]
    rfl
  · intro hvalues
    obtain ⟨vs, hvs⟩ := Option.isSome_iff_exists.1 hvalues
    have hall := (s.visit_value_and.2.2 es vs b b).2 ⟨hvs, rfl⟩
    rw [h, Except.ok.injEq, Prod.mk.injEq] at hall
    rw [hall.1, texts_value]

/-- An inversion starts with `NOT` unless it is computed. -/
theorem opens_not (h : s.visit (.unary .not e) b = .ok (p, c)) :
    p.Opens s.dialect e.value?.isNone := by
  obtain ⟨q, k, hq, hunary⟩ := visit_unary h
  rcases s.unary_eq_ok hunary with ⟨x, v, rfl, -, rfl, -⟩ | ⟨hnone, t, ht, rfl⟩
  · rw [(visit_value_iff.1 hq).1]
    rfl
  · rw [(value_eq_none_iff hq).1 hnone]
    exact inverted_not (s.keeps_spelled.condition (s.writes_iff_has.1 (s.writes_visit hq)) ht)

/-- A method starts with `NOT` where it searches a list for something that does. -/
theorem opens_method {m : StringMethod} {args : List Expr}
    (hargs : ∀ {b c : Bindings} {ps : List Fragment}, s.visitAll args b = .ok (ps, c) →
      OpensLast s.dialect (Expr.lastStartsWithNot args) ps)
    (h : s.visit (.method m e args) b = .ok (p, c)) :
    p.Opens s.dialect (Expr.method m e args).startsWithNot := by
  obtain ⟨x, k, ps, n, hx, hps, hstep⟩ := visit_method h
  have hlast := hargs hps
  rw [Expr.startsWithNot]
  rcases s.method_eq_ok hstep with ⟨items, rfl, rfl, hcontains⟩ | ⟨v, w, -, htexts, -, rfl, -⟩ |
    ⟨hnone, -, sql, j, t, hsql, htext, rfl⟩
  · have hlist : e.value?.any (!·.isScalar) = true := by
      rw [(visit_value_iff.1 hx).1]
      rfl
    rw [hlist, beq_self_eq_true, Bool.and_self, Bool.true_and]
    unfold OpensLast at hlast
    rcases s.collectionContains_eq_ok hcontains with ⟨a, rfl, hnone, -⟩ |
      ⟨q, target, i, t, hsome, htarget, htext, rfl⟩
    · rw [hnone] at hlast
      exact hlast
    · rw [hsome] at hlast
      obtain ⟨u, hu, rfl⟩ := s.keeps_spelled.exists_membership htext
      exact (opens_operand hlast htarget).member hu
  · rw [hlast.of_values htexts, Bool.and_false]
    rfl
  · rw [(value_eq_none_iff hx).1 hnone, Option.any_none, Bool.and_false, Bool.false_and]
    exact s.keeps_spelled.methodText (s.spelled_operand (s.writes_visit hx) hsql) htext

/-- A list starts as its first item does. -/
theorem opens_list {es : List Expr}
    (he : ∀ {b c : Bindings} {p : Fragment}, s.visit e b = .ok (p, c) →
      p.Opens s.dialect e.startsWithNot)
    (h : s.visit (.list (e :: es)) b = .ok (p, c)) : p.Opens s.dialect e.startsWithNot := by
  rw [visit] at h
  obtain ⟨ps, m, hps, hlist⟩ := bind_eq_ok.1 h
  obtain ⟨q, k, qs, hq, hqs, rfl⟩ := visitAll_cons hps
  have hfirst := he hq
  unfold listOf at hlist
  split at hlist
  · rename_i hvalues
    obtain ⟨rfl, -⟩ := pure_eq_ok.1 hlist
    have hvalue : q.value?.isSome = true := List.all_eq_true.1 hvalues q List.mem_cons_self
    cases q with
    | value v => exact hfirst
    | sql t | column t type => cases hvalue
  · obtain ⟨ts, n, hts, hpure⟩ := bind_eq_ok.1 hlist
    obtain ⟨rfl, -⟩ := pure_eq_ok.1 hpure
    rw [operands] at hts
    obtain ⟨t, i, ht, hrest⟩ := bind_eq_ok.1 hts
    obtain ⟨us, j, hus, hpure⟩ := bind_eq_ok.1 hrest
    obtain ⟨rfl, -⟩ := pure_eq_ok.1 hpure
    exact (opens_operand hfirst ht).joinWith (s.keeps_spelled.operands (writes_visitAll hqs) hus)

/-- Expressions and lists of arguments: one case for each form. -/
theorem opens_visit_and (s : Scope) :
    (∀ e {b c : Bindings} {p : Fragment}, s.visit e b = .ok (p, c) →
      p.Opens s.dialect e.startsWithNot) ∧
      ∀ es {b c : Bindings} {ps : List Fragment}, s.visitAll es b = .ok (ps, c) →
        OpensLast s.dialect (Expr.lastStartsWithNot es) ps := by
  -- one case for each equation of `startsWithNot`, in their order
  apply Expr.startsWithNot.mutual_induct
  case case1 =>
      intro op e b c p h
      rw [Expr.startsWithNot]
      cases op with
      | not => exact opens_not h
      | neg => exact opens_of_inverts rfl h
  case case2 =>
      intro e ih b c p h
      rw [visit] at h
      rw [Expr.startsWithNot]
      exact ih h
  case case3 =>
      intro e ih b c p h
      obtain ⟨q, m, t, hq, ht, rfl⟩ := visit_desc h
      rw [Expr.startsWithNot]
      exact (opens_operand (ih hq) ht).desc
  case case4 =>
      intro e name ih b c p h
      obtain ⟨q, m, t, hq, ht, rfl⟩ := visit_named h
      rw [Expr.startsWithNot]
      exact (opens_operand (ih hq) ht).named name
  case case5 =>
      intro target values ih b c p h
      obtain ⟨q, k, left, m, r, n, hq, hleft, hr, hlist⟩ := visit_inList h
      have htarget := opens_operand (ih hq) hleft
      rw [Expr.startsWithNot]
      rcases hlist with ⟨w, text, rfl, htext, rfl⟩ | ⟨-, right, hright, rfl⟩
      · obtain ⟨u, hu, rfl⟩ := s.keeps_spelled.exists_membership htext
        exact htarget.member hu
      · exact htarget.member (s.spelled_operand (s.writes_visit hr) hright)
  case case6 =>
      intro m e args ih b c p h
      exact opens_method ih h
  case case7 =>
      intro e es ih b c p h
      rw [Expr.startsWithNot]
      exact opens_list ih h
  case case8 =>
      intro e hunary hconvert hdesc hnamed hin hmethod hlist b c p h
      have hforms : e.inverts = false ∧ e.startsWithNot = false := by
        cases e with
        | unary op e => exact absurd rfl (hunary op e)
        | convert e => exact absurd rfl (hconvert e)
        | desc e => exact absurd rfl (hdesc e)
        | named e name => exact absurd rfl (hnamed e name)
        | inList e values => exact absurd rfl (hin e values)
        | method m e args => exact absurd rfl (hmethod m e args)
        | list es =>
            cases es with
            | nil => exact ⟨rfl, rfl⟩
            | cons e es => exact absurd rfl (hlist e es)
        | _ => exact ⟨rfl, rfl⟩
      rw [hforms.2]
      exact opens_of_inverts hforms.1 h
  case case9 =>
      intro b c ps h
      rw [visitAll] at h
      obtain ⟨rfl, -⟩ := pure_eq_ok.1 h
      rfl
  case case10 =>
      intro e es hvalues ih b c ps h
      obtain ⟨q, m, qs, hq, hqs, rfl⟩ := visitAll_cons h
      have htexts : texts qs = [] := (texts_eq_nil_iff_values hqs).2 hvalues
      have hlast : texts (q :: qs) = texts [q] := by
        rw [← List.singleton_append, texts, List.filter_append]
        exact (congrArg _ htexts).trans (List.append_nil _)
      rw [Expr.lastStartsWithNot, if_pos hvalues, OpensLast, hlast]
      have hopens := ih hq
      cases q with
      | value v => exact hopens
      | sql t | column t type => exact hopens
  case case11 =>
      intro e es hvalues ih b c ps h
      obtain ⟨q, m, qs, hq, hqs, rfl⟩ := visitAll_cons h
      have htexts : texts qs ≠ [] := fun hnil => hvalues ((texts_eq_nil_iff_values hqs).1 hnil)
      have hlast : (texts (q :: qs)).getLast? = (texts qs).getLast? := by
        rw [← List.singleton_append, texts, List.filter_append]
        exact List.getLast?_append_of_ne_nil _ htexts
      rw [Expr.lastStartsWithNot, if_neg hvalues, OpensLast, hlast]
      exact ih hqs

/-- **Which expressions are written with `NOT` in front.** -/
theorem opens_visit (h : s.visit e b = .ok (p, c)) : p.Opens s.dialect e.startsWithNot :=
  s.opens_visit_and.1 e h

end Scope

end ModelSql
