/-
**Properties of everything that is written.**

A property of texts holds of whatever an expression is written as when literals, placeholders and
columns have it and every way of putting texts together keeps it.  The visit of expressions is gone
through once, here; what is left for a property is one short proof for each form of text.

Since `NOT` may only stand in front of some texts, a property may depend on whether one does.

Main definitions:

* `Expr.inverts` — whether a `NOT` may stand in front of what an expression is written as;
* `Scope.Keeps` — **a property that every form of text keeps**;
* `Fragment.Has` — a part whose text has a property.

Main results:

* `Scope.Keeps.operand`, `Scope.Keeps.condition` — parts as operands and conditions;
* `Scope.Keeps.visit` — **a property that every form of text keeps is one of every expression**;
* `Scope.Keeps.predicate`, `Scope.Keeps.projection` — and of what conditions and projections are made of.
-/

import ModelSql.Proofs.Query.Visit
import ModelSql.Proofs.Syntax.Operator

set_option relaxedAutoImplicit false
set_option autoImplicit false

namespace ModelSql

mutual

/-- **Whether an expression may be written with `NOT` in front.** -/
def Expr.inverts : Expr → Bool
  | .unary op _ => op == .not
  | .convert e | .desc e | .named e _ => e.inverts
  | .inList target _ => target.inverts
  | .method m _ args => m == .contains && Expr.anyInverts args
  | .list items => Expr.anyInverts items
  | _ => false

/-- Whether one of some expressions may be written with `NOT` in front. -/
def Expr.anyInverts : List Expr → Bool
  | [] => false
  | e :: es => e.inverts || anyInverts es

end

/-! ### Properties -/

/-- A part whose text, if it has one, has a property. -/
def Fragment.Has (P : String → Prop) : Fragment → Prop
  | .value _ => True
  | .sql t | .column t _ => P t

theorem Fragment.Has.imp {P Q : String → Prop} {p : Fragment} (hp : p.Has P)
    (h : ∀ t, P t → Q t) : p.Has Q := by
  cases p with
  | value v => exact trivial
  | sql t => exact h t hp
  | column t type => exact h t hp

/-- **A property that every form of text keeps**; the truth value says whether the text may start with
`NOT`. -/
structure Scope.Keeps (s : Scope) (P : Bool → String → Prop) : Prop where
  mono {i j : Bool} {t : String} (h : P i t) (hle : i = true → j = true) : P j t
  form {t : String} (h : Literal.Form s.dialect t.toList) : P false t
  placeholder (n : Nat) : P false (s.dialect.placeholder n)
  column (f : Field) : P false (s.column f)
  joinWith {i : Bool} {ts : List String} (h : ∀ t ∈ ts, P i t) : P i (Text.joinWith "," ts)
  wrap {i : Bool} {t : String} (h : P i t) : P i (wrap t)
  truth (b : Bool) : P false (if b then "1=1" else "1=0")
  equal {i : Bool} {t u : String} (ht : P i t) (hu : P false u) : P i (t ++ " = " ++ u)
  logical {op : BinaryOp} {i j : Bool} {t u : String} (hop : op.isLogical = true) (ht : P i t)
    (hu : P j u) : P false (Dialect.infixText t op.sign u)
  operator {op : BinaryOp} {i j : Bool} {t u : String} (text : Bool) (hop : op.isLogical = false)
    (ht : P i t) (hu : P j u) : P false (s.dialect.operatorText op text t u)
  nullTest {i : Bool} {t : String} (op : BinaryOp) (h : P i t) :
    P false ("(" ++ t ++ (if op = .eq then " IS NULL" else " IS NOT NULL") ++ ")")
  not {i : Bool} {t : String} (h : P i t) : P true ("NOT " ++ t)
  negative {i : Bool} {t : String} (h : P i t) : P false ("-" ++ t)
  null : P false "NULL"
  member {i j : Bool} {t u : String} (ht : P i t) (hu : P j u) : P i (t ++ " IN (" ++ u ++ ")")
  like {i : Bool} {t u : String} (ht : P i t) (hu : P false u) : P i (t ++ " LIKE " ++ u)
  apply {i : Bool} {f t : String} (hf : isFunctionName f = true) (h : P i t) :
    P false (Dialect.apply f t)
  trim {i : Bool} {t : String} (h : P i t) : P false (s.dialect.trim t)
  trimStart {i : Bool} {t : String} (h : P i t) : P false (s.dialect.trimStart t)
  trimEnd {i : Bool} {t : String} (h : P i t) : P false (s.dialect.trimEnd t)
  substring {i : Bool} {t : String} (start : Int) (length : Option Int) (h : P i t) :
    P false (s.dialect.substring t start length)
  desc {i : Bool} {t : String} (h : P i t) : P i (t ++ " DESC")
  named {i : Bool} {t : String} (name : String) (h : P i t) :
    P i (t ++ " AS " ++ s.dialect.quoteName name)
  countAll : P false "COUNT(*)"

namespace Scope.Keeps

variable {s : Scope} {P : Bool → String → Prop} (hP : s.Keeps P) {i j : Bool}
  {p q r : Fragment} {b c : Bindings} {t : String}

include hP

theorem anyway (h : P false t) : P i t := hP.mono h (by simp)

/-! ### Values -/

theorem literal_and (hint : Option FieldType) :
    (∀ v t, s.dialect.literal hint v = .ok t → P false t) ∧
      ∀ vs ts, s.dialect.literals hint vs = .ok ts → ∀ t ∈ ts, P false t :=
  Literal.forms_and hP.form hP.joinWith hint

theorem bindParameter_and (hint : Option FieldType) :
    (∀ v b t c, s.bindParameter hint v b = .ok (t, c) → P false t) ∧
      ∀ vs b ts c, s.bindParameters hint vs b = .ok (ts, c) → ∀ t ∈ ts, P false t := by
  apply Scope.bindParameter.mutual_induct
  case case1 =>
      intro b t c h
      rw [bindParameter] at h
      exact (hP.literal_and hint).1 _ t (outcome_eq_ok.1 h).1
  case case2 =>
      intro items ih b t c h
      rw [bindParameter] at h
      obtain ⟨ts, m, hts, h⟩ := bind_eq_ok.1 h
      obtain ⟨rfl, -⟩ := pure_eq_ok.1 h
      exact hP.joinWith (ih b ts m hts)
  case case3 =>
      intro v hn hl b t c h
      rw [bindParameter] at h
      · simp only [Scope.placeholder, Except.ok.injEq, Prod.mk.injEq] at h
        obtain ⟨rfl, -⟩ := h
        exact hP.placeholder _
      · exact hn
      · exact hl
  case case4 =>
      intro b ts c h
      rw [bindParameters] at h
      obtain ⟨rfl, -⟩ := pure_eq_ok.1 h
      intro t ht
      cases ht
  case case5 =>
      intro v vs ih ihs b ts c h
      rw [bindParameters] at h
      obtain ⟨u, m, hu, h⟩ := bind_eq_ok.1 h
      obtain ⟨us, n, hus, h⟩ := bind_eq_ok.1 h
      obtain ⟨rfl, -⟩ := pure_eq_ok.1 h
      intro t ht
      rcases List.mem_cons.1 ht with rfl | ht
      · exact ih b t m hu
      · exact ihs m us n hus t ht

/-- **A value**, written as a literal or a placeholder. -/
theorem bind {hint : Option FieldType} {v : Value} (h : s.bind hint v b = .ok (t, c)) :
    P false t := by
  unfold Scope.bind at h
  split at h
  · exact (hP.bindParameter_and hint).1 v b t c h
  · exact (hP.literal_and hint).1 v t (outcome_eq_ok.1 h).1

theorem bindAll {hint : Option FieldType} {vs : List Value} {ts : List String}
    (h : s.bindAll hint vs b = .ok (ts, c)) : ∀ t ∈ ts, P false t := by
  induction vs generalizing b ts with
  | nil =>
      obtain ⟨rfl, -⟩ := pure_eq_ok.1 h
      intro t ht
      cases ht
  | cons v vs ih =>
      rw [Scope.bindAll] at h
      obtain ⟨u, m, hu, h⟩ := bind_eq_ok.1 h
      obtain ⟨us, n, hus, h⟩ := bind_eq_ok.1 h
      obtain ⟨rfl, rfl⟩ := pure_eq_ok.1 h
      intro t ht
      rcases List.mem_cons.1 ht with rfl | ht
      · exact hP.bind hu
      · exact ih hus t ht

/-! ### Parts -/

/-- **A part as an operand.** -/
theorem operand {hint : Option FieldType} (hp : p.Has (P i))
    (h : s.operand hint p b = .ok (t, c)) : P i t := by
  cases p with
  | value v => exact hP.anyway (hP.bind h)
  | sql u =>
      obtain ⟨rfl, -⟩ := pure_eq_ok.1 h
      exact hp
  | column u type =>
      obtain ⟨rfl, -⟩ := pure_eq_ok.1 h
      exact hp

theorem operands {ps : List Fragment} {ts : List String} (hp : ∀ p ∈ ps, p.Has (P i))
    (h : s.operands ps b = .ok (ts, c)) : ∀ t ∈ ts, P i t := by
  induction ps generalizing b ts with
  | nil =>
      obtain ⟨rfl, -⟩ := pure_eq_ok.1 h
      intro t ht
      cases ht
  | cons p ps ih =>
      rw [Scope.operands] at h
      obtain ⟨u, m, hu, h⟩ := bind_eq_ok.1 h
      obtain ⟨us, n, hus, h⟩ := bind_eq_ok.1 h
      obtain ⟨rfl, rfl⟩ := pure_eq_ok.1 h
      intro t ht
      rcases List.mem_cons.1 ht with rfl | ht
      · exact hP.operand (hp p List.mem_cons_self) hu
      · exact ih (fun q hq => hp q (List.mem_cons_of_mem p hq)) hus t ht

/-- **A part as a condition.** -/
theorem condition (hp : p.Has (P i)) (h : s.condition p b = .ok (t, c)) : P i t := by
  unfold Scope.condition at h
  split at h
  · obtain ⟨rfl, -⟩ := pure_eq_ok.1 h
    exact hP.anyway (hP.truth _)
  · obtain ⟨rfl, -⟩ := pure_eq_ok.1 h
    exact hP.anyway (hP.truth false)
  · obtain ⟨u, m, hu, h⟩ := bind_eq_ok.1 h
    obtain ⟨rfl, -⟩ := pure_eq_ok.1 h
    exact hP.equal hp (hP.bind hu)
  · exact hP.operand hp h

theorem operandPair {l r : String} (hp : p.Has (P i)) (hq : q.Has (P j))
    (h : s.operandPair p q b = .ok ((l, r), c)) : P i l ∧ P j r := by
  obtain ⟨m, hl, hr⟩ := s.operandPair_eq_ok h
  exact ⟨hP.operand hp hl, hP.operand hq hr⟩

/-! ### Operators -/

/-- **What an operator writes never starts with `NOT`.** -/
theorem binaryText {op : BinaryOp} (hp : p.Has (P i)) (hq : q.Has (P j))
    (h : s.binaryText op p q b = .ok (t, c)) : P false t := by
  have hnull {x : Fragment} {k : Bool} (hx : x.Has (P k))
      (h : s.nullTest op x b = .ok (t, c)) : P false t := by
    obtain ⟨u, hu, rfl⟩ := s.nullTest_eq_ok h
    exact hP.nullTest op (hP.operand hx hu)
  unfold Scope.binaryText at h
  split at h
  · rename_i hlogical
    obtain ⟨l, m, hl, h⟩ := bind_eq_ok.1 h
    obtain ⟨r, n, hr, h⟩ := bind_eq_ok.1 h
    obtain ⟨rfl, -⟩ := pure_eq_ok.1 h
    exact hP.logical hlogical (hP.condition hp hl) (hP.condition hq hr)
  · rename_i hlogical
    split at h
    · by_cases hvalue : p.isNull = true
      · rw [if_pos hvalue] at h
        exact hnull hq h
      · rw [if_neg hvalue] at h
        exact hnull hp h
    · obtain ⟨⟨l, r⟩, m, hlr, h⟩ := bind_eq_ok.1 h
      obtain ⟨ht, -⟩ := pure_eq_ok.1 h
      obtain ⟨hl, hr⟩ := hP.operandPair hp hq hlr
      have htext : t = s.dialect.operatorText op (p.isText || q.isText) l r := ht
      rw [htext]
      exact hP.operator _ (by simpa using hlogical) hl hr

theorem binary {op : BinaryOp} (hp : p.Has (P i)) (hq : q.Has (P j))
    (h : s.binary op p q b = .ok (r, c)) : r.Has (P false) := by
  rcases s.binary_eq_ok h with ⟨x, y, v, -, -, -, rfl, -⟩ | ⟨t, -, ht, rfl⟩
  · exact trivial
  · exact hP.binaryText hp hq ht

theorem unary {op : UnaryOp} (hp : p.Has (P i)) (h : s.unary op p b = .ok (r, c)) :
    r.Has (P (op == .not)) := by
  rcases s.unary_eq_ok h with ⟨x, v, -, -, rfl, -⟩ | ⟨-, t, ht⟩
  · exact trivial
  · cases op with
    | not =>
        obtain ⟨ht, rfl⟩ := ht
        exact hP.not (hP.wrap (hP.condition hp ht))
    | neg =>
        obtain ⟨ht, rfl⟩ := ht
        have hoperand : P i t := hP.operand hp ht
        split
        · exact hP.negative hoperand
        · exact hP.negative (hP.wrap hoperand)

/-! ### Membership and methods -/

theorem exists_membership {target : String} {hint : Option FieldType} {values : Value}
    (h : s.membership target hint values b = .ok (t, c)) :
    ∃ u, P false u ∧ t = target ++ " IN (" ++ u ++ ")" := by
  rcases s.membership_eq_ok h with ⟨-, rfl, -⟩ | ⟨-, ts, hts, rfl⟩
  · exact ⟨"NULL", hP.null, rfl⟩
  · exact ⟨_, hP.joinWith (hP.bindAll hts), rfl⟩

theorem membership {target : String} {hint : Option FieldType} {values : Value}
    (ht : P i target) (h : s.membership target hint values b = .ok (t, c)) : P i t := by
  obtain ⟨u, hu, rfl⟩ := hP.exists_membership h
  exact hP.member ht hu

theorem exists_like {m : StringMethod} {sql before after : String} {args : List Value}
    (h : s.like m sql before after args b = .ok (t, c)) :
    ∃ u, P false u ∧ t = s.dialect.upper sql ++ " LIKE " ++ u := by
  obtain ⟨v, u, hu, rfl⟩ := s.like_eq_ok h
  exact ⟨u, hP.bind hu, rfl⟩

theorem methodText {m : StringMethod} {sql : String} {args : List Value} (ht : P i sql)
    (h : s.methodText m sql args b = .ok (t, c)) : P false t := by
  have hlike {before after : String} (h : s.like m sql before after args b = .ok (t, c)) :
      P false t := by
    obtain ⟨u, hu, rfl⟩ := hP.exists_like h
    exact hP.like (hP.apply (by decide) ht) hu
  cases m with
  | trim =>
      obtain ⟨rfl, -⟩ := pure_eq_ok.1 h
      exact hP.trim ht
  | trimStart =>
      obtain ⟨rfl, -⟩ := pure_eq_ok.1 h
      exact hP.trimStart ht
  | trimEnd =>
      obtain ⟨rfl, -⟩ := pure_eq_ok.1 h
      exact hP.trimEnd ht
  | toUpper =>
      obtain ⟨rfl, -⟩ := pure_eq_ok.1 h
      exact hP.apply (by decide) ht
  | toLower =>
      obtain ⟨rfl, -⟩ := pure_eq_ok.1 h
      exact hP.apply (by decide) ht
  | startsWith | endsWith | contains => exact hlike h
  | substring =>
      obtain ⟨hsub, -⟩ := outcome_eq_ok.1 h
      obtain ⟨start, length, -, -, rfl⟩ := s.substringText_eq_ok hsub
      exact hP.substring _ _ ht

theorem collectionContains {items vs : List Value} {ps : List Fragment}
    (ht : ∀ p ∈ ps, p.Has (P i)) (h : s.collectionContains items vs ps b = .ok (r, c)) :
    r.Has (P i) := by
  rcases s.collectionContains_eq_ok h with ⟨a, rfl, -, -⟩ | ⟨p, target, k, t, hlast, htarget, hu, rfl⟩
  · exact trivial
  · exact hP.membership (hP.operand (ht p (List.mem_of_getLast? hlast)) htarget) hu

theorem method {m : StringMethod} {target : Fragment} {args : List Fragment}
    (ht : target.Has (P i)) (ha : ∀ p ∈ args, p.Has (P j))
    (h : s.method m target args b = .ok (r, c)) : r.Has (P (m == .contains && j)) := by
  rcases s.method_eq_ok h with ⟨items, rfl, -, h⟩ | ⟨v, w, -, -, -, rfl, -⟩ |
    ⟨-, -, sql, k, t, hsql, htext, rfl⟩
  · exact hP.collectionContains (fun p hp => ha p (List.mem_filter.1 hp).1) h
  · exact trivial
  · exact hP.anyway (hP.methodText (hP.operand ht hsql) htext)

theorem listOf {ps : List Fragment} (hp : ∀ p ∈ ps, p.Has (P i))
    (h : s.listOf ps b = .ok (r, c)) : r.Has (P i) := by
  unfold Scope.listOf at h
  split at h
  · obtain ⟨rfl, -⟩ := pure_eq_ok.1 h
    exact trivial
  · obtain ⟨ts, m, hts, h⟩ := bind_eq_ok.1 h
    obtain ⟨rfl, -⟩ := pure_eq_ok.1 h
    exact hP.joinWith (hP.operands hp hts)

/-! ### The visit -/

/-- Expressions and lists of arguments: one case for each form. -/
theorem visit_and :
    (∀ e b p c, s.visit e b = .ok (p, c) → p.Has (P e.inverts)) ∧
      (∀ (_ : HostFunction) (_ : List Expr), True) ∧
        ∀ es b ps c, s.visitAll es b = .ok (ps, c) → ∀ p ∈ ps, p.Has (P (Expr.anyInverts es)) := by
  -- one case for each equation of the visit, in their order
  apply Scope.visit.mutual_induct
  case case1 =>
      intro name b p c h
      obtain ⟨f, -, rfl, -⟩ := visit_column h
      exact hP.column f
  case case2 =>
      intro v b p c h
      obtain ⟨rfl, -⟩ := visit_value h
      exact trivial
  case case3 =>
      intro r b p c h
      rw [Scope.visit] at h
      obtain ⟨v, m, -, h⟩ := bind_eq_ok.1 h
      obtain ⟨rfl, -⟩ := pure_eq_ok.1 h
      exact trivial
  case case4 =>
      intro op l r ihl ihr b p c h
      obtain ⟨u, m, v, n, hu, hv, hstep⟩ := visit_binary h
      exact hP.binary (ihl _ _ _ hu) (ihr _ _ _ hv) hstep
  case case5 =>
      intro op e ih b p c h
      obtain ⟨u, m, hu, hstep⟩ := visit_unary h
      exact hP.unary (ih _ _ _ hu) hstep
  case case6 =>
      intro e ih b p c h
      rw [Scope.visit] at h
      exact ih _ _ _ h
  case case7 =>
      intro f e ih b p c h
      rw [Scope.visit] at h
      obtain ⟨u, m, hu, h⟩ := bind_eq_ok.1 h
      cases u with
      | value v =>
          obtain ⟨w, n, -, h⟩ := bind_eq_ok.1 h
          obtain ⟨rfl, -⟩ := pure_eq_ok.1 h
          exact trivial
      | sql t => exact absurd h fail_ne_ok
      | column t type => exact absurd h fail_ne_ok
  case case8 =>
      intro m t args iht ihs b p c h
      obtain ⟨u, n, us, k, hu, hus, hstep⟩ := visit_method h
      exact hP.method (iht _ _ _ hu) (ihs _ _ _ hus) hstep
  case case9 =>
      intro f args ih b p c h
      rw [Scope.visit] at h
      obtain ⟨vs, m, -, h⟩ := bind_eq_ok.1 h
      obtain ⟨v, n, -, h⟩ := bind_eq_ok.1 h
      obtain ⟨rfl, -⟩ := pure_eq_ok.1 h
      exact trivial
  case case10 =>
      intro t vs iht ihv b p c h
      obtain ⟨u, m, left, n, q, k, hu, hleft, hq, hlist⟩ := visit_inList h
      have htarget : P t.inverts left := hP.operand (iht _ _ _ hu) hleft
      rcases hlist with ⟨w, text, rfl, htext, rfl⟩ | ⟨-, right, hright, rfl⟩
      · exact hP.membership htarget htext
      · exact hP.member htarget (hP.operand (ihv _ _ _ hq) hright)
  case case11 =>
      intro e ih b p c h
      obtain ⟨u, m, text, hu, htext, rfl⟩ := visit_desc h
      exact hP.desc (hP.operand (ih _ _ _ hu) htext)
  case case12 =>
      intro e name ih b p c h
      obtain ⟨u, m, text, hu, htext, rfl⟩ := visit_named h
      exact hP.named name (hP.operand (ih _ _ _ hu) htext)
  case case13 =>
      intro f e ih b p c h
      have hform : s.visit (.aggregate f e) = (do
          let q ← s.visit e
          let text ← s.operand none q
          return .sql (Dialect.apply f.sql text)) := by rw [Scope.visit]
      obtain ⟨u, m, text, hu, htext, rfl⟩ := visit_around hform h
      have hf : isFunctionName f.sql = true := by cases f <;> decide
      exact hP.apply hf (hP.operand (ih _ _ _ hu) htext)
  case case14 =>
      intro b p c h
      rw [Scope.visit] at h
      obtain ⟨rfl, -⟩ := pure_eq_ok.1 h
      exact hP.countAll
  case case15 =>
      intro items ih b p c h
      rw [Scope.visit] at h
      obtain ⟨ps, m, hps, h⟩ := bind_eq_ok.1 h
      exact hP.listOf (ih _ _ _ hps) h
  case case16 => exact fun _ => trivial
  case case17 => exact fun _ _ _ _ _ => trivial
  case case18 =>
      intro b ps c h
      rw [Scope.visitAll] at h
      obtain ⟨rfl, -⟩ := pure_eq_ok.1 h
      intro p hp
      cases hp
  case case19 =>
      intro e es ih ihs b ps c h
      obtain ⟨q, m, qs, hq, hqs, rfl⟩ := visitAll_cons h
      intro p hp
      rcases List.mem_cons.1 hp with rfl | hp
      · exact (ih _ _ _ hq).imp fun t ht => hP.mono ht (by simp +contextual [Expr.anyInverts])
      · exact (ihs _ _ _ hqs p hp).imp fun t ht => hP.mono ht (by simp +contextual [Expr.anyInverts])

/-- **A property that every form of text keeps is one of every expression.** -/
theorem visit {e : Expr} (h : s.visit e b = .ok (p, c)) : p.Has (P e.inverts) :=
  hP.visit_and.1 e b p c h

/-- A condition has it before an outer pair of parentheses is taken away. -/
theorem predicate {e : Expr} (h : s.predicate e b = .ok (t, c)) :
    ∃ u, P e.inverts u ∧ t = stripOuter u := by
  unfold Scope.predicate at h
  obtain ⟨p, m, hp, h⟩ := bind_eq_ok.1 h
  obtain ⟨u, n, hu, h⟩ := bind_eq_ok.1 h
  obtain ⟨rfl, -⟩ := pure_eq_ok.1 h
  exact ⟨u, hP.condition (hP.visit hp) hu, rfl⟩

/-- A projection has it before an outer pair of parentheses is taken away. -/
theorem projection {e : Expr} (h : s.projection e b = .ok (t, c)) :
    ∃ u, P e.inverts u ∧ t = stripOuter u := by
  unfold Scope.projection at h
  obtain ⟨p, m, hp, h⟩ := bind_eq_ok.1 h
  obtain ⟨u, n, hu, h⟩ := bind_eq_ok.1 h
  obtain ⟨rfl, -⟩ := pure_eq_ok.1 h
  exact ⟨u, hP.operand (hP.visit hp) hu, rfl⟩

end Scope.Keeps

end ModelSql
