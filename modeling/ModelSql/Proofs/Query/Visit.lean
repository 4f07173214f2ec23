/-
**What the steps of a visit do.**

A step of writing an expression that succeeds does so in one of a few ways: values are computed, and text
is put together from what the parts are written as.  Here that is said once for each step.

Main results:

* `Scope.binary_eq_ok`, `Scope.unary_eq_ok`, `Scope.method_eq_ok` — **parts put together**;
* `Scope.method_text`, `Scope.method_fold` — methods with values as arguments;
* `Scope.membership_eq_ok`, `Scope.like_eq_ok`, `Scope.nullTest_eq_ok` — tests;
* `Scope.visit_column`, `Scope.visit_binary`, `Scope.visit_inList`, … — the visits of expressions;
* `Scope.visit_of_field`, `Scope.visit_comparison` — **a column, and its comparison with a value**.
-/

import Mathlib.Data.List.Forall2
import ModelSql.Proofs.Query.Binding

set_option relaxedAutoImplicit false
set_option autoImplicit false

namespace ModelSql

namespace Scope

variable (s : Scope) {p q : Fragment} {b c : Bindings} {t : String}

/-! ### Operators -/

/-- Two operands are written one after the other. -/
theorem operandPair_eq_ok {l r : String} (h : s.operandPair p q b = .ok ((l, r), c)) :
    ∃ m, s.operand q.type? p b = .ok (l, m) ∧ s.operand p.type? q m = .ok (r, c) := by
  unfold operandPair at h
  obtain ⟨u, m, hu, hrest⟩ := bind_eq_ok.1 h
  obtain ⟨v, n, hv, hpure⟩ := bind_eq_ok.1 hrest
  obtain ⟨heq, rfl⟩ := pure_eq_ok.1 hpure
  cases heq
  exact ⟨m, hu, hv⟩

/-- A test for null is written behind its operand. -/
theorem nullTest_eq_ok {op : BinaryOp} (h : s.nullTest op p b = .ok (t, c)) :
    ∃ u, s.operand none p b = .ok (u, c) ∧
      t = "(" ++ u ++ (if op = .eq then " IS NULL" else " IS NOT NULL") ++ ")" := by
  unfold nullTest at h
  obtain ⟨u, m, hu, h⟩ := bind_eq_ok.1 h
  obtain ⟨rfl, rfl⟩ := pure_eq_ok.1 h
  exact ⟨u, hu, rfl⟩

/-- **What an operator yields**: the value of two values, or a text. -/
theorem binary_eq_ok {op : BinaryOp} {r : Fragment} (h : s.binary op p q b = .ok (r, c)) :
    (∃ x y v, p = .value x ∧ q = .value y ∧ Value.binary op x y = .ok v ∧ r = .value v ∧ c = b) ∨
      ∃ t, (p.value? = none ∨ q.value? = none) ∧ s.binaryText op p q b = .ok (t, c) ∧ r = .sql t := by
  generalize hstep : s.binary op p q = step at h
  unfold binary at hstep
  split at hstep
  · rename_i x y
    subst hstep
    obtain ⟨v, m, hstep, hr⟩ := bind_eq_ok.1 h
    obtain ⟨hv, rfl⟩ := outcome_eq_ok.1 hstep
    obtain ⟨rfl, rfl⟩ := pure_eq_ok.1 hr
    exact .inl ⟨x, y, v, rfl, rfl, hv, rfl, rfl⟩
  · rename_i hno
    subst hstep
    obtain ⟨t, m, ht, h⟩ := bind_eq_ok.1 h
    obtain ⟨rfl, rfl⟩ := pure_eq_ok.1 h
    refine .inr ⟨t, ?_, ht, rfl⟩
    cases p with
    | value x =>
        cases q with
        | value y => exact absurd rfl (hno x y rfl)
        | sql u => exact .inr rfl
        | column u type => exact .inr rfl
    | sql u => exact .inl rfl
    | column u type => exact .inl rfl

/-- **What an operator before a part yields.** -/
theorem unary_eq_ok {op : UnaryOp} {r : Fragment} (h : s.unary op p b = .ok (r, c)) :
    (∃ x v, p = .value x ∧ Value.unary op x = .ok v ∧ r = .value v ∧ c = b) ∨
      p.value? = none ∧ ∃ t, match op with
        | .not => s.condition p b = .ok (t, c) ∧ r = .sql ("NOT " ++ wrap t)
        | .neg => s.operand none p b = .ok (t, c) ∧
          r = .sql ("-" ++ if p.type?.isSome then t else wrap t) := by
  generalize hstep : s.unary op p = step at h
  unfold unary at hstep
  split at hstep
  · rename_i x
    subst hstep
    obtain ⟨v, m, hstep, hr⟩ := bind_eq_ok.1 h
    obtain ⟨hv, rfl⟩ := outcome_eq_ok.1 hstep
    obtain ⟨rfl, rfl⟩ := pure_eq_ok.1 hr
    exact .inl ⟨x, v, rfl, hv, rfl, rfl⟩
  · rename_i hno
    subst hstep
    obtain ⟨t, m, ht, h⟩ := bind_eq_ok.1 h
    obtain ⟨rfl, rfl⟩ := pure_eq_ok.1 h
    refine .inr ⟨?_, t, ht, rfl⟩
    cases p with
    | value x => exact absurd rfl (hno x)
    | sql u => rfl
    | column u type => rfl
  · rename_i text type
    subst hstep
    obtain ⟨rfl, rfl⟩ := pure_eq_ok.1 h
    exact .inr ⟨rfl, text, pure_eq_ok.2 ⟨rfl, rfl⟩, rfl⟩
  · rename_i hno hcol
    subst hstep
    obtain ⟨t, m, ht, h⟩ := bind_eq_ok.1 h
    obtain ⟨rfl, rfl⟩ := pure_eq_ok.1 h
    cases p with
    | value x => exact absurd rfl (hno x)
    | sql u => exact .inr ⟨rfl, t, ht, rfl⟩
    | column u type => exact absurd rfl (hcol u type)

/-! ### Membership and methods -/

/-- A membership lists what is bound for its values, or null when there are none. -/
theorem membership_eq_ok {target : String} {hint : Option FieldType} {values : Value}
    (h : s.membership target hint values b = .ok (t, c)) :
    (values.flatten = [] ∧ t = target ++ " IN (" ++ "NULL" ++ ")" ∧ c = b) ∨
      values.flatten ≠ [] ∧ ∃ ts, s.bindAll hint (values.flatten.map (coerce hint)) b = .ok (ts, c) ∧
        t = target ++ " IN (" ++ Text.joinWith "," ts ++ ")" := by
  cases hitems : values.flatten with
  | nil =>
      simp only [membership, hitems] at h
      obtain ⟨rfl, rfl⟩ := pure_eq_ok.1 h
      have hsplit : " IN (NULL)" = " IN (" ++ ("NULL" ++ ")") := by decide
      refine .inl ⟨rfl, ?_, rfl⟩
      rw [hsplit, String.append_assoc, String.append_assoc]
  | cons v vs =>
      simp only [membership, hitems] at h
      obtain ⟨ts, m, hts, h⟩ := bind_eq_ok.1 h
      obtain ⟨rfl, rfl⟩ := pure_eq_ok.1 h
      exact .inr ⟨by simp, ts, hts, rfl⟩

/-- A string match is written with the pattern that is bound for it. -/
theorem like_eq_ok {m : StringMethod} {sql before after : String} {args : List Value}
    (h : s.like m sql before after args b = .ok (t, c)) :
    ∃ v u, s.bind none v b = .ok (u, c) ∧ t = s.dialect.upper sql ++ " LIKE " ++ u := by
  unfold like at h
  split at h
  · exact absurd h fail_ne_ok
  · obtain ⟨u, n, hu, h⟩ := bind_eq_ok.1 h
    obtain ⟨rfl, rfl⟩ := pure_eq_ok.1 h
    exact ⟨_, u, hu, rfl⟩

/-- **The arguments of `SUBSTRING`**: a position counted from zero, and a length or none. -/
theorem substringText_eq_ok {sql : String} {vs : List Value} (h : s.substringText sql vs = .ok t) :
    ∃ (start : Int64) (length : Option Int64), vs.head?.bind Value.toInt? = some start ∧
      vs[1]?.map Value.toInt? = length.map some ∧
        t = s.dialect.substring sql (start.toInt + 1) (length.map Int64.toInt) := by
  unfold substringText at h
  split at h
  · cases h
  · rename_i start hstart
    split at h
    · rename_i hnone
      cases h
      refine ⟨start, none, hstart, ?_, rfl⟩
      rw [hnone]
      rfl
    · rename_i v hv
      split at h
      · cases h
      · rename_i length hlength
        cases h
        refine ⟨start, some length, hstart, ?_, rfl⟩
        rw [hv, Option.map_some, hlength]
        rfl

/-- **What the search of a list yields**: a truth value, or a membership. -/
theorem collectionContains_eq_ok {items vs : List Value} {ps : List Fragment} {r : Fragment}
    (h : s.collectionContains items vs ps b = .ok (r, c)) :
    (∃ a, r = .value (.bool a) ∧ ps.getLast? = none ∧ c = b) ∨
      ∃ p target k t, ps.getLast? = some p ∧ s.operand none p b = .ok (target, k) ∧
        s.membership target p.type? (.list items) k = .ok (t, c) ∧ r = .sql t := by
  generalize hstep : s.collectionContains items vs ps = step at h
  unfold collectionContains at hstep
  split at hstep
  · rename_i hlast
    subst hstep
    obtain ⟨rfl, rfl⟩ := pure_eq_ok.1 h
    exact .inl ⟨_, rfl, hlast, rfl⟩
  · rename_i p _ hlast
    subst hstep
    obtain ⟨target, k, htarget, hrest⟩ := bind_eq_ok.1 h
    obtain ⟨t, n, ht, hr⟩ := bind_eq_ok.1 hrest
    obtain ⟨rfl, rfl⟩ := pure_eq_ok.1 hr
    exact .inr ⟨p, target, k, t, hlast, htarget, ht, rfl⟩
  · subst hstep
    exact absurd h fail_ne_ok

/-- The values among some parts. -/
def values (ps : List Fragment) : List Value := ps.filterMap Fragment.value?

/-- The parts that are no values. -/
def texts (ps : List Fragment) : List Fragment := ps.filter (·.value?.isNone)

/-- **What a method yields**: a membership in a list, the value of values, or a text. -/
theorem method_eq_ok {m : StringMethod} {target : Fragment} {args : List Fragment} {r : Fragment}
    (h : s.method m target args b = .ok (r, c)) :
    (∃ items, m = .contains ∧ target = .value (.list items) ∧
      s.collectionContains items (values args) (texts args) b = .ok (r, c)) ∨
    (∃ v w, target = .value v ∧ texts args = [] ∧ Fold.method m v (values args) = .ok w ∧
      r = .value w ∧ c = b) ∨
    target.value? = none ∧ texts args = [] ∧ ∃ sql k t, s.operand none target b = .ok (sql, k) ∧
      s.methodText m sql (values args) k = .ok (t, c) ∧ r = .sql t := by
  generalize hstep : s.method m target args = step at h
  unfold method at hstep
  dsimp only at hstep
  split at hstep
  · rename_i items
    subst hstep
    exact .inl ⟨items, rfl, rfl, h⟩
  · rename_i v _
    -- a text among the arguments is an error
    split at hstep
    · rename_i hempty
      subst hstep
      obtain ⟨w, n, hout, hr⟩ := bind_eq_ok.1 h
      obtain ⟨hw, rfl⟩ := outcome_eq_ok.1 hout
      obtain ⟨rfl, rfl⟩ := pure_eq_ok.1 hr
      exact .inr (.inl ⟨v, w, rfl, List.isEmpty_iff.1 hempty, hw, rfl, rfl⟩)
    · subst hstep
      exact absurd h fail_ne_ok
  · rename_i hvalue _
    split at hstep
    · rename_i hempty
      subst hstep
      obtain ⟨sql, n, hsql, h⟩ := bind_eq_ok.1 h
      obtain ⟨t, k, ht, h⟩ := bind_eq_ok.1 h
      obtain ⟨rfl, rfl⟩ := pure_eq_ok.1 h
      refine .inr (.inr ⟨?_, List.isEmpty_iff.1 hempty, sql, n, t, hsql, ht, rfl⟩)
      cases target with
      | value v => exact absurd rfl (hvalue v)
      | sql u => rfl
      | column u type => rfl
    · subst hstep
      exact absurd h fail_ne_ok

@[simp] theorem values_value (vs : List Value) : values (vs.map .value) = vs := by
  rw [values, List.filterMap_map]
  exact List.filterMap_some

@[simp] theorem texts_value (vs : List Value) : texts (vs.map .value) = [] := by
  rw [texts, List.filter_eq_nil_iff]
  intro p hp
  obtain ⟨v, -, rfl⟩ := List.mem_map.1 hp
  exact Bool.false_ne_true

theorem texts_eq_nil_iff {ps : List Fragment} :
    texts ps = [] ↔ ∀ q ∈ ps, q.value?.isSome = true := by
  simp [texts, List.filter_eq_nil_iff, Option.isSome_iff_ne_none]

theorem values_eq_nil_iff {ps : List Fragment} :
    values ps = [] ↔ ∀ q ∈ ps, q.value?.isSome = false := by
  simp [values, List.filterMap_eq_nil_iff]

/-- A method of a text of a statement, with values as arguments. -/
theorem method_text {m : StringMethod} {target : Fragment} (h : target.value? = none)
    (vs : List Value) : s.method m target (vs.map .value) = (do
      let sql ← s.operand none target
      let text ← s.methodText m sql vs
      return .sql text) := by
  have hvalues : (vs.map Fragment.value).filterMap Fragment.value? = vs := values_value vs
  have htexts : (vs.map Fragment.value).filter (·.value?.isNone) = [] := texts_value vs
  unfold method
  dsimp only
  rw [hvalues, htexts]
  cases target with
  | value v => cases h
  | sql u => cases m <;> rfl
  | column u type => cases m <;> rfl

/-- A method of a value that does not search a list, with values as arguments. -/
theorem method_fold {m : StringMethod} {x : Value} (h : ∀ items, m = .contains → x ≠ .list items)
    (vs : List Value) : s.method m (.value x) (vs.map .value) = (do
      let w ← outcome (Fold.method m x vs)
      return .value w) := by
  have hvalues : (vs.map Fragment.value).filterMap Fragment.value? = vs := values_value vs
  have htexts : (vs.map Fragment.value).filter (·.value?.isNone) = [] := texts_value vs
  unfold method
  rw [hvalues, htexts]
  cases m with
  | contains =>
      cases x with
      | list items => exact absurd rfl (h items rfl)
      | _ => rfl
  | _ => rfl

/-- A method of a text that is a value, with values as arguments. -/
theorem method_constant {m : StringMethod} (t : String) (vs : List Value) :
    s.method m (.value (.text t)) (vs.map .value) = (do
      let w ← outcome (Fold.method m (.text t) vs)
      return .value w) := by
  refine s.method_fold (fun items _ h => ?_) vs
  cases h

end Scope

/-! ### The visit -/

namespace Scope

section

variable {s : Scope} {b c : Bindings} {p : Fragment} {e : Expr}

/-- The visit of a column. -/
theorem visit_column {name : String} (h : s.visit (.column name) b = .ok (p, c)) :
    ∃ f, s.model.field? name = some f ∧ p = .column (s.column f) f.type ∧ c = b := by
  rw [visit] at h
  obtain ⟨f, m, hf, hp⟩ := bind_eq_ok.1 h
  obtain ⟨hfield, rfl⟩ := outcome_eq_ok.1 hf
  obtain ⟨rfl, rfl⟩ := pure_eq_ok.1 hp
  unfold field at hfield
  split at hfield
  · rename_i g hg
    cases hfield
    exact ⟨_, hg, rfl, rfl⟩
  · cases hfield

/-- The column of a field is written as it is. -/
theorem visit_of_field {name : String} {f : Field} (h : s.model.field? name = some f) :
    s.visit (.column name) = pure (.column (s.column f) f.type) := by
  have hfield : outcome (s.field name) = pure f := by
    rw [field, h]
    rfl
  rw [visit, hfield, pure_bind]

/-- **A comparison of a column with a value** writes the value beside the column. -/
theorem visit_comparison {name : String} {f : Field} (h : s.model.field? name = some f)
    {v : Value} (hnull : v ≠ .null) :
    s.visit (.binary .eq (.column name) (.value v)) = (do
      let text ← s.bind (some f.type) v
      return .sql (Dialect.infixText (s.column f) "=" text)) := by
  have hv : (Fragment.value v).isNull = false := by
    cases v with
    | null => exact absurd rfl hnull
    | _ => rfl
  have hcolumn : (Fragment.column (s.column f) f.type).isNull = false := rfl
  have htext : s.binaryText .eq (.column (s.column f) f.type) (.value v) = (do
      let text ← s.bind (some f.type) v
      return Dialect.infixText (s.column f) "=" text) := by
    have hpair : s.operandPair (.column (s.column f) f.type) (.value v) = (do
        let text ← s.bind (some f.type) v
        return (s.column f, text)) := rfl
    rw [binaryText, if_neg (by decide), hv, hcolumn, if_neg (by decide), hpair, bind_assoc]
    simp only [pure_bind]
    rfl
  rw [visit, visit_of_field h, visit, pure_bind, pure_bind]
  change (s.binaryText .eq (.column (s.column f) f.type) (.value v) >>= fun text => _) = _
  rw [htext, bind_assoc]
  simp only [pure_bind]

theorem visit_value {v : Value} (h : s.visit (.value v) b = .ok (p, c)) : p = .value v ∧ c = b := by
  rw [visit] at h
  exact pure_eq_ok.1 h

/-- The visits of an expression and of those behind it. -/
theorem visitAll_cons {es : List Expr} {ps : List Fragment}
    (h : s.visitAll (e :: es) b = .ok (ps, c)) :
    ∃ q m qs, s.visit e b = .ok (q, m) ∧ s.visitAll es m = .ok (qs, c) ∧ ps = q :: qs := by
  rw [visitAll] at h
  obtain ⟨q, m, hq, hrest⟩ := bind_eq_ok.1 h
  obtain ⟨qs, n, hqs, hpure⟩ := bind_eq_ok.1 hrest
  obtain ⟨rfl, rfl⟩ := pure_eq_ok.1 hpure
  exact ⟨q, m, qs, hq, hqs, rfl⟩

/-- Each of several expressions is visited. -/
theorem visitAll_eq_ok {es : List Expr} {ps : List Fragment} (h : s.visitAll es b = .ok (ps, c)) :
    List.Forall₂ (fun e p => ∃ m n, s.visit e m = .ok (p, n)) es ps := by
  induction es generalizing ps b with
  | nil =>
      rw [visitAll] at h
      obtain ⟨rfl, rfl⟩ := pure_eq_ok.1 h
      exact .nil
  | cons e es ih =>
      obtain ⟨q, m, qs, hq, hqs, rfl⟩ := visitAll_cons h
      exact .cons ⟨b, m, hq⟩ (ih hqs)

/-- The last of several expressions is visited behind the others. -/
theorem visitAll_concat_iff {es : List Expr} {e : Expr} {ps : List Fragment} :
    s.visitAll (es ++ [e]) b = .ok (ps, c) ↔
      ∃ qs m p, s.visitAll es b = .ok (qs, m) ∧ s.visit e m = .ok (p, c) ∧ ps = qs ++ [p] := by
  induction es generalizing b c ps with
  | nil =>
      simp only [List.nil_append, visitAll, bind_eq_ok, pure_eq_ok]
      constructor
      · rintro ⟨p, m, hp, qs, n, ⟨rfl, rfl⟩, rfl, rfl⟩
        exact ⟨[], b, p, ⟨rfl, rfl⟩, hp, rfl⟩
      · rintro ⟨qs, m, p, ⟨rfl, rfl⟩, hp, rfl⟩
        exact ⟨p, c, hp, [], c, ⟨rfl, rfl⟩, rfl, rfl⟩
  | cons x es ih =>
      simp only [List.cons_append, visitAll, bind_eq_ok, pure_eq_ok, ih]
      constructor
      · rintro ⟨q, m, hq, rs, n, ⟨qs, k, p, hqs, hp, rfl⟩, rfl, rfl⟩
        exact ⟨q :: qs, k, p, ⟨q, m, hq, qs, k, hqs, rfl, rfl⟩, hp, rfl⟩
      · rintro ⟨rs, k, p, ⟨q, m, hq, qs, n, hqs, rfl, rfl⟩, hp, rfl⟩
        exact ⟨q, m, hq, qs ++ [p], c, ⟨qs, _, p, hqs, hp, rfl⟩, rfl, rfl⟩

/-- The visit of an operator between two expressions. -/
theorem visit_binary {op : BinaryOp} {l r : Expr} (h : s.visit (.binary op l r) b = .ok (p, c)) :
    ∃ x k y m, s.visit l b = .ok (x, k) ∧ s.visit r k = .ok (y, m) ∧
      s.binary op x y m = .ok (p, c) := by
  rw [visit] at h
  obtain ⟨x, k, hx, hrest⟩ := bind_eq_ok.1 h
  obtain ⟨y, m, hy, hstep⟩ := bind_eq_ok.1 hrest
  exact ⟨x, k, y, m, hx, hy, hstep⟩

/-- The visit of an operator in front of an expression. -/
theorem visit_unary {op : UnaryOp} (h : s.visit (.unary op e) b = .ok (p, c)) :
    ∃ x k, s.visit e b = .ok (x, k) ∧ s.unary op x k = .ok (p, c) := by
  rw [visit] at h
  obtain ⟨x, k, hx, hstep⟩ := bind_eq_ok.1 h
  exact ⟨x, k, hx, hstep⟩

/-- The visit of a form that is written around the text of an expression. -/
theorem visit_around {e' : Expr} {f : String → String} (hform : s.visit e' = (do
      let q ← s.visit e
      let t ← s.operand none q
      return .sql (f t)))
    (h : s.visit e' b = .ok (p, c)) :
    ∃ q k t, s.visit e b = .ok (q, k) ∧ s.operand none q k = .ok (t, c) ∧ p = .sql (f t) := by
  rw [hform] at h
  obtain ⟨q, k, hq, hrest⟩ := bind_eq_ok.1 h
  obtain ⟨t, m, ht, hpure⟩ := bind_eq_ok.1 hrest
  obtain ⟨rfl, rfl⟩ := pure_eq_ok.1 hpure
  exact ⟨q, k, t, hq, ht, rfl⟩

/-- The visit of a key in descending order. -/
theorem visit_desc (h : s.visit (.desc e) b = .ok (p, c)) :
    ∃ q k t, s.visit e b = .ok (q, k) ∧ s.operand none q k = .ok (t, c) ∧ p = .sql (t ++ " DESC") :=
  visit_around (by rw [visit]) h

/-- The visit of a projection with a name of its own. -/
theorem visit_named {name : String} (h : s.visit (.named e name) b = .ok (p, c)) :
    ∃ q k t, s.visit e b = .ok (q, k) ∧ s.operand none q k = .ok (t, c) ∧
      p = .sql (t ++ " AS " ++ s.dialect.quoteName name) :=
  visit_around (by rw [visit]) h

/-- The visit of a method. -/
theorem visit_method {m : StringMethod} {args : List Expr}
    (h : s.visit (.method m e args) b = .ok (p, c)) :
    ∃ x k ps n, s.visit e b = .ok (x, k) ∧ s.visitAll args k = .ok (ps, n) ∧
      s.method m x ps n = .ok (p, c) := by
  rw [visit] at h
  obtain ⟨x, k, hx, hrest⟩ := bind_eq_ok.1 h
  obtain ⟨ps, n, hps, hstep⟩ := bind_eq_ok.1 hrest
  exact ⟨x, k, ps, n, hx, hps, hstep⟩

/-- The visit of the search of a list for an expression. -/
theorem visit_element {items : List Value}
    (h : s.visit (.method .contains (.value (.list items)) [e]) b = .ok (p, c)) :
    ∃ q k, s.visit e b = .ok (q, k) ∧
      s.collectionContains items (values [q]) (texts [q]) k = .ok (p, c) := by
  obtain ⟨x, i, ps, m, hx, hps, hstep⟩ := visit_method h
  obtain ⟨rfl, rfl⟩ := visit_value hx
  obtain ⟨q, k, qs, hq, hqs, rfl⟩ := visitAll_cons hps
  rw [visitAll] at hqs
  obtain ⟨rfl, rfl⟩ := pure_eq_ok.1 hqs
  exact ⟨q, _, hq, hstep⟩

/-- **The visit of a membership**: the list is a value, or a text in parentheses. -/
theorem visit_inList {v : Expr} (h : s.visit (.inList e v) b = .ok (p, c)) :
    ∃ x k left m q n, s.visit e b = .ok (x, k) ∧ s.operand none x k = .ok (left, m) ∧
      s.visit v m = .ok (q, n) ∧
      ((∃ w text, q = .value w ∧ s.membership left x.type? w n = .ok (text, c) ∧ p = .sql text) ∨
        q.value? = none ∧ ∃ right, s.operand none q n = .ok (right, c) ∧
          p = .sql (left ++ " IN (" ++ right ++ ")")) := by
  rw [visit] at h
  obtain ⟨x, k, hx, hrest⟩ := bind_eq_ok.1 h
  obtain ⟨left, m, hleft, hvalues⟩ := bind_eq_ok.1 hrest
  obtain ⟨q, n, hq, hstep⟩ := bind_eq_ok.1 hvalues
  refine ⟨x, k, left, m, q, n, hx, hleft, hq, ?_⟩
  cases q with
  | value w =>
      obtain ⟨text, j, htext, hpure⟩ := bind_eq_ok.1 hstep
      obtain ⟨rfl, rfl⟩ := pure_eq_ok.1 hpure
      exact .inl ⟨w, text, rfl, htext, rfl⟩
  | sql w =>
      obtain ⟨right, j, hright, hpure⟩ := bind_eq_ok.1 hstep
      obtain ⟨rfl, rfl⟩ := pure_eq_ok.1 hpure
      exact .inr ⟨rfl, right, hright, rfl⟩
  | column w type =>
      obtain ⟨right, j, hright, hpure⟩ := bind_eq_ok.1 hstep
      obtain ⟨rfl, rfl⟩ := pure_eq_ok.1 hpure
      exact .inr ⟨rfl, right, hright, rfl⟩

end

end Scope

end ModelSql
