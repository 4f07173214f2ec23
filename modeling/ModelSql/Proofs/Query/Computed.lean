/-
**Expressions that are computed.**

A part of an expression without columns has a value, and the value has nothing to do with the statement: it
depends neither on the database, nor on the model, nor on what is bound already.  Here it is computed from
the expression alone, and a visit is seen to yield the same value, and to yield one for no other
expression.

Main definitions:

* `Value.method?` — the value of a method of a value;
* `Expr.value?` — **the value of an expression**, if it is computed.

Main results:

* `Scope.binary_value_iff`, `Scope.method_value_iff`, … — when parts put together are a value;
* `Scope.visit_value_iff` — **a visit yields a value exactly when it is that of the expression**, and
  binds nothing then.
-/

import ModelSql.Proofs.Query.Visit

set_option relaxedAutoImplicit false
set_option autoImplicit false

namespace ModelSql

/-! ### Values -/

/-- The value of a method of a value: a list is searched for the last argument, and any other value is
taken as a text. -/
def Value.method? (m : StringMethod) (target : Value) (args : List Value) : Option Value :=
  match m, target with
  | .contains, .list items =>
    args.getLast?.map fun item => .bool ((Value.list items).flatten.any (·.looseEq item))
  | m, v => (Fold.method m v args).toOption

namespace Expr

mutual

/-- **The value of an expression**, if it is computed. -/
def value? : Expr → Option Value
  | .value v => some v
  | .deferred r => r.toOption
  | .binary op l r => l.value?.bind fun a => r.value?.bind fun b => (Value.binary op a b).toOption
  | .unary op e => e.value?.bind fun a => (Value.unary op a).toOption
  | .convert e => e.value?
  | .convertWith f e => e.value?.bind fun a => (f.apply [a]).toOption
  | .method m t args => t.value?.bind fun a => (values? args).bind fun vs => a.method? m vs
  | .call f args => (values? args).bind fun vs => (f.apply vs).toOption
  | .list items => (values? items).map .list
  | _ => none

/-- The values of expressions, if all are computed. -/
def values? : List Expr → Option (List Value)
  | [] => some []
  | e :: es => e.value?.bind fun v => (values? es).map (v :: ·)

end

end Expr

theorem toOption_eq_some {α : Type} {x : Except Error α} {a : α} :
    x.toOption = some a ↔ x = .ok a := by
  cases x <;> simp [Except.toOption]

namespace Scope

variable {s : Scope} {p q : Fragment} {ps : List Fragment} {v : Value} {b c : Bindings}

/-! ### Parts put together -/

/-- A computation that has an outcome already. -/
theorem outcome_value_iff {x : Except Error Value} : (do
    let w ← outcome x
    return .value w : Compile Fragment) b = .ok (.value v, c) ↔ x.toOption = some v ∧ c = b := by
  rw [toOption_eq_some]
  constructor
  · intro h
    obtain ⟨w, n, hw, hv⟩ := bind_eq_ok.1 h
    obtain ⟨hx, rfl⟩ := outcome_eq_ok.1 hw
    obtain ⟨hval, rfl⟩ := pure_eq_ok.1 hv
    cases hval
    exact ⟨hx, rfl⟩
  · rintro ⟨hx, rfl⟩
    exact bind_eq_ok.2 ⟨v, c, outcome_eq_ok.2 ⟨hx, rfl⟩, rfl⟩

/-- A step that ends with a text yields no value. -/
theorem text_ne_value {α : Type} {f : Compile α} {g : α → String} :
    (do
      let a ← f
      return .sql (g a) : Compile Fragment) b ≠ .ok (.value v, c) := by
  intro h
  obtain ⟨a, n, -, hpure⟩ := bind_eq_ok.1 h
  cases (pure_eq_ok.1 hpure).1

theorem binary_value_iff {op : BinaryOp} : s.binary op p q b = .ok (.value v, c) ↔
    ∃ x y, p = .value x ∧ q = .value y ∧ (Value.binary op x y).toOption = some v ∧ c = b := by
  constructor
  · intro h
    rcases s.binary_eq_ok h with ⟨x, y, w, rfl, rfl, hw, hv, rfl⟩ | ⟨t, -, -, ht⟩
    · cases hv
      exact ⟨x, y, rfl, rfl, toOption_eq_some.2 hw, rfl⟩
    · cases ht
  · rintro ⟨x, y, rfl, rfl, h⟩
    exact outcome_value_iff.2 h

theorem unary_value_iff {op : UnaryOp} : s.unary op p b = .ok (.value v, c) ↔
    ∃ x, p = .value x ∧ (Value.unary op x).toOption = some v ∧ c = b := by
  constructor
  · intro h
    rcases s.unary_eq_ok h with ⟨x, w, rfl, hw, hv, rfl⟩ | ⟨-, t, ht⟩
    · cases hv
      exact ⟨x, rfl, toOption_eq_some.2 hw, rfl⟩
    · cases op with
      | not => cases ht.2
      | neg => cases ht.2
  · rintro ⟨x, rfl, h⟩
    have hstep : s.unary op (.value x) = (do
        let w ← outcome (Value.unary op x)
        return .value w) := by
      cases op <;> rfl
    rw [hstep]
    exact outcome_value_iff.2 h

/-- Parts without texts are values. -/
theorem eq_map_value_of_texts (h : texts ps = []) : ps = (values ps).map .value := by
  induction ps with
  | nil => rfl
  | cons p ps ih =>
      cases p with
      | value x => exact congrArg (.value x :: ·) (ih h)
      | sql t => cases h
      | column t type => cases h

/-- The search of a list for a value. -/
theorem collectionContains_value_iff {items vs : List Value} :
    s.collectionContains items vs [] b = .ok (.value v, c) ↔
      Value.method? .contains (.list items) vs = some v ∧ c = b := by
  unfold collectionContains Value.method?
  cases vs.getLast? with
  | none => exact iff_of_false fail_ne_ok (fun h => by cases h.1)
  | some item =>
      change (pure _ : Compile Fragment) b = _ ↔ some _ = _ ∧ _
      rw [pure_eq_ok, Fragment.value.injEq, Option.some.injEq, eq_comm (a := v)]

/-- A method of a value with values as arguments. -/
theorem method_value_values {m : StringMethod} {x : Value} {vs : List Value} :
    s.method m (.value x) (vs.map .value) b = .ok (.value v, c) ↔ x.method? m vs = some v ∧ c = b := by
  by_cases hlist : m = .contains ∧ ∃ items, x = .list items
  · obtain ⟨rfl, items, rfl⟩ := hlist
    have hstep : s.method .contains (.value (.list items)) (vs.map .value) =
        s.collectionContains items (values (vs.map .value)) (texts (vs.map .value)) := rfl
    rw [hstep, values_value, texts_value]
    exact collectionContains_value_iff
  · have hno (items : List Value) (hm : m = .contains) : x ≠ .list items :=
      fun hx => hlist ⟨hm, items, hx⟩
    have hfold : x.method? m vs = (Fold.method m x vs).toOption := by
      unfold Value.method?
      split
      · exact absurd rfl (hno _ rfl)
      · rfl
    rw [s.method_fold hno, hfold]
    exact outcome_value_iff

/-- **A method yields a value** when it is called on a value with values. -/
theorem method_value_iff {m : StringMethod} : s.method m p ps b = .ok (.value v, c) ↔
    ∃ x vs, p = .value x ∧ ps = vs.map .value ∧ x.method? m vs = some v ∧ c = b := by
  constructor
  · intro h
    have hparts : (∃ x, p = .value x) ∧ texts ps = [] := by
      rcases s.method_eq_ok h with ⟨items, rfl, rfl, h⟩ | ⟨x, w, rfl, htexts, -⟩ | ⟨-, -, sql, k, t, -, -, ht⟩
      · rcases s.collectionContains_eq_ok h with ⟨a, -, hlast, -⟩ | ⟨q, target, k, t, -, -, -, ht⟩
        · exact ⟨⟨_, rfl⟩, List.getLast?_eq_none_iff.1 hlast⟩
        · cases ht
      · exact ⟨⟨x, rfl⟩, htexts⟩
      · cases ht
    obtain ⟨⟨x, rfl⟩, htexts⟩ := hparts
    have hps := eq_map_value_of_texts htexts
    rw [hps, method_value_values] at h
    exact ⟨x, values ps, rfl, hps, h⟩
  · rintro ⟨x, vs, rfl, rfl, h⟩
    exact method_value_values.2 h

theorem listOf_value_iff : s.listOf ps b = .ok (.value v, c) ↔
    ∃ vs, ps = vs.map .value ∧ v = .list vs ∧ c = b := by
  unfold listOf
  split
  · rename_i hall
    have hps : ps = (values ps).map .value := eq_map_value_of_texts (by
      rw [texts, List.filter_eq_nil_iff]
      intro q hq
      simpa [Option.isSome_iff_ne_none] using List.all_eq_true.1 hall q hq)
    rw [pure_eq_ok, Fragment.value.injEq]
    constructor
    · rintro ⟨rfl, rfl⟩
      exact ⟨values ps, hps, rfl, rfl⟩
    · rintro ⟨vs, rfl, rfl, rfl⟩
      exact ⟨congrArg Value.list (values_value vs).symm, rfl⟩
  · rename_i hall
    refine iff_of_false (fun h => ?_) ?_
    · obtain ⟨ts, n, -, hpure⟩ := bind_eq_ok.1 h
      cases (pure_eq_ok.1 hpure).1
    · rintro ⟨vs, rfl, -, -⟩
      refine hall (List.all_eq_true.2 fun q hq => ?_)
      obtain ⟨x, -, rfl⟩ := List.mem_map.1 hq
      rfl

/-! ### The visit -/

/-- What a visit yields that is a value: one case for each form of an expression, and one for each form of
a list of arguments. -/
theorem visit_value_and (s : Scope) :
    (∀ e v b c, s.visit e b = .ok (.value v, c) ↔ e.value? = some v ∧ c = b) ∧
      (∀ f es vs b c, s.visitValues f es b = .ok (vs, c) ↔ Expr.values? es = some vs ∧ c = b) ∧
        ∀ es vs b c, s.visitAll es b = .ok (vs.map .value, c) ↔ Expr.values? es = some vs ∧ c = b := by
  -- one case for each equation of the visit; a form that always makes text has no value on either side
  apply Scope.visit.mutual_induct <;> intros <;>
    simp only [visit, visitValues, visitAll, Expr.value?, Expr.values?]
  case case1 name v b c =>
      refine iff_of_false (fun h => ?_) (fun h => by cases h.1)
      obtain ⟨f, n, -, hpure⟩ := bind_eq_ok.1 h
      cases (pure_eq_ok.1 hpure).1
  case case2 w v b c =>
      rw [pure_eq_ok, Fragment.value.injEq, Option.some.injEq, eq_comm (a := v)]
  case case3 r v b c => exact outcome_value_iff
  case case4 op l r ihl ihr v b c =>
      simp only [Option.bind_eq_some_iff]
      constructor
      · intro h
        obtain ⟨x, k, hx, hrest⟩ := bind_eq_ok.1 h
        obtain ⟨y, m, hy, hstep⟩ := bind_eq_ok.1 hrest
        obtain ⟨x, y, rfl, rfl, hv, rfl⟩ := binary_value_iff.1 hstep
        obtain ⟨hl, rfl⟩ := (ihl _ _ _).1 hx
        obtain ⟨hr, rfl⟩ := (ihr _ _ _).1 hy
        exact ⟨⟨x, hl, y, hr, hv⟩, rfl⟩
      · rintro ⟨⟨x, hx, y, hy, hv⟩, rfl⟩
        exact bind_eq_ok.2 ⟨_, c, (ihl _ _ _).2 ⟨hx, rfl⟩, bind_eq_ok.2 ⟨_, c, (ihr _ _ _).2 ⟨hy, rfl⟩,
          binary_value_iff.2 ⟨x, y, rfl, rfl, hv, rfl⟩⟩⟩
  case case5 op e ih v b c =>
      simp only [Option.bind_eq_some_iff]
      constructor
      · intro h
        obtain ⟨x, k, hx, hstep⟩ := bind_eq_ok.1 h
        obtain ⟨x, rfl, hv, rfl⟩ := unary_value_iff.1 hstep
        obtain ⟨he, rfl⟩ := (ih _ _ _).1 hx
        exact ⟨⟨x, he, hv⟩, rfl⟩
      · rintro ⟨⟨x, hx, hv⟩, rfl⟩
        exact bind_eq_ok.2 ⟨_, c, (ih _ _ _).2 ⟨hx, rfl⟩, unary_value_iff.2 ⟨x, rfl, hv, rfl⟩⟩
  case case6 e ih v b c => exact ih v b c
  case case7 f e ih v b c =>
      simp only [Option.bind_eq_some_iff]
      constructor
      · intro h
        obtain ⟨p, k, hp, hstep⟩ := bind_eq_ok.1 h
        cases p with
        | value x =>
            obtain ⟨hv, rfl⟩ := outcome_value_iff.1 hstep
            obtain ⟨he, rfl⟩ := (ih _ _ _).1 hp
            exact ⟨⟨x, he, hv⟩, rfl⟩
        | sql t => exact absurd hstep fail_ne_ok
        | column t type => exact absurd hstep fail_ne_ok
      · rintro ⟨⟨x, hx, hv⟩, rfl⟩
        exact bind_eq_ok.2 ⟨_, c, (ih _ _ _).2 ⟨hx, rfl⟩, outcome_value_iff.2 ⟨hv, rfl⟩⟩
  case case8 m e es ih ihs v b c =>
      simp only [Option.bind_eq_some_iff]
      constructor
      · intro h
        obtain ⟨p, k, hp, hrest⟩ := bind_eq_ok.1 h
        obtain ⟨ps, n, hps, hstep⟩ := bind_eq_ok.1 hrest
        obtain ⟨x, vs, rfl, rfl, hv, rfl⟩ := method_value_iff.1 hstep
        obtain ⟨he, rfl⟩ := (ih _ _ _).1 hp
        obtain ⟨hes, rfl⟩ := (ihs _ _ _).1 hps
        exact ⟨⟨x, he, vs, hes, hv⟩, rfl⟩
      · rintro ⟨⟨x, hx, vs, hvs, hv⟩, rfl⟩
        exact bind_eq_ok.2 ⟨_, c, (ih _ _ _).2 ⟨hx, rfl⟩, bind_eq_ok.2 ⟨_, c, (ihs _ _ _).2 ⟨hvs, rfl⟩,
          method_value_iff.2 ⟨x, vs, rfl, rfl, hv, rfl⟩⟩⟩
  case case9 f es ih v b c =>
      simp only [Option.bind_eq_some_iff]
      constructor
      · intro h
        obtain ⟨vs, k, hvs, hstep⟩ := bind_eq_ok.1 h
        obtain ⟨hv, rfl⟩ := outcome_value_iff.1 hstep
        obtain ⟨hes, rfl⟩ := (ih _ _ _).1 hvs
        exact ⟨⟨vs, hes, hv⟩, rfl⟩
      · rintro ⟨⟨vs, hvs, hv⟩, rfl⟩
        exact bind_eq_ok.2 ⟨vs, c, (ih _ _ _).2 ⟨hvs, rfl⟩, outcome_value_iff.2 ⟨hv, rfl⟩⟩
  case case10 t e _ _ v b c =>
      refine iff_of_false (fun h => ?_) (fun h => by cases h.1)
      obtain ⟨p, k, -, hrest⟩ := bind_eq_ok.1 h
      obtain ⟨left, m, -, hvalues⟩ := bind_eq_ok.1 hrest
      obtain ⟨q, n, -, hstep⟩ := bind_eq_ok.1 hvalues
      cases q with
      | value w => exact text_ne_value hstep
      | sql w => exact text_ne_value hstep
      | column w type => exact text_ne_value hstep
  case case11 e _ v b c | case12 e name _ v b c | case13 f e _ v b c =>
      refine iff_of_false (fun h => ?_) (fun h => by cases h.1)
      obtain ⟨p, k, -, hstep⟩ := bind_eq_ok.1 h
      exact text_ne_value hstep
  case case14 v b c => exact iff_of_false (fun h => by cases (pure_eq_ok.1 h).1) (fun h => by cases h.1)
  case case15 es ih v b c =>
      simp only [Option.map_eq_some_iff]
      constructor
      · intro h
        obtain ⟨ps, k, hps, hstep⟩ := bind_eq_ok.1 h
        obtain ⟨vs, rfl, rfl, rfl⟩ := listOf_value_iff.1 hstep
        obtain ⟨hes, rfl⟩ := (ih _ _ _).1 hps
        exact ⟨⟨vs, hes, rfl⟩, rfl⟩
      · rintro ⟨⟨vs, hvs, rfl⟩, rfl⟩
        exact bind_eq_ok.2 ⟨_, c, (ih _ _ _).2 ⟨hvs, rfl⟩, listOf_value_iff.2 ⟨vs, rfl, rfl, rfl⟩⟩
  case case16 f vs b c => rw [pure_eq_ok, Option.some.injEq, eq_comm (a := vs)]
  case case17 f e es ih ihs vs b c =>
      simp only [Option.bind_eq_some_iff, Option.map_eq_some_iff]
      constructor
      · intro h
        obtain ⟨p, k, hp, hrest⟩ := bind_eq_ok.1 h
        cases p with
        | value x =>
            obtain ⟨ws, n, hws, hpure⟩ := bind_eq_ok.1 hrest
            obtain ⟨rfl, rfl⟩ := pure_eq_ok.1 hpure
            obtain ⟨he, rfl⟩ := (ih _ _ _).1 hp
            obtain ⟨hes, rfl⟩ := (ihs _ _ _).1 hws
            exact ⟨⟨x, he, ws, hes, rfl⟩, rfl⟩
        | sql t => exact absurd hrest fail_ne_ok
        | column t type => exact absurd hrest fail_ne_ok
      · rintro ⟨⟨x, hx, ws, hws, rfl⟩, rfl⟩
        exact bind_eq_ok.2 ⟨_, c, (ih _ _ _).2 ⟨hx, rfl⟩,
          bind_eq_ok.2 ⟨ws, c, (ihs _ _ _).2 ⟨hws, rfl⟩, rfl⟩⟩
  case case18 vs b c =>
      rw [pure_eq_ok, Option.some.injEq, List.map_eq_nil_iff, eq_comm (a := vs)]
  case case19 e es ih ihs vs b c =>
      simp only [Option.bind_eq_some_iff, Option.map_eq_some_iff]
      constructor
      · intro h
        obtain ⟨p, k, hp, hrest⟩ := bind_eq_ok.1 h
        obtain ⟨ps, n, hps, hpure⟩ := bind_eq_ok.1 hrest
        obtain ⟨hlist, rfl⟩ := pure_eq_ok.1 hpure
        cases vs with
        | nil => cases hlist
        | cons w ws =>
            cases hlist
            obtain ⟨he, rfl⟩ := (ih _ _ _).1 hp
            obtain ⟨hes, rfl⟩ := (ihs _ _ _).1 hps
            exact ⟨⟨w, he, ws, hes, rfl⟩, rfl⟩
      · rintro ⟨⟨x, hx, ws, hws, rfl⟩, rfl⟩
        exact bind_eq_ok.2 ⟨_, c, (ih _ _ _).2 ⟨hx, rfl⟩,
          bind_eq_ok.2 ⟨_, c, (ihs _ _ _).2 ⟨hws, rfl⟩, rfl⟩⟩

/-- **A visit yields a value exactly when it is that of the expression**, and binds nothing then. -/
theorem visit_value_iff {e : Expr} :
    s.visit e b = .ok (.value v, c) ↔ e.value? = some v ∧ c = b := s.visit_value_and.1 e v b c

/-- What is computed is visited as its value. -/
theorem visit_of_value {e : Expr} (h : e.value? = some v) : s.visit e = pure (.value v) :=
  funext fun _ => visit_value_iff.2 ⟨h, rfl⟩

/-- What a visit yields is a value only for an expression that is computed. -/
theorem value_eq_none_iff {e : Expr} (h : s.visit e b = .ok (p, c)) :
    p.value? = none ↔ e.value? = none := by
  cases p with
  | value w =>
      rw [(visit_value_iff.1 h).1]
      exact Iff.rfl
  | sql t | column t type =>
      refine iff_of_true rfl (Option.eq_none_iff_forall_ne_some.2 fun w hw => ?_)
      rw [visit_of_value hw] at h
      cases (pure_eq_ok.1 h).1

/-- A part is a value exactly if its expression is computed. -/
theorem isSome_value {e : Expr} (h : s.visit e b = .ok (p, c)) :
    p.value?.isSome = e.value?.isSome := by
  rw [Bool.eq_iff_iff, Option.isSome_iff_ne_none, Option.isSome_iff_ne_none, ne_eq, ne_eq,
    value_eq_none_iff h]

end Scope

end ModelSql
