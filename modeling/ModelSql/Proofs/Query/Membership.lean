/-
**The two membership tests.**

Whether something is among some values is asked in two ways: as a membership, with the list on the right,
and by the search of the list.  Both are the same step, whatever the list is nested like: the operand is
written, and behind it one literal or one placeholder for each leaf of the list, in order.

Main definitions:

* `Scope.Lists` — how the leaves of a list are written one after the other;
* `Scope.oneOf` — the test whether an expression is one of some leaves.

Main results:

* `Scope.bindAll_eq_ok_iff` — binding the leaves succeeds exactly as they are listed;
* `Scope.visit_inList_eq_oneOf`, `Scope.visit_contains_eq_oneOf` — each way of asking is that test;
* `Scope.visit_contains_eq_inList` — **both ways are the same step, and it depends on the leaves alone**.
-/

import ModelSql.Proofs.Dialect.Storage
import ModelSql.Proofs.Query.Computed
import ModelSql.Proofs.Query.Operation

set_option relaxedAutoImplicit false
set_option autoImplicit false

namespace ModelSql

namespace Scope

variable {s : Scope} {hint : Option FieldType} {b c : Bindings}

/-! ### Leaves -/

/-- **How leaves are written one after the other**: null and, unless values are bound, every leaf as a
literal of the form that the column stores; any other leaf as the next placeholder, with that form bound
to it. -/
inductive Lists (s : Scope) (hint : Option FieldType) :
    Bindings → List Value → List String → Bindings → Prop
  | nil {b : Bindings} : Lists s hint b [] [] b
  | literal {b c : Bindings} {v : Value} {vs : List Value} {t : String} {ts : List String} :
      s.parameterized = false ∨ v = .null → s.dialect.literal hint (coerce hint v) = .ok t →
      Lists s hint b vs ts c → Lists s hint b (v :: vs) (t :: ts) c
  | bound {b c : Bindings} {v : Value} {vs : List Value} {ts : List String} :
      s.parameterized = true → v ≠ .null → Lists s hint (b.extend s.dialect [coerce hint v]) vs ts c →
      Lists s hint b (v :: vs) (s.dialect.placeholder b.counter :: ts) c

theorem placeholder_eq (s : Scope) (v : Value) (b : Bindings) :
    s.placeholder v b = .ok (s.dialect.placeholder b.counter, b.extend s.dialect [v]) := rfl

/-- Nothing but null is stored as null. -/
theorem coerce_ne_null (hint : Option FieldType) {v : Value} (h : v ≠ .null) :
    coerce hint v ≠ .null := by
  have hgetD {α : Type} {o : Option α} {make : α → Value} (hmake : ∀ a, make a ≠ .null) :
      (o.map make).getD v ≠ .null := by
    cases o with
    | none => exact h
    | some a => exact hmake a
  unfold coerce
  split
  · split
    · exact h
    · exact hgetD fun _ => by simp
  · split
    · exact hgetD fun _ => by simp
    · exact h
  · split <;> simp
  · split <;> simp
  · simp
  · simp
  · exact h

/-- A leaf that is not null, where values are bound. -/
theorem bind_coerce_bound (s : Scope) (hint : Option FieldType) {v : Value} (hv : v.isScalar = true)
    (hs : s.parameterized = true) (hnull : v ≠ .null) :
    s.bind hint (coerce hint v) = s.placeholder (coerce hint v) := by
  rw [s.bind_parameterized hs (Value.isScalar_coerce hv) (coerce_ne_null hint hnull), coerce_coerce]

/-- Null, and any leaf where no values are bound. -/
theorem bind_coerce_literal (s : Scope) (hint : Option FieldType) {v : Value}
    (h : s.parameterized = false ∨ v = .null) :
    s.bind hint (coerce hint v) = outcome (s.dialect.literal hint (coerce hint v)) := by
  unfold bind
  split
  · rename_i hs
    have hnull : v = .null := h.resolve_left (ne_false_of_eq_true hs)
    subst hnull
    rw [coerce_of_isCoded rfl, bindParameter]
  · rfl

/-- **Leaves are bound as they are listed.** -/
theorem bindAll_eq_ok_iff {vs : List Value} {ts : List String} (hvs : ∀ v ∈ vs, v.isScalar = true) :
    s.bindAll hint (vs.map (coerce hint)) b = .ok (ts, c) ↔ s.Lists hint b vs ts c := by
  induction vs generalizing b ts with
  | nil =>
      rw [List.map_nil, bindAll, pure_eq_ok]
      constructor
      · rintro ⟨rfl, rfl⟩
        exact .nil
      · intro h
        cases h
        exact ⟨rfl, rfl⟩
  | cons v vs ih =>
      have hrest (w : Value) (hw : w ∈ vs) := hvs w (List.mem_cons_of_mem v hw)
      have hv : v.isScalar = true := hvs v List.mem_cons_self
      rw [List.map_cons, bindAll, bind_eq_ok]
      constructor
      · rintro ⟨t, m, ht, h⟩
        obtain ⟨us, n, hus, hpure⟩ := bind_eq_ok.1 h
        obtain ⟨rfl, rfl⟩ := pure_eq_ok.1 hpure
        have hlisted := (ih hrest).1 hus
        by_cases hmode : s.parameterized = false ∨ v = .null
        · rw [s.bind_coerce_literal hint hmode] at ht
          obtain ⟨hval, rfl⟩ := outcome_eq_ok.1 ht
          exact .literal hmode hval hlisted
        · obtain ⟨hs, hnull⟩ := not_or.1 hmode
          rw [s.bind_coerce_bound hint hv (eq_true_of_ne_false hs) hnull] at ht
          cases ht
          exact .bound (eq_true_of_ne_false hs) hnull hlisted
      · intro h
        cases h with
        | literal hmode hval hlisted =>
            rw [s.bind_coerce_literal hint hmode]
            exact ⟨_, b, outcome_eq_ok.2 ⟨hval, rfl⟩,
              bind_eq_ok.2 ⟨_, c, (ih hrest).2 hlisted, rfl⟩⟩
        | bound hs hnull hlisted =>
            rw [s.bind_coerce_bound hint hv hs hnull]
            exact ⟨_, _, s.placeholder_eq _ b, bind_eq_ok.2 ⟨_, c, (ih hrest).2 hlisted, rfl⟩⟩

/-! ### The test -/

/-- **The test whether an expression is one of some leaves.** -/
def oneOf (s : Scope) (x : Expr) (leaves : List Value) : Compile Fragment := do
  let p ← s.visit x
  let target ← s.operand none p
  let text ← s.membership target p.type? (.list leaves)
  return .sql text

theorem membership_flatten (s : Scope) (target : String) (hint : Option FieldType) (v : Value) :
    s.membership target hint (.list v.flatten) = s.membership target hint v := by
  unfold membership
  rw [v.flatten_flatten]

/-- **A membership in a list that is computed** tests for its leaves. -/
theorem visit_inList_eq_oneOf (s : Scope) (x : Expr) {l : Expr} {v : Value} (hl : l.value? = some v) :
    s.visit (.inList x l) = s.oneOf x v.flatten := by
  rw [visit, oneOf]
  congr 1
  funext p
  congr 1
  funext target
  rw [visit_of_value hl, pure_bind, membership_flatten]

/-- The search of a list of values for a part that is no value. -/
theorem method_contains_text (s : Scope) {items : List Value} {p : Fragment} (h : p.value? = none) :
    s.method .contains (.value (.list items)) [p] = (do
      let target ← s.operand none p
      let text ← s.membership target p.type? (.list items)
      return .sql text) := by
  cases p with
  | value v => cases h
  | sql t => rfl
  | column t type => rfl

/-- **The search of a list that is computed** for an expression that is not tests for its leaves. -/
theorem visit_contains_eq_oneOf (s : Scope) {x l : Expr} {items : List Value} (hx : x.value? = none)
    (hl : l.value? = some (.list items)) :
    s.visit (.method .contains l [x]) = s.oneOf x (Value.list items).flatten := by
  have hstep : s.visit (.method .contains l [x]) = (do
      let p ← s.visit x
      s.method .contains (.value (.list items)) [p]) := by
    rw [visit, visit_of_value hl, pure_bind]
    simp only [visitAll, bind_assoc, pure_bind]
  rw [hstep, oneOf]
  funext b
  change (s.visit x b >>= fun r => _) = (s.visit x b >>= fun r => _)
  cases hp : s.visit x b with
  | error e => rfl
  | ok r =>
      -- the operand is no value, so it is the one text among the arguments
      have hvalue : r.1.value? = none := (value_eq_none_iff hp).2 hx
      change s.method .contains (.value (.list items)) [r.1] r.2 = _
      rw [s.method_contains_text hvalue]
      simp only [membership_flatten]
      rfl

/-- The list of a membership: its leaves, or null when there is none. -/
def listText (leaves : List Value) (ts : List String) : String :=
  if leaves.isEmpty then "NULL" else Text.joinWith "," ts

/-- A membership, its leaves in the form that the column stores. -/
theorem membership_eq (s : Scope) (target : String) (hint : Option FieldType) (v : Value) :
    s.membership target hint v = (do
      let ts ← s.bindAll hint (v.flatten.map (coerce hint))
      return target ++ " IN (" ++ listText v.flatten ts ++ ")") := by
  unfold membership
  cases v.flatten with
  | nil =>
      have hsplit : " IN (NULL)" = " IN (" ++ ("NULL" ++ ")") := by decide
      dsimp only
      rw [List.map_nil, bindAll, pure_bind, hsplit, String.append_assoc, String.append_assoc]
      rfl
  | cons w ws => rfl

/-- **A membership lists its leaves.** -/
theorem membership_eq_ok_iff {target t : String} {v : Value} :
    s.membership target hint v b = .ok (t, c) ↔
      ∃ ts, s.Lists hint b v.flatten ts c ∧ t = target ++ " IN (" ++ listText v.flatten ts ++ ")" := by
  have hlists (ts : List String) : s.bindAll hint (v.flatten.map (coerce hint)) b = .ok (ts, c) ↔
      s.Lists hint b v.flatten ts c :=
    bindAll_eq_ok_iff fun w hw => Value.isScalar_of_mem_flatten hw
  rw [membership_eq, bind_eq_ok]
  constructor
  · rintro ⟨ts, m, hts, hpure⟩
    obtain ⟨rfl, rfl⟩ := pure_eq_ok.1 hpure
    exact ⟨ts, (hlists ts).1 hts, rfl⟩
  · rintro ⟨ts, hts, rfl⟩
    exact ⟨ts, c, (hlists ts).2 hts, rfl⟩

/-- **What a test for leaves writes**: the operand, and behind it the list of the leaves. -/
theorem oneOf_eq_ok_iff {x : Expr} {leaves : List Value} {r : Fragment}
    (hleaves : ∀ v ∈ leaves, v.isScalar = true) (hx : x.value? = none) :
    s.oneOf x leaves b = .ok (r, c) ↔
      ∃ p m target ts, s.visit x b = .ok (p, m) ∧ s.operand none p m = .ok (target, m) ∧
        s.Lists p.type? m leaves ts c ∧ r = .sql (target ++ " IN (" ++ listText leaves ts ++ ")") := by
  have hflat : (Value.list leaves).flatten = leaves := by
    rw [Value.flatten_list, Value.flattenAll_of_isScalar hleaves]
  rw [oneOf, bind_eq_ok]
  constructor
  · rintro ⟨p, m, hp, h⟩
    obtain ⟨target, n, htarget, hrest⟩ := bind_eq_ok.1 h
    obtain ⟨text, k, htext, hpure⟩ := bind_eq_ok.1 hrest
    obtain ⟨rfl, rfl⟩ := pure_eq_ok.1 hpure
    -- writing an operand that is no value binds nothing
    have hn : n = m := by
      cases p with
      | value v => cases (value_eq_none_iff hp).2 hx
      | sql t => exact (pure_eq_ok.1 htarget).2
      | column t type => exact (pure_eq_ok.1 htarget).2
    subst hn
    obtain ⟨ts, hts, rfl⟩ := membership_eq_ok_iff.1 htext
    rw [hflat] at hts ⊢
    exact ⟨p, n, target, ts, hp, htarget, hts, rfl⟩
  · rintro ⟨p, m, target, ts, hp, htarget, hts, rfl⟩
    refine ⟨p, m, hp, bind_eq_ok.2 ⟨target, m, htarget, bind_eq_ok.2 ⟨_, c, ?_, rfl⟩⟩⟩
    rw [membership_eq_ok_iff, hflat]
    exact ⟨ts, hts, rfl⟩

/-- **Both ways of asking are one step.**  The search of a list for an expression and the membership of the
expression in the list do the same, whether they succeed or fail and whether values are bound or written:
they write the operand and list the leaves, one text for each of them in order, or null when there is no
leaf.  Nothing else of the list matters: another list with the same leaves makes the same step. -/
theorem visit_contains_eq_inList (s : Scope) {x l : Expr} {items : List Value} (hx : x.value? = none)
    (hl : l.value? = some (.list items)) :
    s.visit (.method .contains l [x]) = s.visit (.inList x l) ∧
    (∀ b r c, s.visit (.inList x l) b = .ok (r, c) ↔
      ∃ p m target ts, s.visit x b = .ok (p, m) ∧ s.operand none p m = .ok (target, m) ∧
        s.Lists p.type? m (Value.list items).flatten ts c ∧
        r = .sql (target ++ " IN (" ++ listText (Value.list items).flatten ts ++ ")")) ∧
    ∀ l' items', l'.value? = some (.list items') →
      (Value.list items').flatten = (Value.list items).flatten →
      s.visit (.inList x l') = s.visit (.inList x l) ∧
        s.visit (.method .contains l' [x]) = s.visit (.inList x l) := by
  have hmember := s.visit_inList_eq_oneOf x hl
  refine ⟨(s.visit_contains_eq_oneOf hx hl).trans hmember.symm, fun b r c => ?_,
    fun l' items' hl' hflat => ⟨?_, ?_⟩⟩
  · rw [hmember]
    exact oneOf_eq_ok_iff (fun v hv => Value.isScalar_of_mem_flatten hv) hx
  · rw [s.visit_inList_eq_oneOf x hl', hflat, hmember]
  · rw [s.visit_contains_eq_oneOf hx hl', hflat, hmember]

/-- A column and a nested list with null, where values are bound. -/
theorem visit_contains_eq_inList_nested :
    let s : Scope := ⟨DialectKind.sqlite.dialect, Query.people, true, false⟩
    let x := Expr.column "Flag"
    let l := Expr.list [.value (.int 1), .value (.list [.null, .list [.bool false]])]
    x.value? = none ∧ l.value? = some (.list [.int 1, .list [.null, .list [.bool false]]]) ∧
      s.visit (.method .contains l [x]) = s.visit (.inList x l) ∧
      s.visit (.inList x l) ⟨⟨[]⟩, 0⟩ = .ok (.sql "\"Flag\" IN (@0,NULL,@1)",
        ⟨⟨[("@0", .bool true), ("@1", .bool false)]⟩, 2⟩) :=
  ⟨rfl, rfl, (visit_contains_eq_inList _ rfl rfl).1, rfl⟩

end Scope

end ModelSql
