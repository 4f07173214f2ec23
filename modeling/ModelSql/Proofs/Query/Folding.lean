/-
**Folding a part of an expression.**

A part of an expression without columns may be computed before the expression is written, and nothing about
the statement changes: neither its text, nor its parameters, nor whether it can be written.  The place of
the part does not matter.  It may be an operand of a null test, the value that a column is compared with,
an item of a list that is searched, or an argument of a function of the host.  Where the part cannot be
computed, nothing that it stands in can be written.

Main definitions:

* `Expr.isClosed` — the expressions without columns and forms of statements;
* `Expr.Frame`, `Expr.Context` — an expression around the place of a part;
* `Fails` — the steps that never succeed;
* `Operation.compiling` — the calls that write a clause of an expression.

Main results:

* `Scope.visit_congr` — what is visited alike may be exchanged at any place;
* `Scope.fails_visit_closed` — a closed expression without a value cannot be visited;
* `Query.perform_folded` — **folding a part changes neither texts nor parameters**.
-/

import ModelSql.Proofs.Query.Computed
import ModelSql.Proofs.Query.Operation

set_option relaxedAutoImplicit false
set_option autoImplicit false

namespace ModelSql

/-! ### Expressions around a part -/

namespace Expr

mutual

/-- Whether neither columns nor forms that exist in statements only occur in an expression. -/
def isClosed : Expr → Bool
  | .value _ | .deferred _ => true
  | .binary _ l r => l.isClosed && r.isClosed
  | .unary _ e | .convert e | .convertWith _ e => e.isClosed
  | .method _ t args => t.isClosed && allClosed args
  | .call _ args => allClosed args
  | .list items => allClosed items
  | .column _ | .inList .. | .desc _ | .named .. | .aggregate .. | .countAll => false

/-- Whether this is so for all of some expressions. -/
def allClosed : List Expr → Bool
  | [] => true
  | e :: es => e.isClosed && allClosed es

end

/-- A form of an expression with a place for one part. -/
inductive Frame
  | left (op : BinaryOp) (r : Expr)
  | right (op : BinaryOp) (l : Expr)
  | unary (op : UnaryOp)
  | convert
  | convertWith (f : HostFunction)
  | target (m : StringMethod) (args : List Expr)
  | argument (m : StringMethod) (t : Expr) (before after : List Expr)
  | callArgument (f : HostFunction) (before after : List Expr)
  | member (values : Expr)
  | members (t : Expr)
  | desc
  | named (name : String)
  | aggregate (f : Aggregate)
  | item (before after : List Expr)

/-- The expression with the part in its place. -/
def Frame.plug : Frame → Expr → Expr
  | .left op r, e => .binary op e r
  | .right op l, e => .binary op l e
  | .unary op, e => .unary op e
  | .convert, e => .convert e
  | .convertWith f, e => .convertWith f e
  | .target m args, e => .method m e args
  | .argument m t before after, e => .method m t (before ++ e :: after)
  | .callArgument f before after, e => .call f (before ++ e :: after)
  | .member values, e => .inList e values
  | .members t, e => .inList t e
  | .desc, e => .desc e
  | .named name, e => .named e name
  | .aggregate f, e => .aggregate f e
  | .item before after, e => .list (before ++ e :: after)

/-- An expression with a place for one part: the frames around the place, the outermost one first. -/
abbrev Context := List Frame

/-- The expression with the part in its place. -/
def Context.plug (C : Context) (e : Expr) : Expr := List.foldr Frame.plug e C

end Expr

/-! ### Steps that never succeed -/

/-- A step that fails, whatever is bound so far. -/
def Fails {α : Type} (f : Compile α) : Prop := ∀ b r, f b ≠ .ok r

variable {α β : Type}

theorem Fails.bind {f : Compile α} (h : Fails f) (g : α → Compile β) : Fails (f >>= g) := by
  rintro b ⟨r, c⟩ hr
  obtain ⟨a, m, hf, -⟩ := bind_eq_ok.1 hr
  exact h b _ hf

theorem fails_bind {f : Compile α} {g : α → Compile β} (h : ∀ a, Fails (g a)) : Fails (f >>= g) := by
  rintro b ⟨r, c⟩ hr
  obtain ⟨a, m, -, hg⟩ := bind_eq_ok.1 hr
  exact h a m _ hg

theorem fails_fail (e : Error) : Fails (fail e : Compile α) := fun _ _ h => fail_ne_ok h

/-- A clause that is written with a step that never succeeds is not written. -/
theorem Query.write_fails {q : Query} {c : Clause} {extend : Bool} {step : Compile α}
    (hs : Binds q.dialect q.parameterized step) (h : Fails step) :
    ∃ e, q.write c extend step = .error (e, q) := by
  cases hw : q.write c extend step with
  | ok r =>
      obtain ⟨vs, hstep, -⟩ := write_eq_ok hs hw
      exact absurd hstep (h _ _)
  | error failed =>
      obtain ⟨e, q'⟩ := failed
      obtain rfl := write_eq_error hs hw
      exact ⟨e, rfl⟩

namespace Scope

variable {s : Scope} {e e' : Expr}

/-! ### Exchanging a part -/

/-- Arguments among which one is exchanged. -/
theorem visitAll_congr (h : s.visit e = s.visit e') (before after : List Expr) :
    s.visitAll (before ++ e :: after) = s.visitAll (before ++ e' :: after) := by
  induction before with
  | nil => simp only [List.nil_append, visitAll, h]
  | cons x before ih => simp only [List.cons_append, visitAll, ih]

/-- Arguments of a function of the host among which one is exchanged. -/
theorem visitValues_congr (f : HostFunction) (h : s.visit e = s.visit e') (before after : List Expr) :
    s.visitValues f (before ++ e :: after) = s.visitValues f (before ++ e' :: after) := by
  induction before with
  | nil => simp only [List.nil_append, visitValues, h]
  | cons x before ih => simp only [List.cons_append, visitValues, ih]

/-- An expression is visited part by part. -/
theorem visit_frame_congr (F : Expr.Frame) (h : s.visit e = s.visit e') :
    s.visit (F.plug e) = s.visit (F.plug e') := by
  cases F with
  | argument m t before after => simp only [Expr.Frame.plug, visit, s.visitAll_congr h]
  | callArgument f before after => simp only [Expr.Frame.plug, visit, s.visitValues_congr f h]
  | item before after => simp only [Expr.Frame.plug, visit, s.visitAll_congr h]
  | _ => simp only [Expr.Frame.plug, visit, h]

/-- **What is visited alike may be exchanged at any place.** -/
theorem visit_congr (C : Expr.Context) (h : s.visit e = s.visit e') :
    s.visit (C.plug e) = s.visit (C.plug e') := by
  -- from the part outwards, one frame at a time
  induction C with
  | nil => exact h
  | cons F C ih => exact s.visit_frame_congr F ih

theorem projection_congr (C : Expr.Context) (h : s.visit e = s.visit e') :
    s.projection (C.plug e) = s.projection (C.plug e') := by
  simp only [projection, s.visit_congr C h]

theorem predicate_congr (C : Expr.Context) (h : s.visit e = s.visit e') :
    s.predicate (C.plug e) = s.predicate (C.plug e') := by
  simp only [predicate, s.visit_congr C h]

/-! ### A part that cannot be visited -/

theorem fails_visitAll (h : Fails (s.visit e)) (before after : List Expr) :
    Fails (s.visitAll (before ++ e :: after)) := by
  induction before with
  | nil =>
      rw [List.nil_append, visitAll]
      exact h.bind _
  | cons x before ih =>
      rw [List.cons_append, visitAll]
      exact fails_bind fun _ => ih.bind _

theorem fails_visitValues (f : HostFunction) (h : Fails (s.visit e)) (before after : List Expr) :
    Fails (s.visitValues f (before ++ e :: after)) := by
  induction before with
  | nil =>
      rw [List.nil_append, visitValues]
      exact h.bind _
  | cons x before ih =>
      rw [List.cons_append, visitValues]
      refine fails_bind fun p => ?_
      cases p with
      | value v => exact ih.bind _
      | sql t => exact fails_fail _
      | column t type => exact fails_fail _

theorem fails_frame (F : Expr.Frame) (h : Fails (s.visit e)) : Fails (s.visit (F.plug e)) := by
  -- a form whose parts are visited one after the other fails where one of them does
  cases F <;> rw [Expr.Frame.plug, visit]
  case right op l => exact fails_bind fun _ => h.bind _
  case argument m t before after => exact fails_bind fun _ => (s.fails_visitAll h before after).bind _
  case callArgument f before after => exact (s.fails_visitValues f h before after).bind _
  case members t => exact fails_bind fun _ => fails_bind fun _ => h.bind _
  case item before after => exact (s.fails_visitAll h before after).bind _
  case convert => exact h
  all_goals exact h.bind _

/-- A part that cannot be visited keeps everything around it from being visited. -/
theorem fails_context (C : Expr.Context) (h : Fails (s.visit e)) : Fails (s.visit (C.plug e)) := by
  induction C with
  | nil => exact h
  | cons F C ih => exact s.fails_frame F ih

/-! ### Closed expressions -/

/-- What a method of values yields is a value. -/
theorem method_values {m : StringMethod} {x : Value} {vs : List Value} {p : Fragment} {b c : Bindings}
    (h : s.method m (.value x) (vs.map .value) b = .ok (p, c)) : ∃ v, p = .value v := by
  rcases s.method_eq_ok h with ⟨items, -, -, h⟩ | ⟨y, w, -, -, -, hp, -⟩ | ⟨hx, -⟩
  · rcases s.collectionContains_eq_ok h with ⟨a, hp, -⟩ | ⟨q, target, k, t, hlast, -⟩
    · exact ⟨_, hp⟩
    · rw [texts_value] at hlast
      cases hlast
  · exact ⟨w, hp⟩
  · cases hx

/-- What closed expressions yield: one case for each form that has no column and exists outside of
statements. -/
theorem visit_closed_and (s : Scope) :
    (∀ e b p c, e.isClosed = true → s.visit e b = .ok (p, c) → ∃ v, p = .value v) ∧
      (∀ (_ : HostFunction) (_ : List Expr), True) ∧
        ∀ es b ps c, Expr.allClosed es = true → s.visitAll es b = .ok (ps, c) →
          ∃ vs : List Value, ps = vs.map .value := by
  apply Scope.visit.mutual_induct
  case case2 =>
      intro v b p c _ h
      rw [visit] at h
      exact ⟨v, (pure_eq_ok.1 h).1⟩
  case case3 =>
      intro r b p c _ h
      rw [visit] at h
      obtain ⟨v, n, -, hp⟩ := bind_eq_ok.1 h
      exact ⟨v, (pure_eq_ok.1 hp).1⟩
  case case4 =>
      intro op l r ihl ihr b p c hc h
      rw [visit] at h
      rw [Expr.isClosed, Bool.and_eq_true] at hc
      obtain ⟨x, k, hx, h⟩ := bind_eq_ok.1 h
      obtain ⟨y, n, hy, h⟩ := bind_eq_ok.1 h
      obtain ⟨v, rfl⟩ := ihl b x k hc.1 hx
      obtain ⟨w, rfl⟩ := ihr k y n hc.2 hy
      rcases s.binary_eq_ok h with ⟨-, -, u, -, -, -, hp, -⟩ | ⟨t, hno, -⟩
      · exact ⟨u, hp⟩
      · rcases hno with hno | hno <;> cases hno
  case case5 =>
      intro op e ih b p c hc h
      rw [visit] at h
      obtain ⟨x, k, hx, h⟩ := bind_eq_ok.1 h
      obtain ⟨v, rfl⟩ := ih b x k hc hx
      rcases s.unary_eq_ok h with ⟨-, u, -, -, hp, -⟩ | ⟨hno, -⟩
      · exact ⟨u, hp⟩
      · cases hno
  case case6 =>
      intro e ih b p c hc h
      rw [visit] at h
      exact ih b p c hc h
  case case7 =>
      intro f e ih b p c hc h
      rw [visit] at h
      obtain ⟨x, k, hx, h⟩ := bind_eq_ok.1 h
      obtain ⟨v, rfl⟩ := ih b x k hc hx
      obtain ⟨w, n, -, hp⟩ := bind_eq_ok.1 h
      exact ⟨w, (pure_eq_ok.1 hp).1⟩
  case case8 =>
      intro m t args iht ihargs b p c hc h
      rw [visit] at h
      rw [Expr.isClosed, Bool.and_eq_true] at hc
      obtain ⟨x, k, hx, h⟩ := bind_eq_ok.1 h
      obtain ⟨ps, n, hps, h⟩ := bind_eq_ok.1 h
      obtain ⟨v, rfl⟩ := iht b x k hc.1 hx
      obtain ⟨vs, rfl⟩ := ihargs k ps n hc.2 hps
      exact s.method_values h
  case case9 =>
      intro f args _ b p c _ h
      rw [visit] at h
      obtain ⟨vs, k, -, h⟩ := bind_eq_ok.1 h
      obtain ⟨v, n, -, hp⟩ := bind_eq_ok.1 h
      exact ⟨v, (pure_eq_ok.1 hp).1⟩
  case case15 =>
      intro items ih b p c hc h
      rw [visit] at h
      obtain ⟨ps, k, hps, h⟩ := bind_eq_ok.1 h
      obtain ⟨vs, rfl⟩ := ih b ps k hc hps
      have hlist : s.listOf (vs.map .value) k = .ok (.value (.list vs), k) :=
        listOf_value_iff.2 ⟨vs, rfl, rfl, rfl⟩
      rw [hlist] at h
      cases h
      exact ⟨_, rfl⟩
  case case18 =>
      intro b ps c _ h
      rw [visitAll] at h
      exact ⟨[], (pure_eq_ok.1 h).1⟩
  case case19 =>
      intro e es ih ihs b ps c hc h
      rw [visitAll] at h
      rw [Expr.allClosed, Bool.and_eq_true] at hc
      obtain ⟨x, k, hx, h⟩ := bind_eq_ok.1 h
      obtain ⟨qs, n, hqs, h⟩ := bind_eq_ok.1 h
      obtain ⟨v, rfl⟩ := ih b x k hc.1 hx
      obtain ⟨vs, rfl⟩ := ihs k qs n hc.2 hqs
      exact ⟨v :: vs, (pure_eq_ok.1 h).1⟩
  -- the other forms are not closed, and the arguments of a function of the host are not looked at
  case case1 | case10 | case11 | case12 | case13 | case14 => intros; contradiction
  case case16 | case17 => intros; trivial

/-- **A closed expression without a value cannot be visited.** -/
theorem fails_visit_closed (hc : e.isClosed = true) (hv : e.value? = none) : Fails (s.visit e) := by
  rintro b ⟨p, c⟩ h
  obtain ⟨v, rfl⟩ := s.visit_closed_and.1 e b p c hc h
  rw [(visit_value_iff.1 h).1] at hv
  cases hv

/-- What a condition that is a truth value or null is written as. -/
def truthText : Value → String
  | .bool true => "1=1"
  | _ => "1=0"

theorem predicate_truth {v : Value} (hv : e.value? = some v) (ht : v = .null ∨ ∃ t, v = .bool t) :
    s.predicate e = pure (truthText v) := by
  rw [predicate, visit_of_value hv]
  rcases ht with rfl | ⟨t, rfl⟩
  · rfl
  · cases t <;> rfl

end Scope

/-! ### The calls on a descriptor -/

/-- **The calls that write a clause of one expression.** -/
def Operation.compiling : List (Expr → Operation) :=
  [.filter, .having, .groupBy, .select false, .select true]

namespace Query

/-- A descriptor without the expression of its filter: what remains are texts, parameters and settings. -/
def withoutPredicate (q : Query) : Query := { q with predicate := none }

/-- A clause that is written without binding anything. -/
theorem write_pure {α : Type} (q : Query) (c : Clause) (r : α) :
    q.write c false (pure r) = .ok (r, q.clear c) := by
  rw [clear_eq_rewrite]
  exact write_of_extend (by simp [Bindings.extend]; rfl)

/-- An expression that is visited alike is written alike; a filter remembers which one it was. -/
theorem perform_congr (q : Query) {e e' : Expr} (hp : q.scope.predicate e = q.scope.predicate e')
    (hj : q.scope.projection e = q.scope.projection e') {call : Expr → Operation}
    (hcall : call ∈ Operation.compiling) :
    (q.perform (call e)).1 = (q.perform (call e')).1 ∧
      (q.perform (call e)).2.withoutPredicate = (q.perform (call e')).2.withoutPredicate := by
  simp only [Operation.compiling, List.mem_cons, List.not_mem_nil, or_false] at hcall
  rcases hcall with rfl | rfl | rfl | rfl | rfl
  · simp only [perform, filter, hp]
    cases q.write .filter false (q.scope.predicate e') <;> exact ⟨rfl, rfl⟩
  · simp only [perform, setHaving, hp, and_self]
  · simp only [perform, setGroupBy, hj, and_self]
  · simp only [perform, setSelect, hj, and_self]
  · simp only [perform, setSelect, hj, and_self]

/-- An expression that cannot be visited is not written, and the call changes nothing. -/
theorem perform_fails (q : Query) {e : Expr} (h : Fails (q.scope.visit e)) {call : Expr → Operation}
    (hcall : call ∈ Operation.compiling) : ∃ err, q.perform (call e) = (.error err, q) := by
  have hp (c : Clause) : ∃ err, q.write c false (q.scope.predicate e) = .error (err, q) :=
    write_fails (q.scope.binds_predicate e) (h.bind _)
  have hj (c : Clause) : ∃ err, q.write c false (q.scope.projection e) = .error (err, q) :=
    write_fails (q.scope.binds_projection e) (h.bind _)
  simp only [Operation.compiling, List.mem_cons, List.not_mem_nil, or_false] at hcall
  rcases hcall with rfl | rfl | rfl | rfl | rfl
  · obtain ⟨err, hw⟩ := hp .filter
    exact ⟨err, by simp only [perform, filter, hw]; rfl⟩
  · obtain ⟨err, hw⟩ := hp .having
    exact ⟨err, by simp only [perform, setHaving, hw]; rfl⟩
  · obtain ⟨err, hw⟩ := hj .groupBy
    exact ⟨err, by simp only [perform, setGroupBy, hw]; rfl⟩
  · obtain ⟨err, hw⟩ := hj .select
    exact ⟨err, by simp only [perform, setSelect, hw]; rfl⟩
  · obtain ⟨err, hw⟩ := hj .select
    exact ⟨err, by simp only [perform, setSelect, hw]; rfl⟩

/-- **Folding a part changes neither texts nor parameters.**  A closed part may be replaced by its value at
any place of an expression, and the call does the same; if it has no value, the call fails and changes
nothing.  A condition that is computed to a truth value or to null is one of the two constant conditions,
without parameters. -/
theorem perform_folded (q : Query) (C : Expr.Context) {e : Expr} (hc : e.isClosed = true) :
    (∀ v, e.value? = some v → ∀ call ∈ Operation.compiling,
      (q.perform (call (C.plug e))).1 = (q.perform (call (C.plug (.value v)))).1 ∧
        (q.perform (call (C.plug e))).2.withoutPredicate =
          (q.perform (call (C.plug (.value v)))).2.withoutPredicate) ∧
      (e.value? = none → ∀ call ∈ Operation.compiling,
        ∃ err, q.perform (call (C.plug e)) = (.error err, q)) ∧
      ∀ v, e.value? = some v → (v = .null ∨ ∃ t, v = .bool t) →
        q.perform (.filter e) = (.ok (), { q.clear .filter with
          predicate := some e
          filterText := Scope.truthText v }) ∧
        q.perform (.having e) = (.ok (), { q.clear .having with having := Scope.truthText v }) := by
  refine ⟨fun v hv call hcall => ?_, fun hv call hcall => ?_, fun v hv ht => ?_⟩
  · have hvisit : q.scope.visit e = q.scope.visit (.value v) := by
      rw [Scope.visit_of_value hv, Scope.visit_of_value (by rw [Expr.value?])]
    exact q.perform_congr (Scope.predicate_congr C hvisit) (Scope.projection_congr C hvisit) hcall
  · exact q.perform_fails (Scope.fails_context C (Scope.fails_visit_closed hc hv)) hcall
  · have hp : q.scope.predicate e = pure (Scope.truthText v) := Scope.predicate_truth hv ht
    constructor
    · simp only [perform, filter, hp, write_pure]
      rfl
    · simp only [perform, setHaving, hp, write_pure]
      rfl

/-- The sum of 2 and 3 as an item of the list that `Age` is searched in, a minus before a text at the same
place, and the comparison of 2 with 3. -/
theorem perform_folded_people :
    let q := (new DialectKind.sqlite.dialect people).setParameterized true
    let C : Expr.Context := [.members (.column "Age"), .item [.value (.int 1)] []]
    let sum := Expr.binary .add (.value (.int 2)) (.value (.int 3))
    let opposite := Expr.unary .neg (.value (.text "x"))
    let less := Expr.binary .lt (.value (.int 2)) (.value (.int 3))
    (q.perform (.having (C.plug sum))).2.having = "\"Age\" IN (@0,@1)" ∧
      (q.perform (.having (C.plug sum))).2.withoutPredicate =
        (q.perform (.having (C.plug (.value (.int 5))))).2.withoutPredicate ∧
      (∃ err, q.perform (.having (C.plug opposite)) = (.error err, q)) ∧
      q.perform (.having less) = (.ok (), { q.clear .having with having := "1=1" }) :=
  ⟨by decide,
    ((perform_folded _ _ rfl).1 (.int 5) rfl .having (by simp [Operation.compiling])).2,
    (perform_folded _ _ rfl).2.1 rfl .having (by simp [Operation.compiling]),
    ((perform_folded _ [] rfl).2.2 (.bool true) rfl (.inr ⟨true, rfl⟩)).2⟩

end Query

end ModelSql
