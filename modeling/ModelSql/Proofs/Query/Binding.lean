/-
**What the steps of writing a statement bind.**

A step of writing runs from the parameters so far.  It may append parameters, and nothing else: what
it appends stands under the placeholders of the numbers from the counter on, one number after the
other, and the counter moves on by as many.  No step reads the parameters of others, and none takes
one away.  A step that fails may have appended some before.

Main definitions:

* `Dialect.placeholders` — values under consecutive placeholders;
* `Bindings.extend` — parameters with values appended in this way;
* `Binds` — **the steps that do nothing else to the parameters**.

Main results:

* `bind_eq_ok`, `pure_eq_ok`, `outcome_eq_ok` — when a step made of steps succeeds;
* `bind_eq_error` — where it fails;
* `binds_visit`, `binds_visitAll` — visiting an expression only appends parameters;
* `binds_predicate`, `binds_projection`, `binds_sortKeys`, `binds_raw`, `binds_fieldValues` — so does
  **everything that a clause is written with**.
-/

import ModelSql.Query.Statement

set_option relaxedAutoImplicit false
set_option autoImplicit false

namespace ModelSql

/-! ### Steps made of steps -/

theorem bind_eq_ok {α β : Type} {f : Compile α} {g : α → Compile β} {b c : Bindings} {r : β} :
    (f >>= g) b = .ok (r, c) ↔ ∃ a m, f b = .ok (a, m) ∧ g a m = .ok (r, c) := by
  change (f b >>= fun p => g p.1 p.2) = _ ↔ _
  cases hf : f b with
  | error e => simp [bind, Except.bind]
  | ok p =>
      constructor
      · intro h
        exact ⟨p.1, p.2, rfl, h⟩
      · rintro ⟨a, m, h, hg⟩
        cases h
        exact hg

/-- A step made of two fails in the first one, or in the second one behind the first one. -/
theorem bind_eq_error {α β : Type} {f : Compile α} {g : α → Compile β} {b : Bindings} {e : Abort}
    (h : (f >>= g) b = .error e) :
    f b = .error e ∨ ∃ a m, f b = .ok (a, m) ∧ g a m = .error e := by
  change (f b >>= fun p => g p.1 p.2) = _ at h
  cases hf : f b with
  | error e' =>
      rw [hf] at h
      cases h
      exact .inl rfl
  | ok p =>
      rw [hf] at h
      exact .inr ⟨p.1, p.2, rfl, h⟩

theorem pure_eq_ok {α : Type} {a r : α} {b c : Bindings} :
    (pure a : Compile α) b = .ok (r, c) ↔ r = a ∧ c = b := by
  change Except.ok (a, b) = _ ↔ _
  simp [eq_comm]

theorem outcome_eq_ok {α : Type} {x : Except Error α} {r : α} {b c : Bindings} :
    outcome x b = .ok (r, c) ↔ x = .ok r ∧ c = b := by
  cases x with
  | error e => simp [outcome, fail]
  | ok a => simp [outcome, eq_comm]

theorem map_eq_ok {ε α β : Type} {x : Except ε α} {f : α → β} {r : β} (h : x.map f = .ok r) :
    ∃ a, x = .ok a ∧ r = f a := by
  cases x with
  | error e => simp [Except.map] at h
  | ok a => exact ⟨a, rfl, by simpa [Except.map, eq_comm] using h⟩

theorem fail_ne_ok {α : Type} {e : Error} {r : α} {b c : Bindings} :
    (fail e : Compile α) b ≠ .ok (r, c) := by
  simp [fail]

/-! ### Consecutive placeholders -/

/-- Values under the placeholders of the numbers from `n` on. -/
def Dialect.placeholders (d : Dialect) : Nat → List Value → List (String × Value)
  | _, [] => []
  | n, v :: vs => (d.placeholder n, v) :: d.placeholders (n + 1) vs

@[simp] theorem Dialect.placeholders_nil (d : Dialect) (n : Nat) : d.placeholders n [] = [] := rfl

@[simp] theorem Dialect.placeholders_cons (d : Dialect) (n : Nat) (v : Value) (vs : List Value) :
    d.placeholders n (v :: vs) = (d.placeholder n, v) :: d.placeholders (n + 1) vs := rfl

theorem Dialect.placeholders_append (d : Dialect) (n : Nat) (vs ws : List Value) :
    d.placeholders n (vs ++ ws) = d.placeholders n vs ++ d.placeholders (n + vs.length) ws := by
  induction vs generalizing n with
  | nil => simp
  | cons v vs ih => simp [ih, Nat.add_assoc, Nat.add_comm 1]

/-- The names are the placeholders of consecutive numbers. -/
theorem Dialect.map_fst_placeholders (d : Dialect) (n : Nat) (vs : List Value) :
    (d.placeholders n vs).map (·.1) = (List.range' n vs.length).map d.placeholder := by
  induction vs generalizing n with
  | nil => rfl
  | cons v vs ih => simp [ih, List.range'_succ]

namespace Bindings

/-- The parameters with values appended, each under the next placeholder. -/
def extend (b : Bindings) (d : Dialect) (vs : List Value) : Bindings :=
  ⟨⟨b.parameters.entries ++ d.placeholders b.counter vs⟩, b.counter + vs.length⟩

@[simp] theorem extend_nil (b : Bindings) (d : Dialect) : b.extend d [] = b := by
  simp [extend]

@[simp] theorem counter_extend (b : Bindings) (d : Dialect) (vs : List Value) :
    (b.extend d vs).counter = b.counter + vs.length := rfl

@[simp] theorem entries_extend (b : Bindings) (d : Dialect) (vs : List Value) :
    (b.extend d vs).parameters.entries = b.parameters.entries ++ d.placeholders b.counter vs := rfl

theorem extend_extend (b : Bindings) (d : Dialect) (vs ws : List Value) :
    (b.extend d vs).extend d ws = b.extend d (vs ++ ws) := by
  simp [extend, d.placeholders_append, Nat.add_assoc]

/-- Going back from what was appended. -/
theorem rollBack_extend (b : Bindings) (d : Dialect) (vs : List Value) :
    (b.extend d vs).rollBack b.parameters.size b.counter = b := by
  simp [extend, rollBack, Parameters.truncate, Parameters.size]

end Bindings

/-! ### Steps that only bind -/

/-- **A step that only binds.**  It appends values under the next placeholders and does nothing else to
the parameters, whether it succeeds or fails; unless it is `parameterized`, it appends none. -/
structure Binds {α : Type} (d : Dialect) (parameterized : Bool) (f : Compile α) : Prop where
  ok : ∀ b a c, f b = .ok (a, c) → ∃ vs, (parameterized = false → vs = []) ∧ c = b.extend d vs
  error : ∀ b e, f b = .error e →
    ∃ vs, (parameterized = false → vs = []) ∧ e.bindings = b.extend d vs

namespace Binds

variable {d : Dialect} {on : Bool} {α β : Type}

theorem pure (a : α) : Binds d on (Pure.pure a : Compile α) where
  ok b r c h := by
    obtain ⟨-, rfl⟩ := pure_eq_ok.1 h
    exact ⟨[], fun _ => rfl, by simp⟩
  error b e h := by cases h

theorem fail (e : Error) : Binds d on (fail e : Compile α) where
  ok b r c h := absurd h fail_ne_ok
  error b e' h := by
    cases h
    exact ⟨[], fun _ => rfl, by simp⟩

theorem outcome (x : Except Error α) : Binds d on (outcome x) := by
  cases x with
  | ok a => exact .pure a
  | error e => exact .fail e

theorem bind {f : Compile α} {g : α → Compile β} (hf : Binds d on f) (hg : ∀ a, Binds d on (g a)) :
    Binds d on (f >>= g) where
  ok b r c h := by
    obtain ⟨a, m, ha, hr⟩ := bind_eq_ok.1 h
    obtain ⟨vs, hvs, rfl⟩ := hf.ok b a m ha
    obtain ⟨ws, hws, rfl⟩ := (hg a).ok _ r c hr
    refine ⟨vs ++ ws, fun hon => ?_, b.extend_extend d vs ws⟩
    rw [hvs hon, hws hon]
    rfl
  error b e h := by
    rcases bind_eq_error h with h | ⟨a, m, ha, h⟩
    · exact hf.error b e h
    · -- what the first step has bound stays bound when the second one fails
      obtain ⟨vs, hvs, rfl⟩ := hf.ok b a m ha
      obtain ⟨ws, hws, hbind⟩ := (hg a).error _ e h
      refine ⟨vs ++ ws, fun hon => ?_, hbind.trans (b.extend_extend d vs ws)⟩
      rw [hvs hon, hws hon]
      rfl

/-- A step followed by a computation on its result. -/
theorem map {f : Compile α} (hf : Binds d on f) (g : α → β) :
    Binds d on (f >>= fun a => Pure.pure (g a)) := hf.bind fun _ => .pure _

/-- With literals, a step leaves the parameters alone. -/
theorem eq_of_literals {f : Compile α} (hf : Binds d false f) {b c : Bindings} {a : α}
    (h : f b = .ok (a, c)) : c = b := by
  obtain ⟨vs, hvs, rfl⟩ := hf.ok b a c h
  rw [hvs rfl, Bindings.extend_nil]

end Binds

/-! ### Values -/

namespace Scope

variable (s : Scope)

theorem binds_placeholder (v : Value) : Binds s.dialect true (s.placeholder v) where
  ok b r c h := by
    simp only [placeholder, Except.ok.injEq, Prod.mk.injEq] at h
    obtain ⟨-, rfl⟩ := h
    refine ⟨[v], fun hon => ?_, by simp [Bindings.extend, Parameters.push]⟩
    cases hon
  error b e h := by cases h

theorem binds_bindParameter_and (hint : Option FieldType) :
    (∀ v, Binds s.dialect true (s.bindParameter hint v)) ∧
      ∀ vs, Binds s.dialect true (s.bindParameters hint vs) := by
  apply Scope.bindParameter.mutual_induct <;> intros
  case case1 => simpa only [bindParameter] using .outcome _
  case case2 items ih => simpa only [bindParameter] using ih.map _
  case case3 v hn hl =>
      rw [bindParameter]
      · exact s.binds_placeholder _
      · exact hn
      · exact hl
  case case4 => simpa only [bindParameters] using .pure _
  case case5 v vs ih ihs => simpa only [bindParameters] using ih.bind fun _ => ihs.map _

theorem binds_bind (hint : Option FieldType) (v : Value) :
    Binds s.dialect s.parameterized (s.bind hint v) := by
  unfold bind
  split
  · rename_i hon
    rw [hon]
    exact (s.binds_bindParameter_and hint).1 v
  · exact .outcome _

theorem binds_bindAll (hint : Option FieldType) (vs : List Value) :
    Binds s.dialect s.parameterized (s.bindAll hint vs) := by
  induction vs with
  | nil => exact .pure _
  | cons v vs ih => exact (s.binds_bind hint v).bind fun _ => ih.map _

/-! ### Parts put together -/

theorem binds_operand (hint : Option FieldType) (p : Fragment) :
    Binds s.dialect s.parameterized (s.operand hint p) := by
  cases p with
  | value v => exact s.binds_bind hint v
  | sql text => exact .pure _
  | column text type => exact .pure _

theorem binds_operands (ps : List Fragment) : Binds s.dialect s.parameterized (s.operands ps) := by
  induction ps with
  | nil => exact .pure _
  | cons p ps ih => exact (s.binds_operand none p).bind fun _ => ih.map _

theorem binds_condition (p : Fragment) : Binds s.dialect s.parameterized (s.condition p) := by
  unfold condition
  split
  · exact .pure _
  · exact .pure _
  · exact (s.binds_bind _ _).map _
  · exact s.binds_operand none _

theorem binds_operandPair (l r : Fragment) : Binds s.dialect s.parameterized (s.operandPair l r) :=
  (s.binds_operand _ l).bind fun _ => (s.binds_operand _ r).map _

theorem binds_nullTest (op : BinaryOp) (p : Fragment) :
    Binds s.dialect s.parameterized (s.nullTest op p) :=
  (s.binds_operand none p).map _

theorem binds_binaryText (op : BinaryOp) (l r : Fragment) :
    Binds s.dialect s.parameterized (s.binaryText op l r) := by
  unfold binaryText
  split
  · exact (s.binds_condition l).bind fun _ => (s.binds_condition r).map _
  · split
    · exact s.binds_nullTest op _
    · exact (s.binds_operandPair l r).map _

theorem binds_binary (op : BinaryOp) (l r : Fragment) :
    Binds s.dialect s.parameterized (s.binary op l r) := by
  unfold binary
  split
  · exact (Binds.outcome _).map _
  · exact (s.binds_binaryText op _ _).map _

theorem binds_unary (op : UnaryOp) (p : Fragment) : Binds s.dialect s.parameterized (s.unary op p) := by
  unfold unary
  split
  · exact (Binds.outcome _).map _
  · exact (s.binds_condition _).map _
  · exact .pure _
  · exact (s.binds_operand none _).map _

theorem binds_membership (target : String) (hint : Option FieldType) (values : Value) :
    Binds s.dialect s.parameterized (s.membership target hint values) := by
  unfold membership
  split
  · exact .pure _
  · exact (s.binds_bindAll hint _).map _

theorem binds_like (m : StringMethod) (sql before after : String) (args : List Value) :
    Binds s.dialect s.parameterized (s.like m sql before after args) := by
  unfold like
  split
  · exact .fail _
  · exact (s.binds_bind none _).map _

theorem binds_methodText (m : StringMethod) (sql : String) (args : List Value) :
    Binds s.dialect s.parameterized (s.methodText m sql args) := by
  cases m <;> first
    | exact .pure _
    | exact s.binds_like _ sql _ _ args
    | exact .outcome _

theorem binds_collectionContains (items values : List Value) (texts : List Fragment) :
    Binds s.dialect s.parameterized (s.collectionContains items values texts) := by
  unfold collectionContains
  split
  · exact .pure _
  · exact (s.binds_operand none _).bind fun _ => (s.binds_membership _ _ _).map _
  · exact .fail _

theorem binds_method (m : StringMethod) (target : Fragment) (args : List Fragment) :
    Binds s.dialect s.parameterized (s.method m target args) := by
  unfold method
  dsimp only
  split
  · exact s.binds_collectionContains _ _ _
  · split
    · exact (Binds.outcome _).map _
    · exact .fail _
  · split
    · exact (s.binds_operand none _).bind fun _ => (s.binds_methodText _ _ _).map _
    · exact .fail _

theorem binds_listOf (parts : List Fragment) : Binds s.dialect s.parameterized (s.listOf parts) := by
  unfold listOf
  split
  · exact .pure _
  · exact (s.binds_operands parts).map _

/-! ### The visit -/

/-- Visiting expressions only binds: one case for each form of an expression, one for each form of a
list of arguments. -/
theorem binds_visit_and :
    (∀ e, Binds s.dialect s.parameterized (s.visit e)) ∧
      (∀ f es, Binds s.dialect s.parameterized (s.visitValues f es)) ∧
        ∀ es, Binds s.dialect s.parameterized (s.visitAll es) := by
  -- one case for each equation of the visit
  apply Scope.visit.mutual_induct <;> intros <;> simp only [visit, visitValues, visitAll]
  case case1 => exact (Binds.outcome _).map _
  case case2 => exact .pure _
  case case3 => exact (Binds.outcome _).map _
  case case4 op l r ihl ihr => exact ihl.bind fun _ => ihr.bind fun _ => s.binds_binary op _ _
  case case5 op e ih => exact ih.bind fun _ => s.binds_unary op _
  case case6 e ih => exact ih
  case case7 f e ih =>
      refine ih.bind fun p => ?_
      cases p with
      | value v => exact (Binds.outcome _).map _
      | sql text => exact .fail _
      | column text type => exact .fail _
  case case8 m t args iht ihs => exact iht.bind fun _ => ihs.bind fun _ => s.binds_method m _ _
  case case9 f args ih => exact ih.bind fun _ => (Binds.outcome _).map _
  case case10 t vs iht ihv =>
      refine iht.bind fun p => (s.binds_operand none p).bind fun _ => ihv.bind fun q => ?_
      cases q with
      | value v => exact (s.binds_membership _ _ v).map _
      | sql text => exact (s.binds_operand none _).map _
      | column text type => exact (s.binds_operand none _).map _
  case case11 e ih => exact ih.bind fun p => (s.binds_operand none p).map _
  case case12 e name ih => exact ih.bind fun p => (s.binds_operand none p).map _
  case case13 f e ih => exact ih.bind fun p => (s.binds_operand none p).map _
  case case14 => exact .pure _
  case case15 items ih => exact ih.bind fun _ => s.binds_listOf _
  case case16 => exact .pure _
  case case17 f e es ih ihs =>
      refine ih.bind fun p => ?_
      cases p with
      | value v => exact ihs.map _
      | sql text => exact .fail _
      | column text type => exact .fail _
  case case18 => exact .pure _
  case case19 e es ih ihs => exact ih.bind fun _ => ihs.map _

/-- **Visiting an expression only appends parameters.** -/
theorem binds_visit (e : Expr) : Binds s.dialect s.parameterized (s.visit e) := s.binds_visit_and.1 e

/-! ### Clauses -/

theorem binds_predicate (e : Expr) : Binds s.dialect s.parameterized (s.predicate e) :=
  (s.binds_visit e).bind fun p => (s.binds_condition p).map _

theorem binds_projection (e : Expr) : Binds s.dialect s.parameterized (s.projection e) :=
  (s.binds_visit e).bind fun p => (s.binds_operand none p).map _

theorem binds_rawFrom (args : List Value) (fuel : Nat) (cs : List Char) :
    Binds s.dialect s.parameterized (s.rawFrom args fuel cs) := by
  induction fuel generalizing cs with
  | zero => exact .pure _
  | succ fuel ih =>
      cases cs with
      | nil => exact .pure _
      | cons c cs =>
          simp only [rawFrom]
          split
          · split
            · exact .fail _
            · exact (s.binds_bind none _).bind fun _ => (ih _).map _
          · exact (ih _).map _

theorem binds_raw (sql : String) (args : List Value) : Binds s.dialect s.parameterized (s.raw sql args) :=
  (s.binds_rawFrom args _ _).map _

end Scope

namespace Query

theorem binds_sortKeys (s : Scope) (direction : String) (es : List Expr) :
    Binds s.dialect s.parameterized (sortKeys s direction es) := by
  induction es with
  | nil => exact .pure _
  | cons e es ih => exact (s.binds_projection e).bind fun _ => ih.map _

theorem binds_fieldValue (s : Scope) (f : Field) (v : Value) :
    Binds s.dialect s.parameterized (fieldValue s f v) := by
  unfold fieldValue
  split
  · exact s.binds_bind _ v
  · exact .outcome _

theorem binds_fieldValues (s : Scope) (row : Row) (fs : List Field) :
    Binds s.dialect s.parameterized (fieldValues s row fs) := by
  induction fs with
  | nil => exact .pure _
  | cons f fs ih => exact (binds_fieldValue s f _).bind fun _ => ih.map _

end Query

end ModelSql
