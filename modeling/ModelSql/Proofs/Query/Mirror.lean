/-
**Parameters first, literals afterwards.**

A run with parameters binds every value that it meets, whatever the value is.  The run with literals
meets the same values and writes each of them, which fails where a value has no literal: a number that
is no variant, a text that is no identifier, a float that is not finite.  So the run with literals does
what the run with parameters does as far as the values that it meets have literals, and stops at the
first that has none, with its error.

Main definitions:

* `Occurrence` — a value where a statement meets it, `Occurrence.literal` and `Occurrence.stored` — what
  is written and what is bound for it;
* `Occurrence.render` — **the literals of values, one after the other**;
* `Mirrors` — **a step with literals, next to a step with parameters that succeeds**;
* `Fragment.Like` — parts that are the same but for their texts.

Main results:

* `Mirrors.bind` — steps made of steps;
* `Scope.mirrors_visit_and` — **the visit of an expression**, by induction over the expression;
* `Scope.mirrors_predicate`, `Scope.mirrors_fieldValues` — conditions, and the values of a row.
-/

import ModelSql.Proofs.Query.Simulation

set_option relaxedAutoImplicit false
set_option autoImplicit false

namespace ModelSql

/-! ### Values where statements meet them -/

/-- A value where a statement meets it: beside something of a type, or for a field of a row. -/
inductive Occurrence
  | beside (hint : Option FieldType) (v : Value)
  | ofField (f : Field) (v : Value)

namespace Occurrence

/-- The literal of a value where it is met. -/
def literal (d : Dialect) : Occurrence → Except Error String
  | beside hint v => d.literal hint v
  | ofField f v => d.fieldLiteral f v

/-- What is bound for a value beside something of a type: the items of lists one by one, each as a
column stores it, and nothing for null. -/
def storedFor (hint : Option FieldType) (vs : List Value) : List Value :=
  (vs.filter (!·.isNull)).map (coerce hint)

/-- What is bound for a value where it is met. -/
def stored : Occurrence → List Value
  | beside hint v => storedFor hint v.flatten
  | ofField f v => storedFor (some f.type) v.flatten

/-- **The literals of values, one after the other**: the first that has none is the error. -/
def render (d : Dialect) : List Occurrence → Except Error Unit
  | [] => .ok ()
  | o :: os =>
    match o.literal d with
    | .error e => .error e
    | .ok _ => render d os

theorem render_append (d : Dialect) (os ps : List Occurrence) :
    render d (os ++ ps) = (render d os).bind fun _ => render d ps := by
  induction os with
  | nil => rfl
  | cons o os ih =>
      rw [List.cons_append, render, render, ih]
      cases o.literal d <;> rfl

/-- All values are written exactly when each has a literal. -/
theorem render_eq_ok_iff {d : Dialect} {os : List Occurrence} :
    render d os = .ok () ↔ ∀ o ∈ os, ∃ text, o.literal d = .ok text := by
  induction os with
  | nil => simp [render]
  | cons o os ih =>
      rw [render, List.forall_mem_cons, ← ih]
      cases o.literal d with
      | error e => simp
      | ok text => simp

end Occurrence

/-! ### Steps -/

/-- **A step with literals, next to a step with parameters that succeeds.**  The step with parameters
has bound what is stored for the values that it met; the step with literals has the same result, up to
the relation, if they have literals, and the error of the first one that has none otherwise. -/
def Mirrors {α β : Type} (d : Dialect) (P : Occurrence → Prop) (R : α → β → Prop) (f : Compile α)
    (g : Compile β) : Prop :=
  ∀ k a' k' b, g k = .ok (a', k') →
    ∃ a os, R a a' ∧ (∀ o ∈ os, P o) ∧ k' = k.extend d (os.flatMap Occurrence.stored) ∧
      f b = (outcome (Occurrence.render d os) >>= fun _ => pure a) b

/-- No relation between texts. -/
def AnyText {α : Type} (_ _ : α) : Prop := True

namespace Mirrors

variable {d : Dialect} {P : Occurrence → Prop} {α α' β β' : Type} {R : α → α' → Prop}
  {S : β → β' → Prop}

theorem pure {a : α} {a' : α'} (h : R a a') : Mirrors d P R (Pure.pure a) (Pure.pure a') := by
  intro k r k' b hr
  obtain ⟨rfl, rfl⟩ := pure_eq_ok.1 hr
  exact ⟨a, [], h, by simp, by simp, rfl⟩

theorem fail (f : Compile α) (e : Error) : Mirrors d P R f (ModelSql.fail e : Compile α') := by
  intro k r k' b hr
  exact absurd hr fail_ne_ok

theorem outcome {x : Except Error α} {y : Except Error α'}
    (h : ∀ a', y = .ok a' → ∃ a, x = .ok a ∧ R a a') :
    Mirrors d P R (outcome x) (ModelSql.outcome y) := by
  intro k r k' b hr
  obtain ⟨hy, rfl⟩ := outcome_eq_ok.1 hr
  obtain ⟨a, rfl, hR⟩ := h r hy
  exact ⟨a, [], hR, by simp, by simp, rfl⟩

/-- An outcome that has nothing to do with parameters. -/
theorem outcome_same {R : α → α → Prop} (x : Except Error α) (hR : ∀ a, x = .ok a → R a a) :
    Mirrors d P R (ModelSql.outcome x) (ModelSql.outcome x) :=
  outcome fun a h => ⟨a, h, hR a h⟩

/-- **Steps made of steps.** -/
theorem bind {f : Compile α} {f' : Compile α'} {g : α → Compile β} {g' : α' → Compile β'}
    (hf : Mirrors d P R f f') (hg : ∀ a a', R a a' → Mirrors d P S (g a) (g' a')) :
    Mirrors d P S (f >>= g) (f' >>= g') := by
  intro k r' k' b hr
  obtain ⟨a', m, ha', hr'⟩ := bind_eq_ok.1 hr
  obtain ⟨a, os, hR, hP, rfl, hfb⟩ := hf k a' m b ha'
  obtain ⟨r, ps, hS, hQ, rfl, hgb⟩ := hg a a' hR _ r' k' b hr'
  refine ⟨r, os ++ ps, hS, ?_, ?_, ?_⟩
  · intro o ho
    exact (List.mem_append.1 ho).elim (hP o) (hQ o)
  · rw [Bindings.extend_extend, List.flatMap_append]
  · change (f b >>= fun p => g p.1 p.2) = _
    rw [hfb, Occurrence.render_append]
    cases Occurrence.render d os with
    | error e => rfl
    | ok u => exact hgb

/-- A step followed by a computation on its result. -/
theorem map {f : Compile α} {f' : Compile α'} {g : α → β} {g' : α' → β'} (hf : Mirrors d P R f f')
    (hg : ∀ a a', R a a' → S (g a) (g' a')) :
    Mirrors d P S (f >>= fun a => Pure.pure (g a)) (f' >>= fun a => Pure.pure (g' a)) :=
  hf.bind fun a a' h => .pure (hg a a' h)

end Mirrors

/-! ### Parts -/

namespace Fragment

/-- A part without its text. -/
def shape : Fragment → Fragment
  | value v => .value v
  | sql _ => .sql ""
  | column _ type => .column "" type

/-- A type that a field of a model has, if there is a type. -/
def IsHint (m : Model) (hint : Option FieldType) : Prop := ∀ t ∈ hint, ∃ f ∈ m.fields, f.type = t

/-- **Parts that are the same but for their texts**, with columns of the model. -/
structure Like (m : Model) (p p' : Fragment) : Prop where
  shape_eq : p.shape = p'.shape
  hint : IsHint m p'.type?

/-- Lists of parts that are the same but for their texts. -/
structure AllLike (m : Model) (ps ps' : List Fragment) : Prop where
  shape_eq : ps.map shape = ps'.map shape
  hint : ∀ p ∈ ps', IsHint m p.type?

theorem isHint_none (m : Model) : IsHint m none := nofun

section

variable {m : Model} {p p' : Fragment} {ps ps' : List Fragment}

@[simp] theorem type?_shape (p : Fragment) : p.shape.type? = p.type? := by cases p <;> rfl

@[simp] theorem value?_shape (p : Fragment) : p.shape.value? = p.value? := by cases p <;> rfl

@[simp] theorem isText_shape (p : Fragment) : p.shape.isText = p.isText := by
  cases p with
  | column text type => cases type <;> rfl
  | _ => rfl

@[simp] theorem isNull_shape (p : Fragment) : p.shape.isNull = p.isNull := by cases p <;> rfl

namespace Like

theorem value (v : Value) : Like m (.value v) (.value v) := ⟨rfl, isHint_none m⟩

theorem sql (s s' : String) : Like m (.sql s) (.sql s') := ⟨rfl, isHint_none m⟩

theorem column (text : String) {f : Field} (hf : f ∈ m.fields) :
    Like m (.column text f.type) (.column text f.type) := by
  refine ⟨rfl, fun t ht => ?_⟩
  obtain rfl : f.type = t := Option.some.inj ht
  exact ⟨f, hf, rfl⟩

theorem type?_eq (h : Like m p p') : p.type? = p'.type? := by
  rw [← type?_shape, h.shape_eq, type?_shape]

theorem isText_eq (h : Like m p p') : p.isText = p'.isText := by
  rw [← isText_shape, h.shape_eq, isText_shape]

theorem isNull_eq (h : Like m p p') : p.isNull = p'.isNull := by
  rw [← isNull_shape, h.shape_eq, isNull_shape]

/-- The three forms of two such parts. -/
theorem cases_eq (h : Like m p p') :
    (∃ v, p = .value v ∧ p' = .value v) ∨ (∃ s s', p = .sql s ∧ p' = .sql s') ∨
      ∃ text text' type, p = .column text type ∧ p' = .column text' type := by
  have hshape := h.shape_eq
  cases p <;> cases p' <;> simp_all [shape]

end Like

namespace AllLike

theorem nil : AllLike m [] [] := ⟨rfl, by simp⟩

theorem cons (h : Like m p p') (hs : AllLike m ps ps') : AllLike m (p :: ps) (p' :: ps') where
  shape_eq := by rw [List.map_cons, List.map_cons, h.shape_eq, hs.shape_eq]
  hint := List.forall_mem_cons.2 ⟨h.hint, hs.hint⟩

/-- The first parts, and the others. -/
theorem exists_cons (h : AllLike m (p :: ps) ps') :
    ∃ q qs, ps' = q :: qs ∧ Like m p q ∧ AllLike m ps qs := by
  obtain ⟨hshape, hhint⟩ := h
  cases ps' with
  | nil => cases hshape
  | cons q qs =>
      rw [List.map_cons, List.map_cons, List.cons.injEq] at hshape
      rw [List.forall_mem_cons] at hhint
      exact ⟨q, qs, rfl, ⟨hshape.1, hhint.1⟩, ⟨hshape.2, hhint.2⟩⟩

/-- The values among such parts are the same. -/
theorem values_eq (h : AllLike m ps ps') : ps.filterMap value? = ps'.filterMap value? := by
  have hshape (ps : List Fragment) : (ps.map shape).filterMap value? = ps.filterMap value? := by
    simp [List.filterMap_map]
  rw [← hshape, h.shape_eq, hshape]

theorem all_isSome (h : AllLike m ps ps') :
    ps.all (·.value?.isSome) = ps'.all (·.value?.isSome) := by
  have hshape (ps : List Fragment) :
      (ps.map shape).all (·.value?.isSome) = ps.all (·.value?.isSome) := by
    simp [List.all_map, Function.comp_def]
  rw [← hshape, h.shape_eq, hshape]

/-- So are the other ones, but for their texts. -/
theorem texts (h : AllLike m ps ps') :
    AllLike m (ps.filter (·.value?.isNone)) (ps'.filter (·.value?.isNone)) where
  shape_eq := by
    have hshape (ps : List Fragment) :
        (ps.filter (·.value?.isNone)).map shape = (ps.map shape).filter (·.value?.isNone) := by
      simp [List.filter_map, Function.comp_def]
    rw [hshape, h.shape_eq, hshape]
  hint p hp := h.hint p (List.mem_of_mem_filter hp)

theorem isEmpty_eq (h : AllLike m ps ps') : ps.isEmpty = ps'.isEmpty := by
  rw [← List.isEmpty_map (f := shape), h.shape_eq, List.isEmpty_map]

theorem getLast? (h : AllLike m ps ps') :
    ps.getLast? = none ∧ ps'.getLast? = none ∨
      ∃ p p', ps.getLast? = some p ∧ ps'.getLast? = some p' ∧ Like m p p' := by
  have hlast : ps.getLast?.map shape = ps'.getLast?.map shape := by
    rw [← List.getLast?_map, h.shape_eq, List.getLast?_map]
  cases hps : ps.getLast? with
  | none =>
      cases hps' : ps'.getLast? with
      | none => exact .inl ⟨rfl, rfl⟩
      | some p' => simp [hps, hps'] at hlast
  | some p =>
      cases hps' : ps'.getLast? with
      | none => simp [hps, hps'] at hlast
      | some p' =>
          rw [hps, hps'] at hlast
          exact .inr ⟨p, p', rfl, rfl, Option.some.inj hlast,
            h.hint p' (List.mem_of_getLast? hps')⟩

end AllLike

end

end Fragment

/-! ### Values -/

namespace Scope

open Fragment

variable (s : Scope)

/-- A value that is neither null nor a list takes one placeholder. -/
theorem bindParameter_of_ne {s : Scope} {v : Value} (hnull : v ≠ .null) (hlist : ∀ items, v ≠ .list items)
    (hint : Option FieldType) (k : Bindings) :
    s.bindParameter hint v k = .ok (s.dialect.placeholder k.counter,
      k.extend s.dialect (Occurrence.storedFor hint v.flatten)) := by
  have hflatten : v.flatten = [v] := by
    rw [Value.flatten]
    exact hlist
  have hisNull : v.isNull = false := by
    cases v <;> first | rfl | exact absurd rfl hnull
  rw [bindParameter, hflatten]
  · simp [placeholder, Occurrence.storedFor, hisNull, Bindings.extend, Parameters.push]
  · exact hnull
  · exact hlist

/-- Binding a value always succeeds. -/
theorem bindParameter_ok_and (hint : Option FieldType) :
    (∀ v k, ∃ text, s.bindParameter hint v k =
      .ok (text, k.extend s.dialect (Occurrence.storedFor hint v.flatten))) ∧
    ∀ vs k, ∃ texts, s.bindParameters hint vs k =
      .ok (texts, k.extend s.dialect (Occurrence.storedFor hint (Value.flattenAll vs))) := by
  apply Scope.bindParameter.mutual_induct
  case case1 =>
      intro k
      refine ⟨"NULL", ?_⟩
      rw [bindParameter, Dialect.literal]
      simp [Occurrence.storedFor, Value.flatten, Value.isNull, outcome]
  case case2 =>
      intro items ih k
      obtain ⟨texts, ht⟩ := ih k
      refine ⟨Text.joinWith "," texts, ?_⟩
      rw [bindParameter, bind_eq_ok, Value.flatten_list]
      exact ⟨texts, _, ht, pure_eq_ok.2 ⟨rfl, rfl⟩⟩
  case case3 => exact fun v hn hl k => ⟨s.dialect.placeholder k.counter, bindParameter_of_ne hn hl hint k⟩
  case case4 =>
      intro k
      exact ⟨[], by simp [bindParameters, Occurrence.storedFor, pure_eq_ok]⟩
  case case5 =>
      intro v vs ih ihs k
      obtain ⟨text, htext⟩ := ih k
      obtain ⟨texts, htexts⟩ := ihs (k.extend s.dialect (Occurrence.storedFor hint v.flatten))
      refine ⟨text :: texts, ?_⟩
      rw [bindParameters, bind_eq_ok]
      refine ⟨text, _, htext, ?_⟩
      rw [bind_eq_ok]
      refine ⟨texts, _, htexts, pure_eq_ok.2 ⟨rfl, ?_⟩⟩
      rw [Bindings.extend_extend, Value.flattenAll_cons, Occurrence.storedFor, Occurrence.storedFor,
        Occurrence.storedFor, List.filter_append, List.map_append]

/-- **One value that is met.** -/
theorem mirrors_occurrence {P : Occurrence → Prop} {o : Occurrence} {hint : Option FieldType}
    {v : Value} (ho : P o) (hstored : o.stored = Occurrence.storedFor hint v.flatten) :
    Mirrors s.dialect P AnyText (outcome (o.literal s.dialect)) (s.bindParameter hint v) := by
  intro k text k' b h
  obtain ⟨text', htext'⟩ := (s.bindParameter_ok_and hint).1 v k
  rw [htext', Except.ok.injEq, Prod.mk.injEq] at h
  obtain ⟨-, rfl⟩ := h
  cases hliteral : o.literal s.dialect with
  | error e => exact ⟨"", [o], trivial, by simpa using ho, by simp [hstored],
      by simp [Occurrence.render, hliteral]; rfl⟩
  | ok a => exact ⟨a, [o], trivial, by simpa using ho, by simp [hstored],
      by simp [Occurrence.render, hliteral]; rfl⟩

/-- A value that is met in an expression, beside a column of the model or nothing of a known type. -/
def Meets (s : Scope) : Occurrence → Prop
  | .beside hint _ => IsHint s.model hint
  | .ofField .. => False

/-- Steps with literals and steps with parameters of one expression. -/
abbrev MirrorsIn {α β : Type} (s : Scope) (R : α → β → Prop) (f : Compile α) (g : Compile β) : Prop :=
  Mirrors s.dialect s.Meets R f g

theorem mirrors_bind {hint : Option FieldType} (hhint : IsHint s.model hint) (v : Value) :
    s.MirrorsIn AnyText ((s.mode false).bind hint v) ((s.mode true).bind hint v) :=
  (s.mode true).mirrors_occurrence (P := s.Meets) (o := .beside hint v) hhint rfl

theorem mirrors_bindAll {hint : Option FieldType} (hhint : IsHint s.model hint) (vs : List Value) :
    s.MirrorsIn AnyText ((s.mode false).bindAll hint vs) ((s.mode true).bindAll hint vs) := by
  induction vs with
  | nil => exact .pure trivial
  | cons v vs ih => exact (s.mirrors_bind hhint v).bind fun _ _ _ => ih.map fun _ _ _ => trivial

/-- A value that is computed, from values alone. -/
theorem mirrors_computed (x : Except Error Value) :
    s.MirrorsIn (Like s.model) (outcome x >>= fun v => pure (.value v))
      (outcome x >>= fun v => pure (.value v)) :=
  (Mirrors.outcome_same (R := Eq) x fun _ _ => rfl).map fun v _ h => h ▸ .value v

/-! ### Parts put together -/

variable {p p' l l' r r' : Fragment}

theorem mirrors_operand {hint : Option FieldType} (hhint : IsHint s.model hint)
    (h : Like s.model p p') :
    s.MirrorsIn AnyText ((s.mode false).operand hint p) ((s.mode true).operand hint p') := by
  obtain ⟨v, rfl, rfl⟩ | ⟨t, t', rfl, rfl⟩ | ⟨t, t', type, rfl, rfl⟩ := h.cases_eq
  · exact s.mirrors_bind hhint v
  · exact .pure trivial
  · exact .pure trivial

theorem mirrors_operands {ps ps' : List Fragment} (h : AllLike s.model ps ps') :
    s.MirrorsIn AnyText ((s.mode false).operands ps) ((s.mode true).operands ps') := by
  induction ps generalizing ps' with
  | nil =>
      obtain rfl := List.map_eq_nil_iff.1 h.shape_eq.symm
      exact .pure trivial
  | cons p ps ih =>
      obtain ⟨q, qs, rfl, hp, hps⟩ := h.exists_cons
      exact (s.mirrors_operand (isHint_none _) hp).bind fun _ _ _ =>
        (ih hps).map fun _ _ _ => trivial

/-- **A part as a condition.** -/
theorem mirrors_condition (h : Like s.model p p') :
    s.MirrorsIn AnyText ((s.mode false).condition p) ((s.mode true).condition p') := by
  have hhint := h.hint
  obtain ⟨v, rfl, rfl⟩ | ⟨t, t', rfl, rfl⟩ | ⟨t, t', type, rfl, rfl⟩ := h.cases_eq
  · cases v with
    | bool b => exact .pure trivial
    | null => exact .pure trivial
    | _ => exact s.mirrors_bind (isHint_none _) _
  · exact .pure trivial
  · cases type with
    | bool => exact (s.mirrors_bind hhint _).map fun _ _ _ => trivial
    | _ => exact .pure trivial

/-- Two parts as operands, each beside the type of the other. -/
theorem mirrors_operandPair (hl : Like s.model l l') (hr : Like s.model r r') :
    s.MirrorsIn AnyText ((s.mode false).operandPair l r) ((s.mode true).operandPair l' r') := by
  unfold operandPair
  rw [hl.type?_eq, hr.type?_eq]
  exact (s.mirrors_operand hr.hint hl).bind fun _ _ _ =>
    (s.mirrors_operand hl.hint hr).map fun _ _ _ => trivial

theorem mirrors_nullTest (op : BinaryOp) (h : Like s.model p p') :
    s.MirrorsIn AnyText ((s.mode false).nullTest op p) ((s.mode true).nullTest op p') :=
  (s.mirrors_operand (isHint_none _) h).map fun _ _ _ => trivial

theorem mirrors_binaryText (op : BinaryOp) (hl : Like s.model l l') (hr : Like s.model r r') :
    s.MirrorsIn AnyText ((s.mode false).binaryText op l r) ((s.mode true).binaryText op l' r') := by
  unfold binaryText
  rw [hl.isNull_eq, hr.isNull_eq, hl.isText_eq, hr.isText_eq]
  split
  · exact (s.mirrors_condition hl).bind fun _ _ _ =>
      (s.mirrors_condition hr).map fun _ _ _ => trivial
  · split
    · refine s.mirrors_nullTest op ?_
      split
      · exact hr
      · exact hl
    · exact (s.mirrors_operandPair hl hr).map fun _ _ _ => trivial

/-- **An operator between two parts.** -/
theorem mirrors_binary (op : BinaryOp) (hl : Like s.model l l') (hr : Like s.model r r') :
    s.MirrorsIn (Like s.model) ((s.mode false).binary op l r) ((s.mode true).binary op l' r') := by
  have htext : s.MirrorsIn (Like s.model)
      ((s.mode false).binaryText op l r >>= fun text => pure (.sql text))
      ((s.mode true).binaryText op l' r' >>= fun text => pure (.sql text)) :=
    (s.mirrors_binaryText op hl hr).map fun _ _ _ => .sql _ _
  obtain ⟨v, rfl, rfl⟩ | ⟨t, t', rfl, rfl⟩ | ⟨t, t', type, rfl, rfl⟩ := hl.cases_eq
  · obtain ⟨w, rfl, rfl⟩ | ⟨u, u', rfl, rfl⟩ | ⟨u, u', type, rfl, rfl⟩ := hr.cases_eq
    · exact s.mirrors_computed _
    · exact htext
    · exact htext
  · exact htext
  · exact htext

/-- **An operator before a part.** -/
theorem mirrors_unary (op : UnaryOp) (h : Like s.model p p') :
    s.MirrorsIn (Like s.model) ((s.mode false).unary op p) ((s.mode true).unary op p') := by
  have hnot : s.MirrorsIn (Like s.model)
      ((s.mode false).condition p >>= fun text => pure (.sql ("NOT " ++ wrap text)))
      ((s.mode true).condition p' >>= fun text => pure (.sql ("NOT " ++ wrap text))) :=
    (s.mirrors_condition h).map fun _ _ _ => .sql _ _
  obtain ⟨v, rfl, rfl⟩ | ⟨t, t', rfl, rfl⟩ | ⟨t, t', type, rfl, rfl⟩ := h.cases_eq
  · cases op <;>
    exact s.mirrors_computed _
  · cases op with
    | not => exact hnot
    | neg => exact .pure (.sql _ _)
  · cases op with
    | not => exact hnot
    | neg => exact .pure (.sql _ _)

/-! ### Membership and methods -/

theorem mirrors_membership {hint : Option FieldType} (hhint : IsHint s.model hint)
    (target target' : String) (values : Value) :
    s.MirrorsIn AnyText ((s.mode false).membership target hint values)
      ((s.mode true).membership target' hint values) := by
  unfold membership
  split
  · exact .pure trivial
  · exact (s.mirrors_bindAll hhint _).map fun _ _ _ => trivial

theorem mirrors_like (m : StringMethod) (target target' before after : String) (args : List Value) :
    s.MirrorsIn AnyText ((s.mode false).like m target before after args)
      ((s.mode true).like m target' before after args) := by
  unfold like
  split
  · exact .fail _ _
  · exact (s.mirrors_bind (isHint_none _) _).map fun _ _ _ => trivial

theorem mirrors_substringText (target target' : String) (args : List Value) :
    s.MirrorsIn AnyText (outcome ((s.mode false).substringText target args))
      (outcome ((s.mode true).substringText target' args)) := by
  refine .outcome fun text htext => ?_
  unfold substringText at htext ⊢
  split at htext
  · cases htext
  · split at htext
    · exact ⟨_, rfl, trivial⟩
    · split at htext
      · cases htext
      · exact ⟨_, rfl, trivial⟩

theorem mirrors_methodText (m : StringMethod) (target target' : String) (args : List Value) :
    s.MirrorsIn AnyText ((s.mode false).methodText m target args)
      ((s.mode true).methodText m target' args) := by
  cases m with
  | trim | trimStart | trimEnd | toUpper | toLower => exact .pure trivial
  | startsWith | endsWith | contains => exact s.mirrors_like _ _ _ _ _ args
  | substring => exact s.mirrors_substringText _ _ args

theorem mirrors_collectionContains (items values : List Value) {texts texts' : List Fragment}
    (h : AllLike s.model texts texts') :
    s.MirrorsIn (Like s.model) ((s.mode false).collectionContains items values texts)
      ((s.mode true).collectionContains items values texts') := by
  unfold collectionContains
  rcases h.getLast? with ⟨h₁, h₂⟩ | ⟨p, p', h₁, h₂, hp⟩
  · rw [h₁, h₂]
    cases values.getLast? with
    | none => exact .fail _ _
    | some item => exact .pure (.value _)
  · rw [h₁, h₂]
    cases values.getLast? with
    | some item => exact .fail _ _
    | none =>
        dsimp only
        rw [hp.type?_eq]
        exact (s.mirrors_operand (isHint_none _) hp).bind fun _ _ _ =>
          (s.mirrors_membership hp.hint _ _ _).map fun _ _ _ => .sql _ _

/-- **A method of a part.** -/
theorem mirrors_method (m : StringMethod) (hp : Like s.model p p') {args args' : List Fragment}
    (h : AllLike s.model args args') :
    s.MirrorsIn (Like s.model) ((s.mode false).method m p args) ((s.mode true).method m p' args') := by
  have htexts := h.texts
  have htext : s.MirrorsIn (Like s.model)
      (if (args'.filter (·.value?.isNone)).isEmpty then
        (s.mode false).operand none p >>= fun sql =>
          (s.mode false).methodText m sql (args'.filterMap Fragment.value?) >>= fun text =>
            pure (.sql text)
      else fail (.untranslatable (.columnArgument m)))
      (if (args'.filter (·.value?.isNone)).isEmpty then
        (s.mode true).operand none p' >>= fun sql =>
          (s.mode true).methodText m sql (args'.filterMap Fragment.value?) >>= fun text =>
            pure (.sql text)
      else fail (.untranslatable (.columnArgument m))) := by
    split
    · exact (s.mirrors_operand (isHint_none _) hp).bind fun _ _ _ =>
        (s.mirrors_methodText m _ _ _).map fun _ _ _ => .sql _ _
    · exact .fail _ _
  unfold method
  dsimp only
  rw [h.values_eq, htexts.isEmpty_eq]
  obtain ⟨v, rfl, rfl⟩ | ⟨t, t', rfl, rfl⟩ | ⟨t, t', type, rfl, rfl⟩ := hp.cases_eq
  · split
    · exact s.mirrors_collectionContains _ _ htexts
    · split
      · exact s.mirrors_computed _
      · exact .fail _ _
    · rename_i hne _
      exact absurd rfl (hne v)
  · cases m <;> exact htext
  · cases m <;> exact htext

theorem mirrors_listOf {ps ps' : List Fragment} (h : AllLike s.model ps ps') :
    s.MirrorsIn (Like s.model) ((s.mode false).listOf ps) ((s.mode true).listOf ps') := by
  unfold listOf
  rw [h.all_isSome, h.values_eq]
  split
  · exact .pure (.value _)
  · exact (s.mirrors_operands h).map fun _ _ _ => .sql _ _

/-! ### The visit -/

/-- The field of a name is a field of the model. -/
theorem field_mem {name : String} {f : Field} (h : s.field name = .ok f) : f ∈ s.model.fields := by
  unfold field at h
  split at h
  · rename_i g hg
    cases h
    unfold Model.field? at hg
    cases hfound : s.model.fields.find? (·.name == name) with
    | some g =>
        rw [hfound] at hg
        cases hg
        exact List.mem_of_find?_eq_some hfound
    | none =>
        rw [hfound] at hg
        exact List.mem_of_find?_eq_some hg
  · cases h

/-- **The visit of an expression**, by cases on its form and on the form of a list of arguments. -/
theorem mirrors_visit_and :
    (∀ e, s.MirrorsIn (Like s.model) ((s.mode false).visit e) ((s.mode true).visit e)) ∧
    (∀ f es, s.MirrorsIn Eq ((s.mode false).visitValues f es) ((s.mode true).visitValues f es)) ∧
    ∀ es, s.MirrorsIn (AllLike s.model) ((s.mode false).visitAll es) ((s.mode true).visitAll es) := by
  -- one case for each equation of the visit
  apply Scope.visit.mutual_induct <;> intros <;> simp only [visit, visitValues, visitAll]
  case case1 name =>
      exact (Mirrors.outcome_same (R := fun f g => f = g ∧ s.field name = .ok f) (s.field name)
        fun f hf => ⟨rfl, hf⟩).map fun f g h => h.1 ▸ .column _ (s.field_mem h.2)
  case case2 v => exact .pure (.value v)
  case case3 r =>
      exact s.mirrors_computed r
  case case4 op l r ihl ihr =>
      exact ihl.bind fun _ _ hl => ihr.bind fun _ _ hr => s.mirrors_binary op hl hr
  case case5 op e ih => exact ih.bind fun _ _ h => s.mirrors_unary op h
  case case6 e ih => exact ih
  case case7 f e ih =>
      refine ih.bind fun p p' h => ?_
      obtain ⟨v, rfl, rfl⟩ | ⟨t, t', rfl, rfl⟩ | ⟨t, t', type, rfl, rfl⟩ := h.cases_eq
      · exact s.mirrors_computed _
      · exact .fail _ _
      · exact .fail _ _
  case case8 m t args iht ihs =>
      exact iht.bind fun _ _ ht => ihs.bind fun _ _ hs => s.mirrors_method m ht hs
  case case9 f args ih =>
      refine ih.bind fun vs vs' h => ?_
      rw [h]
      exact s.mirrors_computed _
  case case10 t vs iht ihv =>
      refine iht.bind fun p p' hp => ?_
      rw [hp.type?_eq]
      refine (s.mirrors_operand (isHint_none _) hp).bind fun _ _ _ => ihv.bind fun q q' hq => ?_
      have hright := (s.mirrors_operand (isHint_none _) hq)
      obtain ⟨v, rfl, rfl⟩ | ⟨u, u', rfl, rfl⟩ | ⟨u, u', type, rfl, rfl⟩ := hq.cases_eq
      · exact (s.mirrors_membership hp.hint _ _ v).map fun _ _ _ => .sql _ _
      · exact hright.map fun _ _ _ => .sql _ _
      · exact hright.map fun _ _ _ => .sql _ _
  case case11 e ih =>
      exact ih.bind fun _ _ h => (s.mirrors_operand (isHint_none _) h).map fun _ _ _ => .sql _ _
  case case12 e name ih =>
      exact ih.bind fun _ _ h => (s.mirrors_operand (isHint_none _) h).map fun _ _ _ => .sql _ _
  case case13 f e ih =>
      exact ih.bind fun _ _ h => (s.mirrors_operand (isHint_none _) h).map fun _ _ _ => .sql _ _
  case case14 => exact .pure (.sql _ _)
  case case15 items ih => exact ih.bind fun _ _ h => s.mirrors_listOf h
  case case16 f => exact .pure rfl
  case case17 f e es ih ihs =>
      refine ih.bind fun p p' h => ?_
      obtain ⟨v, rfl, rfl⟩ | ⟨t, t', rfl, rfl⟩ | ⟨t, t', type, rfl, rfl⟩ := h.cases_eq
      · exact ihs.map fun vs vs' h => congrArg (v :: ·) h
      · exact .fail _ _
      · exact .fail _ _
  case case18 => exact .pure .nil
  case case19 e es ih ihs => exact ih.bind fun _ _ h => ihs.map fun _ _ hs => .cons h hs

/-- **A condition.** -/
theorem mirrors_predicate (e : Expr) :
    s.MirrorsIn AnyText ((s.mode false).predicate e) ((s.mode true).predicate e) :=
  (s.mirrors_visit_and.1 e).bind fun _ _ h => (s.mirrors_condition h).map fun _ _ _ => trivial

/-! ### The values of a row -/

variable {fs gs : List Field}

/-- The value of a field: null is written in both runs. -/
theorem mirrors_fieldValue {P : Occurrence → Prop} (f : Field) (v : Value) (hP : P (.ofField f v)) :
    Mirrors s.dialect P AnyText (Query.fieldValue (s.mode false) f v)
      (Query.fieldValue (s.mode true) f v) := by
  have hliteral : Query.fieldValue (s.mode false) f v =
      outcome ((Occurrence.ofField f v).literal s.dialect) := rfl
  unfold Query.fieldValue at hliteral ⊢
  by_cases hnull : v.isNull = true
  · rw [if_neg (by simp [mode]), if_neg (by simp [hnull])]
    exact .outcome fun text h => ⟨text, h, trivial⟩
  · rw [hliteral, if_pos (by simp [mode, hnull])]
    exact (s.mode true).mirrors_occurrence hP rfl

theorem mirrors_fieldValues (row : Row) (hsub : ∀ f ∈ fs, f ∈ gs) :
    Mirrors s.dialect (fun o => ∃ f ∈ gs, o = .ofField f (row.value f.name))
      (fun columns columns' => columns.map (·.1) = columns'.map (·.1))
      (Query.fieldValues (s.mode false) row fs) (Query.fieldValues (s.mode true) row fs) := by
  induction fs with
  | nil => exact .pure rfl
  | cons f fs ih =>
      obtain ⟨hf, hfs⟩ := List.forall_mem_cons.1 hsub
      refine (s.mirrors_fieldValue f _ ⟨f, hf, rfl⟩).bind fun _ _ _ => (ih hfs).map fun cs cs' h => ?_
      exact congrArg (s.dialect.quotedField f :: ·) h

end Scope

end ModelSql
