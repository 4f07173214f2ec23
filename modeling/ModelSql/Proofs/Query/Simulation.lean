/-
**Literals and parameters, side by side.**

The same expression is written once with literals and once with parameters.  The run with parameters
follows the run with literals: wherever one writes the literal of a value, the other writes the next
placeholder and binds the value, and all that they write is alike.

Main definitions:

* `Fragment.Alike` — parts that are alike;
* `Simulates` — **a step with parameters follows a step with literals**.

Main results:

* `Simulates.bind` — steps made of steps follow each other;
* `Scope.simulates_visit` — **the visit of an expression**, by induction over the expression;
* `Scope.simulates_predicate`, `Scope.simulates_projection` — conditions and projections.
-/

import ModelSql.Proofs.Query.Alike
import ModelSql.Proofs.Query.Binding

set_option relaxedAutoImplicit false
set_option autoImplicit false

namespace ModelSql

open Hole

/-! ### Steps -/

/-- **A step with parameters follows a step with literals.**  Where the one succeeds, so does the other;
it binds what new holes store, and the results are related over all holes. -/
def Simulates {α β : Type} (d : Dialect) (c : Nat) (R : List Hole → α → β → Prop) (hs : List Hole)
    (f : Compile α) (g : Compile β) : Prop :=
  ∀ b a b₁, f b = .ok (a, b₁) → ∀ k : Bindings, k.counter = c + hs.length →
    ∃ new a', Held d new ∧ g k = .ok (a', k.extend d (new.map stored)) ∧ R (hs ++ new) a a'

/-- Equality, whatever the holes are. -/
def Same {α : Type} (_ : List Hole) (a a' : α) : Prop := a = a'

namespace Simulates

variable {d : Dialect} {c : Nat} {hs : List Hole} {α α' β β' : Type}
  {R : List Hole → α → α' → Prop} {S : List Hole → β → β' → Prop}

theorem pure {a : α} {a' : α'} (h : R hs a a') :
    Simulates d c R hs (Pure.pure a) (Pure.pure a') := by
  intro b r b₁ hr k hk
  obtain ⟨rfl, rfl⟩ := pure_eq_ok.1 hr
  exact ⟨[], a', by simp [Held], by simp [pure_eq_ok], by simpa using h⟩

theorem fail (e : Error) (g : Compile α') : Simulates d c R hs (fail e) g := by
  intro b r b₁ hr
  exact absurd hr fail_ne_ok

/-- A step with an outcome already. -/
theorem outcome {x : Except Error α} {y : Except Error α'}
    (h : ∀ a, x = .ok a → ∃ a', y = .ok a' ∧ R hs a a') :
    Simulates d c R hs (outcome x) (ModelSql.outcome y) := by
  intro b r b₁ hr k hk
  obtain ⟨hx, rfl⟩ := outcome_eq_ok.1 hr
  obtain ⟨a', hy, hR⟩ := h r hx
  refine ⟨[], a', by simp [Held], ?_, by simpa using hR⟩
  rw [outcome_eq_ok]
  exact ⟨hy, by simp⟩

theorem outcome_same (x : Except Error α) :
    Simulates d c Same hs (ModelSql.outcome x) (ModelSql.outcome x) :=
  outcome fun a h => ⟨a, h, rfl⟩

/-- **Steps made of steps.**  What follows runs over the holes that the first step has added. -/
theorem bind {f : Compile α} {f' : Compile α'} {g : α → Compile β} {g' : α' → Compile β'}
    (hf : Simulates d c R hs f f')
    (hg : ∀ new, Held d new → ∀ a a', R (hs ++ new) a a' →
      Simulates d c S (hs ++ new) (g a) (g' a')) :
    Simulates d c S hs (f >>= g) (f' >>= g') := by
  intro b r b₁ hr k hk
  obtain ⟨a, m, ha, hm⟩ := bind_eq_ok.1 hr
  obtain ⟨new, a', hnew, ha', hR⟩ := hf b a m ha k hk
  have hcounter : (k.extend d (new.map stored)).counter = c + (hs ++ new).length := by
    simp only [Bindings.counter_extend, List.length_map, List.length_append]
    omega
  obtain ⟨more, r', hmore, hr', hS⟩ := hg new hnew a a' hR m r b₁ hm _ hcounter
  refine ⟨new ++ more, r', hnew.append hmore, ?_, ?_⟩
  · rw [bind_eq_ok]
    refine ⟨a', _, ha', ?_⟩
    rw [hr', Bindings.extend_extend, List.map_append]
  · rwa [List.append_assoc] at hS

/-- A step followed by a computation on its result. -/
theorem map {f : Compile α} {f' : Compile α'} {g : α → β} {g' : α' → β'}
    (hf : Simulates d c R hs f f')
    (hg : ∀ new, Held d new → ∀ a a', R (hs ++ new) a a' → S (hs ++ new) (g a) (g' a')) :
    Simulates d c S hs (f >>= fun a => Pure.pure (g a)) (f' >>= fun a => Pure.pure (g' a)) :=
  hf.bind fun new hnew a a' h => .pure (hg new hnew a a' h)

end Simulates

/-! ### Parts -/

/-- **Parts that are alike**: equal values and columns, and texts that fill one template. -/
inductive Fragment.Alike (d : Dialect) (c : Nat) (hs : List Hole) : Fragment → Fragment → Prop
  | value (v : Value) : Alike d c hs (.value v) (.value v)
  | sql {s s' : String} (h : ModelSql.Alike d c hs s s') : Alike d c hs (.sql s) (.sql s')
  | column {text : String} (type : FieldType) (h : SafeText text) :
      Alike d c hs (.column text type) (.column text type)

namespace Fragment.Alike

variable {d : Dialect} {c : Nat} {hs : List Hole} {p p' : Fragment}

theorem mono (h : Fragment.Alike d c hs p p') (new : List Hole) :
    Fragment.Alike d c (hs ++ new) p p' := by
  cases h with
  | value v => exact .value v
  | sql h => exact .sql (h.mono new)
  | column type h => exact .column type h

theorem type?_eq (h : Fragment.Alike d c hs p p') : p'.type? = p.type? := by
  cases h <;> rfl

theorem isText_eq (h : Fragment.Alike d c hs p p') : p'.isText = p.isText := by
  cases h <;> rfl

theorem isNull_eq (h : Fragment.Alike d c hs p p') : p'.isNull = p.isNull := by
  cases h <;> rfl

theorem value?_eq (h : Fragment.Alike d c hs p p') : p'.value? = p.value? := by
  cases h <;> rfl

theorem mono_all {ps ps' : List Fragment} (h : List.Forall₂ (Fragment.Alike d c hs) ps ps')
    (new : List Hole) : List.Forall₂ (Fragment.Alike d c (hs ++ new)) ps ps' :=
  h.imp fun _ _ h => h.mono new

/-- The values among parts that are alike are the same. -/
theorem values_eq {ps ps' : List Fragment} (h : List.Forall₂ (Fragment.Alike d c hs) ps ps') :
    ps'.filterMap Fragment.value? = ps.filterMap Fragment.value? := by
  induction h with
  | nil => rfl
  | cons h _ ih => rw [List.filterMap_cons, List.filterMap_cons, h.value?_eq, ih]

/-- The other ones are alike. -/
theorem texts {ps ps' : List Fragment} (h : List.Forall₂ (Fragment.Alike d c hs) ps ps') :
    List.Forall₂ (Fragment.Alike d c hs) (ps.filter (·.value?.isNone))
      (ps'.filter (·.value?.isNone)) := by
  induction h with
  | nil => exact .nil
  | cons h _ ih =>
      rw [List.filter_cons, List.filter_cons, h.value?_eq]
      split
      · exact .cons h ih
      · exact ih

theorem all_isSome {ps ps' : List Fragment} (h : List.Forall₂ (Fragment.Alike d c hs) ps ps') :
    ps'.all (·.value?.isSome) = ps.all (·.value?.isSome) := by
  induction h with
  | nil => rfl
  | cons h _ ih => rw [List.all_cons, List.all_cons, h.value?_eq, ih]

theorem isEmpty_eq {ps ps' : List Fragment} (h : List.Forall₂ (Fragment.Alike d c hs) ps ps') :
    ps'.isEmpty = ps.isEmpty := by
  cases h <;> rfl

theorem getLast? {ps ps' : List Fragment} (h : List.Forall₂ (Fragment.Alike d c hs) ps ps') :
    ps.getLast? = none ∧ ps'.getLast? = none ∨
      ∃ p p', ps.getLast? = some p ∧ ps'.getLast? = some p' ∧ Fragment.Alike d c hs p p' := by
  induction h with
  | nil => exact Or.inl ⟨rfl, rfl⟩
  | cons h htail ih =>
      refine Or.inr ?_
      rw [List.getLast?_cons, List.getLast?_cons]
      rcases ih with ⟨h₁, h₂⟩ | ⟨p, p', h₁, h₂, hp⟩
      · exact ⟨_, _, by rw [h₁]; rfl, by rw [h₂]; rfl, h⟩
      · exact ⟨p, p', by rw [h₁]; rfl, by rw [h₂]; rfl, hp⟩

end Fragment.Alike

/-! ### Functions and operators -/

section

variable {d : Dialect} {c : Nat} {hs : List Hole} {l l' r r' : String}

theorem BinaryOp.safeText_sign (op : BinaryOp) : SafeText op.sign := by
  cases op <;> decide

namespace Alike

theorem apply {f : String} (hf : SafeText f) (h : Alike d c hs l l') :
    Alike d c hs (Dialect.apply f l) (Dialect.apply f l') :=
  (((text hf).append (text (by decide))).append h).append (text (by decide))

theorem infixText {sign : String} (hsign : SafeText sign) (hl : Alike d c hs l l')
    (hr : Alike d c hs r r') :
    Alike d c hs (Dialect.infixText l sign r) (Dialect.infixText l' sign r') :=
  ((((((text (by decide)).append hl).append (text (by decide))).append (text hsign)).append
    (text (by decide))).append hr).append (text (by decide))

/-- A function of two operands. -/
theorem call {f sep : String} (hf : SafeText f) (hsep : SafeText sep) (hl : Alike d c hs l l')
    (hr : Alike d c hs r r') : Alike d c hs (f ++ l ++ sep ++ r ++ ")") (f ++ l' ++ sep ++ r' ++ ")") :=
  ((((text hf).append hl).append (text hsep)).append hr).append (text (by decide))

theorem modulo (hl : Alike d c hs l l') (hr : Alike d c hs r r') :
    Alike d c hs (d.modulo l r) (d.modulo l' r') := by
  unfold Dialect.modulo
  split
  · exact infixText (by decide) hl hr
  · exact infixText (by decide) hl hr
  · exact call (by decide) (by decide) hl hr

theorem concat (hl : Alike d c hs l l') (hr : Alike d c hs r r') :
    Alike d c hs (d.concat l r) (d.concat l' r') := by
  unfold Dialect.concat
  split
  · exact call (by decide) (by decide) hl hr
  · exact infixText (by decide) hl hr
  · exact infixText (by decide) hl hr

theorem power (hr : Alike d c hs r r') :
    Alike d c hs ("POWER(2, " ++ r ++ ")") ("POWER(2, " ++ r' ++ ")") :=
  ((text (by decide)).append hr).append (text (by decide))

theorem bitwise (op : BinaryOp) (hl : Alike d c hs l l') (hr : Alike d c hs r r') :
    Alike d c hs (d.bitwise op l r) (d.bitwise op l' r') := by
  have hfunction : SafeText (Dialect.bitFunction op) := by cases op <;> decide
  unfold Dialect.bitwise
  split
  · exact ((((((text hfunction).append (text (by decide))).append hl).append
      (text (by decide))).append hr).append (text (by decide)))
  · exact infixText (by decide) hl hr
  · exact infixText (by decide) (infixText (by decide) hl hr) (infixText (by decide) hl hr)
  · exact infixText (by decide) hl hr.power
  · exact infixText (by decide) hl hr.power
  · exact infixText (BinaryOp.safeText_sign _) hl hr

theorem trim (h : Alike d c hs l l') : Alike d c hs (d.trim l) (d.trim l') := by
  unfold Dialect.trim
  split
  · exact apply (by decide) (apply (by decide) h)
  · exact apply (by decide) h

theorem trimStart (h : Alike d c hs l l') : Alike d c hs (d.trimStart l) (d.trimStart l') := by
  unfold Dialect.trimStart
  split
  · exact ((text (by decide)).append h).append (text (by decide))
  · exact apply (by decide) h

theorem trimEnd (h : Alike d c hs l l') : Alike d c hs (d.trimEnd l) (d.trimEnd l') := by
  unfold Dialect.trimEnd
  split
  · exact ((text (by decide)).append h).append (text (by decide))
  · exact apply (by decide) h

theorem int (n : Int) : Alike d c hs (toString n) (toString n) := by
  refine text (Template.safe_quiet ?_)
  obtain ⟨negative, ds, hds, h⟩ := Literal.isSigned_int n
  rw [h, List.all_append, all_isQuiet_of_isNumeral hds]
  cases negative <;> decide

theorem substring (start : Int) (length : Option Int) (h : Alike d c hs l l') :
    Alike d c hs (d.substring l start length) (d.substring l' start length) := by
  have hend {s s' : String} (hs' : Alike d c hs s s') : Alike d c hs (s ++ ")") (s' ++ ")") :=
    hs'.append (text (by decide))
  have hstart (f : String) (hf : SafeText f) (sep : String) (hsep : SafeText sep) :
      Alike d c hs (f ++ l ++ sep ++ toString start) (f ++ l' ++ sep ++ toString start) :=
    (((text hf).append h).append (text hsep)).append (int start)
  have hlength (sep : String) (hsep : SafeText sep) (n : Int) :
      Alike d c hs (sep ++ toString n) (sep ++ toString n) := (text hsep).append (int n)
  unfold Dialect.substring
  split
  · refine hend ((hstart _ (by decide) _ (by decide)).append ?_)
    cases length with
    | none => exact text (by decide)
    | some n => exact hlength _ (by decide) n
  · refine hend ((hstart _ (by decide) _ (by decide)).append ?_)
    cases length with
    | none => exact text (by decide)
    | some n => exact hlength _ (by decide) n
  · refine hend ((hstart _ ?_ _ (by decide)).append ?_)
    · split <;> decide
    · cases length with
      | some n => exact hlength _ (by decide) n
      | none =>
          dsimp only
          split
          · exact (text (by decide)).append (apply (by decide) h)
          · exact text (by decide)

end Alike

end

/-! ### Values -/

namespace Scope

/-- The same statement, with parameters or with literals. -/
def mode (s : Scope) (parameterized : Bool) : Scope := { s with parameterized }

variable (s : Scope) {c : Nat} {hs : List Hole}

/-- A null is written in both runs, a list is a list in both, and any other value is a hole. -/
theorem simulates_literal_and (hint : Option FieldType) :
    (∀ v hs, Simulates s.dialect c (Alike s.dialect c) hs (outcome (s.dialect.literal hint v))
      ((s.mode true).bindParameter hint v)) ∧
    ∀ vs hs, Simulates s.dialect c (fun hs => List.Forall₂ (Alike s.dialect c hs)) hs
      (outcome (s.dialect.literals hint vs)) ((s.mode true).bindParameters hint vs) := by
  apply Scope.bindParameter.mutual_induct
  case case1 =>
      intro hs
      rw [bindParameter, show (s.mode true).dialect = s.dialect from rfl, Dialect.literal]
      exact .outcome fun a h => ⟨a, h, by cases h; exact .text (by decide)⟩
  case case2 =>
      intro items ih hs b a b₁ h k hk
      rw [Dialect.literal, outcome_eq_ok] at h
      obtain ⟨h, rfl⟩ := h
      obtain ⟨texts, ht, rfl⟩ := map_eq_ok h
      obtain ⟨new, texts', hnew, ht', halike⟩ := ih hs b₁ texts b₁ (outcome_eq_ok.2 ⟨ht, rfl⟩) k hk
      refine ⟨new, Text.joinWith "," texts', hnew, ?_, .joinWith (by decide) halike⟩
      rw [bindParameter, bind_eq_ok]
      exact ⟨texts', _, ht', pure_eq_ok.2 ⟨rfl, rfl⟩⟩
  case case3 =>
      intro v hn hl hs b a b₁ h k hk
      rw [outcome_eq_ok] at h
      let hole : Hole := ⟨v, hint, a⟩
      refine ⟨[hole], s.dialect.placeholder k.counter, ?_, ?_, ?_⟩
      · intro x hx
        obtain rfl : x = hole := by simpa using hx
        exact ⟨hn, hl, h.1⟩
      · rw [bindParameter]
        · simp [placeholder, mode, Bindings.extend, Parameters.push, hole, stored]
        · exact hn
        · exact hl
      · rw [hk]
        exact Alike.hole hole
  case case4 =>
      intro hs
      rw [bindParameters, Dialect.literals]
      exact .pure .nil
  case case5 =>
      intro v vs ih ihs hs b a b₁ h k hk
      rw [Dialect.literals, outcome_eq_ok] at h
      obtain ⟨h, rfl⟩ := h
      cases hv : s.dialect.literal hint v with
      | error e => simp [hv] at h
      | ok text =>
          simp only [hv] at h
          obtain ⟨texts, ht, rfl⟩ := map_eq_ok h
          have hsteps : Simulates s.dialect c (fun hs => List.Forall₂ (Alike s.dialect c hs)) hs
              (outcome (s.dialect.literal hint v) >>= fun x =>
                outcome (s.dialect.literals hint vs) >>= fun xs => pure (x :: xs))
              ((s.mode true).bindParameters hint (v :: vs)) := by
            rw [bindParameters]
            refine (ih hs).bind fun new hnew x x' hx => (ihs _).map fun more hmore xs xs' hxs => ?_
            exact .cons (hx.mono more) hxs
          refine hsteps b₁ _ b₁ ?_ k hk
          rw [bind_eq_ok]
          refine ⟨text, b₁, outcome_eq_ok.2 ⟨hv, rfl⟩, ?_⟩
          rw [bind_eq_ok]
          exact ⟨texts, b₁, outcome_eq_ok.2 ⟨ht, rfl⟩, pure_eq_ok.2 ⟨rfl, rfl⟩⟩

/-- **A value in a statement.** -/
theorem simulates_bind (hint : Option FieldType) (v : Value) :
    Simulates s.dialect c (Alike s.dialect c) hs ((s.mode false).bind hint v)
      ((s.mode true).bind hint v) := (s.simulates_literal_and hint).1 v hs

theorem simulates_bindAll (hint : Option FieldType) (vs : List Value) :
    Simulates s.dialect c (fun hs => List.Forall₂ (Alike s.dialect c hs)) hs
      ((s.mode false).bindAll hint vs) ((s.mode true).bindAll hint vs) := by
  induction vs generalizing hs with
  | nil => exact .pure .nil
  | cons v vs ih =>
      refine (s.simulates_bind hint v).bind fun new hnew x x' hx => ih.map fun more _ xs xs' hxs => ?_
      exact .cons (hx.mono more) hxs

/-! ### Parts put together -/

variable {p p' l l' r r' : Fragment}

theorem simulates_operand (hint : Option FieldType) (h : Fragment.Alike s.dialect c hs p p') :
    Simulates s.dialect c (Alike s.dialect c) hs ((s.mode false).operand hint p)
      ((s.mode true).operand hint p') := by
  cases h with
  | value v => exact s.simulates_bind hint v
  | sql h => exact .pure h
  | column type h => exact .pure (.text h)

theorem simulates_operands {ps ps' : List Fragment}
    (h : List.Forall₂ (Fragment.Alike s.dialect c hs) ps ps') :
    Simulates s.dialect c (fun hs => List.Forall₂ (Alike s.dialect c hs)) hs
      ((s.mode false).operands ps) ((s.mode true).operands ps') := by
  induction ps generalizing ps' hs with
  | nil =>
      cases h
      exact .pure .nil
  | cons p ps ih =>
      cases h with
      | cons h htail =>
          refine (s.simulates_operand none h).bind fun new hnew x x' hx => ?_
          refine (ih (Fragment.Alike.mono_all htail new)).map fun more _ xs xs' hxs => ?_
          exact .cons (hx.mono more) hxs

/-- **A part as a condition.** -/
theorem simulates_condition (h : Fragment.Alike s.dialect c hs p p') :
    Simulates s.dialect c (Alike s.dialect c) hs ((s.mode false).condition p)
      ((s.mode true).condition p') := by
  have hcolumn {text : String} (ht : SafeText text) :
      Simulates s.dialect c (Alike s.dialect c) hs
        ((s.mode false).bind (some .bool) (.bool true) >>= fun truth => pure (text ++ " = " ++ truth))
        ((s.mode true).bind (some .bool) (.bool true) >>= fun truth => pure (text ++ " = " ++ truth)) :=
    (s.simulates_bind _ _).map fun new _ x x' hx =>
      ((Alike.text ht).append (.text (by decide))).append hx
  cases h with
  | sql h => exact .pure h
  | column type h =>
      cases type with
      | bool => exact hcolumn h
      | _ => exact .pure (.text h)
  | value v =>
      cases v with
      | bool b => cases b <;> exact .pure (.text (by decide))
      | null => exact .pure (.text (by decide))
      | _ =>
          unfold condition
          exact s.simulates_bind none _

theorem simulates_operandPair (hl : Fragment.Alike s.dialect c hs l l')
    (hr : Fragment.Alike s.dialect c hs r r') :
    Simulates s.dialect c
      (fun hs a a' => Alike s.dialect c hs a.1 a'.1 ∧ Alike s.dialect c hs a.2 a'.2) hs
      ((s.mode false).operandPair l r) ((s.mode true).operandPair l' r') := by
  unfold operandPair
  rw [hl.type?_eq, hr.type?_eq]
  refine (s.simulates_operand _ hl).bind fun new _ x x' hx => ?_
  refine (s.simulates_operand _ (hr.mono new)).map fun more _ y y' hy => ?_
  exact ⟨hx.mono more, hy⟩

theorem simulates_nullTest (op : BinaryOp) (h : Fragment.Alike s.dialect c hs p p') :
    Simulates s.dialect c (Alike s.dialect c) hs ((s.mode false).nullTest op p)
      ((s.mode true).nullTest op p') := by
  refine (s.simulates_operand none h).map fun new _ x x' hx => ?_
  refine (((Alike.text (by decide)).append hx).append (.text ?_)).append (.text (by decide))
  split <;> decide

theorem simulates_binaryText (op : BinaryOp) (hl : Fragment.Alike s.dialect c hs l l')
    (hr : Fragment.Alike s.dialect c hs r r') :
    Simulates s.dialect c (Alike s.dialect c) hs ((s.mode false).binaryText op l r)
      ((s.mode true).binaryText op l' r') := by
  unfold binaryText
  rw [hl.isNull_eq, hr.isNull_eq, hl.isText_eq, hr.isText_eq]
  split
  · refine (s.simulates_condition hl).bind fun new _ x x' hx => ?_
    refine (s.simulates_condition (hr.mono new)).map fun more _ y y' hy => ?_
    exact .infixText op.safeText_sign (hx.mono more) hy
  · split
    · cases l.isNull with
      | true => exact s.simulates_nullTest op hr
      | false => exact s.simulates_nullTest op hl
    · refine (s.simulates_operandPair hl hr).map fun new _ a a' ha => ?_
      obtain ⟨x, y⟩ := a
      obtain ⟨x', y'⟩ := a'
      obtain ⟨hx, hy⟩ := ha
      dsimp only at hx hy ⊢
      cases op with
      | add =>
          dsimp only
          split
          · exact hx.concat hy
          · exact .infixText (by decide) hx hy
      | mod => exact hx.modulo hy
      | coalesce => exact .call (by decide) (by decide) hx hy
      | bitAnd | bitOr | bitXor | shl | shr => exact hx.bitwise _ hy
      | _ => exact .infixText (by decide) hx hy

/-- **An operator between two parts.** -/
theorem simulates_binary (op : BinaryOp) (hl : Fragment.Alike s.dialect c hs l l')
    (hr : Fragment.Alike s.dialect c hs r r') :
    Simulates s.dialect c (Fragment.Alike s.dialect c) hs ((s.mode false).binary op l r)
      ((s.mode true).binary op l' r') := by
  have htext : Simulates s.dialect c (Fragment.Alike s.dialect c) hs
      ((s.mode false).binaryText op l r >>= fun text => pure (.sql text))
      ((s.mode true).binaryText op l' r' >>= fun text => pure (.sql text)) :=
    (s.simulates_binaryText op hl hr).map fun new _ x x' hx => .sql hx
  cases hl with
  | sql h => exact htext
  | column type h => exact htext
  | value a =>
      cases hr with
      | sql h => exact htext
      | column type h => exact htext
      | value b =>
          refine (Simulates.outcome_same _).map fun new _ v v' hv => ?_
          cases hv
          exact .value v

/-- **An operator before a part.** -/
theorem simulates_unary (op : UnaryOp) (hheld : Held s.dialect hs)
    (h : Fragment.Alike s.dialect c hs p p') :
    Simulates s.dialect c (Fragment.Alike s.dialect c) hs ((s.mode false).unary op p)
      ((s.mode true).unary op p') := by
  have hnot (hs' : SafeText "NOT ") : Simulates s.dialect c (Fragment.Alike s.dialect c) hs
      ((s.mode false).condition p >>= fun text => pure (.sql ("NOT " ++ wrap text)))
      ((s.mode true).condition p' >>= fun text => pure (.sql ("NOT " ++ wrap text))) :=
    (s.simulates_condition h).map fun new hnew x x' hx =>
      .sql ((Alike.text hs').append (hx.wrap (hheld.append hnew)))
  cases h with
  | value v =>
      cases op <;>
      · refine (Simulates.outcome_same _).map fun new _ w w' hw => ?_
        cases hw
        exact .value w
  | column type h =>
      cases op with
      | not => exact hnot (by decide)
      | neg => exact .pure (.sql ((Alike.text (by decide)).append (.text h)))
  | sql h =>
      cases op with
      | not => exact hnot (by decide)
      | neg => exact .pure (.sql ((Alike.text (by decide)).append (h.wrap hheld)))

/-! ### Membership and methods -/

variable {target target' : String}

theorem simulates_membership (hint : Option FieldType) (values : Value)
    (h : Alike s.dialect c hs target target') :
    Simulates s.dialect c (Alike s.dialect c) hs ((s.mode false).membership target hint values)
      ((s.mode true).membership target' hint values) := by
  unfold membership
  split
  · exact .pure (h.append (.text (by decide)))
  · refine (s.simulates_bindAll hint _).map fun new _ xs xs' hxs => ?_
    exact (((h.mono new).append (.text (by decide))).append (.joinWith (by decide) hxs)).append
      (.text (by decide))

theorem simulates_like (m : StringMethod) (before after : String) (args : List Value)
    (h : Alike s.dialect c hs target target') :
    Simulates s.dialect c (Alike s.dialect c) hs ((s.mode false).like m target before after args)
      ((s.mode true).like m target' before after args) := by
  unfold like
  split
  · exact .fail _ _
  · refine (s.simulates_bind none _).map fun new _ x x' hx => ?_
    exact ((Alike.apply (by decide) (h.mono new)).append (.text (by decide))).append hx

theorem simulates_substringText (args : List Value) (h : Alike s.dialect c hs target target') :
    Simulates s.dialect c (Alike s.dialect c) hs
      (outcome ((s.mode false).substringText target args))
      (outcome ((s.mode true).substringText target' args)) := by
  refine .outcome fun a ha => ?_
  unfold substringText at ha ⊢
  split at ha
  · cases ha
  · split at ha
    · cases ha
      exact ⟨_, rfl, h.substring _ _⟩
    · split at ha
      · cases ha
      · cases ha
        exact ⟨_, rfl, h.substring _ _⟩

theorem simulates_methodText (m : StringMethod) (args : List Value)
    (h : Alike s.dialect c hs target target') :
    Simulates s.dialect c (Alike s.dialect c) hs ((s.mode false).methodText m target args)
      ((s.mode true).methodText m target' args) := by
  cases m with
  | trim => exact .pure h.trim
  | trimStart => exact .pure h.trimStart
  | trimEnd => exact .pure h.trimEnd
  | toUpper | toLower => exact .pure (.apply (by decide) h)
  | startsWith | endsWith | contains => exact s.simulates_like _ _ _ args h
  | substring => exact s.simulates_substringText args h

theorem simulates_collectionContains (items values : List Value) {texts texts' : List Fragment}
    (h : List.Forall₂ (Fragment.Alike s.dialect c hs) texts texts') :
    Simulates s.dialect c (Fragment.Alike s.dialect c) hs
      ((s.mode false).collectionContains items values texts)
      ((s.mode true).collectionContains items values texts') := by
  unfold collectionContains
  rcases Fragment.Alike.getLast? h with ⟨h₁, h₂⟩ | ⟨p, p', h₁, h₂, hp⟩
  · rw [h₁, h₂]
    cases values.getLast? with
    | none => exact .fail _ _
    | some item => exact .pure (.value _)
  · rw [h₁, h₂]
    cases values.getLast? with
    | some item => exact .fail _ _
    | none =>
        dsimp only
        rw [hp.type?_eq]
        refine (s.simulates_operand none hp).bind fun new _ x x' hx => ?_
        exact (s.simulates_membership _ _ hx).map fun more _ y y' hy => .sql hy

/-- **A method of a part.** -/
theorem simulates_method (m : StringMethod) (hp : Fragment.Alike s.dialect c hs p p')
    {args args' : List Fragment} (h : List.Forall₂ (Fragment.Alike s.dialect c hs) args args') :
    Simulates s.dialect c (Fragment.Alike s.dialect c) hs ((s.mode false).method m p args)
      ((s.mode true).method m p' args') := by
  have htexts := Fragment.Alike.texts h
  have hempty := Fragment.Alike.isEmpty_eq htexts
  have htext (hp' : Fragment.Alike s.dialect c hs p p') :
      Simulates s.dialect c (Fragment.Alike s.dialect c) hs
        (if (args.filter (·.value?.isNone)).isEmpty then
          (s.mode false).operand none p >>= fun sql =>
            (s.mode false).methodText m sql (args.filterMap Fragment.value?) >>= fun text =>
              pure (.sql text)
        else fail (.untranslatable (.columnArgument m)))
        (if (args.filter (·.value?.isNone)).isEmpty then
          (s.mode true).operand none p' >>= fun sql =>
            (s.mode true).methodText m sql (args.filterMap Fragment.value?) >>= fun text =>
              pure (.sql text)
        else fail (.untranslatable (.columnArgument m))) := by
    split
    · exact (s.simulates_operand none hp').bind fun new _ x x' hx =>
        (s.simulates_methodText m _ hx).map fun more _ y y' hy => .sql hy
    · exact .fail _ _
  unfold method
  dsimp only
  rw [Fragment.Alike.values_eq h, hempty]
  cases hp with
  | sql h => cases m <;> exact htext (.sql h)
  | column type h => cases m <;> exact htext (.column type h)
  | value v =>
      split
      · exact s.simulates_collectionContains _ _ htexts
      · split
        · refine (Simulates.outcome_same _).map fun new _ w w' hw => ?_
          cases hw
          exact .value w
        · exact .fail _ _
      · rename_i hne _
        exact absurd rfl (hne v)

theorem simulates_listOf {ps ps' : List Fragment}
    (h : List.Forall₂ (Fragment.Alike s.dialect c hs) ps ps') :
    Simulates s.dialect c (Fragment.Alike s.dialect c) hs ((s.mode false).listOf ps)
      ((s.mode true).listOf ps') := by
  unfold listOf
  rw [Fragment.Alike.all_isSome h, Fragment.Alike.values_eq h]
  split
  · exact .pure (.value _)
  · exact (s.simulates_operands h).map fun new _ xs xs' hxs => .sql (.joinWith (by decide) hxs)

/-! ### The visit -/

variable (hk : s.dialect.kind ≠ .sqlserver)

include hk

theorem safeText_column (f : Field) : SafeText (s.column f) := by
  have hname (name : String) : SafeText (s.dialect.quoteName name) := Template.safe_quoteName hk name
  have htable : SafeText (s.dialect.quotedTable s.model) := by
    unfold Dialect.quotedTable Dialect.qualified
    split
    · exact ((hname _).append (by decide)).append (hname _)
    · exact hname _
  unfold column
  split
  · exact (htable.append (by decide)).append (hname _)
  · exact hname _

/-- **The visit of an expression**, by cases on its form and on the form of a list of arguments. -/
theorem simulates_visit_and :
    (∀ e hs, Held s.dialect hs → Simulates s.dialect c (Fragment.Alike s.dialect c) hs
      ((s.mode false).visit e) ((s.mode true).visit e)) ∧
    (∀ f es hs, Held s.dialect hs → Simulates s.dialect c Same hs
      ((s.mode false).visitValues f es) ((s.mode true).visitValues f es)) ∧
    ∀ es hs, Held s.dialect hs →
      Simulates s.dialect c (fun hs => List.Forall₂ (Fragment.Alike s.dialect c hs)) hs
        ((s.mode false).visitAll es) ((s.mode true).visitAll es) := by
  -- one case for each equation of the visit; holes filled before are handed on to the next part
  apply Scope.visit.mutual_induct
  case case1 =>
      intro name hs _
      simp only [visit]
      refine (Simulates.outcome_same (s.field name)).map fun new _ f f' hf => ?_
      cases hf
      exact .column f.type (s.safeText_column hk f)
  case case2 =>
      intro v hs _
      simp only [visit]
      exact .pure (.value v)
  case case3 =>
      intro r hs _
      simp only [visit]
      refine (Simulates.outcome_same r).map fun new _ v v' hv => ?_
      cases hv
      exact .value v
  case case4 =>
      intro op l r ihl ihr hs hheld
      simp only [visit]
      refine (ihl hs hheld).bind fun new hnew p p' hp => ?_
      refine (ihr _ (hheld.append hnew)).bind fun more _ q q' hq => ?_
      exact s.simulates_binary op (hp.mono more) hq
  case case5 =>
      intro op e ih hs hheld
      simp only [visit]
      refine (ih hs hheld).bind fun new hnew p p' hp => ?_
      exact s.simulates_unary op (hheld.append hnew) hp
  case case6 =>
      intro e ih hs hheld
      simp only [visit]
      exact ih hs hheld
  case case7 =>
      intro f e ih hs hheld
      simp only [visit]
      refine (ih hs hheld).bind fun new _ p p' hp => ?_
      cases hp with
      | value v =>
          refine (Simulates.outcome_same _).map fun more _ w w' hw => ?_
          cases hw
          exact .value w
      | sql h => exact .fail _ _
      | column type h => exact .fail _ _
  case case8 =>
      intro m t args iht ihs hs hheld
      simp only [visit]
      refine (iht hs hheld).bind fun new hnew p p' hp => ?_
      refine (ihs _ (hheld.append hnew)).bind fun more _ ps ps' hps => ?_
      exact s.simulates_method m (hp.mono more) hps
  case case9 =>
      intro f args ih hs hheld
      simp only [visit]
      refine (ih hs hheld).bind fun new _ vs vs' hvs => ?_
      cases hvs
      refine (Simulates.outcome_same _).map fun more _ v v' hv => ?_
      cases hv
      exact .value v
  case case10 =>
      intro t vs iht ihv hs hheld
      simp only [visit]
      refine (iht hs hheld).bind fun new hnew p p' hp => ?_
      rw [hp.type?_eq]
      refine (s.simulates_operand none hp).bind fun more hmore x x' hx => ?_
      refine (ihv _ ((hheld.append hnew).append hmore)).bind fun last _ q q' hq => ?_
      -- the target has been written before the list is visited, so its holes come first
      have hleft := hx.mono last
      have hright (hq' : Fragment.Alike s.dialect c (hs ++ new ++ more ++ last) q q') :
          Simulates s.dialect c (Fragment.Alike s.dialect c) (hs ++ new ++ more ++ last)
            ((s.mode false).operand none q >>= fun right =>
              pure (.sql (x ++ " IN (" ++ right ++ ")")))
            ((s.mode true).operand none q' >>= fun right =>
              pure (.sql (x' ++ " IN (" ++ right ++ ")"))) :=
        (s.simulates_operand none hq').map fun end' _ y y' hy =>
          .sql ((((hleft.mono end').append (.text (by decide))).append hy).append
            (.text (by decide)))
      cases hq with
      | value v =>
          exact (s.simulates_membership p.type? v hleft).map fun _ _ y y' hy => .sql hy
      | sql h => exact hright (.sql h)
      | column type h => exact hright (.column type h)
  case case11 =>
      intro e ih hs hheld
      simp only [visit]
      refine (ih hs hheld).bind fun new _ p p' hp => ?_
      exact (s.simulates_operand none hp).map fun _ _ x x' hx => .sql (hx.append (.text (by decide)))
  case case12 =>
      intro e name ih hs hheld
      simp only [visit]
      refine (ih hs hheld).bind fun new _ p p' hp => ?_
      refine (s.simulates_operand none hp).map fun _ _ x x' hx => ?_
      exact .sql ((hx.append (.text (by decide))).append (.text (Template.safe_quoteName hk name)))
  case case13 =>
      intro f e ih hs hheld
      simp only [visit]
      refine (ih hs hheld).bind fun new _ p p' hp => ?_
      refine (s.simulates_operand none hp).map fun _ _ x x' hx => .sql (.apply ?_ hx)
      cases f <;> decide
  case case14 =>
      intro hs _
      simp only [visit]
      exact .pure (.sql (.text (by decide)))
  case case15 =>
      intro items ih hs hheld
      simp only [visit]
      exact (ih hs hheld).bind fun new _ ps ps' hps => s.simulates_listOf hps
  case case16 =>
      intro f hs _
      simp only [visitValues]
      exact .pure rfl
  case case17 =>
      intro f e es ih ihs hs hheld
      simp only [visitValues]
      refine (ih hs hheld).bind fun new hnew p p' hp => ?_
      cases hp with
      | value v =>
          refine (ihs _ (hheld.append hnew)).map fun more _ vs vs' hvs => ?_
          cases hvs
          exact rfl
      | sql h => exact .fail _ _
      | column type h => exact .fail _ _
  case case18 =>
      intro hs _
      simp only [visitAll]
      exact .pure .nil
  case case19 =>
      intro e es ih ihs hs hheld
      simp only [visitAll]
      refine (ih hs hheld).bind fun new hnew p p' hp => ?_
      refine (ihs _ (hheld.append hnew)).map fun more _ ps ps' hps => ?_
      exact .cons (hp.mono more) hps

theorem simulates_visit (e : Expr) (hheld : Held s.dialect hs) :
    Simulates s.dialect c (Fragment.Alike s.dialect c) hs ((s.mode false).visit e)
      ((s.mode true).visit e) := (s.simulates_visit_and hk).1 e hs hheld

/-! ### Clauses -/

/-- **A condition.** -/
theorem simulates_predicate (e : Expr) (hheld : Held s.dialect hs) :
    Simulates s.dialect c (Twins s.dialect c) hs ((s.mode false).predicate e)
      ((s.mode true).predicate e) := by
  refine (s.simulates_visit hk e hheld).bind fun new hnew p p' hp => ?_
  refine (s.simulates_condition hp).map fun more hmore x x' hx => ?_
  exact hx.stripOuter ((hheld.append hnew).append hmore)

/-- **A projection.** -/
theorem simulates_projection (e : Expr) (hheld : Held s.dialect hs) :
    Simulates s.dialect c (Twins s.dialect c) hs ((s.mode false).projection e)
      ((s.mode true).projection e) := by
  refine (s.simulates_visit hk e hheld).bind fun new hnew p p' hp => ?_
  refine (s.simulates_operand none hp).map fun more hmore x x' hx => ?_
  exact hx.stripOuter ((hheld.append hnew).append hmore)

/-- **Sort keys.** -/
theorem simulates_sortKeys (direction : String) (es : List Expr) (hheld : Held s.dialect hs) :
    Simulates s.dialect c (fun hs => List.Forall₂ (Twins s.dialect c hs)) hs
      (Query.sortKeys (s.mode false) direction es) (Query.sortKeys (s.mode true) direction es) := by
  induction es generalizing hs with
  | nil => exact .pure .nil
  | cons e es ih =>
      refine (s.simulates_projection hk e hheld).bind fun new hnew x x' hx => ?_
      refine (ih (hheld.append hnew)).map fun more _ xs xs' hxs => .cons ?_ hxs
      split
      · exact hx.mono more
      · exact ((hx.mono more).append (.text " ")).append (.text direction)

end Scope

end ModelSql
