/-
**Texts of literals and of parameters.**

A hole is a value that one statement shows as a literal and another one binds as a parameter.  Two
statements are alike when they fill one template, the first with the literals of its holes and the
second with their placeholders.  Parts of statements are put together in ways that keep this, and
everything that is decided by the characters, the outer parentheses, is decided alike.

Main definitions:

* `Hole`, `Hole.Held` — values with types and literals;
* `Alike` — **two texts that fill one safe template**;
* `Twins` — the same for any template.

Main results:

* `Alike.append`, `Alike.joinWith`, `Alike.wrap` — texts put together from texts that are alike;
* `Alike.stripOuter` — **without their outer parentheses they still fill one template**.
-/

import Mathlib.Data.List.Forall2
import ModelSql.Proofs.Query.Template
import ModelSql.Query.Binding

set_option relaxedAutoImplicit false
set_option autoImplicit false

namespace ModelSql

/-! ### Holes -/

/-- A value beside something of a type, and its literal. -/
structure Hole where
  value : Value
  hint : Option FieldType
  literal : String

namespace Hole

/-- The value is neither null nor a list, and the literal is its literal. -/
structure Holds (d : Dialect) (h : Hole) : Prop where
  not_null : h.value ≠ .null
  not_list : ∀ items, h.value ≠ .list items
  literal_eq : d.literal h.hint h.value = .ok h.literal

/-- The value as it is bound. -/
def stored (h : Hole) : Value := coerce h.hint h.value

/-- What fills the holes of a statement with literals. -/
def shown (hs : List Hole) (i : Nat) : List Char :=
  match hs[i]? with
  | some h => h.literal.toList
  | none => ['?']

/-- What fills the holes of a statement with parameters. -/
def bound (d : Dialect) (c i : Nat) : List Char := (d.placeholder (c + i)).toList

/-- All holes hold what they say. -/
def Held (d : Dialect) (hs : List Hole) : Prop := ∀ h ∈ hs, h.Holds d

variable {d : Dialect} {hs : List Hole}

theorem neutral_shown (h : Held d hs) (i : Nat) : Neutral (shown hs i) := by
  unfold shown
  cases hi : hs[i]? with
  | none => exact .quiet (by simp) (by decide)
  | some x =>
      have hx := h x (List.mem_of_getElem? hi)
      exact neutral_form (Literal.form_literal hx.not_list hx.literal_eq)

theorem neutral_bound (d : Dialect) (c i : Nat) : Neutral (bound d c i) :=
  neutral_placeholder d (c + i)

theorem shown_append {new : List Hole} {i : Nat} (h : i < hs.length) :
    shown (hs ++ new) i = shown hs i := by
  rw [shown, shown, List.getElem?_append_left h]

theorem Held.append {new : List Hole} (h : Held d hs) (hnew : Held d new) : Held d (hs ++ new) :=
  fun x hx => (List.mem_append.1 hx).elim (h x) (hnew x)

end Hole

open Hole

/-! ### Texts that fill one template -/

/-- A text that leaves no quotation open. -/
def SafeText (s : String) : Prop := (Template.fixed s.toList).Safe

instance (s : String) : Decidable (SafeText s) := inferInstanceAs (Decidable (Template.Safe _))

theorem SafeText.append {s t : String} (hs : SafeText s) (ht : SafeText t) : SafeText (s ++ t) := by
  have := Template.Safe.append hs ht
  rwa [Template.fixed, Template.fixed, ← List.map_append, ← String.toList_append] at this

/-- **Two texts that fill one template**: the first with the literals of the holes, the second with the
placeholders of the numbers from `c` on. -/
def Alike (d : Dialect) (c : Nat) (hs : List Hole) (s s' : String) : Prop :=
  ∃ t : Template, t.Safe ∧ t.Below hs.length ∧
    s.toList = t.fill (shown hs) ∧ s'.toList = t.fill (bound d c)

namespace Alike

variable {d : Dialect} {c : Nat} {hs : List Hole} {s s' t t' : String}

theorem text (h : SafeText s) : Alike d c hs s s :=
  ⟨Template.fixed s.toList, h, Template.below_fixed _ _, by simp, by simp⟩

theorem append (h : Alike d c hs s s') (k : Alike d c hs t t') :
    Alike d c hs (s ++ t) (s' ++ t') := by
  obtain ⟨u, hu, hb, h₁, h₂⟩ := h
  obtain ⟨v, hv, kb, k₁, k₂⟩ := k
  exact ⟨u ++ v, hu.append hv, hb.append kb, by simp [h₁, k₁], by simp [h₂, k₂]⟩

theorem mono (h : Alike d c hs s s') (new : List Hole) : Alike d c (hs ++ new) s s' := by
  obtain ⟨u, hu, hb, h₁, h₂⟩ := h
  refine ⟨u, hu, hb.mono (by simp), ?_, h₂⟩
  rw [h₁]
  exact Template.fill_congr hb fun i hi => (shown_append hi).symm

/-- The last hole. -/
theorem hole (h : Hole) : Alike d c (hs ++ [h]) h.literal (d.placeholder (c + hs.length)) := by
  refine ⟨[.hole hs.length], rfl, fun i hi => ?_, ?_, ?_⟩
  · obtain rfl : i = hs.length := by simpa using hi
    simp
  · simp [shown]
  · simp [bound]

/-- **Texts that fill one template are wrapped alike.** -/
theorem wrap (h : Alike d c hs s s') (hheld : Held d hs) :
    Alike d c hs (wrap s) (ModelSql.wrap s') := by
  have halike := h
  obtain ⟨u, hu, hb, h₁, h₂⟩ := h
  have hsame : isWrapped s.toList = isWrapped s'.toList := by
    rw [h₁, h₂]
    exact Template.isWrapped_fill (neutral_shown hheld) (neutral_bound d c) hu
  unfold ModelSql.wrap
  rw [hsame]
  cases isWrapped s'.toList with
  | true => exact halike
  | false => exact ((text (by decide)).append halike).append (text (by decide))

theorem joinWith {sep : String} (hsep : SafeText sep) {ss ss' : List String}
    (h : List.Forall₂ (Alike d c hs) ss ss') :
    Alike d c hs (Text.joinWith sep ss) (Text.joinWith sep ss') := by
  induction h with
  | nil =>
      have hempty : SafeText "" := by decide
      exact text hempty
  | cons h htail ih =>
      cases htail with
      | nil => exact h
      | cons h' htail => exact (h.append (text hsep)).append ih

end Alike

/-- Two texts that fill one template, whatever the template is. -/
def Twins (d : Dialect) (c : Nat) (hs : List Hole) (s s' : String) : Prop :=
  ∃ t : Template, t.Below hs.length ∧
    s.toList = t.fill (shown hs) ∧ s'.toList = t.fill (bound d c)

namespace Twins

variable {d : Dialect} {c : Nat} {hs : List Hole} {s s' t t' : String}

theorem text (s : String) : Twins d c hs s s :=
  ⟨Template.fixed s.toList, Template.below_fixed _ _, by simp, by simp⟩

theorem append (h : Twins d c hs s s') (k : Twins d c hs t t') :
    Twins d c hs (s ++ t) (s' ++ t') := by
  obtain ⟨u, hb, h₁, h₂⟩ := h
  obtain ⟨v, kb, k₁, k₂⟩ := k
  exact ⟨u ++ v, hb.append kb, by simp [h₁, k₁], by simp [h₂, k₂]⟩

theorem mono (h : Twins d c hs s s') (new : List Hole) : Twins d c (hs ++ new) s s' := by
  obtain ⟨u, hb, h₁, h₂⟩ := h
  refine ⟨u, hb.mono (by simp), ?_, h₂⟩
  rw [h₁]
  exact Template.fill_congr hb fun i hi => (shown_append hi).symm

theorem joinWith (sep : String) {ss ss' : List String} (h : List.Forall₂ (Twins d c hs) ss ss') :
    Twins d c hs (Text.joinWith sep ss) (Text.joinWith sep ss') := by
  induction h with
  | nil => exact text ""
  | cons h htail ih =>
      cases htail with
      | nil => exact h
      | cons h' htail => exact (h.append (text sep)).append ih

end Twins

theorem Alike.twins {d : Dialect} {c : Nat} {hs : List Hole} {s s' : String}
    (h : Alike d c hs s s') : Twins d c hs s s' := by
  obtain ⟨u, -, hb, h₁, h₂⟩ := h
  exact ⟨u, hb, h₁, h₂⟩

/-- **Without their outer parentheses, texts that fill one template still do.** -/
theorem Alike.stripOuter {d : Dialect} {c : Nat} {hs : List Hole} {s s' : String}
    (h : Alike d c hs s s') (hheld : Held d hs) :
    Twins d c hs (stripOuter s) (ModelSql.stripOuter s') := by
  have htwins := h.twins
  obtain ⟨u, hu, hb, h₁, h₂⟩ := h
  have hsame : isWrapped s.toList = isWrapped s'.toList := by
    rw [h₁, h₂]
    exact Template.isWrapped_fill (neutral_shown hheld) (neutral_bound d c) hu
  unfold ModelSql.stripOuter
  rw [← hsame]
  cases hw : isWrapped s.toList with
  | false => simpa using htwins
  | true =>
      rw [h₁] at hw
      obtain ⟨v, hv, hfill⟩ := Template.strip (neutral_shown hheld) hu hw
      refine ⟨v, hv _ hb, ?_, ?_⟩
      · simp [h₁, hfill]
      · simp [h₂, hfill]

end ModelSql
