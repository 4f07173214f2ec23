/-
**Literals of nested lists.**

The literal of a list is made of the literals of its items, and commas between them.  An item may be a
list too, and an item that is an empty one has no text, but the commas around it are there.  So a nested
list has one place for each leaf and one for each empty list inside, and its literal has a comma between
any two places.  Written leaf by leaf, as a membership test writes it, the list would have no places for the
empty ones.

Main definitions:

* `Value.slots` — **the places of a nested list**: a leaf each, or nothing for an empty list;
* `Value.HasEmpty`, `Value.OnlyEmpty` — whether there is an empty list inside, and nothing else;
* `Dialect.Stands` — what stands in a place.

Main results:

* `Value.reduceOption_slots`, `Value.none_mem_slots_iff` — the places with a leaf, and those without;
* `Dialect.exists_literal_iff` — **a nested list has a literal if its leaves have one**;
* `Dialect.exists_segments` — its literal is what fills its places;
* `Dialect.literal_flatten_iff` — **when it is the literal of the list of its leaves**.
-/

import Mathlib.Data.List.Forall2
import Mathlib.Data.List.ReduceOption
import ModelSql.Proofs.Dialect.Form
import ModelSql.Proofs.Text.Words
import ModelSql.Proofs.Value.Scalar

set_option relaxedAutoImplicit false
set_option autoImplicit false

namespace ModelSql

namespace Value

/-! ### Places -/

mutual

/-- **The places of a nested list**: one for each leaf, in order, and one without a leaf for each empty
list. -/
def slots : Value → List (Option Value)
  | list items => if items.isEmpty then [none] else slotsAll items
  | v => [some v]

/-- The places of some items, one after the other. -/
def slotsAll : List Value → List (Option Value)
  | [] => []
  | v :: vs => v.slots ++ slotsAll vs

end

/-- **Whether there is an empty list inside**, or the value is one. -/
inductive HasEmpty : Value → Prop
  | empty : HasEmpty (list [])
  | inside {v : Value} {items : List Value} (hv : v ∈ items) (h : HasEmpty v) : HasEmpty (list items)

/-- Whether a value is an empty list, alone in any number of lists. -/
inductive OnlyEmpty : Value → Prop
  | empty : OnlyEmpty (list [])
  | inside {v : Value} (h : OnlyEmpty v) : OnlyEmpty (list [v])

variable {v : Value} {vs : List Value}

theorem slotsAll_eq_flatMap (vs : List Value) : slotsAll vs = vs.flatMap slots := by
  induction vs with
  | nil => simp [slotsAll]
  | cons v vs ih => rw [slotsAll, ih, List.flatMap_cons]

theorem slots_of_isScalar (h : v.isScalar = true) : v.slots = [some v] := by
  rw [slots]
  exact ne_list_of_isScalar h

@[simp] theorem slots_empty : (list []).slots = [none] := by simp [slots]

@[simp] theorem slots_cons (v : Value) (vs : List Value) :
    (list (v :: vs)).slots = (v :: vs).flatMap slots := by simp [slots, slotsAll_eq_flatMap]

theorem slots_ne_nil (v : Value) : v.slots ≠ [] := by
  induction v using induction with
  | scalar v hv => simp [slots_of_isScalar hv]
  | list items ih =>
      cases items with
      | nil => simp
      | cons v vs =>
          rw [slots_cons, List.flatMap_cons]
          exact List.append_ne_nil_of_left_ne_nil (ih v List.mem_cons_self) _

theorem flatMap_slots_ne_nil (h : vs ≠ []) : vs.flatMap slots ≠ [] := by
  obtain ⟨v, vs, rfl⟩ := List.exists_cons_of_ne_nil h
  rw [List.flatMap_cons]
  exact List.append_ne_nil_of_left_ne_nil v.slots_ne_nil _

/-- **The leaves are what stands in the places.** -/
theorem reduceOption_slots (v : Value) : v.slots.reduceOption = v.flatten := by
  induction v using induction with
  | scalar v hv =>
      rw [slots_of_isScalar hv, flatten_of_isScalar hv]
      rfl
  | list items ih =>
      cases items with
      | nil => simp
      | cons v vs =>
          rw [slots_cons, flatten_list, flattenAll_eq_flatMap, List.reduceOption, List.filterMap_flatMap]
          exact List.flatMap_congr ih

/-- **The places without a leaf are those of empty lists.** -/
theorem none_mem_slots_iff (v : Value) : none ∈ v.slots ↔ v.HasEmpty := by
  induction v using induction with
  | scalar v hv =>
      have hempty : ¬ v.HasEmpty := fun h => by cases h <;> cases hv
      simp [slots_of_isScalar hv, hempty]
  | list items ih =>
      cases items with
      | nil => simp [HasEmpty.empty]
      | cons v vs =>
          rw [slots_cons, List.mem_flatMap]
          constructor
          · rintro ⟨w, hw, h⟩
            exact .inside hw ((ih w hw).1 h)
          · intro h
            cases h with
            | inside hw h => exact ⟨_, hw, (ih _ hw).2 h⟩

/-- One place without a leaf is all that there is. -/
theorem slots_eq_iff (v : Value) : v.slots = [none] ↔ v.OnlyEmpty := by
  induction v using induction with
  | scalar v hv =>
      have hempty : ¬ v.OnlyEmpty := fun h => by cases h <;> cases hv
      simp [slots_of_isScalar hv, hempty]
  | list items ih =>
      cases items with
      | nil => simp [OnlyEmpty.empty]
      | cons v vs =>
          rw [slots_cons, List.flatMap_cons]
          constructor
          · intro h
            obtain ⟨hnil, -⟩ | ⟨hv, hvs⟩ := List.append_eq_singleton_iff.1 h
            · exact absurd hnil v.slots_ne_nil
            · obtain rfl : vs = [] := by
                by_contra hne
                exact flatMap_slots_ne_nil hne hvs
              exact .inside ((ih v List.mem_cons_self).1 hv)
          · intro h
            cases h with
            | inside h => rw [(ih v List.mem_cons_self).2 h, List.flatMap_nil, List.append_nil]

end Value

namespace Dialect

variable {d : Dialect} {hint : Option FieldType} {v : Value} {vs : List Value}
  {slots : List (Option Value)} {s : String} {ss ts us : List String}

/-! ### What stands in the places -/

/-- **What stands in a place**: the literal of its leaf, or nothing. -/
def Stands (d : Dialect) (hint : Option FieldType) : Option Value → String → Prop
  | none, t => t = ""
  | some w, t => d.literal hint w = .ok t

/-- The literal of a leaf is not empty. -/
theorem literal_ne_empty {w : Value} {t : String} (hw : w.isScalar = true)
    (h : d.literal hint w = .ok t) : t ≠ "" := by
  rintro rfl
  have hform : Literal.Form d [] := Literal.form_literal (Value.ne_list_of_isScalar hw) h
  exact hform.ne_nil rfl

/-- Some items have literals if each of them has one. -/
theorem exists_literals_iff :
    (∃ ss, d.literals hint vs = .ok ss) ↔ ∀ v ∈ vs, ∃ s, d.literal hint v = .ok s := by
  simp only [literals_eq_ok]
  induction vs with
  | nil => simp
  | cons v vs ih =>
      rw [List.forall_mem_cons, ← ih]
      constructor
      · rintro ⟨_, _ | ⟨hs, hss⟩⟩
        exact ⟨⟨_, hs⟩, _, hss⟩
      · rintro ⟨⟨s, hs⟩, ss, hss⟩
        exact ⟨s :: ss, .cons hs hss⟩

/-- **A nested list has a literal if its leaves have one.** -/
theorem exists_literal_iff (d : Dialect) (hint : Option FieldType) (v : Value) :
    (∃ s, d.literal hint v = .ok s) ↔ ∀ w ∈ v.flatten, ∃ t, d.literal hint w = .ok t := by
  induction v using Value.induction with
  | scalar v hv => simp [Value.flatten_of_isScalar hv]
  | list items ih =>
      rw [Value.flatten_list, Value.flattenAll_eq_flatMap, List.forall_mem_flatMap, ← forall₂_congr ih,
        ← exists_literals_iff]
      constructor
      · rintro ⟨s, h⟩
        obtain ⟨ss, hss, -⟩ := literal_list_eq_ok.1 h
        exact ⟨ss, hss⟩
      · rintro ⟨ss, hss⟩
        exact ⟨_, literal_list_eq_ok.2 ⟨ss, hss, rfl⟩⟩

/-- The places of some items, one after the other, are filled by what their literals are made of. -/
theorem exists_segments_items (h : List.Forall₂ (fun v s => d.literal hint v = .ok s) vs ss)
    (hitems : ∀ v ∈ vs, ∀ s, d.literal hint v = .ok s →
      ∃ ts, List.Forall₂ (d.Stands hint) v.slots ts ∧ s = Text.joinWith "," ts) :
    ∃ ts, List.Forall₂ (d.Stands hint) (vs.flatMap Value.slots) ts ∧
      Text.joinWith "," ss = Text.joinWith "," ts := by
  induction h with
  | nil => exact ⟨[], .nil, rfl⟩
  | @cons v s vs ss hs hss ih =>
      obtain ⟨ts, hts, rfl⟩ := hitems v List.mem_cons_self s hs
      obtain ⟨us, hus, hjoin⟩ := ih fun w hw => hitems w (List.mem_cons_of_mem v hw)
      refine ⟨ts ++ us, List.rel_append hts hus, ?_⟩
      cases hss with
      | nil =>
          obtain rfl := List.forall₂_nil_left_iff.1 hus
          rw [List.append_nil]
          rfl
      | cons =>
          have htsne : ts ≠ [] := by
            rintro rfl
            exact v.slots_ne_nil (List.forall₂_nil_right_iff.1 hts)
          have husne : us ≠ [] := by
            rintro rfl
            exact Value.flatMap_slots_ne_nil (List.cons_ne_nil _ _) (List.forall₂_nil_right_iff.1 hus)
          rw [Text.joinWith_cons (List.cons_ne_nil _ _), hjoin, Text.joinWith_append htsne husne]

/-- **The literal of a nested list is what fills its places**, with commas between. -/
theorem exists_segments (h : d.literal hint v = .ok s) :
    ∃ ts, List.Forall₂ (d.Stands hint) v.slots ts ∧ s = Text.joinWith "," ts := by
  induction v using Value.induction generalizing s with
  | scalar v hv => exact ⟨[s], by simp [Value.slots_of_isScalar hv, Stands, h], rfl⟩
  | list items ih =>
      obtain ⟨ss, hss, rfl⟩ := literal_list_eq_ok.1 h
      rw [literals_eq_ok] at hss
      cases items with
      | nil =>
          obtain rfl := List.forall₂_nil_left_iff.1 hss
          exact ⟨[""], by simp [Stands], rfl⟩
      | cons v vs =>
          rw [Value.slots_cons]
          exact exists_segments_items hss fun w hw s hs => ih w hw hs

/-! ### Leaf by leaf -/

/-- The length of joined texts, with a comma counted behind each. -/
def span (ts : List String) : Nat := (ts.map fun t => t.length + 1).sum

theorem length_joinWith_comma (h : ts ≠ []) : (Text.joinWith "," ts).length + 1 = span ts :=
  Text.length_joinWith h

/-- **What fills the places** is what the leaves are written as, and one comma more for each place without
a leaf. -/
theorem exists_leaves (h : List.Forall₂ (d.Stands hint) slots ts) :
    ∃ us, List.Forall₂ (fun w t => d.literal hint w = .ok t) slots.reduceOption us ∧
      span ts = span us + slots.countP Option.isNone ∧ (none ∉ slots → ts = us) := by
  induction h with
  | nil => exact ⟨[], .nil, rfl, fun _ => rfl⟩
  | @cons slot t slots ts hfill _ ih =>
      obtain ⟨us, hus, hspan, heq⟩ := ih
      cases slot with
      | none =>
          obtain rfl : t = "" := hfill
          refine ⟨us, hus, ?_, fun hnone => absurd List.mem_cons_self hnone⟩
          simp [span] at *
          omega
      | some w =>
          refine ⟨t :: us, .cons hfill hus, ?_, fun hnone => ?_⟩
          · simp [span] at *
            omega
          · rw [heq fun hmem => hnone (List.mem_cons_of_mem _ hmem)]

/-- **What fills a place is empty where there is no leaf.** -/
theorem empty_mem_iff (hslots : ∀ w, some w ∈ slots → w.isScalar = true)
    (h : List.Forall₂ (d.Stands hint) slots ts) : "" ∈ ts ↔ none ∈ slots := by
  induction h with
  | nil => simp
  | @cons slot t slots ts hstands _ ih =>
      have hrest := ih fun w hw => hslots w (List.mem_cons_of_mem _ hw)
      cases slot with
      | none =>
          obtain rfl : t = "" := hstands
          simp
      | some w =>
          have hne : t ≠ "" := literal_ne_empty (hslots w List.mem_cons_self) hstands
          simp [hrest, hne.symm]

/-- **When the places are written like the leaves alone**: all of them have one, or there is one place. -/
theorem joinWith_eq_iff (hts : List.Forall₂ (d.Stands hint) slots ts)
    (hus : List.Forall₂ (fun w t => d.literal hint w = .ok t) slots.reduceOption us)
    (hspan : span ts = span us + slots.countP Option.isNone) (heq : none ∉ slots → ts = us) :
    Text.joinWith "," ts = Text.joinWith "," us ↔ none ∉ slots ∨ slots = [none] := by
  constructor
  · intro hjoin
    refine or_iff_not_imp_left.2 fun hmem => ?_
    have hnone : none ∈ slots := not_not.1 hmem
    have hpos : 0 < slots.countP Option.isNone := List.countP_pos_iff.2 ⟨none, hnone, rfl⟩
    have htsne : ts ≠ [] := by
      rintro rfl
      rw [List.forall₂_nil_right_iff.1 hts] at hnone
      cases hnone
    have hlength := length_joinWith_comma htsne
    by_cases husne : us = []
    · -- no leaves at all: every place is one comma more
      subst husne
      rw [hjoin, hspan] at hlength
      obtain ⟨n, rfl⟩ := (List.reduceOption_eq_nil_iff slots).1 (List.forall₂_nil_right_iff.1 hus)
      rw [List.countP_replicate] at hlength
      obtain rfl : n = 1 := by simpa [span, eq_comm] using hlength
      rfl
    · have hlength' := length_joinWith_comma husne
      rw [hjoin] at hlength
      omega
  · rintro (hmem | rfl)
    · rw [heq hmem]
    · obtain ⟨t, rest, ht, hrest, rfl⟩ := List.forall₂_cons_left_iff.1 hts
      obtain rfl : t = "" := ht
      obtain rfl := List.forall₂_nil_left_iff.1 hrest
      obtain rfl := List.forall₂_nil_left_iff.1 hus
      rfl

/-- **The literal of a nested list.**  There is one if there is one of each leaf.  It is what fills the
places of the list, with commas between, and an empty text fills a place for each empty list.  So it is the
literal of the list of its leaves if there is no empty list inside, or nothing else. -/
theorem literal_flatten_iff (d : Dialect) (hint : Option FieldType) (v : Value) :
    ((∃ s, d.literal hint v = .ok s) ↔ ∀ w ∈ v.flatten, ∃ t, d.literal hint w = .ok t) ∧
      ∀ s, d.literal hint v = .ok s →
        ∃ ts us, List.Forall₂ (d.Stands hint) v.slots ts ∧ s = Text.joinWith "," ts ∧
          ("" ∈ ts ↔ v.HasEmpty) ∧
          List.Forall₂ (fun w t => d.literal hint w = .ok t) v.flatten us ∧
          (s = Text.joinWith "," us ↔ ¬ v.HasEmpty ∨ v.OnlyEmpty) := by
  refine ⟨d.exists_literal_iff hint v, fun s hs => ?_⟩
  obtain ⟨ts, hts, rfl⟩ := exists_segments hs
  obtain ⟨us, hus, hspan, heq⟩ := exists_leaves hts
  have hscalar : ∀ w, some w ∈ v.slots → w.isScalar = true := by
    intro w hw
    rw [← List.reduceOption_mem_iff, v.reduceOption_slots] at hw
    exact Value.isScalar_of_mem_flatten hw
  have hempty : "" ∈ ts ↔ v.HasEmpty := (empty_mem_iff hscalar hts).trans v.none_mem_slots_iff
  have hjoin := joinWith_eq_iff hts hus hspan heq
  rw [v.none_mem_slots_iff, v.slots_eq_iff] at hjoin
  rw [v.reduceOption_slots] at hus
  exact ⟨ts, us, hts, rfl, hempty, hus, hjoin⟩

/-- Three numbers in three lists, one inside the other, are written as a list of three. -/
theorem literal_flatten_iff_threefold :
    let d := DialectKind.sqlite.dialect
    let v : Value := .list [.int 1, .list [.int 2, .list [.int 3]]]
    d.literal none v = .ok "1,2,3" ∧ ¬ v.HasEmpty ∧
      ∃ us, List.Forall₂ (fun w t => d.literal none w = .ok t) v.flatten us ∧
        "1,2,3" = Text.joinWith "," us := by
  intro d v
  have hliteral : d.literal none v = .ok "1,2,3" := by rfl
  have hfull : ¬ v.HasEmpty := by
    rw [← v.none_mem_slots_iff]
    simp [v, Value.slots, Value.slotsAll]
  obtain ⟨-, us, -, -, -, hus, hiff⟩ := (literal_flatten_iff d none v).2 _ hliteral
  exact ⟨hliteral, hfull, us, hus, hiff.2 (.inl hfull)⟩

/-- **An empty list leaves an empty place**: between two numbers it makes two commas, where the list of the
leaves has one. -/
theorem literal_empty_place :
    let d := DialectKind.sqlite.dialect
    let v : Value := .list [.int 1, .list [], .int 2]
    d.literal none v = .ok "1,,2" ∧ v.flatten.map (d.literal none) = [.ok "1", .ok "2"] ∧
      "1,,2" ≠ Text.joinWith "," ["1", "2"] := by
  intro d v
  exact ⟨by rfl, by rfl, by decide⟩

end Dialect

end ModelSql
