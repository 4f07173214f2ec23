/-
**The order of values.**

Values of one kind are compared by what they are, integers and decimals as numbers, and a variant by its
position, beside an integer or a variant of its own type.  Not every two values have an order; but those
that have one are compared by places on one line, and so the order is the same from both sides, and goes on
from one pair to the next.  Comparisons ask for this order, and equality agrees with it.

Floats are left out: an integer or a decimal beside a float is rounded first.

Main definitions:

* `Value.place` — **the place of a value**, a text and a list of numbers;
* `Value.isComparable` — the values that have an order.

Main results:

* `Value.compare_eq` — **values that have an order are compared by their places**;
* `Value.compare_swap`, `Value.compare_then` — the order from both sides, and from pair to pair;
* `Value.looseEq_eq` — equality is the equality of places;
* `Value.compare_lawful` — **all of this**, and what the comparisons make of it.
-/

import ModelSql.Proofs.Numeric.Decimal
import ModelSql.Value.Arithmetic

set_option relaxedAutoImplicit false
set_option autoImplicit false

namespace ModelSql.Value

open Numeric (tenTo)

/-! ### Places -/

/-- **The place of a value**: a text, or the numbers it is compared by, one after the other.  An integer
has the place of a decimal without places. -/
def place : Value → String × List Int
  | bool b => ("", [(b.toNat : Int)])
  | int n => ("", [n.toInt * (tenTo Numeric.Decimal.maxScale : Nat)])
  | decimal d => ("", [d.units])
  | text s => (s, [])
  | guid g => ("", [(g.value : Int)])
  | datetime t => ("", [t.date.year, (t.date.month : Int), (t.date.day : Int),
      (t.time.secondOfDay : Int), (t.time.nanosecond : Int)])
  | date d => ("", [d.year, (d.month : Int), (d.day : Int)])
  | time t => ("", [(t.secondOfDay : Int), (t.nanosecond : Int)])
  | enum e => ("", [e.ordinal.toInt * (tenTo Numeric.Decimal.maxScale : Nat)])
  | null | float _ | bytes _ | list _ => ("", [])

/-- The order of places. -/
def comparePlaces : String × List Int → String × List Int → Ordering :=
  compareLex (compareOn Prod.fst) (compareOn Prod.snd)

instance : Std.TransCmp comparePlaces :=
  inferInstanceAs (Std.TransCmp (compareLex (compareOn Prod.fst) (compareOn Prod.snd)))

/-- **The values that have an order.** -/
def isComparable : Value → Value → Bool
  | null, null | bool _, bool _ | text _, text _ | guid _, guid _ | datetime _, datetime _
  | date _, date _ | time _, time _ => true
  | int _, int _ | int _, decimal _ | decimal _, int _ | decimal _, decimal _ => true
  | enum e, enum e' => e.type == e'.type
  | enum _, int _ | int _, enum _ => true
  | _, _ => false

theorem comparePlaces_text (s t : String) : comparePlaces (s, []) (t, []) = Ord.compare s t := by
  simp [comparePlaces, compareLex, compareOn]

theorem comparePlaces_numbers (ms ns : List Int) :
    comparePlaces ("", ms) ("", ns) = Ord.compare ms ns := by
  simp [comparePlaces, compareLex, compareOn]

theorem comparePlaces_number (m n : Int) : comparePlaces ("", [m]) ("", [n]) = Ord.compare m n := by
  rw [comparePlaces_numbers, List.compare_cons_cons, List.compare_nil_nil, Ordering.then_eq]

theorem compare_natCast (m n : Nat) : Ord.compare (m : Int) (n : Int) = Ord.compare m n := by
  rw [Int.compare_eq_ite_lt, Nat.compare_eq_ite_lt]
  simp only [Int.ofNat_lt]

/-- A number without places is compared as a number. -/
theorem comparePlaces_scaled (m n : Int) :
    comparePlaces ("", [m * (tenTo Numeric.Decimal.maxScale : Nat)])
      ("", [n * (tenTo Numeric.Decimal.maxScale : Nat)]) = Ord.compare m n := by
  rw [comparePlaces_number, Numeric.compare_mul_right (by exact_mod_cast Numeric.tenTo_pos _)]

/-! ### The order by places -/

variable {a b c : Value} {o o₁ o₂ o₃ : Ordering}

theorem comparePlaces_date (d d' : Date) :
    comparePlaces (place (date d)) (place (date d')) = d.compare d' := by
  simp only [place, comparePlaces_numbers, List.compare_cons_cons, List.compare_nil_nil, Ordering.then_eq,
    compare_natCast, Date.compare]

theorem comparePlaces_time (t t' : TimeOfDay) :
    comparePlaces (place (time t)) (place (time t')) = t.compare t' := by
  simp only [place, comparePlaces_numbers, List.compare_cons_cons, List.compare_nil_nil, Ordering.then_eq,
    compare_natCast, TimeOfDay.compare]

theorem comparePlaces_datetime (t t' : DateTime) :
    comparePlaces (place (datetime t)) (place (datetime t')) = t.compare t' := by
  simp only [place, comparePlaces_numbers, List.compare_cons_cons, List.compare_nil_nil, Ordering.then_eq,
    compare_natCast, DateTime.compare, Date.compare, TimeOfDay.compare, Ordering.then_assoc]

theorem comparePlaces_decimal (d d' : Numeric.Decimal) :
    comparePlaces (place (decimal d)) (place (decimal d')) = d.compare d' := by
  rw [place, place, comparePlaces_number, Numeric.Decimal.compare_eq]

/-- An integer has the place of its decimal. -/
theorem place_ofInt64 (n : Int64) : place (decimal (.ofInt64 n)) = place (int n) := by
  rw [place, place, Numeric.Decimal.units_ofInt64]

/-- Values that have an order are compared by their places. -/
theorem compare_of_isComparable (h : a.isComparable b = true) :
    a.compare b = some (comparePlaces a.place b.place) := by
  cases a with
  | null =>
      cases b with
      | null => rfl
      | _ => cases h
  | bool x =>
      cases b with
      | bool y => cases x <;> cases y <;> decide
      | _ => cases h
  | text s =>
      cases b with
      | text t => exact congrArg some (comparePlaces_text s t).symm
      | _ => cases h
  | guid g =>
      cases b with
      | guid g' => exact congrArg some ((comparePlaces_number _ _).trans (compare_natCast _ _)).symm
      | _ => cases h
  | date d =>
      cases b with
      | date d' => exact congrArg some (comparePlaces_date d d').symm
      | _ => cases h
  | time t =>
      cases b with
      | time t' => exact congrArg some (comparePlaces_time t t').symm
      | _ => cases h
  | datetime t =>
      cases b with
      | datetime t' => exact congrArg some (comparePlaces_datetime t t').symm
      | _ => cases h
  | int n =>
      cases b with
      | int m => exact congrArg some (comparePlaces_scaled _ _).symm
      | enum e => exact congrArg some (comparePlaces_scaled _ _).symm
      | decimal d => rw [← place_ofInt64, comparePlaces_decimal, compare]
      | _ => cases h
  | decimal d =>
      cases b with
      | int n => rw [← place_ofInt64, comparePlaces_decimal, compare]
      | decimal d' => rw [comparePlaces_decimal, compare]
      | _ => cases h
  | enum e =>
      cases b with
      | int n => exact congrArg some (comparePlaces_scaled _ _).symm
      | enum e' => rw [place, place, comparePlaces_scaled, compare, if_pos (eq_of_beq h)]
      | _ => cases h
  | float _ | bytes _ | list _ => cases b <;> cases h

/-- The other values have none, unless one is a float. -/
theorem compare_of_not_isComparable (ha : a.kind ≠ .float) (hb : b.kind ≠ .float)
    (h : a.isComparable b = false) : a.compare b = none := by
  cases a with
  | float x => exact absurd rfl ha
  | enum e =>
      cases b with
      | float x => exact absurd rfl hb
      | enum e' => rw [compare, if_neg (ne_of_beq_false h)]
      | _ => first | rfl | cases h
  | _ =>
      cases b with
      | float x => exact absurd rfl hb
      | _ => first | rfl | cases h

/-- **Values that have an order are compared by their places.** -/
theorem compare_eq (ha : a.kind ≠ .float) (hb : b.kind ≠ .float) :
    a.compare b = if a.isComparable b then some (comparePlaces a.place b.place) else none := by
  split
  · exact compare_of_isComparable ‹_›
  · exact compare_of_not_isComparable ha hb (Bool.eq_false_iff.2 ‹_›)

theorem isSome_compare (ha : a.kind ≠ .float) (hb : b.kind ≠ .float) :
    (a.compare b).isSome = a.isComparable b := by
  rw [compare_eq ha hb]
  cases a.isComparable b <;> rfl

theorem isComparable_comm (a b : Value) : a.isComparable b = b.isComparable a := by
  cases a with
  | enum e =>
      cases b with
      | enum e' => exact BEq.comm
      | _ => rfl
  | _ => cases b <;> rfl

/-- The order from both sides. -/
theorem compare_swap (ha : a.kind ≠ .float) (hb : b.kind ≠ .float) :
    b.compare a = (a.compare b).map Ordering.swap := by
  rw [compare_eq ha hb, compare_eq hb ha, isComparable_comm b a]
  split
  · exact congrArg some Std.OrientedCmp.eq_swap
  · rfl

/-- Two values that have an order are compared by their places. -/
theorem eq_comparePlaces (ha : a.kind ≠ .float) (hb : b.kind ≠ .float) (h : a.compare b = some o) :
    o = comparePlaces a.place b.place := by
  rw [compare_eq ha hb] at h
  split at h
  · exact (Option.some.inj h).symm
  · cases h

/-- **The order goes on from pair to pair**, upward and downward. -/
theorem compare_then (ha : a.kind ≠ .float) (hb : b.kind ≠ .float) (hc : c.kind ≠ .float)
    (hab : a.compare b = some o₁) (hbc : b.compare c = some o₂) (hac : a.compare c = some o₃)
    (h : o₁.isLE = true ∧ o₂.isLE = true ∨ o₁.isGE = true ∧ o₂.isGE = true) : o₃ = o₁.then o₂ := by
  rw [eq_comparePlaces ha hc hac]
  replace hab := eq_comparePlaces ha hb hab
  replace hbc := eq_comparePlaces hb hc hbc
  cases o₁ with
  | eq => exact (Std.TransCmp.congr_left hab.symm).trans hbc.symm
  | lt =>
      rcases h with ⟨-, h₂⟩ | ⟨h₁, -⟩
      · exact Std.TransCmp.lt_of_lt_of_isLE hab.symm (hbc ▸ h₂)
      · cases h₁
  | gt =>
      rcases h with ⟨h₁, -⟩ | ⟨-, h₂⟩
      · cases h₁
      · exact Std.TransCmp.gt_of_gt_of_isGE hab.symm (hbc ▸ h₂)

/-! ### Equality -/

/-- Values that are the same have the same place. -/
theorem comparePlaces_of_same (h : a.same b = true) : comparePlaces a.place b.place = .eq := by
  cases a with
  | decimal d =>
      cases b with
      | decimal d' =>
          rw [same, beq_iff_eq] at h
          exact (comparePlaces_decimal d d').trans h
      | _ => cases h
  | null | float _ | bytes _ | list _ =>
      cases b with
      | null | float _ | bytes _ | list _ => exact Std.ReflCmp.compare_self
      | _ => cases h
  | _ =>
      -- the others are the same only if they are equal
      cases b <;> simp only [same, beq_iff_eq, Bool.false_eq_true] at h
      rw [h]
      exact Std.ReflCmp.compare_self

/-- **Equality agrees with the order.** -/
theorem looseEq_eq (ha : a.kind ≠ .float) (hb : b.kind ≠ .float) (h : a.compare b = some o) :
    a.looseEq b = (o == .eq) := by
  have hsame (hs : a.same b = true) : o = .eq :=
    (eq_comparePlaces ha hb h).trans (comparePlaces_of_same hs)
  unfold looseEq
  split
  · cases h
    rfl
  · cases b with
    | null => contradiction
    | _ => cases h
  · cases a with
    | null => contradiction
    | _ => cases h
  · cases h
  · cases h
  · rw [h, Bool.eq_iff_iff]
    simpa using hsame

/-! ### Comparisons -/

/-- **Comparisons ask for the order.** -/
theorem binary_of_compare (ha : a.kind ≠ .float) (hb : b.kind ≠ .float) (h : a.compare b = some o) :
    binary .lt a b = .ok (bool (o == .lt)) ∧ binary .eq a b = .ok (bool (o == .eq)) ∧
      binary .gt a b = .ok (bool (o == .gt)) ∧ binary .le a b = .ok (bool (o == .lt || o == .eq)) ∧
      binary .ge a b = .ok (bool (o == .gt || o == .eq)) := by
  have hle : (o != .gt) = (o == .lt || o == .eq) := by cases o <;> rfl
  have hge : (o != .lt) = (o == .gt || o == .eq) := by cases o <;> rfl
  simp only [binary, h, looseEq_eq ha hb h, holds, hle, hge, and_self]

/-- **The order of values is lawful.**  It is there for the values that have one, is the same from both
sides, and goes on from pair to pair; where two values have an order just one of less, equal and greater is
true, and at most and at least are these together with equal. -/
theorem compare_lawful (ha : a.kind ≠ .float) (hb : b.kind ≠ .float) (hc : c.kind ≠ .float) :
    (a.compare b).isSome = a.isComparable b ∧ b.compare a = (a.compare b).map Ordering.swap ∧
      (∀ o₁ o₂ o₃, a.compare b = some o₁ → b.compare c = some o₂ → a.compare c = some o₃ →
        o₁.isLE = true ∧ o₂.isLE = true ∨ o₁.isGE = true ∧ o₂.isGE = true → o₃ = o₁.then o₂) ∧
      ∀ o, a.compare b = some o →
        [o == .lt, o == .eq, o == .gt].count true = 1 ∧
          binary .lt a b = .ok (bool (o == .lt)) ∧ binary .eq a b = .ok (bool (o == .eq)) ∧
          binary .gt a b = .ok (bool (o == .gt)) ∧
          binary .le a b = .ok (bool (o == .lt || o == .eq)) ∧
          binary .ge a b = .ok (bool (o == .gt || o == .eq)) :=
  ⟨isSome_compare ha hb, compare_swap ha hb, fun _ _ _ => compare_then ha hb hc,
    fun o h => ⟨by cases o <;> rfl, binary_of_compare ha hb h⟩⟩

/-- A price of one and a half, the integer two, and a price that is equal to it. -/
theorem compare_lawful_prices :
    ∃ low high : Value, low.kind ≠ .float ∧ (int 2).kind ≠ .float ∧ high.kind ≠ .float ∧
      low.toText = "1.50" ∧ high.toText = "2.000" ∧ (int 2).compare low = some .gt ∧
      low.compare high = some .lt ∧ binary .ge high (int 2) = .ok (bool true) := by
  let low := decimal ⟨false, 150, 2, by decide, by decide⟩
  let high := decimal ⟨false, 2000, 3, by decide, by decide⟩
  have hlow : low.kind ≠ .float := nofun
  have hhigh : high.kind ≠ .float := nofun
  have hint : (int 2).kind ≠ .float := nofun
  have hbelow : low.compare (int 2) = some .lt := rfl
  have hequal : (int 2).compare high = some .eq := rfl
  obtain ⟨-, hswap, hthen, -⟩ := compare_lawful hlow hint hhigh
  obtain ⟨hsome, -⟩ := compare_lawful hlow hhigh hint
  obtain ⟨o, ho⟩ := Option.isSome_iff_exists.1 (hsome.trans rfl)
  refine ⟨low, high, hlow, hint, hhigh, rfl, rfl, ?_, ?_, ?_⟩
  · rw [hswap, hbelow, Option.map_some, Ordering.swap_lt]
  · rw [ho, hthen _ _ _ hbelow hequal ho (.inl ⟨rfl, rfl⟩), Ordering.lt_then]
  · have hhigh' : high.compare (int 2) = some .eq := by
      rw [(compare_lawful hint hhigh hint).2.1, hequal, Option.map_some, Ordering.swap_eq]
    exact ((compare_lawful hhigh hint hint).2.2.2 .eq hhigh').2.2.2.2.2

end ModelSql.Value
