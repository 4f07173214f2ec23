/-
**Values that are no lists.**

A list of values stands to the right of a membership test only: no operator and no method makes a list
of other values, and a column never stores a value as one.

Main definitions:

* `Value.isScalar` — the values that are no lists.

Main results:

* `isScalar_binary`, `isScalar_unary`, `Fold.isScalar_method` — **what operators and methods compute is
  no list**;
* `induction` — what holds of nested lists, from their items outward;
* `isScalar_of_mem_flatten`, `flatten_flatten` — nor is an item of a flattened list, and to flatten it again
  changes nothing.
-/

import ModelSql.Query.Binding
import ModelSql.Query.Fold
import ModelSql.Value.Arithmetic

set_option relaxedAutoImplicit false
set_option autoImplicit false

namespace ModelSql

namespace Value

/-- **Whether a value is no list.** -/
def isScalar : Value → Bool
  | list _ => false
  | _ => true

theorem ne_list_of_isScalar {v : Value} (h : v.isScalar = true) (items : List Value) :
    v ≠ list items := by
  rintro rfl
  cases h

/-! ### Operators -/

/-- A result that is wrapped by a constructor is no list when the constructor makes none. -/
theorem isScalar_of_map {α : Type} {r : Except Error α} {make : α → Value} {v : Value}
    (hmake : ∀ a, (make a).isScalar = true) (h : r.map make = .ok v) : v.isScalar = true := by
  cases r with
  | error e => cases h
  | ok a =>
      cases h
      exact hmake a

theorem isScalar_decimalSides {op : BinaryOp} {a b v : Value} (h : decimalSides op a b = .ok v) :
    v.isScalar = true := by
  unfold decimalSides at h
  split at h
  · exact isScalar_of_map (fun _ => rfl) h
  · cases h

theorem isScalar_arithmetic {op : BinaryOp} {a b v : Value} (h : arithmetic op a b = .ok v) :
    v.isScalar = true := by
  unfold arithmetic at h
  split at h
  case h_3 => exact isScalar_of_map (fun _ => rfl) h
  case h_4 => exact isScalar_decimalSides h
  case h_5 => exact isScalar_decimalSides h
  case h_9 =>
      split at h
      · cases h
        rfl
      · cases h
  all_goals
      cases h
      try rfl

theorem isScalar_bitwise {op : BinaryOp} {a b v : Value} (h : bitwise op a b = .ok v) :
    v.isScalar = true := by
  have hshift {p : Prop} [Decidable p] {n : Int64} {e : Error}
      (h : (if p then Except.ok (int n) else .error e) = .ok v) : v.isScalar = true := by
    split at h
    · cases h
      rfl
    · cases h
  unfold bitwise at h
  split at h
  · split at h
    case h_4 => exact hshift h
    case h_5 => exact hshift h
    all_goals
        cases h
        rfl
  · cases h

/-- **An operator between values that are no lists computes none.** -/
theorem isScalar_binary {op : BinaryOp} {a b v : Value} (ha : a.isScalar = true)
    (hb : b.isScalar = true) (h : Value.binary op a b = .ok v) : v.isScalar = true := by
  unfold Value.binary at h
  -- only `COALESCE` hands an operand on as it is
  split at h
  case h_9 =>
      cases h
      split
      · exact hb
      · exact ha
  case h_10 | h_11 | h_12 | h_13 | h_14 => exact isScalar_arithmetic h
  case h_15 | h_16 | h_17 | h_18 | h_19 => exact isScalar_bitwise h
  case h_3 | h_4 =>
      cases h
      rfl
  all_goals
      split at h
      · cases h
        rfl
      · cases h

theorem isScalar_unary {op : UnaryOp} {a v : Value} (h : Value.unary op a = .ok v) :
    v.isScalar = true := by
  unfold Value.unary at h
  split at h
  case h_3 =>
      split at h
      · cases h
        rfl
      · cases h
  all_goals
      cases h
      try rfl

/-! ### Nested lists -/

/-- **A property of nested lists** is shown of the values that are no lists, and of a list whose items have
it. -/
@[elab_as_elim]
theorem induction {motive : Value → Prop} (scalar : ∀ v, v.isScalar = true → motive v)
    (list : ∀ items, (∀ v ∈ items, motive v) → motive (.list items)) (v : Value) : motive v := by
  have hall : (∀ v, motive v) ∧ ∀ vs : List Value, ∀ v ∈ vs, motive v := by
    apply Value.flatten.mutual_induct
    case case1 => exact list
    case case2 =>
        intro v hv
        apply scalar
        cases v with
        | list items => exact absurd rfl (hv items)
        | _ => rfl
    case case3 => exact fun v hv => absurd hv List.not_mem_nil
    case case4 =>
        intro v vs ih ihs w hw
        rcases List.mem_cons.1 hw with rfl | hw
        · exact ih
        · exact ihs w hw
  exact hall.1 v

theorem flatten_of_isScalar {v : Value} (h : v.isScalar = true) : v.flatten = [v] := by
  rw [flatten]
  exact ne_list_of_isScalar h

theorem flattenAll_eq_flatMap (vs : List Value) : flattenAll vs = vs.flatMap flatten := by
  induction vs with
  | nil => exact flattenAll_nil
  | cons v vs ih => rw [flattenAll_cons, ih, List.flatMap_cons]

/-- **The items of a flattened list are no lists.** -/
theorem isScalar_of_mem_flatten {v w : Value} (h : w ∈ v.flatten) : w.isScalar = true := by
  induction v using induction with
  | scalar v hv =>
      rw [flatten_of_isScalar hv] at h
      rwa [List.mem_singleton.1 h]
  | list items ih =>
      rw [flatten_list, flattenAll_eq_flatMap] at h
      obtain ⟨v, hv, hw⟩ := List.mem_flatMap.1 h
      exact ih v hv hw

/-- A list without lists has none to open. -/
theorem flattenAll_of_isScalar {vs : List Value} (h : ∀ v ∈ vs, v.isScalar = true) :
    flattenAll vs = vs := by
  induction vs with
  | nil => exact flattenAll_nil
  | cons v vs ih =>
      rw [flattenAll_cons, flatten_of_isScalar (h v List.mem_cons_self),
        ih fun w hw => h w (List.mem_cons_of_mem v hw)]
      rfl

/-- **Opening the lists once opens them all.** -/
theorem flatten_flatten (v : Value) : (list v.flatten).flatten = v.flatten := by
  rw [flatten_list]
  exact flattenAll_of_isScalar fun w hw => isScalar_of_mem_flatten hw

/-! ### Columns -/

/-- A column stores a value that is no list as one. -/
theorem isScalar_coerce {hint : Option FieldType} {v : Value} (h : v.isScalar = true) :
    (coerce hint v).isScalar = true := by
  have hgetD {o : Option Value} (ho : ∀ w, o = some w → w.isScalar = true) :
      (o.getD v).isScalar = true := by
    cases o with
    | none => exact h
    | some w => exact ho w rfl
  unfold coerce
  split
  · split
    · exact h
    · apply hgetD
      intro w hw
      obtain ⟨t, -, rfl⟩ := Option.map_eq_some_iff.1 hw
      rfl
  · split
    · apply hgetD
      intro w hw
      obtain ⟨n, -, rfl⟩ := Option.map_eq_some_iff.1 hw
      rfl
    · exact h
  · split <;> rfl
  · split <;> rfl
  · rfl
  · rfl
  · exact h

end Value

/-- **A method of a value computes no list.** -/
theorem Fold.isScalar_method {m : StringMethod} {target v : Value} {args : List Value}
    (h : Fold.method m target args = .ok v) : v.isScalar = true := by
  unfold Fold.method at h
  split at h
  · cases h
  · cases m with
    | startsWith | endsWith | contains | substring => exact Value.isScalar_of_map (fun _ => rfl) h
    | _ =>
        cases h
        rfl

end ModelSql
