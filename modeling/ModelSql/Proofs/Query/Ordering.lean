/-
**The directions of sort keys.**

An ordering is given by an expression that may be a list, with lists in it, and with marks for descending
order around keys and around lists.  What is written is a list of keys again, one text for each key, in
order.  But a direction is a word behind a text.  It is put behind what is marked when that has been
written already, and behind each item of the outermost list unless the item is marked; so of several keys
only the last one has it, and a key that is the last one of several marked things has several.

Main definitions:

* `Expr.leaves` — the keys of an expression, and whether a mark is around them;
* `SortKey`, `Expr.keys` — **the keys as they are written**, with the words behind each of them;
* `SortKey.Shows` — the text of a key with these words;
* `Expr.itemKeys`, `Expr.orderedKeys`, `SortKey.ShowsItem` — the same with the direction of a call.

Main results:

* `Expr.filterMap_orderedKeys` — the keys are written in order, each of them once;
* `Scope.shows_keys_and` — **what an expression is written as**, by induction over lists and marks;
* `Expr.directions_eq_iff` — a key has its own direction behind it exactly when it has one word;
* `Query.perform_orderBy` — **the ordering that a call writes**.
-/

import Mathlib.Data.List.Forall2
import ModelSql.Proofs.Dialect.Form
import ModelSql.Proofs.Query.Computed
import ModelSql.Proofs.Query.Operation
import ModelSql.Proofs.Text.Words

set_option relaxedAutoImplicit false
set_option autoImplicit false

namespace ModelSql

/-! ### Keys -/

/-- A key as it is written: whether a mark is around it, and the words behind it. -/
structure SortKey where
  key : Expr
  marked : Bool
  directions : List String

namespace SortKey

/-- One more word behind the last key. -/
def close (w : String) : List SortKey → List SortKey
  | [] => []
  | [k] => [{ k with directions := k.directions ++ [w] }]
  | k :: l :: ks => k :: close w (l :: ks)

end SortKey

namespace Expr

/-- Whether an expression is a key itself, neither a list nor marked. -/
def isKey : Expr → Bool
  | .list _ | .desc _ => false
  | _ => true

mutual

/-- **The keys of an expression**, in order, and whether a mark is around them. -/
def leaves (marked : Bool) : Expr → List (Expr × Bool)
  | .list items => allLeaves marked items
  | .desc e => leaves true e
  | e => [(e, marked)]

/-- The keys of expressions. -/
def allLeaves (marked : Bool) : List Expr → List (Expr × Bool)
  | [] => []
  | e :: es => leaves marked e ++ allLeaves marked es

end

mutual

/-- **The keys of an expression as they are written.**  A list without items is written too. -/
def keys (marked : Bool) : Expr → List SortKey
  | .list [] => [⟨.list [], marked, []⟩]
  | .list (e :: es) => keys marked e ++ allKeys marked es
  | .desc e => SortKey.close "DESC" (keys true e)
  | e => [⟨e, marked, []⟩]

/-- The keys of expressions as they are written. -/
def allKeys (marked : Bool) : List Expr → List SortKey
  | [] => []
  | e :: es => keys marked e ++ allKeys marked es

end

/-- What a call puts behind an item: its direction, unless the item is marked. -/
def suffix (descending : Bool) (item : Expr) : String :=
  if item.isDesc then "" else " " ++ Query.directionText descending

/-- The keys of an item, with all the words behind them. -/
def itemKeys (descending : Bool) (item : Expr) : List SortKey :=
  if item.isDesc then item.keys false
  else SortKey.close (Query.directionText descending) (item.keys false)

/-- **The keys of an expression that is ordered by**, with all the words behind them. -/
def orderedKeys (descending : Bool) (e : Expr) : List SortKey := e.items.flatMap (itemKeys descending)

end Expr

namespace SortKey

/-- A key that the expression has, rather than a list without items. -/
def leaf? (k : SortKey) : Option (Expr × Bool) :=
  if k.key.isKey then some (k.key, k.marked) else none

/-- What an expression is written as, whatever has been bound before. -/
def Reads (s : Scope) (e : Expr) (t : String) : Prop :=
  ∃ b p c b' c', s.visit e b = .ok (p, c) ∧ s.operand none p b' = .ok (t, c')

/-- **The text of a key**: what the key is written as, and the words behind it. -/
def Shows (s : Scope) (k : SortKey) (text : String) : Prop :=
  ∃ t, Reads s k.key t ∧ text = k.directions.foldl (fun u w => u ++ " " ++ w) t

/-- **The text of an item**: those of its keys with commas between them, but for parentheses around all that
stands before the direction of the call. -/
def ShowsItem (s : Scope) (descending : Bool) (item : Expr) (text : String) : Prop :=
  ∃ texts body, List.Forall₂ (Shows s) (item.itemKeys descending) texts ∧
    Text.joinWith "," texts = body ++ item.suffix descending ∧
      text = stripOuter body ++ item.suffix descending

variable {s : Scope} {w : String} {k : SortKey} {ks : List SortKey}

theorem close_eq_nil : close w ks = [] ↔ ks = [] := by
  match ks with
  | [] => simp [close]
  | [k] => simp [close]
  | k :: l :: ks => simp [close]

/-- A word does not change what the keys are. -/
theorem filterMap_close (w : String) (ks : List SortKey) :
    (close w ks).filterMap leaf? = ks.filterMap leaf? := by
  induction ks using close.induct with
  | case1 => rfl
  | case2 k => rfl
  | case3 k l ks ih =>
      rw [close, List.filterMap_cons, ih]
      rfl

/-- The word is behind the last key. -/
theorem mem_close (h : k ∈ close w ks) :
    k ∈ ks ∨ ∃ l, ks.getLast? = some l ∧ k = { l with directions := l.directions ++ [w] } := by
  induction ks using close.induct with
  | case1 => cases h
  | case2 l => exact .inr ⟨l, rfl, List.mem_singleton.1 h⟩
  | case3 x y ks ih =>
      rw [close] at h
      rcases List.mem_cons.1 h with rfl | hrest
      · exact .inl List.mem_cons_self
      · rcases ih hrest with hmem | ⟨l, hl, hk⟩
        · exact .inl (List.mem_cons_of_mem x hmem)
        · exact .inr ⟨l, by rw [List.getLast?_cons_cons, hl], hk⟩

theorem getLast_close : (close w ks).getLast? =
    ks.getLast?.map fun l => { l with directions := l.directions ++ [w] } := by
  induction ks using close.induct with
  | case1 => rfl
  | case2 l => rfl
  | case3 x y ks ih =>
      obtain ⟨z, zs, hz⟩ := List.exists_cons_of_ne_nil (fun h => by simp [close_eq_nil] at h :
        close w (y :: ks) ≠ [])
      rw [close, List.getLast?_cons_cons, ← ih, hz, List.getLast?_cons_cons]

/-- A word behind the texts of keys is behind the last of them. -/
theorem shows_close (w : String) {texts : List String} (hne : ks ≠ [])
    (h : List.Forall₂ (Shows s) ks texts) : ∃ texts', List.Forall₂ (Shows s) (close w ks) texts' ∧
      Text.joinWith "," texts ++ (" " ++ w) = Text.joinWith "," texts' := by
  induction ks using close.induct generalizing texts with
  | case1 => exact absurd rfl hne
  | case2 k =>
      obtain ⟨text, texts, ⟨t, ht, rfl⟩, hnil, rfl⟩ := List.forall₂_cons_left_iff.1 h
      cases hnil
      refine ⟨[_], .cons ⟨t, ht, rfl⟩ .nil, ?_⟩
      simp [List.foldl_append, String.append_assoc]
  | case3 k l ks ih =>
      obtain ⟨text, texts, hk, hrest, rfl⟩ := List.forall₂_cons_left_iff.1 h
      obtain ⟨texts', hshow, hjoin⟩ := ih (by simp) hrest
      refine ⟨text :: texts', .cons hk hshow, ?_⟩
      -- neither list of texts is empty, so that both have a comma behind the first one
      obtain ⟨u, us, -, -, rfl⟩ := List.forall₂_cons_left_iff.1 hrest
      obtain ⟨v, vs, rfl⟩ : ∃ v vs, texts' = v :: vs := by
        cases hshow' : texts' with
        | nil =>
            rw [hshow', List.forall₂_nil_right_iff, close_eq_nil] at hshow
            cases hshow
        | cons v vs => exact ⟨v, vs, rfl⟩
      rw [Text.joinWith_cons_cons, Text.joinWith_cons_cons, String.append_assoc, hjoin]

end SortKey

/-! ### The keys that are written -/

namespace Expr

theorem keys_of_isKey {e : Expr} (m : Bool) (h : e.isKey = true) : e.keys m = [⟨e, m, []⟩] := by
  cases e with
  | list items => cases h
  | desc e => cases h
  | _ => rw [keys] <;> simp

theorem isDesc_of_isKey {e : Expr} (h : e.isKey = true) : e.isDesc = false := by
  cases e with
  | desc e => cases h
  | _ => rfl

theorem keys_ne_nil_and : (∀ (m : Bool) (e : Expr), e.keys m ≠ []) ∧
    ∀ (m : Bool) (es : List Expr), es ≠ [] → allKeys m es ≠ [] := by
  apply Expr.keys.mutual_induct
  case case1 => simp [keys]
  case case2 =>
      intro m e es ih _
      simp [keys, ih]
  case case3 =>
      intro m e ih
      simpa [keys, SortKey.close_eq_nil] using ih
  case case4 =>
      intro m e hlist hcons hdesc
      rw [keys] <;> first | assumption | simp
  case case5 => simp
  case case6 =>
      intro m e es ih _ _
      simp [allKeys, ih]

/-- **The keys are written in order, each of them once**; besides, lists without items are written. -/
theorem filterMap_keys_and :
    (∀ (m : Bool) (e : Expr), (e.keys m).filterMap SortKey.leaf? = e.leaves m) ∧
      ∀ (m : Bool) (es : List Expr), (allKeys m es).filterMap SortKey.leaf? = allLeaves m es := by
  apply Expr.keys.mutual_induct
  case case1 => simp [keys, leaves, allLeaves, SortKey.leaf?, isKey]
  case case2 =>
      intro m e es ih ihs
      rw [keys, List.filterMap_append, ih, ihs, leaves, allLeaves]
  case case3 =>
      intro m e ih
      rw [keys, SortKey.filterMap_close, ih, leaves]
  case case4 =>
      intro m e hnil hcons hdesc
      cases e with
      | list items =>
          cases items with
          | nil => exact absurd rfl hnil
          | cons e es => exact absurd rfl (hcons e es)
      | desc e => exact absurd rfl (hdesc e)
      | _ => simp [keys, leaves, SortKey.leaf?, isKey]
  case case5 => simp [allKeys, allLeaves]
  case case6 =>
      intro m e es ih ihs
      rw [allKeys, List.filterMap_append, ih, ihs, allLeaves]

/-- An expression is ordered by its keys, in order, each of them once. -/
theorem filterMap_orderedKeys (descending : Bool) (e : Expr) :
    (e.orderedKeys descending).filterMap SortKey.leaf? = e.leaves false := by
  have hitem (item : Expr) : (item.itemKeys descending).filterMap SortKey.leaf? = item.leaves false := by
    rw [itemKeys]
    split
    · exact filterMap_keys_and.1 false item
    · rw [SortKey.filterMap_close, filterMap_keys_and.1 false item]
  have hitems (es : List Expr) :
      (es.flatMap (itemKeys descending)).filterMap SortKey.leaf? = allLeaves false es := by
    induction es with
    | nil => rw [allLeaves]; rfl
    | cons e es ih => rw [List.flatMap_cons, List.filterMap_append, hitem, ih, allLeaves]
  rw [orderedKeys]
  cases e with
  | list es => rw [items, hitems, leaves]
  | _ => simp only [items, List.flatMap_cons, List.flatMap_nil, List.append_nil, hitem]

/-- The words behind a key before the direction of the call are those of marks around it. -/
theorem marked_of_mem_keys_and :
    (∀ (m : Bool) (e : Expr), ∀ k ∈ e.keys m, (∀ w ∈ k.directions, w = "DESC") ∧
      (m = true ∨ k.directions ≠ [] → k.marked = true)) ∧
    ∀ (m : Bool) (es : List Expr), ∀ k ∈ allKeys m es, (∀ w ∈ k.directions, w = "DESC") ∧
      (m = true ∨ k.directions ≠ [] → k.marked = true) := by
  apply Expr.keys.mutual_induct
  case case1 => simp [keys]
  case case2 | case6 =>
      intro m e es ih ihs k hk
      simp only [keys, allKeys] at hk
      exact (List.mem_append.1 hk).elim (ih k) (ihs k)
  case case3 =>
      intro m e ih k hk
      rw [keys] at hk
      rcases SortKey.mem_close hk with hmem | ⟨l, hl, rfl⟩
      · exact ⟨(ih k hmem).1, fun _ => (ih k hmem).2 (.inl rfl)⟩
      · have hmem : l ∈ e.keys true := List.mem_of_getLast? hl
        refine ⟨fun w hw => ?_, fun _ => (ih l hmem).2 (.inl rfl)⟩
        rcases List.mem_append.1 hw with hw | hw
        · exact (ih l hmem).1 w hw
        · exact List.mem_singleton.1 hw
  case case4 =>
      intro m e hnil hcons hdesc k hk
      rw [keys] at hk
      · obtain rfl := List.mem_singleton.1 hk
        simp
      all_goals assumption
  case case5 => simp [allKeys]

/-- The last key without a word behind it has no mark around it that is not around everything. -/
theorem marked_of_getLast_and :
    (∀ (m : Bool) (e : Expr) (k : SortKey), (e.keys m).getLast? = some k → k.directions = [] →
      k.marked = m) ∧
    ∀ (m : Bool) (es : List Expr) (k : SortKey), (allKeys m es).getLast? = some k →
      k.directions = [] → k.marked = m := by
  apply Expr.keys.mutual_induct
  case case1 =>
      intro m k hk _
      rw [keys, List.getLast?_singleton, Option.some.injEq] at hk
      rw [← hk]
  case case2 | case6 =>
      intro m e es ih ihs k hk hnone
      simp only [keys, allKeys, List.getLast?_append] at hk
      rcases Option.or_eq_some_iff.1 hk with hlast | ⟨-, hfirst⟩
      · exact ihs k hlast hnone
      · exact ih k hfirst hnone
  case case3 =>
      intro m e _ k hk hnone
      rw [keys, SortKey.getLast_close] at hk
      obtain ⟨l, -, rfl⟩ := Option.map_eq_some_iff.1 hk
      simp at hnone
  case case4 =>
      intro m e hnil hcons hdesc k hk _
      rw [keys] at hk
      · rw [List.getLast?_singleton, Option.some.injEq] at hk
        rw [← hk]
      all_goals assumption
  case case5 => simp [allKeys]

/-- **A key has its own direction behind it exactly when it has one word.** -/
theorem directions_eq_iff {descending : Bool} {e : Expr} {k : SortKey}
    (hk : k ∈ e.orderedKeys descending) :
    k.directions = [Query.directionText (descending || k.marked)] ↔ k.directions.length = 1 := by
  constructor
  · intro h
    rw [h, List.length_singleton]
  · intro h
    obtain ⟨w, hw⟩ := List.length_eq_one_iff.1 h
    -- a word that is there without the direction of the call is that of a mark
    have hmark {item : Expr} (hmem : k ∈ item.keys false) :
        k.directions = [Query.directionText (descending || k.marked)] := by
      obtain ⟨hword, hmarked⟩ := marked_of_mem_keys_and.1 false item k hmem
      rw [hmarked (.inr (by simp [hw])), Bool.or_true, hw,
        hword w (by rw [hw]; exact List.mem_singleton_self w)]
      rfl
    obtain ⟨item, -, hitem⟩ := List.mem_flatMap.1 hk
    rw [itemKeys] at hitem
    split at hitem
    · exact hmark hitem
    · rcases SortKey.mem_close hitem with hmem | ⟨l, hl, rfl⟩
      · exact hmark hmem
      · have hnone : l.directions = [] := by
          simpa using h
        rw [marked_of_getLast_and.1 false item l hl hnone, Bool.or_false, hnone, List.nil_append]

end Expr

/-! ### What is written -/

namespace Scope

open SortKey

variable {s : Scope}

/-- The placeholders of a list. -/
theorem bindParameters_eq_ok {hint : Option FieldType} {vs : List Value} {ts : List String}
    {b c : Bindings} (h : s.bindParameters hint vs b = .ok (ts, c)) :
    List.Forall₂ (fun v t => ∃ m n, s.bindParameter hint v m = .ok (t, n)) vs ts := by
  induction vs generalizing ts b with
  | nil =>
      rw [bindParameters] at h
      obtain ⟨rfl, rfl⟩ := pure_eq_ok.1 h
      exact .nil
  | cons v vs ih =>
      rw [bindParameters] at h
      obtain ⟨t, m, ht, hrest⟩ := bind_eq_ok.1 h
      obtain ⟨us, n, hus, hpure⟩ := bind_eq_ok.1 hrest
      obtain ⟨rfl, rfl⟩ := pure_eq_ok.1 hpure
      exact .cons ⟨b, m, ht⟩ (ih hus)

/-- A list of values is written as its items are. -/
theorem operand_list_eq_ok {vs : List Value} {t : String} {b c : Bindings}
    (h : s.operand none (.value (.list vs)) b = .ok (t, c)) :
    ∃ ts, List.Forall₂ (fun v t => ∃ m n, s.operand none (.value v) m = .ok (t, n)) vs ts ∧
      t = Text.joinWith "," ts := by
  simp only [operand, bind] at h ⊢
  split at h
  · rename_i hs
    rw [bindParameter] at h
    obtain ⟨ts, m, hts, hpure⟩ := bind_eq_ok.1 h
    obtain ⟨rfl, rfl⟩ := pure_eq_ok.1 hpure
    exact ⟨ts, by simpa only [hs, if_true] using bindParameters_eq_ok hts, rfl⟩
  · rename_i hs
    obtain ⟨hlit, rfl⟩ := outcome_eq_ok.1 h
    rw [Dialect.literal] at hlit
    obtain ⟨ts, hts, rfl⟩ := map_eq_ok hlit
    refine ⟨ts, (Dialect.literals_eq_ok.1 hts).imp fun v t ht => ?_, rfl⟩
    exact ⟨c, c, by rw [if_neg hs]; exact outcome_eq_ok.2 ⟨ht, rfl⟩⟩

/-- The operands of a list. -/
theorem operands_eq_ok {ps : List Fragment} {ts : List String} {b c : Bindings}
    (h : s.operands ps b = .ok (ts, c)) :
    List.Forall₂ (fun p t => ∃ m n, s.operand none p m = .ok (t, n)) ps ts := by
  induction ps generalizing ts b with
  | nil =>
      obtain ⟨rfl, rfl⟩ := pure_eq_ok.1 h
      exact .nil
  | cons p ps ih =>
      obtain ⟨t, m, ht, hrest⟩ := bind_eq_ok.1 h
      obtain ⟨us, n, hus, hpure⟩ := bind_eq_ok.1 hrest
      obtain ⟨rfl, rfl⟩ := pure_eq_ok.1 hpure
      exact .cons ⟨b, m, ht⟩ (ih hus)

/-- A list is written as its parts are, whether they are all values or not. -/
theorem listOf_operand_eq_ok {ps : List Fragment} {p : Fragment} {t : String} {b c b' c' : Bindings}
    (h : s.listOf ps b = .ok (p, c)) (ht : s.operand none p b' = .ok (t, c')) :
    ∃ ts, List.Forall₂ (fun p t => ∃ m n, s.operand none p m = .ok (t, n)) ps ts ∧
      t = Text.joinWith "," ts := by
  have hlist := h
  unfold listOf at h
  split at h
  · obtain ⟨rfl, rfl⟩ := pure_eq_ok.1 h
    obtain ⟨vs, rfl, hvs, -⟩ := listOf_value_iff.1 hlist
    rw [hvs] at ht
    obtain ⟨ts, hts, rfl⟩ := operand_list_eq_ok ht
    exact ⟨ts, List.forall₂_map_left_iff.2 hts, rfl⟩
  · obtain ⟨ts, m, hts, hpure⟩ := bind_eq_ok.1 h
    obtain ⟨rfl, rfl⟩ := pure_eq_ok.1 hpure
    obtain ⟨rfl, rfl⟩ := pure_eq_ok.1 ht
    exact ⟨ts, operands_eq_ok hts, rfl⟩

/-- A list is written as its items are, with commas between them. -/
theorem reads_list {es : List Expr} {t : String} (h : Reads s (.list es) t) :
    ∃ ts, List.Forall₂ (Reads s) es ts ∧ t = Text.joinWith "," ts := by
  obtain ⟨b, p, c, b', c', hp, ht⟩ := h
  rw [visit] at hp
  obtain ⟨ps, m, hps, hlist⟩ := bind_eq_ok.1 hp
  obtain ⟨ts, hts, rfl⟩ := listOf_operand_eq_ok hlist ht
  refine ⟨ts, ?_, rfl⟩
  have hvisits := visitAll_eq_ok hps
  clear hps hlist hp ht
  induction hvisits generalizing ts with
  | nil =>
      cases hts
      exact .nil
  | cons he _ ih =>
      obtain ⟨t, us, ⟨b', c', ht⟩, hus, rfl⟩ := List.forall₂_cons_left_iff.1 hts
      obtain ⟨b, c, he⟩ := he
      exact .cons ⟨b, _, c, b', c', he, ht⟩ (ih us hus)

/-- A mark is a word behind what is marked. -/
theorem reads_desc {e : Expr} {t : String} (h : Reads s (.desc e) t) :
    ∃ u, Reads s e u ∧ t = u ++ (" " ++ "DESC") := by
  obtain ⟨b, p, c, b', c', hp, ht⟩ := h
  obtain ⟨q, m, u, hq, hu, rfl⟩ := visit_desc hp
  obtain ⟨rfl, rfl⟩ := pure_eq_ok.1 ht
  exact ⟨u, ⟨b, q, m, m, c, hq, hu⟩, rfl⟩

/-- **What an expression is written as**: one text for each of its keys, with the words behind it, and commas
between them. -/
theorem shows_keys_and (s : Scope) :
    (∀ (m : Bool) (e : Expr) (t : String), Reads s e t →
      ∃ texts, List.Forall₂ (Shows s) (e.keys m) texts ∧ t = Text.joinWith "," texts) ∧
    ∀ (m : Bool) (es : List Expr) (ts : List String), List.Forall₂ (Reads s) es ts →
      ∃ texts, List.Forall₂ (Shows s) (Expr.allKeys m es) texts ∧
        Text.joinWith "," ts = Text.joinWith "," texts := by
  have hself (m : Bool) {e : Expr} {t : String} (h : Reads s e t) :
      ∃ texts, List.Forall₂ (Shows s) [⟨e, m, []⟩] texts ∧ t = Text.joinWith "," texts :=
    ⟨[t], .cons ⟨t, h, rfl⟩ .nil, rfl⟩
  -- the texts of an item and of those behind it, which are joined by one more comma
  have hcons (m : Bool) {e : Expr} {es : List Expr} {ts : List String}
      (ih : ∀ t, Reads s e t →
        ∃ texts, List.Forall₂ (Shows s) (e.keys m) texts ∧ t = Text.joinWith "," texts)
      (ihs : ∀ ts, List.Forall₂ (Reads s) es ts →
        ∃ texts, List.Forall₂ (Shows s) (Expr.allKeys m es) texts ∧
          Text.joinWith "," ts = Text.joinWith "," texts)
      (h : List.Forall₂ (Reads s) (e :: es) ts) :
      ∃ texts, List.Forall₂ (Shows s) (e.keys m ++ Expr.allKeys m es) texts ∧
        Text.joinWith "," ts = Text.joinWith "," texts := by
    obtain ⟨t, us, ht, hus, rfl⟩ := List.forall₂_cons_left_iff.1 h
    obtain ⟨first, hfirst, rfl⟩ := ih t ht
    obtain ⟨rest, hrest, hjoin⟩ := ihs us hus
    refine ⟨first ++ rest, List.rel_append hfirst hrest, ?_⟩
    by_cases hes : es = []
    · subst hes
      cases hus
      rw [Expr.allKeys] at hrest
      cases hrest
      simp
    · have hus' : us ≠ [] := by
        rintro rfl
        exact hes (List.forall₂_nil_right_iff.1 hus)
      have hrest' : rest ≠ [] := by
        rintro rfl
        exact Expr.keys_ne_nil_and.2 m es hes (List.forall₂_nil_right_iff.1 hrest)
      have hfirst' : first ≠ [] := by
        rintro rfl
        exact Expr.keys_ne_nil_and.1 m e (List.forall₂_nil_right_iff.1 hfirst)
      rw [Text.joinWith_cons hus', hjoin, Text.joinWith_append hfirst' hrest']
  apply Expr.keys.mutual_induct
  case case1 =>
      intro m t h
      rw [Expr.keys]
      exact hself m h
  case case2 =>
      intro m e es ih ihs t h
      obtain ⟨ts, hts, rfl⟩ := reads_list h
      rw [Expr.keys]
      exact hcons m ih ihs hts
  case case3 =>
      intro m e ih t h
      obtain ⟨u, hu, rfl⟩ := reads_desc h
      obtain ⟨texts, htexts, rfl⟩ := ih u hu
      rw [Expr.keys]
      exact shows_close "DESC" (Expr.keys_ne_nil_and.1 true e) htexts
  case case4 =>
      intro m e hnil hnecons hdesc t h
      rw [Expr.keys]
      · exact hself m h
      all_goals assumption
  case case5 =>
      intro m ts h
      cases h
      rw [Expr.allKeys]
      exact ⟨[], .nil, rfl⟩
  case case6 =>
      intro m e es ih ihs ts h
      rw [Expr.allKeys]
      exact hcons m ih ihs h

end Scope

/-! ### The calls on a descriptor -/

namespace Query

open SortKey

/-- **What an item is written as**, with the direction of the call. -/
theorem showsItem {s : Scope} {item : Expr} {t : String} (descending : Bool) (h : Reads s item t) :
    ShowsItem s descending item (stripOuter t ++ item.suffix descending) := by
  obtain ⟨texts, htexts, rfl⟩ := s.shows_keys_and.1 false item t h
  unfold ShowsItem Expr.itemKeys Expr.suffix
  split
  · exact ⟨texts, _, htexts, (String.append_empty).symm, rfl⟩
  · obtain ⟨texts', htexts', hjoin⟩ :=
      shows_close (directionText descending) (Expr.keys_ne_nil_and.1 false item) htexts
    exact ⟨texts', _, htexts', hjoin.symm, rfl⟩

/-- The sort keys of a call, one for each item. -/
theorem sortKeys_eq_ok {s : Scope} {descending : Bool} {items : List Expr} {ts : List String}
    {b c : Bindings} (h : sortKeys s (directionText descending) items b = .ok (ts, c)) :
    List.Forall₂ (ShowsItem s descending) items ts := by
  induction items generalizing ts b with
  | nil =>
      obtain ⟨rfl, rfl⟩ := pure_eq_ok.1 h
      exact .nil
  | cons e items ih =>
      obtain ⟨text, m, htext, hrest⟩ := bind_eq_ok.1 h
      obtain ⟨us, n, hus, hpure⟩ := bind_eq_ok.1 hrest
      obtain ⟨rfl, rfl⟩ := pure_eq_ok.1 hpure
      obtain ⟨p, k, hp, hstep⟩ := bind_eq_ok.1 htext
      obtain ⟨t, k', ht, hpure⟩ := bind_eq_ok.1 hstep
      obtain ⟨rfl, rfl⟩ := pure_eq_ok.1 hpure
      refine .cons ?_ (ih hus)
      have hshows := showsItem descending ⟨b, p, k, k, m, hp, ht⟩
      rw [Expr.suffix] at hshows
      split
      · rename_i hdesc
        rwa [if_pos hdesc, String.append_empty] at hshows
      · rename_i hdesc
        rwa [if_neg hdesc, ← String.append_assoc] at hshows

/-- **The ordering that a call writes.**  Every item of the outermost list is written as its keys, in order, each
of them once, with the words of marks and of the call behind the last key that they are about.  A key is
followed by its own direction, and by nothing else, exactly when it has one word behind it; this is so for
every key if the items are keys and marked keys. -/
theorem perform_orderBy {q q' : Query} {descending : Bool} {e : Expr}
    (h : q.perform (.orderBy descending e) = (.ok (), q')) :
    List.Forall₂ (ShowsItem q.scope descending) e.items q'.orderKeys ∧
      (e.orderedKeys descending).filterMap leaf? = e.leaves false ∧
      (∀ k ∈ e.orderedKeys descending,
        k.directions = [directionText (descending || k.marked)] ↔ k.directions.length = 1) ∧
      ((∀ item ∈ e.items, item.isKey = true ∨ ∃ x, item = .desc x ∧ x.isKey = true) →
        ∀ k ∈ e.orderedKeys descending, k.directions.length = 1) := by
  refine ⟨?_, Expr.filterMap_orderedKeys descending e, fun k hk => Expr.directions_eq_iff hk,
    fun hflat k hk => ?_⟩
  · rw [perform, setOrder] at h
    cases hw : q.write .orderBy false
        (sortKeys q.scope (directionText descending) e.items) with
    | error failed =>
        rw [hw] at h
        cases h
    | ok r =>
        rw [hw] at h
        cases h
        obtain ⟨vs, hkeys, -⟩ := write_eq_ok (binds_sortKeys q.scope _ e.items) hw
        exact sortKeys_eq_ok hkeys
  · obtain ⟨item, hitem, hk⟩ := List.mem_flatMap.1 hk
    rcases hflat item hitem with hkey | ⟨x, rfl, hkey⟩
    · rw [Expr.itemKeys, Expr.isDesc_of_isKey hkey, Expr.keys_of_isKey false hkey] at hk
      rw [List.mem_singleton.1 hk]
      rfl
    · rw [Expr.itemKeys, Expr.isDesc, if_pos rfl, Expr.keys, Expr.keys_of_isKey true hkey] at hk
      rw [List.mem_singleton.1 hk]
      rfl

/-- Two keys of which one is marked, in descending order. -/
theorem perform_orderBy_marked :
    let q := new DialectKind.sqlite.dialect people
    let e := Expr.list [.desc (.column "Name"), .column "Age"]
    (q.perform (.orderBy true e)).2.orderByText = "ORDER BY \"Name\" DESC,\"Age\" DESC" ∧
      List.Forall₂ (ShowsItem q.scope true) e.items (q.perform (.orderBy true e)).2.orderKeys ∧
      (∀ k ∈ e.orderedKeys true, k.directions.length = 1) := by
  intro q e
  have h : q.perform (.orderBy true e) = (.ok (), (q.perform (.orderBy true e)).2) := rfl
  refine ⟨by decide, (perform_orderBy h).1, (perform_orderBy h).2.2.2 fun item hitem => ?_⟩
  rcases List.mem_cons.1 hitem with rfl | hitem
  · exact .inr ⟨_, rfl, rfl⟩
  · rw [List.mem_singleton.1 hitem]
    exact .inl rfl

/-- Lists in the list, with a marked key at the end, and a mark around a list: the first key has no direction,
and the marked one has two. -/
theorem perform_orderBy_nested :
    let q := new DialectKind.sqlite.dialect people
    let nested := Expr.list [.list [.column "Name", .column "Age"]]
    let marked := Expr.list [.list [.column "Name", .desc (.column "Age")]]
    let around := Expr.desc (.list [.column "Name", .column "Age"])
    nested.leaves false = [(.column "Name", false), (.column "Age", false)] ∧
      (q.perform (.orderBy true nested)).2.orderByText = "ORDER BY \"Name\",\"Age\" DESC" ∧
      (q.perform (.orderBy true nested)).2.orderByText ≠ "ORDER BY \"Name\" DESC,\"Age\" DESC" ∧
      (q.perform (.orderBy false marked)).2.orderByText = "ORDER BY \"Name\",\"Age\" DESC ASC" ∧
      (q.perform (.orderBy false around)).2.orderByText = "ORDER BY \"Name\",\"Age\" DESC" :=
  ⟨rfl, by decide, by decide, by decide, by decide⟩

end Query

end ModelSql
