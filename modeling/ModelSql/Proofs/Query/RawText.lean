/-
**Raw text and its arguments.**

A reference in a raw text is a run of digits in braces.  The references of a text are found from the
front: the first one is the one that begins first, and the next one is looked for behind it.  What lies
between references is copied, and what stands for an argument is put in the place of its reference and not
read again, even if it looks like a reference itself.

Main definitions:

* `Raw.Begins` — the texts that begin with a reference;
* `Raw.Splits` — **a text as the references in it and the stretches before and behind them**;
* `Raw.Refers` — the argument that a reference stands for;
* `Raw.fill` — the stretches with texts in the places of the references;
* `Dialect.boundText`, `Scope.Inserts` — what stands for values, and what is bound for them.

Main results:

* `Raw.Splits.unique`, `Raw.exists_splits` — every text splits in exactly one way;
* `Scope.bindParameter_eq` — what a placeholder for a value looks like, the items of lists included;
* `Scope.rawFrom_eq_ok_iff` — the scan finds the references of the split;
* `Scope.raw_eq_ok_iff` — **when raw text is written, and as what**.
-/

import ModelSql.Proofs.Query.Mirror
import ModelSql.Proofs.Query.Operation

set_option relaxedAutoImplicit false
set_option autoImplicit false

namespace ModelSql

/-! ### References in a text -/

namespace Raw

/-- The digits of a reference. -/
def IsReference (digits : List Char) : Prop :=
  digits ≠ [] ∧ ∀ c ∈ digits, Text.isDecimalDigit c = true

/-- A reference: its digits in braces. -/
def mark (digits : List Char) : List Char := '\x7b' :: digits ++ ['\x7d']

/-- The texts that begin with a reference. -/
def Begins (cs : List Char) : Prop :=
  ∃ digits after, IsReference digits ∧ cs = mark digits ++ after

/-- Before `rest`, no reference begins within a stretch. -/
def Free (gap rest : List Char) : Prop :=
  ∀ pre post, gap = pre ++ post → post ≠ [] → ¬ Begins (post ++ rest)

/-- **A text as its references and the stretches around them**, from the front: before the first reference
none begins, the others are those of the text behind it, and none begins in what remains at the end. -/
inductive Splits : List Char → List (List Char × List Char) → List Char → Prop
  | tail {cs : List Char} : Free cs [] → Splits cs [] cs
  | reference {gap digits after tail : List Char} {hits : List (List Char × List Char)} :
      IsReference digits → Free gap (mark digits ++ after) → Splits after hits tail →
      Splits (gap ++ (mark digits ++ after)) ((gap, digits) :: hits) tail

/-- The argument that a reference stands for: its digits are those of ASCII and count an argument, in 64
bits. -/
def Refers (args : List Value) (digits : List Char) (v : Value) : Prop :=
  (∀ c ∈ digits, c.isDigit = true) ∧ Text.natOfDigits digits < Numeric.twoTo 64 ∧
    args[Text.natOfDigits digits]? = some v

/-- Texts in the places of the references. -/
def fill : List (List Char × List Char) → List String → List Char → List Char
  | (gap, _) :: hits, t :: ts, tail => gap ++ t.toList ++ fill hits ts tail
  | _, _, tail => tail

variable {args : List Value} {cs digits after gap rest : List Char} {v : Value}

theorem mark_append (digits after : List Char) :
    mark digits ++ after = '\x7b' :: (digits ++ '\x7d' :: after) := by
  simp [mark]

/-! ### The reference at the front -/

/-- **What is found at the front of a text** is a reference. -/
theorem reference_eq_some : reference? cs = some (digits, after) ↔
    IsReference digits ∧ cs = mark digits ++ after := by
  constructor
  · intro h
    unfold reference? at h
    split at h
    · rename_i rest
      dsimp only at h
      split at h
      · rename_i d ds after' hdigits hafter
        cases h
        have hall (c : Char) (hc : c ∈ d :: ds) : Text.isDecimalDigit c = true := by
          rw [← hdigits] at hc
          exact (List.all_eq_true.1 List.all_takeWhile) c hc
        refine ⟨⟨by rw [hdigits]; simp, by rw [hdigits]; exact hall⟩, ?_⟩
        have hrest : rest.takeWhile Text.isDecimalDigit <+: rest := List.takeWhile_prefix _
        rw [List.prefix_iff_eq_append] at hrest
        rw [mark_append, ← hafter, hrest]
      · cases h
    · cases h
  · rintro ⟨⟨hne, hall⟩, rfl⟩
    have htake : (digits ++ '\x7d' :: after).takeWhile Text.isDecimalDigit = digits := by
      rw [List.takeWhile_append_of_pos hall, List.takeWhile_cons_of_neg (by decide), List.append_nil]
    have hdrop : (digits ++ '\x7d' :: after).drop digits.length = '\x7d' :: after := List.drop_left
    obtain ⟨d, ds, rfl⟩ := List.exists_cons_of_ne_nil hne
    rw [mark_append]
    simp only [reference?, htake, hdrop]

theorem reference_eq_none : reference? cs = none ↔ ¬ Begins cs := by
  rw [Option.eq_none_iff_forall_ne_some]
  constructor
  · rintro h ⟨digits, after, hd, hcs⟩
    exact h _ (reference_eq_some.2 ⟨hd, hcs⟩)
  · rintro h ⟨digits, after⟩ hr
    obtain ⟨hd, hcs⟩ := reference_eq_some.1 hr
    exact h ⟨digits, after, hd, hcs⟩

/-- **The argument of a reference** is the one that its digits count. -/
theorem argument_eq_some : (index? digits).bind (args[·]?) = some v ↔ Refers args digits v := by
  unfold index? Refers
  simp only [List.all_eq_true]
  split
  · split
    · rename_i hall hlt
      simp only [Option.bind_some, hlt, true_and, iff_and_self]
      exact fun _ => hall
    · rename_i hlt
      simp [hlt]
  · rename_i hall
    simp [hall]

/-! ### The references of a text -/

theorem free_nil (rest : List Char) : Free [] rest := by
  intro pre post h hne
  exact absurd (List.append_eq_nil_iff.1 h.symm).2 hne

/-- A stretch begins at its first character. -/
theorem free_cons {c : Char} : Free (c :: gap) rest ↔ ¬ Begins (c :: gap ++ rest) ∧ Free gap rest := by
  constructor
  · intro h
    exact ⟨h [] (c :: gap) rfl (by simp), fun pre post hgap => h (c :: pre) post (by simp [hgap])⟩
  · rintro ⟨hc, h⟩ pre post hpre hne
    cases pre with
    | nil =>
        rw [List.nil_append] at hpre
        rw [← hpre]
        exact hc
    | cons x pre =>
        cases hpre
        exact h pre post rfl hne

/-- A character in front of a text at which no reference begins. -/
theorem Splits.cons {c : Char} {hits : List (List Char × List Char)} {tail : List Char}
    (hc : ¬ Begins (c :: cs)) (h : Splits cs hits tail) :
    ∃ hits' tail', Splits (c :: cs) hits' tail' := by
  cases h with
  | tail hfree => exact ⟨[], c :: cs, .tail (free_cons.2 ⟨by simpa using hc, hfree⟩)⟩
  | reference hd hfree hrest => exact ⟨_, _, .reference hd (free_cons.2 ⟨hc, hfree⟩) hrest⟩

/-- **Every text splits.** -/
theorem exists_splits (cs : List Char) : ∃ hits tail, Splits cs hits tail := by
  -- from the front; behind a reference the text is shorter
  induction hn : cs.length using Nat.strongRecOn generalizing cs with
  | ind n ih =>
      subst hn
      cases cs with
      | nil => exact ⟨[], [], .tail (free_nil [])⟩
      | cons c cs =>
          by_cases hc : Begins (c :: cs)
          · obtain ⟨digits, after, hd, hcs⟩ := hc
            have hlt : after.length < (c :: cs).length := by
              simp only [hcs, mark, List.length_append, List.length_cons]
              omega
            obtain ⟨hits, tail, h⟩ := ih after.length hlt after rfl
            have hsplit := Splits.reference hd (free_nil (mark digits ++ after)) h
            rw [hcs]
            exact ⟨_, tail, hsplit⟩
          · obtain ⟨hits, tail, h⟩ := ih cs.length (Nat.lt_succ_self _) cs rfl
            exact h.cons hc

/-- Where no reference begins within two stretches, neither of them is longer than the other. -/
theorem Free.append_eq {gap' rest' : List Char} (h : Free gap rest) (h' : Free gap' rest')
    (hr : Begins rest) (hr' : Begins rest') (heq : gap ++ rest = gap' ++ rest') :
    gap = gap' ∧ rest = rest' := by
  rcases List.append_eq_append_iff.1 heq with ⟨x, hx, hrest⟩ | ⟨x, hx, hrest⟩
  · by_cases hne : x = []
    · subst hne
      exact ⟨by simpa using hx.symm, by simpa using hrest⟩
    · rw [hrest] at hr
      exact absurd hr (h' gap x hx hne)
  · by_cases hne : x = []
    · subst hne
      exact ⟨by simpa using hx, by simpa using hrest.symm⟩
    · rw [hrest] at hr'
      exact absurd hr' (h gap' x hx hne)

theorem begins_mark (hd : IsReference digits) (after : List Char) : Begins (mark digits ++ after) :=
  ⟨digits, after, hd, rfl⟩

/-- A text in which no reference begins does not split at one. -/
theorem Free.not_reference (h : Free (gap ++ (mark digits ++ after)) []) : ¬ IsReference digits := by
  intro hd
  refine h gap (mark digits ++ after) rfl (by simp [mark]) ?_
  rw [List.append_nil]
  exact begins_mark hd after

/-- **A text splits in one way.** -/
theorem Splits.unique {hits hits' : List (List Char × List Char)} {tail tail' : List Char}
    (h : Splits cs hits tail) (h' : Splits cs hits' tail') : hits' = hits ∧ tail' = tail := by
  induction h generalizing hits' with
  | tail hfree =>
      cases h' with
      | tail => exact ⟨rfl, rfl⟩
      | reference hd' => exact absurd hd' hfree.not_reference
  | @reference gap digits after tail hits hd hfree _ ih =>
      generalize hcs : gap ++ (mark digits ++ after) = cs at h'
      cases h' with
      | tail hfree' =>
          rw [← hcs] at hfree'
          exact absurd hd hfree'.not_reference
      | @reference gap' digits' after' _ _ hd' hfree' hrest' =>
          obtain ⟨rfl, hmark⟩ := hfree.append_eq hfree' (begins_mark hd _) (begins_mark hd' _) hcs
          have hread := reference_eq_some.2 ⟨hd, hmark.symm⟩
          rw [reference_eq_some.2 ⟨hd', rfl⟩] at hread
          cases hread
          obtain ⟨rfl, rfl⟩ := ih hrest'
          exact ⟨rfl, rfl⟩

end Raw

/-! ### What stands for a value -/

mutual

/-- What stands for a value where values are bound, the next placeholder having the given number: null is
written, and a list is its items, separated by commas. -/
def Dialect.boundText (d : Dialect) (n : Nat) : Value → String
  | .null => "NULL"
  | .list items => Text.joinWith "," (boundTexts d n items)
  | _ => d.placeholder n

/-- What stands for values, one after the other. -/
def Dialect.boundTexts (d : Dialect) (n : Nat) : List Value → List String
  | [] => []
  | v :: vs =>
    boundText d n v :: boundTexts d (n + (v.flatten.filter (!·.isNull)).length) vs

end

namespace Scope

variable {s : Scope} {args : List Value}

/-- **A value where values are bound.** -/
theorem bindParameter_eq_and (s : Scope) :
    (∀ v b, s.bindParameter none v b = .ok (s.dialect.boundText b.counter v,
      b.extend s.dialect (Occurrence.storedFor none v.flatten))) ∧
      ∀ vs b, s.bindParameters none vs b = .ok (s.dialect.boundTexts b.counter vs,
        b.extend s.dialect (Occurrence.storedFor none (Value.flattenAll vs))) := by
  apply Scope.bindParameter.mutual_induct
  case case1 =>
      intro b
      rw [bindParameter, Dialect.literal, Dialect.boundText]
      simp [Occurrence.storedFor, Value.flatten, Value.isNull, outcome]
  case case2 =>
      intro items ih b
      rw [bindParameter, Dialect.boundText, Value.flatten_list, bind_eq_ok]
      exact ⟨_, _, ih b, rfl⟩
  case case3 =>
      intro v hn hl b
      rw [bindParameter_of_ne hn hl, Dialect.boundText]
      all_goals assumption
  case case4 =>
      intro b
      rw [bindParameters, Dialect.boundTexts]
      simp [Occurrence.storedFor, pure_eq_ok]
  case case5 =>
      intro v vs ih ihs b
      rw [bindParameters, Dialect.boundTexts, bind_eq_ok]
      refine ⟨_, _, ih b, bind_eq_ok.2 ⟨_, _, ihs _, ?_⟩⟩
      rw [pure_eq_ok, Bindings.extend_extend, Bindings.counter_extend, Value.flattenAll_cons]
      simp [Occurrence.storedFor]

/-- **What stands for values**, and what is bound for them: literals, or the next placeholders. -/
def Inserts (s : Scope) (b : Bindings) (vs : List Value) (ts : List String) (c : Bindings) : Prop :=
  if s.parameterized then
    ts = s.dialect.boundTexts b.counter vs ∧
      c = b.extend s.dialect (Occurrence.storedFor none (Value.flattenAll vs))
  else List.Forall₂ (fun v t => s.dialect.literal none v = .ok t) vs ts ∧ c = b

theorem inserts_nil {b c : Bindings} {ts : List String} : s.Inserts b [] ts c ↔ ts = [] ∧ c = b := by
  unfold Inserts
  split
  · rw [Dialect.boundTexts]
    simp [Occurrence.storedFor]
  · simp

/-- One value after the other. -/
theorem inserts_cons {b c : Bindings} {v : Value} {vs : List Value} {ts : List String} :
    s.Inserts b (v :: vs) ts c ↔
      ∃ t us m, s.bind none v b = .ok (t, m) ∧ s.Inserts m vs us c ∧ ts = t :: us := by
  unfold Inserts bind
  split
  · simp only [s.bindParameter_eq_and.1, Except.ok.injEq, Prod.mk.injEq, Dialect.boundTexts,
      Value.flattenAll_cons]
    constructor
    · rintro ⟨rfl, rfl⟩
      refine ⟨_, _, _, ⟨rfl, rfl⟩, ⟨?_, ?_⟩, rfl⟩
      · simp [Occurrence.storedFor]
      · simp [Bindings.extend_extend, Occurrence.storedFor]
    · rintro ⟨t, us, m, ⟨rfl, rfl⟩, ⟨rfl, rfl⟩, rfl⟩
      simp [Bindings.extend_extend, Occurrence.storedFor]
  · constructor
    · rintro ⟨h, rfl⟩
      cases h with
      | cons ht hrest => exact ⟨_, _, c, outcome_eq_ok.2 ⟨ht, rfl⟩, ⟨hrest, rfl⟩, rfl⟩
    · rintro ⟨t, us, m, ht, ⟨hrest, rfl⟩, rfl⟩
      obtain ⟨hval, rfl⟩ := outcome_eq_ok.1 ht
      exact ⟨.cons hval hrest, rfl⟩

/-- Values are written exactly when each of them can be: always, where values are bound. -/
theorem exists_inserts_iff {b : Bindings} {vs : List Value} : (∃ ts c, s.Inserts b vs ts c) ↔
    ∀ v ∈ vs, s.parameterized = true ∨ ∃ t, s.dialect.literal none v = .ok t := by
  unfold Inserts
  split
  · rename_i hs
    exact iff_of_true ⟨_, _, rfl, rfl⟩ fun _ _ => .inl hs
  · rename_i hs
    induction vs with
    | nil => exact iff_of_true ⟨[], b, .nil, rfl⟩ (by simp)
    | cons v vs ih =>
        rw [List.forall_mem_cons, ← ih, or_iff_right hs]
        constructor
        · rintro ⟨_, c, hall, rfl⟩
          obtain ⟨t, ts, ht, hts, rfl⟩ := List.forall₂_cons_left_iff.1 hall
          exact ⟨⟨t, ht⟩, ts, c, hts, rfl⟩
        · rintro ⟨⟨t, ht⟩, ts, c, hrest, rfl⟩
          exact ⟨t :: ts, c, .cons ht hrest, rfl⟩

/-- Every reference has an argument with a property exactly when there are such arguments for all. -/
theorem exists_arguments_iff {P : Value → Prop} {hits : List (List Char × List Char)} :
    (∃ vs, List.Forall₂ (fun hit v => Raw.Refers args hit.2 v) hits vs ∧ ∀ v ∈ vs, P v) ↔
      ∀ hit ∈ hits, ∃ v, Raw.Refers args hit.2 v ∧ P v := by
  induction hits with
  | nil => exact iff_of_true ⟨[], .nil, by simp⟩ (by simp)
  | cons hit hits ih =>
      rw [List.forall_mem_cons, ← ih]
      constructor
      · rintro ⟨_, hall, hP⟩
        obtain ⟨v, vs, hv, hvs, rfl⟩ := List.forall₂_cons_left_iff.1 hall
        rw [List.forall_mem_cons] at hP
        exact ⟨⟨v, hv, hP.1⟩, vs, hvs, hP.2⟩
      · rintro ⟨⟨v, hv, hPv⟩, vs, hvs, hP⟩
        exact ⟨v :: vs, .cons hv hvs, List.forall_mem_cons.2 ⟨hPv, hP⟩⟩

/-! ### The scan -/

variable {gap rest digits after : List Char}

theorem rawFrom_nil (s : Scope) (args : List Value) (fuel : Nat) : s.rawFrom args fuel [] = pure [] := by
  cases fuel <;> rw [rawFrom]

/-- A stretch without references is copied. -/
theorem rawFrom_free (s : Scope) (args : List Value) (fuel : Nat) (h : Raw.Free gap rest) :
    s.rawFrom args (gap.length + fuel) (gap ++ rest) = (do
      let cs ← s.rawFrom args fuel rest
      return gap ++ cs) := by
  induction gap with
  | nil => simp
  | cons c gap ih =>
      obtain ⟨hc, hgap⟩ := Raw.free_cons.1 h
      have hfuel : (c :: gap).length + fuel = gap.length + fuel + 1 := by
        rw [List.length_cons]
        omega
      rw [List.cons_append] at hc ⊢
      rw [hfuel, rawFrom, Raw.reference_eq_none.2 hc]
      simp only [ih hgap, bind_assoc, pure_bind, List.cons_append]

/-- A reference is replaced by what stands for its argument. -/
theorem rawFrom_reference (s : Scope) (args : List Value) (fuel : Nat) (hd : Raw.IsReference digits) :
    s.rawFrom args (fuel + 1) (Raw.mark digits ++ after) =
      match (Raw.index? digits).bind (args[·]?) with
      | none => fail (Raw.missing digits args.length)
      | some v => do
        let text ← s.bind none v
        let cs ← s.rawFrom args fuel after
        return text.toList ++ cs := by
  have hread : Raw.reference? (Raw.mark digits ++ after) = some (digits, after) :=
    Raw.reference_eq_some.2 ⟨hd, rfl⟩
  rw [Raw.mark_append] at hread ⊢
  cases hv : (Raw.index? digits).bind (args[·]?) with
  | none => simp only [rawFrom, hread, hv]
  | some v => simp only [rawFrom, hread, hv]

/-- **The scan finds the references of the split**, and writes their arguments one after the other. -/
theorem rawFrom_eq_ok_iff {cs tail : List Char} {hits : List (List Char × List Char)}
    (h : Raw.Splits cs hits tail) {fuel : Nat} (hfuel : cs.length ≤ fuel) {b c : Bindings}
    {r : List Char} : s.rawFrom args fuel cs b = .ok (r, c) ↔
      ∃ vs ts, List.Forall₂ (fun hit v => Raw.Refers args hit.2 v) hits vs ∧ s.Inserts b vs ts c ∧
        r = Raw.fill hits ts tail := by
  induction h generalizing fuel b r with
  | @tail cs hfree =>
      obtain ⟨k, rfl⟩ := Nat.exists_eq_add_of_le hfuel
      have hscan := s.rawFrom_free args k hfree
      rw [List.append_nil, rawFrom_nil, pure_bind, List.append_nil] at hscan
      rw [hscan, pure_eq_ok]
      constructor
      · rintro ⟨rfl, rfl⟩
        exact ⟨[], [], .nil, inserts_nil.2 ⟨rfl, rfl⟩, rfl⟩
      · rintro ⟨vs, ts, hvs, hts, rfl⟩
        cases hvs
        exact ⟨rfl, (inserts_nil.1 hts).2⟩
  | @reference gap digits after tail hits hd hfree _ ih =>
      -- the fuel lasts for the stretch, for the reference, and for what follows it
      obtain ⟨k, rfl, hk⟩ : ∃ k, fuel = gap.length + (k + 1) ∧ after.length ≤ k := by
        simp only [Raw.mark, List.length_append, List.length_cons, List.length_nil] at hfuel
        exact ⟨fuel - gap.length - 1, by omega, by omega⟩
      rw [s.rawFrom_free args (k + 1) hfree, s.rawFrom_reference args k hd]
      constructor
      · intro h
        obtain ⟨cs, m, hcs, hpure⟩ := bind_eq_ok.1 h
        obtain ⟨rfl, rfl⟩ := pure_eq_ok.1 hpure
        cases hv : (Raw.index? digits).bind (args[·]?) with
        | none =>
            rw [hv] at hcs
            exact absurd hcs fail_ne_ok
        | some v =>
            rw [hv] at hcs
            obtain ⟨t, n, ht, hrest⟩ := bind_eq_ok.1 hcs
            obtain ⟨us, k', hus, hpure⟩ := bind_eq_ok.1 hrest
            obtain ⟨rfl, rfl⟩ := pure_eq_ok.1 hpure
            obtain ⟨vs, ts, hvs, hts, rfl⟩ := (ih hk).1 hus
            refine ⟨v :: vs, t :: ts, .cons (Raw.argument_eq_some.1 hv) hvs,
              inserts_cons.2 ⟨t, ts, n, ht, hts, rfl⟩, ?_⟩
            rw [Raw.fill, List.append_assoc]
      · rintro ⟨_, ts, hall, hts, rfl⟩
        obtain ⟨v, vs, hv, hvs, rfl⟩ := List.forall₂_cons_left_iff.1 hall
        obtain ⟨t, us, m, ht, hus, rfl⟩ := inserts_cons.1 hts
        refine bind_eq_ok.2 ⟨t.toList ++ Raw.fill hits us tail, c, ?_, ?_⟩
        · rw [Raw.argument_eq_some.2 hv]
          exact bind_eq_ok.2 ⟨t, m, ht, bind_eq_ok.2 ⟨_, c, (ih hk).2 ⟨vs, us, hvs, hus, rfl⟩, rfl⟩⟩
        · rw [pure_eq_ok, Raw.fill, List.append_assoc]
          exact ⟨rfl, rfl⟩

/-- **Raw text with its arguments in place.**  A text splits in one way at its references, the first one
being the one that begins first.  It is written exactly when each reference counts an argument that can be
written, and then every reference is replaced by what stands for its argument, a literal, or where values
are bound the next placeholders, one for each value in it but null.  All the rest is copied, and what
replaces a reference is not looked at again. -/
theorem raw_eq_ok_iff (s : Scope) (sql : String) (args : List Value) : ∃ hits tail,
    Raw.Splits sql.toList hits tail ∧
      (∀ hits' tail', Raw.Splits sql.toList hits' tail' → hits' = hits ∧ tail' = tail) ∧
      (∀ b, (∃ r c, s.raw sql args b = .ok (r, c)) ↔ ∀ hit ∈ hits, ∃ v, Raw.Refers args hit.2 v ∧
        (s.parameterized = true ∨ ∃ t, s.dialect.literal none v = .ok t)) ∧
      ∀ b r c, s.raw sql args b = .ok (r, c) ↔
        ∃ vs ts, List.Forall₂ (fun hit v => Raw.Refers args hit.2 v) hits vs ∧ s.Inserts b vs ts c ∧
          r.toList = Raw.fill hits ts tail := by
  obtain ⟨hits, tail, hsplit⟩ := Raw.exists_splits sql.toList
  have hraw (b : Bindings) (r : String) (c : Bindings) : s.raw sql args b = .ok (r, c) ↔
      ∃ vs ts, List.Forall₂ (fun hit v => Raw.Refers args hit.2 v) hits vs ∧ s.Inserts b vs ts c ∧
        r.toList = Raw.fill hits ts tail := by
    rw [← rawFrom_eq_ok_iff hsplit (Nat.le_of_eq String.length_toList), raw, bind_eq_ok]
    constructor
    · rintro ⟨cs, m, hcs, hpure⟩
      obtain ⟨rfl, rfl⟩ := pure_eq_ok.1 hpure
      rwa [String.toList_ofList]
    · intro h
      exact ⟨_, _, h, pure_eq_ok.2 ⟨String.ofList_toList.symm, rfl⟩⟩
  refine ⟨hits, tail, hsplit, fun _ _ h => hsplit.unique h, fun b => ?_, hraw⟩
  rw [← exists_arguments_iff]
  constructor
  · rintro ⟨r, c, h⟩
    obtain ⟨vs, ts, hvs, hts, -⟩ := (hraw b r c).1 h
    exact ⟨vs, hvs, exists_inserts_iff.1 ⟨ts, c, hts⟩⟩
  · rintro ⟨vs, hvs, hall⟩
    obtain ⟨ts, c, hts⟩ := exists_inserts_iff.2 hall
    exact ⟨String.ofList (Raw.fill hits ts tail), c,
      (hraw b _ c).2 ⟨vs, ts, hvs, hts, String.toList_ofList⟩⟩

/-- Braces around a reference, an argument that looks like one, and a reference that comes twice. -/
example :
    let s : Scope := ⟨DialectKind.sqlite.dialect, Query.people, true, false⟩
    s.raw "\x7b\x7b0\x7d\x7d \x7b1\x7d\x7b0\x7d\x7bx" [.text "\x7b1\x7d", .list [.int 1, .null]]
      ⟨.empty, 0⟩ = .ok ("\x7b@0\x7d @1,NULL@2\x7bx",
        ⟨⟨[("@0", .text "\x7b1\x7d"), ("@1", .int 1), ("@2", .text "\x7b1\x7d")]⟩, 3⟩) := rfl

end Scope

end ModelSql
