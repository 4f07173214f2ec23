/-
**Every parameter belongs to one clause.**

The parameters of a descriptor stand under placeholders with increasing numbers, all of them below
the counter, so that the next placeholder is always new.  Each belongs to exactly one clause, and a
clause owns nothing that is not bound.  Calls keep this: a clause that is written drops what it
owned, and only that, and owns what it binds.

Main definitions:

* `Query.Tracked` — **parameters and clauses agree**.

Main results:

* `Dialect.placeholder_injective` — different numbers have different placeholders;
* `Query.Tracked.rewrite` — writing a clause keeps the agreement;
* `Query.get?_rewrite` — and the parameters of every other clause;
* `Query.reachable_tracked` — **the agreement after any run of calls**.
-/

import ModelSql.Proofs.Dialect.Form
import ModelSql.Proofs.Query.Operation

set_option relaxedAutoImplicit false
set_option autoImplicit false

namespace ModelSql

/-! ### Placeholders and names -/

/-- Different numbers have different placeholders. -/
theorem Dialect.placeholder_injective {d : Dialect} {m n : Nat}
    (h : d.placeholder m = d.placeholder n) : m = n := by
  have hmn : toString m = toString n := (String.append_right_inj _).1 h
  rw [Nat.toString_eq_ofList_toDigits, Nat.toString_eq_ofList_toDigits] at hmn
  exact Text.toDigits_injective (String.ofList_injective hmn)

namespace Parameters

theorem names_removeAll (p : Parameters) (names : List String) :
    (p.removeAll names).names = p.names.filter fun name => !names.contains name := by
  simp [removeAll, Parameters.names, List.filter_map, Function.comp_def]

/-- Dropping parameters keeps every value that is not dropped. -/
theorem get?_removeAll {p : Parameters} {names : List String} {name : String}
    (h : name ∉ names) : (p.removeAll names).get? name = p.get? name := by
  obtain ⟨entries⟩ := p
  simp only [removeAll, get?]
  induction entries with
  | nil => rfl
  | cons e es ih =>
      obtain ⟨k, v⟩ := e
      cases hk : names.contains k with
      | true =>
          have hne : (name == k) = false := by
            rw [beq_eq_false_iff_ne]
            rintro rfl
            exact h (List.contains_iff_mem.1 hk)
          rw [List.filter_cons_of_neg (by simp only [hk]; decide), ih, List.lookup_cons, hne]
      | false =>
          rw [List.filter_cons_of_pos (by simp only [hk]; decide), List.lookup_cons, List.lookup_cons, ih]

/-- A name that is bound has a value. -/
theorem exists_get?_of_mem {p : Parameters} {name : String} (h : name ∈ p.names) :
    ∃ v, p.get? name = some v := by
  obtain ⟨entries⟩ := p
  simp only [Parameters.names, get?] at h ⊢
  induction entries with
  | nil => simp at h
  | cons e es ih =>
      obtain ⟨k, v⟩ := e
      rw [List.lookup_cons]
      cases hk : name == k with
      | true => exact ⟨v, rfl⟩
      | false =>
          rw [List.map_cons, List.mem_cons] at h
          exact ih (h.resolve_left (ne_of_beq_false hk))

end Parameters

namespace Query

/-! ### Agreement of parameters and clauses -/

/-- **Parameters and clauses agree.**  The names are the placeholders of increasing numbers below the
counter; every name belongs to exactly one clause, and a clause owns bound names only. -/
structure Tracked (q : Query) : Prop where
  numbered : ∃ ns : List Nat, ns.Pairwise (· < ·) ∧ (∀ n ∈ ns, n < q.counter) ∧
    q.parameters.names = ns.map q.dialect.placeholder
  owner : ∀ name ∈ q.parameters.names, ∃ c, name ∈ q.owned c ∧ ∀ k, name ∈ q.owned k → k = c
  bound : ∀ c, ∀ name ∈ q.owned c, name ∈ q.parameters.names

theorem Tracked.congr {q q' : Query} (h : q.Tracked) (hs : SameBindings q q') : q'.Tracked := by
  constructor
  · rw [hs.parameters, hs.counter, hs.dialect]
    exact h.numbered
  · rw [hs.parameters, hs.owned]
    exact h.owner
  · rw [hs.parameters, hs.owned]
    exact h.bound

/-- The names of different parameters differ. -/
theorem Tracked.nodup {q : Query} (h : q.Tracked) : q.parameters.names.Nodup := by
  obtain ⟨ns, hlt, -, hnames⟩ := h.numbered
  rw [hnames, List.nodup_iff_pairwise_ne, List.pairwise_map]
  refine hlt.imp fun {m n} hmn heq => ?_
  exact absurd (Dialect.placeholder_injective heq) (Nat.ne_of_lt hmn)

/-- A placeholder from the counter on is not bound yet. -/
theorem Tracked.fresh {q : Query} (h : q.Tracked) {n : Nat} (hn : q.counter ≤ n) :
    q.dialect.placeholder n ∉ q.parameters.names := by
  obtain ⟨ns, -, hlt, hnames⟩ := h.numbered
  intro hmem
  rw [hnames, List.mem_map] at hmem
  obtain ⟨m, hm, heq⟩ := hmem
  have := hlt m hm
  have := Dialect.placeholder_injective heq
  omega

theorem Tracked.empty (d : Dialect) (m : Model) : (new d m).Tracked where
  numbered := ⟨[], by simp [new, Parameters.names, Parameters.empty]⟩
  owner name h := by simp [new, Parameters.names, Parameters.empty] at h
  bound c name h := by simp [new] at h

/-! ### Writing a clause -/

section Rewrite

variable {q : Query} (c : Clause) (extend : Bool) (vs : List Value)

/-- The names that writing a clause adds. -/
def added (q : Query) (vs : List Value) : List String :=
  (List.range' q.counter vs.length).map q.dialect.placeholder

/-- The names that writing a clause drops. -/
def dropped (q : Query) (c : Clause) (extend : Bool) : List String :=
  if extend then [] else q.owned c

theorem names_rewrite :
    (q.rewrite c extend vs).parameters.names =
      (q.parameters.names ++ q.added vs).filter fun name =>
        !(q.dropped c extend).contains name := by
  rw [rewrite, Parameters.names_removeAll]
  simp [Parameters.names, Dialect.map_fst_placeholders, added, dropped]

theorem owned_rewrite_self :
    (q.rewrite c extend vs).owned c = (if extend then q.owned c else []) ++ q.added vs := by
  simp [rewrite, Dialect.map_fst_placeholders, added]

theorem owned_rewrite_of_ne {k : Clause} (h : k ≠ c) :
    (q.rewrite c extend vs).owned k = q.owned k := own_of_ne h

/-- What is added is new. -/
theorem Tracked.not_mem_added (h : q.Tracked) {name : String} (hname : name ∈ q.parameters.names) :
    name ∉ q.added vs := by
  intro hadd
  obtain ⟨n, hn, rfl⟩ := List.mem_map.1 hadd
  exact h.fresh (List.mem_range'_1.1 hn).1 hname

theorem Tracked.dropped_bound (h : q.Tracked) {name : String} (hname : name ∈ q.dropped c extend) :
    name ∈ q.owned c ∧ name ∈ q.parameters.names ∧ extend = false := by
  cases extend with
  | true => simp [dropped] at hname
  | false => exact ⟨hname, h.bound c name hname, rfl⟩

/-- A bound name survives unless it is dropped, and everything that is added is bound. -/
theorem Tracked.mem_names_rewrite (h : q.Tracked) {name : String} :
    name ∈ (q.rewrite c extend vs).parameters.names ↔
      name ∈ q.parameters.names ∧ name ∉ q.dropped c extend ∨ name ∈ q.added vs := by
  rw [names_rewrite, List.mem_filter, List.mem_append]
  constructor
  · rintro ⟨hname | hname, hd⟩
    · exact Or.inl ⟨hname, by simpa using hd⟩
    · exact Or.inr hname
  · rintro (⟨hname, hd⟩ | hname)
    · exact ⟨Or.inl hname, by simpa using hd⟩
    · refine ⟨Or.inr hname, ?_⟩
      have hd : name ∉ q.dropped c extend := fun hd =>
        h.not_mem_added vs (h.dropped_bound c extend hd).2.1 hname
      simpa using hd

theorem Tracked.numbered_rewrite (h : q.Tracked) :
    ∃ ns : List Nat, ns.Pairwise (· < ·) ∧ (∀ n ∈ ns, n < q.counter + vs.length) ∧
      (q.rewrite c extend vs).parameters.names = ns.map q.dialect.placeholder := by
  obtain ⟨ns, hlt, hbelow, hnames⟩ := h.numbered
  refine ⟨(ns ++ List.range' q.counter vs.length).filter fun n =>
    !(q.dropped c extend).contains (q.dialect.placeholder n), ?_, ?_, ?_⟩
  · apply List.Pairwise.filter
    rw [List.pairwise_append]
    refine ⟨hlt, List.pairwise_lt_range', ?_⟩
    intro m hm n hn
    exact Nat.lt_of_lt_of_le (hbelow m hm) (List.mem_range'_1.1 hn).1
  · intro n hn
    rcases List.mem_append.1 (List.mem_filter.1 hn).1 with hn | hn
    · exact Nat.lt_add_right _ (hbelow n hn)
    · exact (List.mem_range'_1.1 hn).2
  · rw [names_rewrite, hnames, added, ← List.map_append, List.filter_map]
    rfl

/-- **Writing a clause keeps the agreement.** -/
theorem Tracked.rewrite (h : q.Tracked) : (q.rewrite c extend vs).Tracked where
  numbered := h.numbered_rewrite c extend vs
  owner name hname := by
    -- a name is one that was kept, with its old owner, or a new one, with the clause as owner
    rcases (h.mem_names_rewrite c extend vs).1 hname with ⟨hold, hkept⟩ | hadd
    · obtain ⟨o, ho, honly⟩ := h.owner name hold
      have hnew : name ∉ q.added vs := h.not_mem_added vs hold
      refine ⟨o, ?_, ?_⟩
      · by_cases hoc : o = c
        · subst hoc
          rw [owned_rewrite_self]
          cases extend with
          | true => exact List.mem_append_left _ ho
          | false => exact absurd ho hkept
        · rwa [owned_rewrite_of_ne c extend vs hoc]
      · intro k hk
        by_cases hkc : k = c
        · subst hkc
          rw [owned_rewrite_self] at hk
          rcases List.mem_append.1 hk with hk | hk
          · cases extend with
            | true => exact honly k hk
            | false => simp at hk
          · exact absurd hk hnew
        · rw [owned_rewrite_of_ne c extend vs hkc] at hk
          exact honly k hk
    · refine ⟨c, ?_, ?_⟩
      · rw [owned_rewrite_self]
        exact List.mem_append_right _ hadd
      · intro k hk
        by_cases hkc : k = c
        · exact hkc
        · rw [owned_rewrite_of_ne c extend vs hkc] at hk
          exact absurd hadd (h.not_mem_added vs (h.bound k name hk))
  bound k name hk := by
    rw [h.mem_names_rewrite]
    by_cases hkc : k = c
    · subst hkc
      rw [owned_rewrite_self] at hk
      rcases List.mem_append.1 hk with hk | hk
      · cases extend with
        | true => exact Or.inl ⟨h.bound k name hk, by simp [dropped]⟩
        | false => simp at hk
      · exact Or.inr hk
    · rw [owned_rewrite_of_ne c extend vs hkc] at hk
      -- what is dropped is owned by the rewritten clause, and names have one owner
      refine Or.inl ⟨h.bound k name hk, fun hd => hkc ?_⟩
      obtain ⟨hc, hname, -⟩ := h.dropped_bound c extend hd
      obtain ⟨o, -, honly⟩ := h.owner name hname
      rw [honly k hk, honly c hc]

/-- Writing a clause keeps the values that other clauses own. -/
theorem Tracked.get?_rewrite (h : q.Tracked) {k : Clause} (hk : k ≠ c) {name : String}
    (hname : name ∈ q.owned k) :
    (q.rewrite c extend vs).parameters.get? name = q.parameters.get? name := by
  have hd : name ∉ q.dropped c extend := fun hd => by
    obtain ⟨hc, hbound, -⟩ := h.dropped_bound c extend hd
    obtain ⟨o, -, honly⟩ := h.owner name hbound
    exact hk ((honly k hname).trans (honly c hc).symm)
  change Parameters.get? (Parameters.removeAll _ (q.dropped c extend)) name = _
  rw [Parameters.get?_removeAll hd]
  obtain ⟨v, hv⟩ := Parameters.exists_get?_of_mem (h.bound k name hname)
  simp only [Parameters.get?] at hv ⊢
  rw [Bindings.entries_extend, List.lookup_append, hv]
  rfl

/-- Replacing a clause drops what it owned, and adds the new values behind everything else. -/
theorem Tracked.entries_rewrite (h : q.Tracked) :
    (q.rewrite c false vs).parameters.entries =
      (q.parameters.removeAll (q.owned c)).entries ++ q.dialect.placeholders q.counter vs := by
  have hkept : (q.dialect.placeholders q.counter vs).filter (fun e => !(q.owned c).contains e.1) =
      q.dialect.placeholders q.counter vs := by
    rw [List.filter_eq_self]
    intro e he
    have hadded : e.1 ∈ q.added vs := by
      rw [added, ← Dialect.map_fst_placeholders]
      exact List.mem_map_of_mem he
    have hfresh : e.1 ∉ q.owned c := fun hown => h.not_mem_added vs (h.bound c _ hown) hadded
    simpa using hfresh
  change List.filter _ (q.parameters.entries ++ q.dialect.placeholders q.counter vs) = _
  rw [List.filter_append]
  exact congrArg _ hkept

end Rewrite

/-! ### Runs of calls -/

theorem Tracked.perform {q : Query} (h : q.Tracked) (op : Operation) : (q.perform op).2.Tracked := by
  rcases q.perform_cases op with hs | ⟨c, extend, vs, -, hs⟩
  · exact h.congr hs
  · exact (h.rewrite c extend vs).congr hs

theorem Reachable.tracked {q : Query} (h : q.Reachable) : q.Tracked := by
  induction h with
  | new d m => exact Tracked.empty d m
  | perform op _ ih => exact ih.perform op

/-- A call keeps what the clauses that it does not write own, and the values bound there. -/
theorem Tracked.perform_frame {q : Query} (h : q.Tracked) {op : Operation} {k : Clause}
    (hk : op.clause? ≠ some k) :
    (q.perform op).2.owned k = q.owned k ∧
      ∀ name ∈ q.owned k, (q.perform op).2.parameters.get? name = q.parameters.get? name := by
  rcases q.perform_cases op with hs | ⟨c, extend, vs, hc, hs⟩
  · rw [hs.owned, hs.parameters]
    exact ⟨rfl, fun _ _ => rfl⟩
  · have hkc : k ≠ c := by
      rintro rfl
      exact hk hc
    rw [hs.owned, hs.parameters]
    exact ⟨owned_rewrite_of_ne c extend vs hkc, fun name hname => h.get?_rewrite c extend vs hkc hname⟩

/-- **Parameters and clauses agree after any run of calls.**  The names are placeholders of
increasing numbers below the counter, and so differ from each other; every name belongs to exactly
one clause, and every name that a clause owns is bound.  A further call leaves what other clauses own
in their hands, with the values bound to it. -/
theorem reachable_tracked {q : Query} (h : q.Reachable) :
    (∃ ns : List Nat, ns.Pairwise (· < ·) ∧ (∀ n ∈ ns, n < q.counter) ∧
        q.parameters.names = ns.map q.dialect.placeholder) ∧
      q.parameters.names.Nodup ∧
      (∀ name ∈ q.parameters.names, ∃ c, name ∈ q.owned c ∧ ∀ k, name ∈ q.owned k → k = c) ∧
      (∀ c, ∀ name ∈ q.owned c, name ∈ q.parameters.names) ∧
      ∀ op k, op.clause? ≠ some k →
        (q.perform op).2.owned k = q.owned k ∧
          ∀ name ∈ q.owned k, (q.perform op).2.parameters.get? name = q.parameters.get? name := by
  have ht : q.Tracked := h.tracked
  exact ⟨ht.numbered, ht.nodup, ht.owner, ht.bound, fun op k hk => ht.perform_frame hk⟩

/-- After a filter is replaced, the parameter of the other clause is still bound, and still its own. -/
theorem reachable_tracked_refiltered :
    refiltered.Reachable ∧ refiltered.parameters.names = ["@1", "@2"] ∧
      refiltered.owned .having = ["@1"] ∧
      ∃ c, "@1" ∈ refiltered.owned c ∧ ∀ k, "@1" ∈ refiltered.owned k → k = c :=
  ⟨reachable_refiltered, by decide, by decide,
    (reachable_tracked reachable_refiltered).2.2.1 "@1" (by decide)⟩

end Query

end ModelSql
