/-
**The search of a list for several arguments.**

A list is searched for one argument, and the search for none is refused.  Several arguments are not refused
unless they are of different kinds: the last one is searched for, and the others are dropped, with the
parameters that have been bound for them.  This is the only way in which a parameter can be bound without its
placeholder in the text: it does not happen to descriptors that are built without such searches and without
raw text.

Main definitions:

* `Bears` — a text with the placeholders of some parameters;
* `Query.Placed` — the parameters whose placeholders are words of a clause;
* `Query.Composed` — the descriptors that are built in this way, by calls in any order;
* `Query.Whole` — **all that each clause owns has its placeholder in the clause**.

Main results:

* `Scope.visit_search_concat_iff` — **when the search for several arguments is written**;
* `Scope.mem_search_concat` — which placeholders it has;
* `Query.placed_perform` — what one call writes;
* `Query.Composed.whole` — what runs of calls write;
* `Query.search_arguments` — **what is lost by such a search, and what is not**.
-/

import ModelSql.Proofs.Query.Folding
import ModelSql.Proofs.Query.Parameterization
import ModelSql.Proofs.Query.Placeholder

set_option relaxedAutoImplicit false
set_option autoImplicit false

namespace ModelSql

namespace Scope

variable {s : Scope} {b c : Bindings} {p : Fragment}

/-! ### Searches for several arguments -/

/-- Some parts are values, or are none, as their expressions are computed or not. -/
theorem forall_isSome_value_iff {es : List Expr} {ps : List Fragment} {x : Bool}
    (h : List.Forall₂ (fun e p => ∃ m n, s.visit e m = .ok (p, n)) es ps) :
    (∀ q ∈ ps, q.value?.isSome = x) ↔ ∀ e ∈ es, e.value?.isSome = x := by
  induction h with
  | nil => simp
  | cons he _ ih =>
      obtain ⟨m, n, he⟩ := he
      rw [List.forall_mem_cons, List.forall_mem_cons, isSome_value he, ih]

/-- **Of several arguments, the last one is looked for**, and the others have to be of its kind: values beside a
value, and texts beside a text. -/
theorem collectionContains_concat_iff {items : List Value} {ps : List Fragment} {r : Fragment} :
    s.collectionContains items (values (ps ++ [p])) (texts (ps ++ [p])) b = .ok (r, c) ↔
      (∀ q ∈ ps, q.value?.isSome = p.value?.isSome) ∧
        s.collectionContains items (values [p]) (texts [p]) b = .ok (r, c) := by
  cases hp : p.value? with
  | some v =>
      have hvalues : values (ps ++ [p]) = values ps ++ [v] := by simp [values, hp]
      have htexts : texts (ps ++ [p]) = texts ps := by simp [texts, hp]
      have hone : values [p] = [v] ∧ texts [p] = [] := by simp [values, texts, hp]
      have hkind : (∀ q ∈ ps, q.value?.isSome = (some v).isSome) ↔ texts ps = [] :=
        texts_eq_nil_iff.symm
      rw [hvalues, htexts, hone.1, hone.2, hkind]
      cases hlast : (texts ps).getLast? with
      | none => simp [collectionContains, List.getLast?_eq_none_iff.1 hlast]
      | some q =>
          have hne : texts ps ≠ [] := by
            rintro hnil
            simp [hnil] at hlast
          simp [collectionContains, hlast, hne, fail_ne_ok]
  | none =>
      have hvalues : values (ps ++ [p]) = values ps := by simp [values, hp]
      have htexts : texts (ps ++ [p]) = texts ps ++ [p] := by simp [texts, hp]
      have hone : values [p] = [] ∧ texts [p] = [p] := by simp [values, texts, hp]
      have hkind : (∀ q ∈ ps, q.value?.isSome = (none : Option Value).isSome) ↔ values ps = [] :=
        values_eq_nil_iff.symm
      rw [hvalues, htexts, hone.1, hone.2, hkind]
      cases hlast : (values ps).getLast? with
      | none => simp [collectionContains, List.getLast?_eq_none_iff.1 hlast]
      | some v =>
          have hne : values ps ≠ [] := by
            rintro hnil
            simp [hnil] at hlast
          simp [collectionContains, hlast, hne, fail_ne_ok]

/-- **When the search of a list for several arguments is written**: each of them can be visited, they are all
computed or none is, and the last one can be looked for.  What is yielded is what the last one yields alone. -/
theorem visit_search_concat_iff {l x : Expr} {args : List Expr} {items : List Value} {r : Fragment}
    (hl : l.value? = some (.list items)) :
    s.visit (.method .contains l (args ++ [x])) b = .ok (r, c) ↔
      ∃ ps m, s.visitAll args b = .ok (ps, m) ∧ (∀ a ∈ args, a.value?.isSome = x.value?.isSome) ∧
        s.visit (.method .contains l [x]) m = .ok (r, c) := by
  have hstep {es : List Expr} {b : Bindings} :
      s.visit (.method .contains l es) b = .ok (r, c) ↔ ∃ ps m, s.visitAll es b = .ok (ps, m) ∧
        s.collectionContains items (values ps) (texts ps) m = .ok (r, c) := by
    rw [visit, visit_of_value hl, pure_bind, bind_eq_ok]
    exact Iff.rfl
  have hkinds {ps : List Fragment} {p : Fragment} {k m : Bindings}
      (hps : s.visitAll args b = .ok (ps, k)) (hp : s.visit x k = .ok (p, m)) :
      (∀ q ∈ ps, q.value?.isSome = p.value?.isSome) ↔
        ∀ a ∈ args, a.value?.isSome = x.value?.isSome := by
    rw [isSome_value hp]
    exact forall_isSome_value_iff (visitAll_eq_ok hps)
  rw [hstep]
  constructor
  · rintro ⟨ps, m, hps, h⟩
    obtain ⟨qs, k, p, hqs, hp, rfl⟩ := visitAll_concat_iff.1 hps
    obtain ⟨hkind, hlast⟩ := collectionContains_concat_iff.1 h
    exact ⟨qs, k, hqs, (hkinds hqs hp).1 hkind,
      hstep.2 ⟨[p], m, visitAll_concat_iff.2 ⟨[], k, p, by rw [visitAll]; rfl, hp, rfl⟩, hlast⟩⟩
  · rintro ⟨qs, k, hqs, hkind, h⟩
    obtain ⟨ps, m, hps, hlast⟩ := hstep.1 h
    obtain ⟨p, n, rest, hp, hrest, rfl⟩ := visitAll_cons hps
    rw [visitAll] at hrest
    obtain ⟨rfl, rfl⟩ := pure_eq_ok.1 hrest
    exact ⟨qs ++ [p], _, visitAll_concat_iff.2 ⟨qs, k, p, hqs, hp, rfl⟩,
      collectionContains_concat_iff.2 ⟨(hkinds hqs hp).2 hkind, hlast⟩⟩

/-- The text that the search of a list for several arguments yields has no placeholder of what is bound for
the others. -/
theorem mem_search_concat {l x : Expr} {args : List Expr} {items : List Value} {t : String}
    (hl : l.value? = some (.list items))
    (h : s.visit (.method .contains l (args ++ [x])) b = .ok (.sql t, c)) :
    ∃ ps m, s.visitAll args b = .ok (ps, m) ∧
      ∀ n, .token (s.dialect.parameterToken n) ∈ s.dialect.lexemes t → m.counter ≤ n ∧ n < c.counter := by
  obtain ⟨ps, m, hps, -, hlast⟩ := (visit_search_concat_iff hl).1 h
  obtain ⟨P, hP, hacc⟩ := cites_visit hlast
  refine ⟨ps, m, hps, fun n hn => ?_⟩
  have hcites : Cites s.dialect t P := hP
  have hmem : n ∈ P := by
    rwa [← hcites.mentions.cited_lexemes, Dialect.mem_cited]
  exact hacc.subset hmem

end Scope

/-! ### Texts with their parameters -/

/-- **A text with the placeholders of some parameters.** -/
def Bears (d : Dialect) (t : String) (names : List String) : Prop :=
  ∃ P, Mentions d t P ∧ ∀ name ∈ names, ∃ n ∈ P, name = d.placeholder n

namespace Bears

variable {d : Dialect} {s t : String} {names names' : List String}

theorem nil {P : Set Nat} (h : Mentions d t P) : Bears d t [] := ⟨P, h, by simp⟩

theorem map (h : Bears d s names) (hf : ∀ {P}, Mentions d s P → Mentions d t P) : Bears d t names := by
  obtain ⟨P, hP, hnames⟩ := h
  exact ⟨P, hf hP, hnames⟩

theorem joinAppend {ts us : List String} (hts : Bears d (Text.joinWith "," ts) names)
    (hus : Bears d (Text.joinWith "," us) names') :
    Bears d (Text.joinWith "," (ts ++ us)) (names ++ names') := by
  obtain ⟨P, hP, hnames⟩ := hts
  obtain ⟨Q, hQ, hnames'⟩ := hus
  refine ⟨P ∪ Q, hP.joinAppend hQ, fun name hname => ?_⟩
  rcases List.mem_append.1 hname with hname | hname
  · obtain ⟨n, hn, rfl⟩ := hnames name hname
    exact ⟨n, .inl hn, rfl⟩
  · obtain ⟨n, hn, rfl⟩ := hnames' name hname
    exact ⟨n, .inr hn, rfl⟩

/-- The placeholders are words of the text. -/
theorem mem_lexemes (h : Bears d t names) {name : String} (hname : name ∈ names) :
    ∃ n, name = d.placeholder n ∧ .token (d.parameterToken n) ∈ d.lexemes t := by
  obtain ⟨P, hP, hnames⟩ := h
  obtain ⟨n, hn, rfl⟩ := hnames name hname
  refine ⟨n, rfl, ?_⟩
  rwa [← Dialect.mem_cited, hP.cited_lexemes]

end Bears

theorem Expr.allSingle_items {e : Expr} (h : e.isSingle = true) : Expr.allSingle e.items = true := by
  cases e with
  | list items => exact h
  | _ => simpa [Expr.items, Expr.allSingle] using h

/-- Whether every list is searched for one argument at most. -/
def Operation.isSingle : Operation → Bool
  | select _ e | filter e | and e | or e | groupBy e | having e | orderBy _ e | thenBy _ e => e.isSingle
  | _ => true

/-- Whether a call writes a clause with raw text. -/
def Operation.isRaw : Operation → Bool
  | selectRaw _ | filterRaw .. | groupByRaw _ | havingRaw .. | orderByRaw _ => true
  | _ => false

namespace Query

variable {q q' : Query} {k : Clause}

/-- **A parameter whose placeholder is a word of a clause.** -/
def Placed (q : Query) (k : Clause) (name : String) : Prop :=
  ∃ n, name = q.dialect.placeholder n ∧
    .token (q.dialect.parameterToken n) ∈ q.dialect.lexemes (q.clauseText k)

/-! ### The texts of clauses -/

section

variable {t : String} {P : Set Nat}

/-- A selection from the table of the model. -/
theorem mentions_selectFrom (h : Mentions q.dialect t P) : Mentions q.dialect (q.selectFrom t) P := by
  have htable : Mentions q.dialect (q.dialect.quotedTable q.model) ∅ :=
    (Cites.none (spells_qualifiedName _ _) (Nest.cited_pathNests _ _)).mentions
  have hfrom := (htable.keyword (w := "FROM") rfl (by decide)).newline.space
  have hall := (h.keyword (w := "SELECT") rfl (by decide)).append hfrom (Spells.starts_space _)
  have hselect : "SELECT " = "SELECT" ++ " " := by decide
  have hsplit : " \nFROM " = " " ++ ("\n" ++ ("FROM" ++ " ")) := by decide
  rw [Set.union_empty] at hall
  simpa only [selectFrom, hselect, hsplit, String.append_assoc] using hall

theorem mentions_selection (distinct : Bool) (h : Mentions q.dialect t P) :
    Mentions q.dialect (q.selectFrom ((if distinct then "DISTINCT " else "") ++ t)) P := by
  refine mentions_selectFrom ?_
  cases distinct with
  | false =>
      rw [if_neg Bool.false_ne_true, String.empty_append]
      exact h
  | true => exact h.keyword (w := "DISTINCT") rfl (by decide)

/-- The selection of all columns has no placeholders. -/
theorem mentions_defaultSelect (q : Query) : Mentions q.dialect q.defaultSelect ∅ := by
  have hcolumns (fs : List Field) :
      Cites q.dialect (Text.joinWith ", " (fs.map q.scope.column)) ∅ := by
    induction fs with
    | nil => exact .empty
    | cons f fs ih =>
        cases fs with
        | nil => exact .column q.scope f
        | cons g fs => exact ((Cites.column q.scope f).list ih).of_eq (Set.union_self ∅)
  exact mentions_selectFrom (hcolumns q.model.fields).mentions

theorem mentions_groupBy (h : Mentions q.dialect t P) : Mentions q.dialect ("GROUP BY " ++ t) P :=
  h.keywordBy (w := "GROUP") rfl (by decide)

theorem mentions_orderByText (h : Mentions q.dialect (Text.joinWith "," q.orderKeys) P) :
    Mentions q.dialect q.orderByText P := by
  unfold orderByText
  split
  · rename_i hnil
    rwa [List.isEmpty_iff.1 hnil] at h
  · exact h.keywordBy (w := "ORDER") rfl (by decide)

end

/-- What a step has bound that accounts for it. -/
theorem bears_added {t : String} {P : Set Nat} {vs : List Value} {whole : Prop}
    (hP : Mentions q.dialect t P) (hacc : Accounts whole ⟨q.parameters, q.counter⟩
      (Bindings.extend ⟨q.parameters, q.counter⟩ q.dialect vs) P) (hw : whole) :
    Bears q.dialect t (q.added vs) := by
  refine ⟨P, hP, fun name hname => ?_⟩
  obtain ⟨n, hn, rfl⟩ := List.mem_map.1 hname
  refine ⟨n, ?_, rfl⟩
  rw [List.mem_range'_1] at hn
  rw [hacc.eq hw]
  exact hn

theorem isPlainName_directionText (descending : Bool) :
    Text.isPlainName (directionText descending).toList = true := by
  cases descending <;> decide

/-! ### One call -/

/-- A call that writes a clause with placeholders for all that it binds. -/
theorem placed_write {α : Type} {step : Compile α} {f : α × Query → Query}
    (hs : Binds q.dialect q.parameterized step)
    (h : settle ((q.write k false step).map f) = (.ok (), q')) (hf : ∀ r, SameBindings r.2 (f r))
    (htext : ∀ r vs, step ⟨q.parameters, q.counter⟩ =
      .ok (r, Bindings.extend ⟨q.parameters, q.counter⟩ q.dialect vs) →
      Bears q.dialect ((f (r, q.rewrite k false vs)).clauseText k) (q.added vs)) :
    ∀ name ∈ q'.owned k, q'.Placed k name := by
  cases hwrite : q.write k false step with
  | error failed =>
      rw [hwrite] at h
      cases h
  | ok r =>
      obtain ⟨r, q₁⟩ := r
      rw [hwrite] at h
      cases h
      obtain ⟨vs, hstep, rfl⟩ := write_eq_ok hs hwrite
      intro name hname
      rw [(hf _).owned, owned_rewrite_self, if_neg Bool.false_ne_true, List.nil_append] at hname
      unfold Placed
      rw [(hf _).dialect]
      exact (htext r vs hstep).mem_lexemes hname

/-- **Where lists are searched for one argument each, nothing is bound that is not written.**  A call that writes a
clause with an expression owns the parameters of placeholders in the text. -/
theorem placed_perform {op : Operation} (hop : op.isExpression = true) (hsingle : op.isSingle = true)
    (hk : op.clause? = some k) (h : q.perform op = (.ok (), q')) :
    ∀ name ∈ q'.owned k, q'.Placed k name := by
  cases op with
  | filter e | having e =>
      cases hk
      refine placed_write (q.scope.binds_predicate e) h (fun _ => ⟨rfl, rfl, rfl, rfl⟩) fun r vs hr => ?_
      obtain ⟨P, hP, hacc⟩ := Scope.mentions_predicate hr
      exact bears_added hP hacc hsingle
  | select distinct e =>
      cases hk
      refine placed_write (q.scope.binds_projection e) h (fun _ => ⟨rfl, rfl, rfl, rfl⟩) fun r vs hr => ?_
      obtain ⟨P, hP, hacc⟩ := Scope.mentions_projection hr
      exact bears_added (mentions_selection distinct hP) hacc hsingle
  | groupBy e =>
      cases hk
      refine placed_write (q.scope.binds_projection e) h (fun _ => ⟨rfl, rfl, rfl, rfl⟩) fun r vs hr => ?_
      obtain ⟨P, hP, hacc⟩ := Scope.mentions_projection hr
      exact bears_added (mentions_groupBy hP) hacc hsingle
  | orderBy descending e =>
      cases hk
      refine placed_write (binds_sortKeys q.scope _ e.items) h (fun _ => ⟨rfl, rfl, rfl, rfl⟩)
        fun ts vs hts => ?_
      obtain ⟨P, hP, hacc⟩ := Scope.mentions_sortKeys (isPlainName_directionText descending) hts
      have htext := mentions_orderByText (q := { q.rewrite .orderBy false vs with orderKeys := ts }) hP
      exact bears_added htext hacc (Expr.allSingle_items hsingle)
  | _ => cases hop

/-! ### Runs of calls -/

/-- **The descriptors that are built without raw text**, and without searches for several arguments. -/
inductive Composed : Query → Prop
  | new (d : Dialect) (m : Model) : Composed (new d m)
  | perform {q : Query} {op : Operation} : Composed q → op.isRaw = false → op.isSingle = true →
      Composed (q.perform op).2

/-- **A descriptor whose clauses have the placeholders of all that they own**: the invariant of such runs.  Calls
that join conditions come back to the expression of the filter, and a selection that nobody has asked for is
written again without its parameters. -/
structure Whole (q : Query) : Prop where
  select : Bears q.dialect q.select (q.owned .select)
  unowned : q.customSelect = false → q.owned .select = []
  filter : Bears q.dialect q.filterText (q.owned .filter)
  predicate : ∀ e, q.predicate = some e → e.isSingle = true
  groupBy : Bears q.dialect q.groupBy (q.owned .groupBy)
  having : Bears q.dialect q.having (q.owned .having)
  order : Bears q.dialect (Text.joinWith "," q.orderKeys) (q.owned .orderBy)

namespace Whole

theorem new (d : Dialect) (m : Model) : (new d m).Whole where
  select := .nil (mentions_defaultSelect (Query.new d m))
  unowned := fun _ => rfl
  filter := .nil Cites.empty.mentions
  predicate := nofun
  groupBy := .nil Cites.empty.mentions
  having := .nil Cites.empty.mentions
  order := .nil Cites.empty.mentions

theorem placed (h : q.Whole) (hupdate : k ≠ .update) (hinsert : k ≠ .insert) :
    ∀ name ∈ q.owned k, q.Placed k name := by
  intro name hname
  cases k with
  | select => exact h.select.mem_lexemes hname
  | filter => exact h.filter.mem_lexemes hname
  | groupBy => exact h.groupBy.mem_lexemes hname
  | having => exact h.having.mem_lexemes hname
  | orderBy => exact (h.order.map mentions_orderByText).mem_lexemes hname
  | update => exact absurd rfl hupdate
  | insert => exact absurd rfl hinsert

/-- A call that writes a clause. -/
theorem settle_write (h : q.Whole) {α : Type} {extend : Bool} {step : Compile α} {f : α × Query → Query}
    (hs : Binds q.dialect q.parameterized step)
    (hf : ∀ r vs, step ⟨q.parameters, q.counter⟩ =
      .ok (r, Bindings.extend ⟨q.parameters, q.counter⟩ q.dialect vs) →
      (f (r, q.rewrite k extend vs)).Whole) : (settle ((q.write k extend step).map f)).2.Whole := by
  cases hwrite : q.write k extend step with
  | error failed =>
      obtain ⟨e, q₁⟩ := failed
      obtain rfl := write_eq_error hs hwrite
      exact h
  | ok r =>
      obtain ⟨r, q₁⟩ := r
      obtain ⟨vs, hstep, rfl⟩ := write_eq_ok hs hwrite
      exact hf r vs hstep

/-- A call that computes something first, and changes nothing that clauses are made of. -/
theorem settle_attempt (h : q.Whole) {α : Type} {r : Except Error α} {f : α → Query}
    (hf : ∀ a, (f a).Whole) : (settle ((q.attempt r).map f)).2.Whole := by
  cases r with
  | error e => exact h
  | ok a => exact hf a

theorem settle_filter (h : q.Whole) {e : Expr} (he : e.isSingle = true) :
    (settle (q.filter e)).2.Whole := by
  refine h.settle_write (q.scope.binds_predicate e) fun r vs hr => ?_
  obtain ⟨P, hP, hacc⟩ := Scope.mentions_predicate hr
  exact { h with
    filter := by
      rw [owned_rewrite_self]
      exact bears_added hP hacc he
    predicate := by
      rintro _ ⟨⟩
      exact he }

/-- The filter joined with another condition. -/
theorem isSingle_combined (h : q.Whole) {e : Expr} (he : e.isSingle = true) (op : BinaryOp) :
    (q.combined op e).isSingle = true := by
  unfold combined
  split
  · rename_i p hp
    rw [Expr.isSingle, h.predicate p hp, he]
    rfl
  · exact he

theorem updateStatement (h : q.Whole) (row : Row) : (q.updateStatement row).2.Whole := by
  obtain hq | ⟨vs, hq⟩ := q.updateStatement_cases row
  · rwa [hq]
  · rw [hq]
    exact { h with }

theorem insertStatement (h : q.Whole) (row : Row) : (q.insertStatement row).2.Whole := by
  obtain hq | ⟨vs, hq⟩ := q.insertStatement_cases row
  · rwa [hq]
  · rw [hq]
    exact { h with }

/-- **Every call without raw text keeps it so**, if it searches lists for one argument each. -/
theorem perform (h : q.Whole) {op : Operation} (hraw : op.isRaw = false) (hsingle : op.isSingle = true) :
    (q.perform op).2.Whole := by
  -- each call writes one clause again, and what the others own stays where it is
  cases op with
  | selectRaw list => cases hraw
  | filterRaw sql args => cases hraw
  | groupByRaw sql => cases hraw
  | havingRaw sql args => cases hraw
  | orderByRaw sql => cases hraw
  | filter e => exact h.settle_filter hsingle
  | and e => exact h.settle_filter (h.isSingle_combined hsingle .and)
  | or e => exact h.settle_filter (h.isSingle_combined hsingle .or)
  | clearFilter => exact { h with filter := .nil Cites.empty.mentions, predicate := nofun }
  | select distinct e =>
      refine h.settle_write (q.scope.binds_projection e) fun r vs hr => ?_
      obtain ⟨P, hP, hacc⟩ := Scope.mentions_projection hr
      exact { h with
        select := by
          rw [owned_rewrite_self]
          exact bears_added (mentions_selection distinct hP) hacc hsingle
        unowned := nofun }
  | groupBy e =>
      refine h.settle_write (q.scope.binds_projection e) fun r vs hr => ?_
      obtain ⟨P, hP, hacc⟩ := Scope.mentions_projection hr
      exact { h with
        groupBy := by
          rw [owned_rewrite_self]
          exact bears_added (mentions_groupBy hP) hacc hsingle }
  | having e =>
      refine h.settle_write (q.scope.binds_predicate e) fun r vs hr => ?_
      obtain ⟨P, hP, hacc⟩ := Scope.mentions_predicate hr
      exact { h with
        having := by
          rw [owned_rewrite_self]
          exact bears_added hP hacc hsingle }
  | orderBy descending e =>
      refine h.settle_write (binds_sortKeys q.scope _ e.items) fun ts vs hts => ?_
      obtain ⟨P, hP, hacc⟩ := Scope.mentions_sortKeys (isPlainName_directionText descending) hts
      exact { h with
        order := by
          rw [owned_rewrite_self]
          exact bears_added hP hacc (Expr.allSingle_items hsingle) }
  | thenBy descending e =>
      refine h.settle_write (binds_sortKeys q.scope _ e.items) fun ts vs hts => ?_
      obtain ⟨P, hP, hacc⟩ := Scope.mentions_sortKeys (isPlainName_directionText descending) hts
      -- the keys so far are still there, with what has been bound for them
      exact { h with
        order := by
          rw [owned_rewrite_self]
          exact h.order.joinAppend (bears_added hP hacc (Expr.allSingle_items hsingle)) }
  | updateOnly e => exact h.settle_attempt fun names => { h with }
  | insertOnly e => exact h.settle_attempt fun names => { h with }
  | qualified on =>
      simp only [Query.perform, setQualified]
      split
      · exact { h with }
      · rename_i hcustom
        have hnone : q.owned .select = [] := h.unowned (by simpa using hcustom)
        exact { h with
          select := by
            rw [hnone]
            exact .nil (mentions_defaultSelect { q with qualified := on }) }
  | update row => exact h.updateStatement row
  | insert row => exact h.insertStatement row
  | limit | limitRows | clearLimit | updateAll | insertAll | parameterized => exact { h with }

end Whole

/-- **Runs of such calls**: every clause has the placeholders of all that it owns. -/
theorem Composed.whole (h : q.Composed) : q.Whole := by
  induction h with
  | new d m => exact .new d m
  | perform _ hraw hsingle ih => exact ih.perform hraw hsingle

/-- **What becomes of the arguments of a search.**  A list is not searched without an argument.  With several, the
search is written if each of them can be, if they are all computed or none is, and if the last one can be
looked for; what is written is the search for the last one, without a placeholder of what is bound for the others.
Where every list is searched for one argument, each parameter of a clause has its placeholder in the text: after
every call that writes the clause with an expression, and after every run of calls without raw text. -/
theorem search_arguments {l : Expr} {items : List Value} (q : Query) (hl : l.value? = some (.list items)) :
    Fails (q.scope.visit (.method .contains l [])) ∧
    (∀ args x b r c, q.scope.visit (.method .contains l (args ++ [x])) b = .ok (r, c) ↔
      ∃ ps m, q.scope.visitAll args b = .ok (ps, m) ∧
        (∀ a ∈ args, a.value?.isSome = x.value?.isSome) ∧
        q.scope.visit (.method .contains l [x]) m = .ok (r, c)) ∧
    (∀ args x b t c, q.scope.visit (.method .contains l (args ++ [x])) b = .ok (.sql t, c) →
      ∃ ps m, q.scope.visitAll args b = .ok (ps, m) ∧
        ∀ n, .token (q.dialect.parameterToken n) ∈ q.dialect.lexemes t → m.counter ≤ n ∧ n < c.counter) ∧
    (∀ op k q', op.isExpression = true → op.isSingle = true → op.clause? = some k →
      q.perform op = (.ok (), q') → ∀ name ∈ q'.owned k, q'.Placed k name) ∧
    (q.Composed → ∀ k, k ≠ .update → k ≠ .insert → ∀ name ∈ q.owned k, q.Placed k name) := by
  refine ⟨?_, fun args x b r c => Scope.visit_search_concat_iff hl,
    fun args x b t c h => Scope.mem_search_concat hl h,
    fun op k q' hop hsingle hk h => placed_perform hop hsingle hk h,
    fun hq k hupdate hinsert => hq.whole.placed hupdate hinsert⟩
  rintro b ⟨r, c⟩ h
  rw [Scope.visit, Scope.visit_of_value hl, pure_bind, Scope.visitAll, pure_bind] at h
  exact fail_ne_ok h

/-- The search of a list for a text that binds a value, joined with another condition that binds one. -/
theorem search_arguments_bound :
    let e := Expr.method .contains (.value (.list [.int 1, .int 2]))
      [.binary .add (.column "Age") (.value (.int 5))]
    let less := Expr.binary .lt (.column "Age") (.value (.int 9))
    let q := ((new DialectKind.sqlite.dialect people).perform (.parameterized true)).2
    let q' := ((q.perform (.filter e)).2.perform (.and less)).2
    (Expr.value (.list [.int 1, .int 2])).value? = some (.list [.int 1, .int 2]) ∧
      (∀ name ∈ (q.perform (.filter e)).2.owned .filter,
        (q.perform (.filter e)).2.Placed .filter name) ∧
      q'.filterText = "(\"Age\" + @3) IN (@4,@5) AND (\"Age\" < @6)" ∧
      q'.Composed ∧ ∀ name ∈ q'.owned .filter, q'.Placed .filter name := by
  intro e less q q'
  have hl : (Expr.value (.list [.int 1, .int 2])).value? = some (.list [.int 1, .int 2]) := rfl
  have hperform : q.perform (.filter e) = (.ok (), (q.perform (.filter e)).2) := rfl
  have hq' : q'.Composed := .perform (.perform (.perform (.new _ _) rfl rfl) rfl rfl) rfl rfl
  exact ⟨hl, (search_arguments q hl).2.2.2.1 (.filter e) .filter _ rfl rfl rfl hperform, by decide, hq',
    (search_arguments q' hl).2.2.2.2 hq' .filter (by decide) (by decide)⟩

/-- Two constants, and two texts of which the first one binds a value: both searches are written. -/
theorem search_arguments_dropped :
    let q := new DialectKind.sqlite.dialect people
    let l := Expr.value (.list [.int 1, .int 2])
    let constants := Expr.method .contains l [.value (.int 1), .value (.int 3)]
    let texts := Expr.method .contains l
      [.binary .add (.column "Age") (.value (.int 5)), .column "Age"]
    let q₁ := q.setParameterized true
    let q₂ := (q₁.perform (.filter texts)).2
    (q.perform (.filter constants)).1 = .ok () ∧ (q.perform (.filter constants)).2.filterText = "1=0" ∧
      (q₁.perform (.filter texts)).1 = .ok () ∧ q₂.filterText = "\"Age\" IN (@1,@2)" ∧
      q₂.owned .filter = ["@0", "@1", "@2"] ∧ q₂.parameters.names = ["@0", "@1", "@2"] ∧
      .token (q₂.dialect.parameterToken 0) ∉ q₂.dialect.lexemes q₂.filterText :=
  ⟨rfl, by decide, rfl, by decide, by decide, by decide, by decide⟩

end Query

end ModelSql
