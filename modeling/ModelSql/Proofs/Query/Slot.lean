/-
**The slots of a descriptor.**

A descriptor holds eight things that calls set: the selection, the filter, the grouping, the
condition on groups, the order, the paging, and the two lists of fields.  As long as values are
written as literals nothing else changes, and a descriptor is what its slots hold: a call puts a new
content into one slot, or fails and leaves everything as it was.  What it puts there depends on no
other slot, and on the slot itself only if the call adds to it.

Main definitions:

* `Slot`, `Content`, `Query.content`, `Query.put` — slots, and what they hold;
* `Operation.slot?`, `Operation.replaces` — the slot that a call sets, and whether the call replaces
  what was there;
* `Query.fresh`, `Query.Inline` — the descriptor to start from, and the descriptors in the same
  modes, in which nothing is bound;
* `literally` — the outcome of a step that binds nothing.

Main results:

* `Query.Inline.ext` — such a descriptor is what its slots hold;
* `Query.Inline.hasEffect` — **every call on a slot has an effect on it**, the same for all descriptors
  that hold the same there;
* `Query.Inline.content_perform_of_ne`, `Query.Inline.perform_of_slot_eq_none` — nothing else
  changes;
* `Query.Inline.perform_congr`, `Query.Inline.perform_comm` — calls do not see other slots.
-/

import ModelSql.Proofs.Query.Operation

set_option relaxedAutoImplicit false
set_option autoImplicit false

namespace ModelSql

/-! ### Slots and their contents -/

/-- The parts of a descriptor that calls set. -/
inductive Slot
  | select | filter | groupBy | having | orderBy | paging | updateFields | insertFields
  deriving DecidableEq, Repr

/-- What a slot holds. -/
inductive Content
  | select (text : String) (custom distinct : Bool)
  | filter (predicate : Option Expr) (text : String)
  | groupBy (text : String)
  | having (text : String)
  | orderBy (keys : List String)
  | paging (skip rows : Option UInt64)
  | updateFields (names : List String)
  | insertFields (names : List String)

/-- The slot that a content belongs to. -/
def Content.slot : Content → Slot
  | select .. => .select
  | filter .. => .filter
  | groupBy _ => .groupBy
  | having _ => .having
  | orderBy _ => .orderBy
  | paging .. => .paging
  | updateFields _ => .updateFields
  | insertFields _ => .insertFields

namespace Query

/-- What a slot of a descriptor holds. -/
def content (q : Query) : Slot → Content
  | .select => .select q.select q.customSelect q.distinct
  | .filter => .filter q.predicate q.filterText
  | .groupBy => .groupBy q.groupBy
  | .having => .having q.having
  | .orderBy => .orderBy q.orderKeys
  | .paging => .paging q.skip q.rows
  | .updateFields => .updateFields q.updateFields
  | .insertFields => .insertFields q.insertFields

/-- The descriptor with another content in the slot that the content belongs to. -/
def put (q : Query) : Content → Query
  | .select text custom distinct => { q with select := text, customSelect := custom, distinct }
  | .filter predicate text => { q with predicate, filterText := text }
  | .groupBy text => { q with groupBy := text }
  | .having text => { q with having := text }
  | .orderBy keys => { q with orderKeys := keys }
  | .paging skip rows => { q with skip, rows }
  | .updateFields names => { q with updateFields := names }
  | .insertFields names => { q with insertFields := names }

@[simp] theorem content_put_self (q : Query) (c : Content) : (q.put c).content c.slot = c := by
  cases c <;> rfl

theorem content_put_of_ne {q : Query} {c : Content} {k : Slot} (h : k ≠ c.slot) :
    (q.put c).content k = q.content k := by
  cases c <;> cases k <;> first
    | rfl
    | exact absurd rfl h

end Query

/-! ### Calls and their slots -/

namespace Operation

/-- The slot that a call sets.  The modes and the statements with the values of a row set none. -/
def slot? : Operation → Option Slot
  | select .. | selectRaw _ => some .select
  | filter _ | clearFilter | and _ | or _ | filterRaw .. => some .filter
  | groupBy _ | groupByRaw _ => some .groupBy
  | having _ | havingRaw .. => some .having
  | orderBy .. | thenBy .. | orderByRaw _ => some .orderBy
  | limit .. | limitRows _ | clearLimit => some .paging
  | updateOnly _ | updateAll => some .updateFields
  | insertOnly _ | insertAll => some .insertFields
  | parameterized _ | qualified _ | update _ | insert _ => none

/-- Whether a call replaces what its slot holds; the others add to it. -/
def replaces : Operation → Bool
  | and _ | or _ | thenBy .. => false
  | _ => true

/-- Whether a call leaves the modes as they are: literals for values, and the names of columns with
the table in front, or without. -/
def keepsModes (qualified : Bool) : Operation → Bool
  | parameterized on => !on
  | .qualified on => on == qualified
  | _ => true

theorem keepsModes_of_slot (qualified : Bool) {op : Operation} {k : Slot}
    (h : op.slot? = some k) : op.keepsModes qualified = true := by
  cases op <;> first
    | rfl
    | cases h

end Operation

/-! ### Descriptors with literals -/

/-- The outcome of a step that binds nothing. -/
def literally {α : Type} (step : Compile α) : Except Error α :=
  match step ⟨.empty, 0⟩ with
  | .ok (a, _) => .ok a
  | .error failed => .error failed.error

namespace Query

/-- The descriptor to start from: it selects every column, with the table in front or without, and
writes values as literals. -/
def fresh (d : Dialect) (m : Model) (qualified : Bool) : Query :=
  ((new d m).setParameterized false).setQualified qualified

/-- **A descriptor in the modes of a fresh one**: values are literals, so nothing is bound, and the
selection is that of every column unless it was set. -/
structure Inline (d : Dialect) (m : Model) (qualified : Bool) (q : Query) : Prop where
  dialect : q.dialect = d
  model : q.model = m
  parameterized : q.parameterized = false
  qualified : q.qualified = qualified
  parameters : q.parameters = .empty
  owned : q.owned = fun _ => []
  counter : q.counter = 0
  select : q.customSelect = false → q.select = q.defaultSelect

theorem inline_fresh (d : Dialect) (m : Model) (qualified : Bool) :
    Inline d m qualified (fresh d m qualified) := by
  constructor <;> first
    | rfl
    | exact fun _ => rfl

/-- Whether a content may be put into a descriptor: a selection that was not set is that of every
column. -/
def Admits (q : Query) : Content → Prop
  | .select text custom _ => custom = false → text = q.defaultSelect
  | _ => True

theorem attempt_error {α : Type} (q : Query) (e : Error) :
    q.attempt (.error e : Except Error α) = .error (e, q) := rfl

theorem attempt_ok {α : Type} (q : Query) (a : α) : q.attempt (.ok a) = .ok a := rfl

namespace Inline

variable {d : Dialect} {m : Model} {qualified : Bool} {q q' : Query} {α : Type}

/-! ### What such descriptors share -/

theorem scope_eq (h : Inline d m qualified q) (h' : Inline d m qualified q') : q'.scope = q.scope := by
  simp only [scope, h.dialect, h.model, h.parameterized, h.qualified, h'.dialect, h'.model,
    h'.parameterized, h'.qualified]

theorem selectFrom_eq (h : Inline d m qualified q) (h' : Inline d m qualified q') :
    q'.selectFrom = q.selectFrom := by
  funext list
  simp only [selectFrom, h.dialect, h.model, h'.dialect, h'.model]

theorem defaultSelect_eq (h : Inline d m qualified q) (h' : Inline d m qualified q') :
    q'.defaultSelect = q.defaultSelect := by
  simp only [defaultSelect, h.scope_eq h', h.selectFrom_eq h', h.model, h'.model]

/-- **Such a descriptor is what its slots hold.** -/
theorem ext (h : Inline d m qualified q) (h' : Inline d m qualified q')
    (hslots : ∀ k, q'.content k = q.content k) : q' = q := by
  obtain ⟨hdialect, hmodel, hparameterized, hqualified, hparameters, howned, hcounter, -⟩ := h
  obtain ⟨hdialect', hmodel', hparameterized', hqualified', hparameters', howned', hcounter', -⟩ := h'
  have hselect := hslots .select
  have hfilter := hslots .filter
  have hgroupBy := hslots .groupBy
  have hhaving := hslots .having
  have horderBy := hslots .orderBy
  have hpaging := hslots .paging
  have hupdate := hslots .updateFields
  have hinsert := hslots .insertFields
  cases q
  cases q'
  simp only [content, Content.select.injEq, Content.filter.injEq, Content.groupBy.injEq,
    Content.having.injEq, Content.orderBy.injEq, Content.paging.injEq, Content.updateFields.injEq,
    Content.insertFields.injEq] at *
  simp_all only

theorem put (h : Inline d m qualified q) {c : Content} (hc : q.Admits c) :
    Inline d m qualified (q.put c) := by
  obtain ⟨hdialect, hmodel, hparameterized, hqualified, hparameters, howned, hcounter, hselect⟩ := h
  cases c with
  | select text custom distinct =>
      exact ⟨hdialect, hmodel, hparameterized, hqualified, hparameters, howned, hcounter, hc⟩
  | _ => exact ⟨hdialect, hmodel, hparameterized, hqualified, hparameters, howned, hcounter, hselect⟩

/-! ### Clauses written with literals -/

/-- Writing a clause without values leaves the descriptor as it is. -/
theorem rewrite_eq (h : Inline d m qualified q) (c : Clause) (extend : Bool) :
    q.rewrite c extend [] = q := by
  have howned : own q.owned c (if extend then q.owned c else []) = q.owned := by
    funext k
    simp [own, h.owned]
  have hparameters : q.parameters.removeAll (if extend then [] else q.owned c) = q.parameters := by
    simp [h.parameters, Parameters.removeAll, Parameters.empty]
  simp [rewrite, howned, hparameters]

theorem clear_eq (h : Inline d m qualified q) (c : Clause) : q.clear c = q := by
  rw [clear_eq_rewrite, h.rewrite_eq]

/-- Writing a clause has the outcome of the step, and nothing else. -/
theorem write_eq (h : Inline d m qualified q) {c : Clause} {extend : Bool} {step : Compile α}
    (hs : Binds q.dialect q.parameterized step) :
    q.write c extend step = (q.attempt (literally step)).map fun a => (a, q) := by
  have hstart : (⟨q.parameters, q.counter⟩ : Bindings) = ⟨.empty, 0⟩ := by
    rw [h.parameters, h.counter]
  cases hw : q.write c extend step with
  | error failed =>
      obtain ⟨e, q'⟩ := failed
      obtain rfl := write_eq_error hs hw
      cases hb : step ⟨q'.parameters, q'.counter⟩ with
      | ok p => simp [write, hb] at hw
      | error failed =>
          simp only [write, hb, Except.error.injEq, Prod.mk.injEq] at hw
          simp [literally, ← hstart, hb, hw.1, attempt_error, Except.map]
  | ok p =>
      obtain ⟨a, q'⟩ := p
      obtain ⟨vs, hb, rfl⟩ := write_eq_ok hs hw
      obtain ⟨ws, hws, heq⟩ := hs.ok _ _ _ hb
      have hlength : vs.length = ws.length := by
        have := congrArg Bindings.counter heq
        simpa using this
      have hnil : vs = [] := by
        rw [hws h.parameterized, List.length_nil, List.length_eq_zero_iff] at hlength
        exact hlength
      subst hnil
      rw [h.rewrite_eq]
      simp [literally, ← hstart, hb, attempt_ok, Except.map]

/-- A call that writes a clause and puts a content with its text into a slot. -/
theorem settle_write_eq (h : Inline d m qualified q) {c : Clause} {extend : Bool}
    {step : Compile α} {f : α × Query → Query} {g : α → Content}
    (hs : Binds q.dialect q.parameterized step) (hf : ∀ a, f (a, q) = q.put (g a)) :
    settle ((q.write c extend step).map f) =
      settle ((q.attempt ((literally step).map g)).map q.put) := by
  rw [h.write_eq hs]
  cases literally step with
  | error e => rfl
  | ok a => exact congrArg (fun p => (Except.ok (), p)) (hf a)

/-! ### The effect of a call -/

/-- **The effect of a call on its slot**: it fails, or it puts a content into the slot.  It does the same
to every descriptor that holds the same in that slot, or any other content if the call replaces it. -/
def HasEffect (d : Dialect) (m : Model) (qualified : Bool) (op : Operation) (k : Slot) (q : Query) :
    Prop :=
  ∃ r : Except Error Content, (∀ c, r = .ok c → c.slot = k ∧ q.Admits c) ∧
    ∀ q', Inline d m qualified q' → op.replaces = true ∨ q'.content k = q.content k →
      q'.perform op = settle ((q'.attempt r).map q'.put)

/-- A call that cannot fail. -/
theorem hasEffect_of_perform {op : Operation} {k : Slot} (hk : op.slot? = some k) (c : Content)
    (hc : op.slot? = some c.slot ∧ q.Admits c)
    (hop : ∀ q', Inline d m qualified q' → q'.perform op = (.ok (), q'.put c)) :
    HasEffect d m qualified op k q := by
  refine ⟨.ok c, fun c' hc' => ?_, fun q' h' _ => hop q' h'⟩
  obtain rfl := Except.ok.inj hc'
  exact ⟨Option.some.inj (hc.1.symm.trans hk), hc.2⟩

/-- A call that writes a clause. -/
theorem hasEffect_of_write {op : Operation} {k : Slot} {c : Clause} {extend : Bool}
    (hk : op.slot? = some k) (step : Query → Compile α) (f : Query → α × Query → Query)
    (g : α → Content)
    (hop : ∀ q' : Query, q'.perform op = settle ((q'.write c extend (step q')).map (f q')))
    (hs : ∀ q' : Query, Binds q'.dialect q'.parameterized (step q'))
    (hg : ∀ a, op.slot? = some (g a).slot ∧ q.Admits (g a))
    (hsame : ∀ q', Inline d m qualified q' → op.replaces = true ∨ q'.content k = q.content k →
      step q' = step q ∧ ∀ a, f q' (a, q') = q'.put (g a)) :
    HasEffect d m qualified op k q := by
  refine ⟨(literally (step q)).map g, fun c hc => ?_, fun q' h' hq' => ?_⟩
  · obtain ⟨a, -, rfl⟩ := map_eq_ok hc
    exact ⟨Option.some.inj ((hg a).1.symm.trans hk), (hg a).2⟩
  · obtain ⟨hstep, hf⟩ := hsame q' h' hq'
    rw [hop, ← hstep]
    exact h'.settle_write_eq (hs q') hf

/-- A call that computes something first. -/
theorem hasEffect_of_attempt {op : Operation} {k : Slot} (hk : op.slot? = some k)
    (r : Query → Except Error α) (g : α → Content)
    (hg : ∀ a, op.slot? = some (g a).slot ∧ q.Admits (g a))
    (hop : ∀ q' : Query, q'.perform op = settle ((q'.attempt (r q')).map fun a => q'.put (g a)))
    (hsame : ∀ q', Inline d m qualified q' → r q' = r q) :
    HasEffect d m qualified op k q := by
  refine ⟨(r q).map g, fun c hc => ?_, fun q' h' _ => ?_⟩
  · obtain ⟨a, -, rfl⟩ := map_eq_ok hc
    exact ⟨Option.some.inj ((hg a).1.symm.trans hk), (hg a).2⟩
  · rw [hop, hsame q' h']
    cases r q <;> rfl

/-- The effect of a call that joins a condition to the filter: the predicate is all that it looks
at. -/
theorem hasEffect_of_combined (h : Inline d m qualified q) {op : Operation} (sign : BinaryOp)
    (e : Expr) (hk : op.slot? = some .filter) (hadds : op.replaces = false)
    (hop : ∀ q' : Query, q'.perform op = settle (q'.filter (q'.combined sign e))) :
    HasEffect d m qualified op .filter q := by
  refine hasEffect_of_write hk (fun q' => q'.scope.predicate (q'.combined sign e))
    (fun q' r => { r.2 with predicate := some (q'.combined sign e), filterText := r.1 })
    (.filter (some (q.combined sign e))) hop (fun q' => q'.scope.binds_predicate _)
    (fun _ => ⟨hk, trivial⟩) fun q' h' hq' => ?_
  have hpredicate : q'.predicate = q.predicate := by
    rcases hq' with hreplaces | hcontent
    · rw [hadds] at hreplaces
      cases hreplaces
    · exact (Content.filter.inj hcontent).1
  have hcombined : q'.combined sign e = q.combined sign e := by
    simp only [combined, hpredicate]
  rw [hcombined, h.scope_eq h']
  exact ⟨rfl, fun _ => rfl⟩

/-- **Every call on a slot has an effect on it.** -/
theorem hasEffect (h : Inline d m qualified q) {op : Operation} {k : Slot}
    (hk : op.slot? = some k) : HasEffect d m qualified op k q := by
  cases op with
  | select distinct e =>
      exact hasEffect_of_write hk (fun q' => q'.scope.projection e) _
        (fun text => .select (q.selectFrom ((if distinct then "DISTINCT " else "") ++ text)) true
          distinct)
        (fun _ => rfl) (fun q' => q'.scope.binds_projection e)
        (fun _ => ⟨rfl, fun hcustom => absurd hcustom (by decide)⟩)
        fun q' h' _ => ⟨by rw [h.scope_eq h'], fun _ => by rw [← h.selectFrom_eq h']; rfl⟩
  | selectRaw list =>
      refine hasEffect_of_perform hk ((q.selectRaw list).content .select) ⟨rfl, fun hcustom => ?_⟩
        fun q' h' => ?_
      · have hblank : Text.isAllBlank list = true := by simpa [selectRaw] using hcustom
        simp [selectRaw, hblank]
      · simp only [perform, selectRaw, content, h'.clear_eq, h.selectFrom_eq h',
          h.defaultSelect_eq h']
        rfl
  | filter e =>
      exact hasEffect_of_write hk (fun q' => q'.scope.predicate e) _ (.filter (some e))
        (fun _ => rfl) (fun q' => q'.scope.binds_predicate e) (fun _ => ⟨rfl, trivial⟩)
        fun q' h' _ => ⟨by rw [h.scope_eq h'], fun _ => rfl⟩
  | clearFilter =>
      refine hasEffect_of_perform hk (.filter none "") ⟨rfl, trivial⟩ fun q' h' => ?_
      simp only [perform, clearFilter, h'.clear_eq]
      rfl
  | and e =>
      obtain rfl := Option.some.inj hk
      exact h.hasEffect_of_combined .and e rfl rfl fun _ => rfl
  | or e =>
      obtain rfl := Option.some.inj hk
      exact h.hasEffect_of_combined .or e rfl rfl fun _ => rfl
  | filterRaw sql args =>
      exact hasEffect_of_write hk (fun q' => q'.scope.raw sql args) _ (.filter none)
        (fun _ => rfl) (fun q' => q'.scope.binds_raw sql args) (fun _ => ⟨rfl, trivial⟩)
        fun q' h' _ => ⟨by rw [h.scope_eq h'], fun _ => rfl⟩
  | groupBy e =>
      exact hasEffect_of_write hk (fun q' => q'.scope.projection e) _
        (fun text => .groupBy ("GROUP BY " ++ text))
        (fun _ => rfl) (fun q' => q'.scope.binds_projection e) (fun _ => ⟨rfl, trivial⟩)
        fun q' h' _ => ⟨by rw [h.scope_eq h'], fun _ => rfl⟩
  | groupByRaw sql =>
      refine hasEffect_of_perform hk ((q.groupByRaw sql).content .groupBy) ⟨rfl, trivial⟩ fun q' h' => ?_
      simp only [perform, groupByRaw, h'.clear_eq]
      rfl
  | having e =>
      exact hasEffect_of_write hk (fun q' => q'.scope.predicate e) _ .having
        (fun _ => rfl) (fun q' => q'.scope.binds_predicate e) (fun _ => ⟨rfl, trivial⟩)
        fun q' h' _ => ⟨by rw [h.scope_eq h'], fun _ => rfl⟩
  | havingRaw sql args =>
      exact hasEffect_of_write hk (fun q' => q'.scope.raw sql args) _ .having
        (fun _ => rfl) (fun q' => q'.scope.binds_raw sql args) (fun _ => ⟨rfl, trivial⟩)
        fun q' h' _ => ⟨by rw [h.scope_eq h'], fun _ => rfl⟩
  | orderBy descending e =>
      exact hasEffect_of_write hk (fun q' => sortKeys q'.scope (directionText descending) e.items) _
        .orderBy (fun _ => rfl) (fun q' => binds_sortKeys q'.scope _ _) (fun _ => ⟨rfl, trivial⟩)
        fun q' h' _ => ⟨by rw [h.scope_eq h'], fun _ => rfl⟩
  | thenBy descending e =>
      obtain rfl := Option.some.inj hk
      refine hasEffect_of_write hk (fun q' => sortKeys q'.scope (directionText descending) e.items)
        (fun q' r => { r.2 with orderKeys := q'.orderKeys ++ r.1 })
        (fun keys => .orderBy (q.orderKeys ++ keys)) (fun _ => rfl)
        (fun q' => binds_sortKeys q'.scope _ _) (fun _ => ⟨rfl, trivial⟩) fun q' h' hq' => ?_
      have hkeys : q'.orderKeys = q.orderKeys :=
        Content.orderBy.inj (hq'.resolve_left Bool.false_ne_true)
      rw [h.scope_eq h', hkeys]
      exact ⟨rfl, fun _ => rfl⟩
  | orderByRaw sql =>
      refine hasEffect_of_perform hk ((q.orderRaw sql).content .orderBy) ⟨rfl, trivial⟩ fun q' h' => ?_
      simp only [perform, orderRaw, h'.clear_eq]
      rfl
  | limit skip rows =>
      exact hasEffect_of_perform hk (.paging (some skip) (some rows)) ⟨rfl, trivial⟩ fun _ _ => rfl
  | limitRows rows =>
      exact hasEffect_of_perform hk (.paging none (some rows)) ⟨rfl, trivial⟩ fun _ _ => rfl
  | clearLimit =>
      exact hasEffect_of_perform hk (.paging none none) ⟨rfl, trivial⟩ fun _ _ => rfl
  | updateOnly e =>
      exact hasEffect_of_attempt hk (fun q' => fieldNames q'.model e.items) .updateFields
        (fun _ => ⟨rfl, trivial⟩) (fun _ => rfl) fun q' h' => by rw [h.model, h'.model]
  | updateAll =>
      exact hasEffect_of_perform hk (.updateFields []) ⟨rfl, trivial⟩ fun _ _ => rfl
  | insertOnly e =>
      exact hasEffect_of_attempt hk (fun q' => fieldNames q'.model e.items) .insertFields
        (fun _ => ⟨rfl, trivial⟩) (fun _ => rfl) fun q' h' => by rw [h.model, h'.model]
  | insertAll =>
      exact hasEffect_of_perform hk (.insertFields []) ⟨rfl, trivial⟩ fun _ _ => rfl
  | parameterized | qualified | update | insert => cases hk

/-! ### What a call leaves alone -/

/-- A call on a slot fails and leaves everything as it was, or puts a content there. -/
theorem perform_cases_of_slot (h : Inline d m qualified q) {op : Operation} {k : Slot}
    (hk : op.slot? = some k) :
    (∃ e, q.perform op = (.error e, q)) ∨
      ∃ c, c.slot = k ∧ q.Admits c ∧ q.perform op = (.ok (), q.put c) := by
  obtain ⟨r, hr, hperform⟩ := h.hasEffect hk
  have hq := hperform q h (.inr rfl)
  cases r with
  | error e => exact .inl ⟨e, hq⟩
  | ok c => exact .inr ⟨c, (hr c rfl).1, (hr c rfl).2, hq⟩

/-- A call on no slot that keeps the modes changes nothing. -/
theorem perform_of_slot_eq_none (h : Inline d m qualified q) {op : Operation}
    (hop : op.keepsModes qualified = true) (hk : op.slot? = none) : (q.perform op).2 = q := by
  cases op with
  | parameterized on =>
      have hon : on = q.parameterized := by
        rw [h.parameterized]
        simpa [Operation.keepsModes] using hop
      subst hon
      rfl
  | qualified on =>
      have hon : on = q.qualified := by
        rw [h.qualified]
        simpa [Operation.keepsModes] using hop
      subst hon
      change (if q.customSelect then q else { q with select := q.defaultSelect }) = q
      by_cases hcustom : q.customSelect = true
      · rw [if_pos hcustom]
      · rw [if_neg hcustom, ← h.select (Bool.not_eq_true _ ▸ hcustom)]
  | update row =>
      simp only [perform, updateStatement, h.write_eq (binds_fieldValues q.scope row _)]
      cases literally (fieldValues q.scope row q.updateFieldsOf) with
      | error e => rfl
      | ok columns =>
          simp only [attempt_ok, Except.map]
          split <;> rfl
  | insert row =>
      simp only [perform, insertStatement, h.write_eq (binds_fieldValues q.scope row _)]
      cases literally (fieldValues q.scope row q.insertFieldsOf) with
      | error e => rfl
      | ok columns =>
          simp only [attempt_ok, Except.map]
          split <;> rfl
  | _ => cases hk

theorem perform (h : Inline d m qualified q) {op : Operation}
    (hop : op.keepsModes qualified = true) : Inline d m qualified (q.perform op).2 := by
  cases hk : op.slot? with
  | none => rwa [h.perform_of_slot_eq_none hop hk]
  | some k =>
      rcases h.perform_cases_of_slot hk with ⟨e, heq⟩ | ⟨c, -, hc, heq⟩
      · rwa [heq]
      · rw [heq]
        exact h.put hc

/-- A call leaves the other slots as they are. -/
theorem content_perform_of_ne (h : Inline d m qualified q) {op : Operation} {k : Slot}
    (hop : op.keepsModes qualified = true) (hk : op.slot? ≠ some k) :
    (q.perform op).2.content k = q.content k := by
  cases hk' : op.slot? with
  | none => rw [h.perform_of_slot_eq_none hop hk']
  | some k' =>
      rcases h.perform_cases_of_slot hk' with ⟨e, heq⟩ | ⟨c, rfl, -, heq⟩
      · rw [heq]
      · rw [heq]
        refine content_put_of_ne fun hkc => hk ?_
        rw [hk', hkc]

/-- A call that fails leaves everything as it is. -/
theorem perform_of_error (h : Inline d m qualified q) {op : Operation} {e : Error}
    (hop : op.keepsModes qualified = true) (herror : (q.perform op).1 = .error e) :
    (q.perform op).2 = q := by
  cases hk : op.slot? with
  | none => exact h.perform_of_slot_eq_none hop hk
  | some k =>
      rcases h.perform_cases_of_slot hk with ⟨e', heq⟩ | ⟨c, -, -, heq⟩
      · rw [heq]
      · rw [heq] at herror
        cases herror

/-! ### Calls on different descriptors, and on different slots -/

/-- A call does the same to two descriptors that hold the same in its slot. -/
theorem perform_congr (h : Inline d m qualified q) (h' : Inline d m qualified q') {op : Operation}
    {k : Slot} (hk : op.slot? = some k) (hsame : q'.content k = q.content k) :
    (q'.perform op).1 = (q.perform op).1 ∧
      (q'.perform op).2.content k = (q.perform op).2.content k := by
  obtain ⟨r, hr, hperform⟩ := h.hasEffect hk
  rw [hperform q' h' (.inr hsame), hperform q h (.inr rfl)]
  cases r with
  | error e => exact ⟨rfl, hsame⟩
  | ok c =>
      obtain rfl := (hr c rfl).1
      refine ⟨rfl, ?_⟩
      change (q'.put c).content c.slot = (q.put c).content c.slot
      rw [content_put_self, content_put_self]

/-- A call that replaces what is in its slot, and succeeds, does the same to every descriptor. -/
theorem perform_congr_of_replaces (h : Inline d m qualified q) (h' : Inline d m qualified q')
    {op : Operation} {k : Slot} (hk : op.slot? = some k) (hop : op.replaces = true)
    (hok : (q.perform op).1 = .ok ()) :
    (q'.perform op).1 = .ok () ∧
      (q'.perform op).2.content k = (q.perform op).2.content k := by
  obtain ⟨r, hr, hperform⟩ := h.hasEffect hk
  rw [hperform q h (.inl hop)] at hok ⊢
  rw [hperform q' h' (.inl hop)]
  cases r with
  | error e => cases hok
  | ok c =>
      obtain rfl := (hr c rfl).1
      refine ⟨rfl, ?_⟩
      change (q'.put c).content c.slot = (q.put c).content c.slot
      rw [content_put_self, content_put_self]

/-- **Calls on different slots commute.** -/
theorem perform_comm (h : Inline d m qualified q) {op op' : Operation} {k k' : Slot}
    (hk : op.slot? = some k) (hk' : op'.slot? = some k') (hne : k ≠ k') :
    ((q.perform op).2.perform op').2 = ((q.perform op').2.perform op).2 := by
  have hop := Operation.keepsModes_of_slot qualified hk
  have hop' := Operation.keepsModes_of_slot qualified hk'
  have hleft := h.perform hop
  have hright := h.perform hop'
  have hnek' : op.slot? ≠ some k' := by
    rw [hk]
    exact fun hkk => hne (Option.some.inj hkk)
  have hnek : op'.slot? ≠ some k := by
    rw [hk']
    exact fun hkk => hne (Option.some.inj hkk).symm
  refine (hright.perform hop).ext (hleft.perform hop') fun j => ?_
  by_cases hj : op'.slot? = some j
  · -- the slot of the second call: the first call has not touched it
    obtain rfl := Option.some.inj (hk'.symm.trans hj)
    rw [hright.content_perform_of_ne hop hnek']
    exact (h.perform_congr hleft hk' (h.content_perform_of_ne hop hnek')).2
  · rw [hleft.content_perform_of_ne hop' hj]
    by_cases hj' : op.slot? = some j
    · obtain rfl := Option.some.inj (hk.symm.trans hj')
      exact ((h.perform_congr hright hk (h.content_perform_of_ne hop' hnek)).2).symm
    · rw [hright.content_perform_of_ne hop hj', h.content_perform_of_ne hop hj',
        h.content_perform_of_ne hop' hj]

end Inline

end Query

end ModelSql
