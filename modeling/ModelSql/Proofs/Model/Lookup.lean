/-
**Looking up models at the same time.**

Many callers may look up the model of a type at once.  A lookup takes three steps, and between them
anything may happen: it looks into the catalogue, it lets the type define its model, and it puts the
model into the catalogue unless one is there by then.  The code that defines a model may look up other
types meanwhile, and may come to another result each time it runs.

Main definitions:

* `Shared` — a model in memory, which is an object of its own;
* `Stage`, `Lookup`, `Registry` — lookups under way, and what they share;
* `Registry.check`, `Registry.define`, `Registry.insert` — **the three steps**;
* `Registry.step`, `Registry.run`, `Registry.after` — one step of some caller, and what a schedule leads
  to;
* `Registry.Sound` — what every schedule keeps.

Main results:

* `Registry.step_find`, `Registry.run_find` — what is in the catalogue stays;
* `Registry.sound_step`, `Registry.sound_after` — the invariant, step by step and along a schedule;
* `Registry.run_alone` — a lookup that nobody interrupts is `Catalog.model`;
* `Registry.lookups_agree` — **whatever the schedule, a type has one model**, and a failure changes
  nothing.
-/

import Mathlib.Data.List.Basic
import ModelSql.Model
import ModelSql.Model.Catalog

set_option relaxedAutoImplicit false
set_option autoImplicit false

namespace ModelSql

/-! ### The catalogue -/

namespace Catalog

variable {α : Type} {c : Catalog α} {type : String}

theorem insert_of_some {kept : α} (h : c.find? type = some kept) (a : α) :
    c.insert type a = (kept, c) := by
  rw [insert, h]

theorem insert_of_none (h : c.find? type = none) (a : α) :
    c.insert type a = (a, ⟨(type, a) :: c.entries⟩) := by
  rw [insert, h]

/-- What is kept stays, whatever is put in. -/
theorem find_insert_of_some {other : String} {kept : α} (h : c.find? other = some kept)
    (type : String) (a : α) : (c.insert type a).2.find? other = some kept := by
  cases htype : c.find? type with
  | some found =>
      rw [insert_of_some htype]
      exact h
  | none =>
      have hne : other ≠ type := by
        rintro rfl
        rw [h] at htype
        cases htype
      rw [insert_of_none htype, find?, List.lookup_cons, beq_false_of_ne hne]
      exact h

/-- What comes out of putting something in is kept from then on. -/
theorem find_insert (c : Catalog α) (type : String) (a : α) :
    (c.insert type a).2.find? type = some (c.insert type a).1 := by
  cases h : c.find? type with
  | some kept =>
      rw [insert_of_some h]
      exact h
  | none =>
      rw [insert_of_none h, find?, List.lookup_cons, beq_self_eq_true]

/-- Only what was put in is new. -/
theorem eq_of_find_insert {other : String} {a kept : α}
    (h : (c.insert type a).2.find? other = some kept) :
    c.find? other = some kept ∨ other = type ∧ a = kept := by
  cases htype : c.find? type with
  | some found =>
      rw [insert_of_some htype] at h
      exact .inl h
  | none =>
      rw [insert_of_none htype, find?, List.lookup_cons] at h
      cases heq : other == type with
      | true =>
          rw [heq] at h
          exact .inr ⟨beq_iff_eq.1 heq, Option.some.inj h⟩
      | false =>
          rw [heq] at h
          exact .inl h

theorem model_of_some {kept : α} (h : c.find? type = some kept) (result : Except Error α) :
    c.model type result = (.ok kept, c) := by
  unfold model
  rw [h]

theorem model_of_error (h : c.find? type = none) (e : Error) :
    c.model type (.error e) = (.error e, c) := by
  unfold model
  rw [h]

theorem model_of_ok (h : c.find? type = none) (a : α) :
    c.model type (.ok a) = (.ok (c.insert type a).1, (c.insert type a).2) := by
  unfold model
  rw [h]

end Catalog

/-! ### Lookups under way -/

/-- A model in memory.  Models that were made at different times are different objects, also where they
are equal. -/
structure Shared where
  mark : Nat
  model : Model
  deriving DecidableEq, Repr

/-- How far a lookup has come. -/
inductive Stage
  | checking
  | defining
  | inserting (made : Shared)
  deriving DecidableEq, Repr

/-- A lookup of the model of a type. -/
structure Lookup where
  type : String
  stage : Stage
  deriving DecidableEq, Repr

/-- What the code that defines a model does next: it looks up another type, or it comes to its end. -/
inductive Definer
  | resolve (type : String)
  | finish (result : Except Error Model)

/-- **The catalogue and its callers.**  Each caller has the lookup that is running, and behind it those
that wait for its answer.  What the types have defined and what the lookups were answered is recorded in
order. -/
structure Registry where
  cache : Catalog Shared
  callers : List (List Lookup)
  defined : List (String × Except Error Shared)
  answered : List (String × Except Error Shared)

/-- The failures among results, with their types. -/
def failures (results : List (String × Except Error Shared)) : List (String × Error) :=
  results.filterMap fun
    | (type, .error e) => some (type, e)
    | (_, .ok _) => none

namespace Registry

/-- Nobody has looked up anything. -/
def initial : Registry := ⟨.empty, [], [], []⟩

/-! ### The three steps -/

/-- A caller goes on with other lookups. -/
def goOn (r : Registry) (i : Nat) (lookups : List Lookup) : Registry :=
  { r with callers := r.callers.set i lookups }

/-- The running lookup of a caller gets its answer, and the next one that waits goes on. -/
def answer (r : Registry) (i : Nat) (type : String) (waiting : List Lookup)
    (result : Except Error Shared) : Registry :=
  { r.goOn i waiting with answered := r.answered ++ [(type, result)] }

/-- The code that defines the model of a type has come to its end. -/
def record (r : Registry) (type : String) (result : Except Error Shared) : Registry :=
  { r with defined := r.defined ++ [(type, result)] }

/-- **The first step**: what the catalogue has is the answer. -/
def check (r : Registry) (i : Nat) (type : String) (waiting : List Lookup) : Registry :=
  match r.cache.find? type with
  | some kept => r.answer i type waiting (.ok kept)
  | none => r.goOn i (⟨type, .defining⟩ :: waiting)

/-- **The second step**: the type defines its model, and looks up other types as often as it likes. -/
def define (r : Registry) (i : Nat) (type : String) (waiting : List Lookup) : Definer → Registry
  | .resolve other => r.goOn i (⟨other, .checking⟩ :: ⟨type, .defining⟩ :: waiting)
  | .finish (.error e) => (r.record type (.error e)).answer i type waiting (.error e)
  | .finish (.ok m) =>
    let made : Shared := ⟨r.defined.length, m⟩
    (r.record type (.ok made)).goOn i (⟨type, .inserting made⟩ :: waiting)

/-- **The third step**: the model goes into the catalogue unless there is one, and what is there then is
the answer. -/
def insert (r : Registry) (i : Nat) (type : String) (waiting : List Lookup) (made : Shared) : Registry :=
  { r with cache := (r.cache.insert type made).2 }.answer i type waiting
    (.ok (r.cache.insert type made).1)

/-- What happens next: somebody looks up a type, or a caller takes its next step. -/
inductive Act
  | call (type : String)
  | advance (i : Nat) (next : Definer)

/-- **One step.**  Callers that have nothing to do do nothing. -/
def step (r : Registry) : Act → Registry
  | .call type => { r with callers := r.callers ++ [[⟨type, .checking⟩]] }
  | .advance i next =>
    match r.callers[i]? with
    | some (⟨type, .checking⟩ :: waiting) => r.check i type waiting
    | some (⟨type, .defining⟩ :: waiting) => r.define i type waiting next
    | some (⟨type, .inserting made⟩ :: waiting) => r.insert i type waiting made
    | _ => r

/-- **A schedule**: the steps of all callers in the order in which they happen. -/
def run (r : Registry) (acts : List Act) : Registry := acts.foldl step r

/-- What a schedule leads to. -/
def after (acts : List Act) : Registry := initial.run acts

theorem after_append (acts later : List Act) : after (acts ++ later) = (after acts).run later :=
  List.foldl_append

variable {r : Registry} {i : Nat} {type : String} {waiting : List Lookup}

/-! ### The catalogue only grows -/

/-- **What is in the catalogue stays there, and stays the same.** -/
theorem step_find {other : String} {o : Shared} (h : r.cache.find? other = some o) (act : Act) :
    (r.step act).cache.find? other = some o := by
  cases act with
  | call type => exact h
  | advance i next =>
      simp only [step]
      split
      · unfold check
        split <;> exact h
      · unfold define
        split <;> exact h
      · exact Catalog.find_insert_of_some h _ _
      · exact h

theorem run_find {other : String} {o : Shared} (h : r.cache.find? other = some o) (acts : List Act) :
    (r.run acts).cache.find? other = some o := by
  induction acts generalizing r with
  | nil => exact h
  | cons act acts ih => exact ih (step_find h act)

/-! ### The invariant -/

/-- The models that lookups are about to put into the catalogue have been defined. -/
def Covers (r : Registry) (lookups : List Lookup) : Prop :=
  ∀ l ∈ lookups, ∀ o, l.stage = .inserting o → (l.type, .ok o) ∈ r.defined

/-- **What every schedule keeps.**  What is in the catalogue has been defined for its type, and so has
what is about to be put in.  The answers are what the catalogue has.  The lookups that fail are those
whose type failed to define a model.  No two definitions make the same object. -/
structure Sound (r : Registry) : Prop where
  cached : ∀ type o, r.cache.find? type = some o → (type, .ok o) ∈ r.defined
  covered : ∀ lookups ∈ r.callers, r.Covers lookups
  answered : ∀ type o, (type, .ok o) ∈ r.answered → r.cache.find? type = some o
  failed : failures r.answered = failures r.defined
  marks : ∀ (k : Nat) (type : String) (o : Shared), r.defined[k]? = some (type, .ok o) → o.mark = k

theorem sound_initial : initial.Sound where
  cached type o h := by cases h
  covered lookups h := by cases h
  answered type o h := by cases h
  failed := rfl
  marks k type o h := by cases h

theorem failures_append (xs ys : List (String × Except Error Shared)) :
    failures (xs ++ ys) = failures xs ++ failures ys := List.filterMap_append

theorem Covers.tail {l : Lookup} (h : r.Covers (l :: waiting)) : r.Covers waiting :=
  fun k hk => h k (List.mem_cons_of_mem l hk)

/-- A lookup that is not about to put anything in. -/
theorem Covers.cons {l : Lookup} (h : r.Covers waiting) (hl : ∀ o, l.stage ≠ .inserting o) :
    r.Covers (l :: waiting) := by
  intro k hk o ho
  rcases List.mem_cons.1 hk with rfl | hk
  · exact absurd ho (hl o)
  · exact h k hk o ho

/-- A caller goes on. -/
theorem Sound.goOn {lookups : List Lookup} (h : r.Sound) (hl : r.Covers lookups) (i : Nat) :
    (r.goOn i lookups).Sound where
  cached := h.cached
  covered ks hks := by
    rcases List.mem_or_eq_of_mem_set hks with hks | rfl
    · exact h.covered ks hks
    · exact hl
  answered := h.answered
  failed := h.failed
  marks := h.marks

/-- A lookup is answered with what the catalogue has. -/
theorem Sound.answer_ok {o : Shared} (h : r.Sound) (hw : r.Covers waiting)
    (ho : r.cache.find? type = some o) (i : Nat) : (r.answer i type waiting (.ok o)).Sound where
  cached := h.cached
  covered := (h.goOn hw i).covered
  answered other p hp := by
    rcases List.mem_append.1 hp with hp | hp
    · exact h.answered other p hp
    · obtain ⟨rfl, rfl⟩ : other = type ∧ p = o := by simpa using hp
      exact ho
  failed := by
    have hnone : failures [(type, Except.ok o)] = [] := rfl
    rw [answer, failures_append, hnone, List.append_nil]
    exact h.failed
  marks := h.marks

/-- More results of definitions, with a new mark on what was made. -/
theorem marks_record {result : Except Error Shared}
    (hresult : ∀ o, result = .ok o → o.mark = r.defined.length)
    (h : ∀ (k : Nat) (type : String) (o : Shared), r.defined[k]? = some (type, .ok o) → o.mark = k)
    (k : Nat) (other : String) (o : Shared)
    (hk : (r.record type result).defined[k]? = some (other, .ok o)) : o.mark = k := by
  rw [record, List.getElem?_append] at hk
  split at hk
  · exact h k other o hk
  · rename_i hlength
    obtain ⟨hindex, heq⟩ := List.getElem?_eq_some_iff.1 hk
    have hzero : k - r.defined.length = 0 := Nat.lt_one_iff.1 hindex
    simp only [hzero, List.getElem_cons_zero, Prod.mk.injEq] at heq
    rw [hresult o heq.2]
    omega

theorem Covers.record {lookups : List Lookup} (h : r.Covers lookups)
    (result : Except Error Shared) : (r.record type result).Covers lookups :=
  fun l hl o ho => List.mem_append_left _ (h l hl o ho)

/-- **A lookup whose type fails** is answered with the failure. -/
theorem Sound.fail (h : r.Sound) (hw : r.Covers waiting) (e : Error) (i : Nat) :
    ((r.record type (.error e)).answer i type waiting (.error e)).Sound where
  cached other o ho := List.mem_append_left _ (h.cached other o ho)
  covered ks hks := ((h.goOn hw i).covered ks hks).record _
  answered other o ho := by
    rcases List.mem_append.1 ho with ho | ho
    · exact h.answered other o ho
    · cases List.mem_singleton.1 ho
  failed := by
    have hanswered : ((r.record type (.error e)).answer i type waiting (.error e)).answered =
        r.answered ++ [(type, .error e)] := rfl
    have hdefined : ((r.record type (.error e)).answer i type waiting (.error e)).defined =
        r.defined ++ [(type, .error e)] := rfl
    rw [hanswered, hdefined, failures_append, failures_append, h.failed]
  marks := marks_record (fun o ho => by cases ho) h.marks

/-- **A type that defines a model** makes a new object. -/
theorem Sound.record_ok (h : r.Sound) (type : String) (m : Model) :
    (r.record type (.ok ⟨r.defined.length, m⟩)).Sound where
  cached other o ho := List.mem_append_left _ (h.cached other o ho)
  covered ks hks := (h.covered ks hks).record _
  answered := h.answered
  failed := by
    have hnone : failures [(type, Except.ok (⟨r.defined.length, m⟩ : Shared))] = [] := rfl
    rw [Registry.record, failures_append, hnone, List.append_nil]
    exact h.failed
  marks := marks_record (fun o ho => by cases ho; rfl) h.marks

/-- What has been defined goes into the catalogue. -/
theorem Sound.put {made : Shared} (h : r.Sound) (hmade : (type, .ok made) ∈ r.defined) :
    Sound { r with cache := (r.cache.insert type made).2 } where
  cached other o ho := by
    rcases Catalog.eq_of_find_insert ho with ho | ⟨rfl, rfl⟩
    · exact h.cached other o ho
    · exact hmade
  covered := h.covered
  answered other o ho := Catalog.find_insert_of_some (h.answered other o ho) _ _
  failed := h.failed
  marks := h.marks

/-! ### Steps and schedules -/

theorem Sound.covers {lookups : List Lookup} (h : r.Sound) (hi : r.callers[i]? = some lookups) :
    r.Covers lookups :=
  h.covered lookups (List.mem_of_getElem? hi)

theorem sound_call (h : r.Sound) (type : String) : (r.step (.call type)).Sound where
  cached := h.cached
  covered ks hks := by
    rcases List.mem_append.1 hks with hks | hks
    · exact h.covered ks hks
    · obtain rfl := List.mem_singleton.1 hks
      have hnil : r.Covers [] := fun l hl => by cases hl
      exact hnil.cons (by simp)
  answered := h.answered
  failed := h.failed
  marks := h.marks

theorem sound_check (h : r.Sound) (hw : r.Covers waiting) : (r.check i type waiting).Sound := by
  unfold check
  split
  · rename_i kept hkept
    exact h.answer_ok hw hkept i
  · exact h.goOn (hw.cons (by simp)) i

theorem sound_define (h : r.Sound) (hw : r.Covers waiting) (next : Definer) :
    (r.define i type waiting next).Sound := by
  cases next with
  | resolve other => exact h.goOn ((hw.cons (by simp)).cons (by simp)) i
  | finish result =>
      cases result with
      | error e => exact h.fail hw e i
      | ok m =>
          refine (h.record_ok type m).goOn ?_ i
          intro l hl o ho
          rcases List.mem_cons.1 hl with rfl | hl
          · cases ho
            exact List.mem_append_right _ List.mem_cons_self
          · exact hw.record _ l hl o ho

theorem sound_insert {made : Shared} (h : r.Sound) (hmade : (type, .ok made) ∈ r.defined)
    (hw : r.Covers waiting) : (r.insert i type waiting made).Sound :=
  (h.put hmade).answer_ok hw (Catalog.find_insert r.cache type made) i

/-- **Every step keeps the invariant.** -/
theorem sound_step (h : r.Sound) (act : Act) : (r.step act).Sound := by
  cases act with
  | call type => exact sound_call h type
  | advance i next =>
      simp only [step]
      split
      · rename_i hi
        exact sound_check h (h.covers hi).tail
      · rename_i hi
        exact sound_define h (h.covers hi).tail next
      · rename_i hi
        exact sound_insert h (h.covers hi _ List.mem_cons_self _ rfl) (h.covers hi).tail
      · exact h

theorem sound_run (h : r.Sound) (acts : List Act) : (r.run acts).Sound := by
  induction acts generalizing r with
  | nil => exact h
  | cons act acts ih => exact ih (sound_step h act)

theorem sound_after (acts : List Act) : (after acts).Sound := sound_run sound_initial acts

/-! ### A lookup on its own -/

theorem step_known {kept : Shared} (hi : r.callers[i]? = some (⟨type, .checking⟩ :: waiting))
    (h : r.cache.find? type = some kept) (next : Definer) :
    r.step (.advance i next) = r.answer i type waiting (.ok kept) := by
  simp only [step, hi, check, h]

theorem step_unknown (hi : r.callers[i]? = some (⟨type, .checking⟩ :: waiting))
    (h : r.cache.find? type = none) (next : Definer) :
    r.step (.advance i next) = r.goOn i (⟨type, .defining⟩ :: waiting) := by
  simp only [step, hi, check, h]

theorem step_defining (hi : r.callers[i]? = some (⟨type, .defining⟩ :: waiting)) (next : Definer) :
    r.step (.advance i next) = r.define i type waiting next := by
  simp only [step, hi]

theorem step_inserting {made : Shared}
    (hi : r.callers[i]? = some (⟨type, .inserting made⟩ :: waiting)) (next : Definer) :
    r.step (.advance i next) = r.insert i type waiting made := by
  simp only [step, hi]

/-- A caller that goes on with other lookups has them. -/
theorem callers_goOn {lookups : List Lookup} (hi : r.callers[i]? = some lookups)
    (more : List Lookup) : (r.goOn i more).callers[i]? = some more :=
  List.getElem?_set_self (List.getElem?_eq_some_iff.1 hi).1

/-- **A lookup that nobody interrupts** takes three steps at most, and does what `Catalog.model` does. -/
theorem run_alone (hi : r.callers[i]? = some (⟨type, .checking⟩ :: waiting))
    (result : Except Error Model) :
    ∃ n ≤ 3, ∃ r', r.run (List.replicate n (.advance i (.finish result))) = r' ∧
      r'.callers = r.callers.set i waiting ∧
      ∃ answer, r.cache.model type (result.map (Shared.mk r.defined.length)) = (answer, r'.cache) ∧
        r'.answered = r.answered ++ [(type, answer)] := by
  cases hfind : r.cache.find? type with
  | some kept =>
      have hcheck := step_known hi hfind (.finish result)
      exact ⟨1, by omega, _, hcheck, rfl, .ok kept, Catalog.model_of_some hfind _, rfl⟩
  | none =>
      let act : Act := .advance i (.finish result)
      let pending := r.goOn i (⟨type, .defining⟩ :: waiting)
      have hcheck : r.step act = pending := step_unknown hi hfind _
      have hdefining := callers_goOn hi (⟨type, .defining⟩ :: waiting)
      have hdefine : pending.step act = pending.define i type waiting (.finish result) :=
        step_defining hdefining _
      cases result with
      | error e =>
          have hrun : r.run (List.replicate 2 act) = (r.step act).step act := rfl
          rw [hcheck, hdefine] at hrun
          exact ⟨2, by omega, _, hrun, List.set_set .., .error e, Catalog.model_of_error hfind e, rfl⟩
      | ok m =>
          have hrecorded : (pending.record type (.ok ⟨r.defined.length, m⟩)).callers[i]? =
              some (⟨type, .defining⟩ :: waiting) := hdefining
          have hinserting := callers_goOn hrecorded
            (⟨type, .inserting ⟨r.defined.length, m⟩⟩ :: waiting)
          have hrun : r.run (List.replicate 3 act) = ((r.step act).step act).step act := rfl
          rw [hcheck, hdefine] at hrun
          refine ⟨3, by omega, _, hrun.trans (step_inserting hinserting _), ?_, _,
            Catalog.model_of_ok hfind _, rfl⟩
          simp [Registry.insert, Registry.answer, Registry.goOn, Registry.record, pending]

/-! ### Agreement -/

/-- **Whatever the schedule, a type has one model.**  What the catalogue has for a type stays, and every
lookup that succeeds, before or afterwards, is answered with that object, which one definition of the
type has made and no other definition makes again.  The lookups that fail are those whose type failed to
define a model, each with the error of its own definition; such a step changes neither the catalogue nor
any other lookup.  Whoever looks up a type has a lookup of it from then on, which changes nothing for the
others, and any lookup that has begun is answered when its caller is let go on. -/
theorem lookups_agree (acts : List Act) :
    (∀ type o, (after acts).cache.find? type = some o → ∀ later,
      (after (acts ++ later)).cache.find? type = some o ∧
        ∀ o', (type, .ok o') ∈ (after (acts ++ later)).answered → o' = o) ∧
    (∀ type o, (type, .ok o) ∈ (after acts).answered →
      (after acts).cache.find? type = some o ∧ (type, .ok o) ∈ (after acts).defined) ∧
    (∀ (k k' : Nat) (type type' : String) (o : Shared),
      (after acts).defined[k]? = some (type, .ok o) →
        (after acts).defined[k']? = some (type', .ok o) → k = k') ∧
    failures (after acts).answered = failures (after acts).defined ∧
    (∀ i type waiting, (after acts).callers[i]? = some (⟨type, .defining⟩ :: waiting) → ∀ e,
      let failing := after (acts ++ [.advance i (.finish (.error e))])
      failing.cache = (after acts).cache ∧ failing.callers = (after acts).callers.set i waiting ∧
        failing.defined = (after acts).defined ++ [(type, .error e)] ∧
        failing.answered = (after acts).answered ++ [(type, .error e)]) ∧
    (∀ type, let called := after (acts ++ [.call type])
      called.callers = (after acts).callers ++ [[⟨type, .checking⟩]] ∧
        called.cache = (after acts).cache ∧ called.defined = (after acts).defined ∧
        called.answered = (after acts).answered) ∧
    ∀ i type waiting, (after acts).callers[i]? = some (⟨type, .checking⟩ :: waiting) → ∀ result,
      ∃ n ≤ 3, ∃ alone, after (acts ++ List.replicate n (.advance i (.finish result))) = alone ∧
        alone.callers = (after acts).callers.set i waiting ∧
        ∃ answer, (after acts).cache.model type
            (result.map (Shared.mk (after acts).defined.length)) = (answer, alone.cache) ∧
          alone.answered = (after acts).answered ++ [(type, answer)] := by
  have hsound := sound_after acts
  refine ⟨fun type o ho later => ?_, fun type o ho => ?_, fun k k' type type' o hk hk' => ?_,
    hsound.failed, fun i type waiting hi e => ?_, fun type => ?_, fun i type waiting hi result => ?_⟩
  · have hstays : (after (acts ++ later)).cache.find? type = some o := by
      rw [after_append]
      exact run_find ho later
    refine ⟨hstays, fun o' ho' => ?_⟩
    have hanswer := (sound_after (acts ++ later)).answered type o' ho'
    rw [hstays] at hanswer
    exact (Option.some.inj hanswer).symm
  · have hkept := hsound.answered type o ho
    exact ⟨hkept, hsound.cached type o hkept⟩
  · exact (hsound.marks k type o hk).symm.trans (hsound.marks k' type' o hk')
  · have hfailing : after (acts ++ [.advance i (.finish (.error e))]) =
        (after acts).define i type waiting (.finish (.error e)) := by
      rw [after_append]
      exact step_defining hi _
    rw [hfailing]
    exact ⟨rfl, rfl, rfl, rfl⟩
  · rw [after_append]
    exact ⟨rfl, rfl, rfl, rfl⟩
  · simp only [after_append]
    exact run_alone hi result

/-- Two callers look up a type at once, and each of them has it define a model.  The second to come to
the end of its definition puts its model in first, so that both are answered with that one, and so is
everybody later. -/
theorem lookups_agree_twoCallers :
    let first := Model.new "Person"
    let second := { first with fields := [Field.new "Id" .int64] }
    let acts := [Act.call "Person", .call "Person", .advance 0 (.finish (.ok first)),
      .advance 1 (.finish (.ok second)), .advance 0 (.finish (.ok first)),
      .advance 1 (.finish (.ok second)), .advance 1 (.finish (.ok second)),
      .advance 0 (.finish (.ok first))]
    (after acts).defined = [("Person", .ok ⟨0, first⟩), ("Person", .ok ⟨1, second⟩)] ∧
      (after acts).answered = [("Person", .ok ⟨1, second⟩), ("Person", .ok ⟨1, second⟩)] ∧
      ∀ later o, ("Person", .ok o) ∈ (after (acts ++ later)).answered → o = ⟨1, second⟩ := by
  intro first second acts
  exact ⟨rfl, rfl, fun later => ((lookups_agree acts).1 "Person" ⟨1, second⟩ rfl later).2⟩

end Registry

end ModelSql
