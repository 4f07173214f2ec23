/-
**Replaying a run.**

A run of calls on a descriptor that writes values as literals can be shortened.  Calls that fail have
left no trace; of the others, those on one slot count from the last one on that replaced what the slot
held, and how calls on different slots are mixed does not count at all.  The calls that are left, in
any such mixture, lead a fresh descriptor to the same end.

Main definitions:

* `Query.run`, `Query.successes`, `Query.AllSucceed` — a run, those of its calls that succeed, and
  runs of which all calls do;
* `Operation.fromLastReplacing` — the calls from the last one on that replaces;
* `Query.Replays` — **the calls that are left of a run**.

Main results:

* `Query.Inline.run_successes` — calls that fail do not count;
* `Query.Inline.filter_isOn` — for a slot, calls on the other slots do not count;
* `Query.Inline.run_fromLastReplacing` — nor do those before the last one that replaces;
* `Query.run_replayed` — **a replay leads to the same descriptor**.
-/

import ModelSql.Proofs.Query.Slot

set_option relaxedAutoImplicit false
set_option autoImplicit false

namespace ModelSql

/-! ### Runs -/

namespace Operation

/-- Whether a call is on a slot. -/
def isOn (k : Slot) (op : Operation) : Bool := op.slot? == some k

/-- The calls from the last one on that replaces; all of them if none does. -/
def fromLastReplacing : List Operation → List Operation
  | [] => []
  | op :: ops => if ops.any replaces then fromLastReplacing ops else op :: ops

theorem isOn_iff {k : Slot} {op : Operation} : op.isOn k = true ↔ op.slot? = some k := by
  simp [isOn]

end Operation

namespace Query

/-- The descriptor after a run of calls. -/
def run (q : Query) : List Operation → Query
  | [] => q
  | op :: ops => (q.perform op).2.run ops

/-- The calls of a run that succeed. -/
def successes (q : Query) : List Operation → List Operation
  | [] => []
  | op :: ops =>
    match (q.perform op).1 with
    | .ok () => op :: (q.perform op).2.successes ops
    | .error _ => (q.perform op).2.successes ops

/-- A run of which all calls succeed. -/
def AllSucceed (q : Query) : List Operation → Prop
  | [] => True
  | op :: ops => (q.perform op).1 = .ok () ∧ (q.perform op).2.AllSucceed ops

/-- **A replay of a run** from the same descriptor: it has the calls on slots that succeeded, for each
slot those from the last one on that replaced what it held, and in their order; calls on different slots
may come in any order. -/
structure Replays (q : Query) (ops replayed : List Operation) : Prop where
  onSlots : ∀ op ∈ replayed, ∃ k, op.slot? = some k
  kept : ∀ k, replayed.filter (·.isOn k) =
    Operation.fromLastReplacing ((q.successes ops).filter (·.isOn k))

theorem run_append (q : Query) (ops ops' : List Operation) :
    q.run (ops ++ ops') = (q.run ops).run ops' := by
  induction ops generalizing q with
  | nil => rfl
  | cons op ops ih => exact ih (q.perform op).2

namespace Inline

variable {d : Dialect} {m : Model} {qualified : Bool} {q q' : Query} {ops : List Operation}

theorem run (h : Inline d m qualified q) (hops : ∀ op ∈ ops, op.keepsModes qualified = true) :
    Inline d m qualified (q.run ops) := by
  induction ops generalizing q with
  | nil => exact h
  | cons op ops ih =>
      rw [List.forall_mem_cons] at hops
      exact ih (h.perform hops.1) hops.2

/-! ### Calls that fail -/

theorem mem_of_mem_successes {op : Operation} (hop : op ∈ q.successes ops) : op ∈ ops := by
  induction ops generalizing q with
  | nil => exact hop
  | cons op' ops ih =>
      simp only [successes] at hop
      split at hop
      · rcases List.mem_cons.1 hop with rfl | hop
        · exact List.mem_cons_self
        · exact List.mem_cons_of_mem _ (ih hop)
      · exact List.mem_cons_of_mem _ (ih hop)

/-- **Calls that fail do not count**: without them the run ends in the same descriptor, and all of its
calls succeed. -/
theorem run_successes (h : Inline d m qualified q)
    (hops : ∀ op ∈ ops, op.keepsModes qualified = true) :
    q.run (q.successes ops) = q.run ops ∧ q.AllSucceed (q.successes ops) := by
  induction ops generalizing q with
  | nil => exact ⟨rfl, trivial⟩
  | cons op ops ih =>
      rw [List.forall_mem_cons] at hops
      have hnext := ih (h.perform hops.1) hops.2
      simp only [successes]
      cases hperform : (q.perform op).1 with
      | ok _ => exact ⟨hnext.1, hperform, hnext.2⟩
      | error e =>
          have hsame := h.perform_of_error hops.1 hperform
          rw [hsame] at hnext
          simp only [hsame, Query.run]
          exact hnext

/-! ### Calls on one slot -/

/-- **For a slot, calls on other slots do not count**: without them a run of which all calls succeed,
from any descriptor that holds the same in that slot, succeeds too and leaves the same there. -/
theorem filter_isOn (h : Inline d m qualified q) (h' : Inline d m qualified q') {k : Slot}
    (hops : ∀ op ∈ ops, op.keepsModes qualified = true) (hall : q.AllSucceed ops)
    (hsame : q'.content k = q.content k) :
    q'.AllSucceed (ops.filter (·.isOn k)) ∧
      (q'.run (ops.filter (·.isOn k))).content k = (q.run ops).content k := by
  induction ops generalizing q q' with
  | nil => exact ⟨trivial, hsame⟩
  | cons op ops ih =>
      rw [List.forall_mem_cons] at hops
      have hq := h.perform hops.1
      cases hk : op.isOn k with
      | true =>
          obtain ⟨hresult, hcontent⟩ := h.perform_congr h' (Operation.isOn_iff.1 hk) hsame
          rw [List.filter_cons_of_pos hk]
          have hrest := ih hq (h'.perform hops.1) hops.2 hall.2 hcontent
          exact ⟨⟨hresult.trans hall.1, hrest.1⟩, hrest.2⟩
      | false =>
          have hne : op.slot? ≠ some k := fun heq => by
            rw [Operation.isOn_iff.2 heq] at hk
            cases hk
          rw [List.filter_cons_of_neg (by rw [hk]; exact Bool.false_ne_true)]
          exact ih hq h' hops.2 hall.2 (hsame.trans (h.content_perform_of_ne hops.1 hne).symm)

/-- **What a slot held before the last call that replaces it does not count.** -/
theorem run_fromLastReplacing (h : Inline d m qualified q) (h' : Inline d m qualified q') {k : Slot}
    (hops : ∀ op ∈ ops, op.isOn k = true) (hall : q.AllSucceed ops)
    (hsame : ops.any Operation.replaces = true ∨ q'.content k = q.content k) :
    q'.AllSucceed (Operation.fromLastReplacing ops) ∧
      (q'.run (Operation.fromLastReplacing ops)).content k = (q.run ops).content k := by
  induction ops generalizing q with
  | nil => exact ⟨trivial, hsame.resolve_left nofun⟩
  | cons op ops ih =>
      rw [List.forall_mem_cons] at hops
      have hk : op.slot? = some k := Operation.isOn_iff.1 hops.1
      have hmodes : ∀ op ∈ ops, op.keepsModes qualified = true := fun op hop =>
        Operation.keepsModes_of_slot qualified (Operation.isOn_iff.1 (hops.2 op hop))
      have hq := h.perform (Operation.keepsModes_of_slot qualified hk)
      simp only [Operation.fromLastReplacing]
      by_cases hany : ops.any Operation.replaces = true
      · rw [if_pos hany]
        exact ih hq hops.2 hall.2 (.inl hany)
      · -- no later call replaces, so this one does, or the two descriptors agree before it
        rw [if_neg hany]
        have hfirst : (q'.perform op).1 = .ok () ∧
            (q'.perform op).2.content k = (q.perform op).2.content k := by
          rcases hsame with hreplaces | hsame
          · rw [List.any_cons, Bool.or_eq_true] at hreplaces
            exact h.perform_congr_of_replaces h' hk (hreplaces.resolve_right hany) hall.1
          · obtain ⟨hresult, hcontent⟩ := h.perform_congr h' hk hsame
            exact ⟨hresult.trans hall.1, hcontent⟩
        have hrest := hq.filter_isOn (h'.perform (Operation.keepsModes_of_slot qualified hk)) hmodes
          hall.2 hfirst.2
        rw [List.filter_eq_self.2 hops.2] at hrest
        exact ⟨⟨hfirst.1, hrest.1⟩, hrest.2⟩

/-! ### Calls on all slots -/

/-- All calls of a run succeed if for each slot those on it do, from a descriptor that holds the same
there. -/
theorem allSucceed_of_filter (h : Inline d m qualified q)
    (hslots : ∀ op ∈ ops, ∃ k, op.slot? = some k)
    (hall : ∀ k, ∃ p, Inline d m qualified p ∧ p.content k = q.content k ∧
      p.AllSucceed (ops.filter (·.isOn k))) :
    q.AllSucceed ops := by
  induction ops generalizing q with
  | nil => trivial
  | cons op ops ih =>
      rw [List.forall_mem_cons] at hslots
      obtain ⟨k, hk⟩ := hslots.1
      have hmodes := Operation.keepsModes_of_slot qualified hk
      obtain ⟨p, hp, hsame, hsucceed⟩ := hall k
      rw [List.filter_cons_of_pos (Operation.isOn_iff.2 hk)] at hsucceed
      obtain ⟨hresult, hcontent⟩ := h.perform_congr hp hk hsame
      refine ⟨hresult.symm.trans hsucceed.1, ih (h.perform hmodes) hslots.2 fun j => ?_⟩
      by_cases hj : op.slot? = some j
      · obtain rfl := Option.some.inj (hk.symm.trans hj)
        exact ⟨(p.perform op).2, hp.perform hmodes, hcontent, hsucceed.2⟩
      · obtain ⟨p', hp', hsame', hsucceed'⟩ := hall j
        rw [List.filter_cons_of_neg (by rwa [Operation.isOn_iff])] at hsucceed'
        exact ⟨p', hp', hsame'.trans (h.content_perform_of_ne hmodes hj).symm, hsucceed'⟩

/-- A replay of a run succeeds, and leads to the same descriptor. -/
theorem run_of_replays (h : Inline d m qualified q) {replayed : List Operation}
    (hops : ∀ op ∈ ops, op.keepsModes qualified = true) (hreplay : q.Replays ops replayed) :
    q.AllSucceed replayed ∧ q.run replayed = q.run ops := by
  obtain ⟨hrun, hsuccesses⟩ := h.run_successes hops
  have hmodes : ∀ op ∈ q.successes ops, op.keepsModes qualified = true := fun op hop =>
    hops op (mem_of_mem_successes hop)
  have hmodes' : ∀ op ∈ replayed, op.keepsModes qualified = true := fun op hop =>
    (hreplay.onSlots op hop).elim fun k hk => Operation.keepsModes_of_slot qualified hk
  -- for each slot: the calls on it that succeeded, and what is left of them
  have hslot : ∀ k, q.AllSucceed (replayed.filter (·.isOn k)) ∧
      (q.run (replayed.filter (·.isOn k))).content k = (q.run ops).content k := by
    intro k
    obtain ⟨hon, hcontent⟩ := h.filter_isOn h hmodes hsuccesses (k := k) rfl
    have hkept := h.run_fromLastReplacing h (fun op hop => (List.mem_filter.1 hop).2) hon
      (.inr rfl)
    rw [hreplay.kept, ← hrun, ← hcontent]
    exact hkept
  have hall : q.AllSucceed replayed :=
    h.allSucceed_of_filter hreplay.onSlots fun k => ⟨q, h, rfl, (hslot k).1⟩
  refine ⟨hall, (h.run hops).ext (h.run hmodes') fun k => ?_⟩
  exact ((h.filter_isOn h hmodes' hall rfl).2.symm).trans (hslot k).2

end Inline

/-- **A replay of a run leads to the same descriptor**, with all that can be asked of it: for each slot
only the calls that succeeded count, from the last one on that replaced what the slot held, and in
whatever order calls on different slots come.  They all succeed again.  In particular calls on different
slots may be exchanged. -/
theorem run_replayed {d : Dialect} {m : Model} {qualified : Bool} {ops replayed : List Operation}
    (hops : ∀ op ∈ ops, op.keepsModes qualified = true)
    (hreplay : (fresh d m qualified).Replays ops replayed) :
    (fresh d m qualified).AllSucceed replayed ∧
      (fresh d m qualified).run replayed = (fresh d m qualified).run ops ∧
      ∀ op op' k k', op.slot? = some k → op'.slot? = some k' → k ≠ k' →
        (fresh d m qualified).run (ops ++ [op, op']) =
          (fresh d m qualified).run (ops ++ [op', op]) := by
  have hfresh := inline_fresh d m qualified
  obtain ⟨hall, hrun⟩ := hfresh.run_of_replays hops hreplay
  refine ⟨hall, hrun, fun op op' k k' hk hk' hne => ?_⟩
  rw [run_append, run_append]
  exact (hfresh.run hops).perform_comm hk hk' hne

/-- A run in which two calls fail, and the filter and the paging are replaced. -/
def mixedRun : List Operation :=
  [.filter (.column "Missing"), .filter (.binary .gt (.column "Age") (.value (.int 5))),
    .orderBy false (.column "Age"), .limit 10 20, .filterRaw "Age < 9" [], .and (.column "Flag"),
    .thenBy true (.column "Name"), .limitRows 5, .or (.column "Missing")]

/-- What is left of it, in another order. -/
def mixedReplay : List Operation :=
  [.limitRows 5, .orderBy false (.column "Age"), .filterRaw "Age < 9" [],
    .thenBy true (.column "Name"), .and (.column "Flag")]

theorem run_replayed_mixed :
    let q := fresh DialectKind.sqlite.dialect people false
    (∀ op ∈ mixedRun, op.keepsModes false = true) ∧ (q.successes mixedRun).length = 7 ∧
      q.Replays mixedRun mixedReplay ∧ q.run mixedReplay = q.run mixedRun ∧
      (q.run mixedReplay).selectStatement =
        "SELECT \"Name\", \"Age\", \"Flag\" \nFROM \"Person\"\nWHERE \"Flag\" = 1" ++
          "\nORDER BY \"Age\" ASC,\"Name\" DESC\nLIMIT 5" := by
  have hmodes : ∀ op ∈ mixedRun, op.keepsModes false = true := by
    simp [mixedRun, Operation.keepsModes]
  have hreplay : (fresh DialectKind.sqlite.dialect people false).Replays mixedRun mixedReplay := by
    refine ⟨?_, fun k => ?_⟩
    · simp [mixedReplay, Operation.slot?]
    · cases k <;> rfl
  exact ⟨hmodes, rfl, hreplay, (run_replayed hmodes hreplay).2.1, by decide⟩

end Query

end ModelSql
