/-
**The selection of all columns along a run.**

A descriptor keeps the text of its selection and says whether something else than all columns was asked
for.  The calls that write another selection set that mark, and the one that changes how columns are
written puts the text together again.  So where nothing else was asked for, the text that is kept is the
selection of all columns as it would be written now.

Main definitions:

* `Query.SameSelection` — descriptors with the same selection;
* `Query.SelectsAll` — the text of the selection, unless something else was asked for.

Main results:

* `Query.SelectsAll.perform`, `Query.Reachable.selectsAll` — **one call, and a run of calls**.
-/

import ModelSql.Proofs.Query.Operation

set_option relaxedAutoImplicit false
set_option autoImplicit false

namespace ModelSql.Query

/-- Two descriptors with the same selection, now and as it would be written. -/
structure SameSelection (q q' : Query) : Prop where
  select : q'.select = q.select
  customSelect : q'.customSelect = q.customSelect
  defaultSelect : q'.defaultSelect = q.defaultSelect

/-- **Unless something else was asked for, all columns are selected** as they are written now. -/
def SelectsAll (q : Query) : Prop := q.customSelect = false → q.select = q.defaultSelect

variable {α : Type} {q q' : Query} {c : Clause} {extend : Bool} {step : Compile α}

theorem SelectsAll.congr (h : q.SelectsAll) (hs : SameSelection q q') : q'.SelectsAll := by
  intro hdefault
  rw [hs.select, hs.defaultSelect]
  exact h (hs.customSelect.symm.trans hdefault)

/-- Parameters have nothing to do with the selection. -/
theorem SameSelection.of_sameClauses (h : SameClauses q q') : SameSelection q q' := by
  rw [h]
  exact ⟨rfl, rfl, rfl⟩

/-! ### Calls -/

namespace SelectsAll

/-- A call that writes a clause, and then nothing that is in the way of the selection. -/
theorem settle_write (h : q.SelectsAll) {f : α × Query → Query}
    (hf : ∀ p, p.2.SelectsAll → (f p).SelectsAll) :
    (settle ((q.write c extend step).map f)).2.SelectsAll := by
  obtain ⟨q', hsame, hq | ⟨r, hq⟩⟩ := q.settle_write_cases c extend step f
  · rw [hq]
    exact h.congr (.of_sameClauses hsame)
  · rw [hq]
    exact hf (r, q') (h.congr (.of_sameClauses hsame))

/-- A call that computes something first. -/
theorem settle_attempt (h : q.SelectsAll) {r : Except Error α} {f : α → Query}
    (hf : ∀ a, SameSelection q (f a)) : (settle ((q.attempt r).map f)).2.SelectsAll := by
  cases r with
  | error e => exact h
  | ok a => exact h.congr (hf a)

/-- A call that leaves the descriptor as it was, or rewrites a clause. -/
theorem of_cases (h : q.SelectsAll) (hq : q' = q ∨ ∃ vs, q' = q.rewrite c false vs) : q'.SelectsAll := by
  rcases hq with rfl | ⟨vs, rfl⟩
  · exact h
  · exact h.congr ⟨rfl, rfl, rfl⟩

/-- **Every call keeps it so.** -/
theorem perform (h : q.SelectsAll) (op : Operation) : (q.perform op).2.SelectsAll := by
  have hbeside {p q' : Query} (hs : SameSelection p q') (hp : p.SelectsAll) : q'.SelectsAll :=
    hp.congr hs
  cases op with
  | select distinct e => exact h.settle_write fun _ _ => nofun
  | selectRaw list =>
      -- a blank list asks for all columns, any other one for something else
      intro hdefault
      have hblank : Text.isAllBlank list = true := by
        simpa [Query.perform, selectRaw] using hdefault
      simp only [Query.perform, selectRaw, hblank, if_true]
      rfl
  | qualified on =>
      simp only [Query.perform, setQualified]
      split
      · rename_i hcustom
        exact fun hdefault => absurd hcustom (by simpa using hdefault)
      · exact fun _ => rfl
  | filter | and | or | filterRaw | groupBy | having | havingRaw | orderBy | thenBy =>
      exact h.settle_write fun _ => hbeside ⟨rfl, rfl, rfl⟩
  | updateOnly | insertOnly => exact h.settle_attempt fun _ => ⟨rfl, rfl, rfl⟩
  | update row => exact h.of_cases (q.updateStatement_cases row)
  | insert row => exact h.of_cases (q.insertStatement_cases row)
  | clearFilter | groupByRaw | orderByRaw | limit | limitRows | clearLimit | updateAll | insertAll
  | parameterized => exact h.congr ⟨rfl, rfl, rfl⟩

end SelectsAll

/-- **Where nothing else was asked for, the selection that is kept is that of all columns**, whatever
calls have led to the descriptor. -/
theorem Reachable.selectsAll (h : q.Reachable) : q.SelectsAll := by
  induction h with
  | new d m => exact fun _ => rfl
  | perform op _ ih => exact ih.perform op

end ModelSql.Query
