/-
**Parameters instead of literals.**

A clause that is written with literals can be written with parameters, and the two texts are one
template: where the one has the literal of a value, the other has a placeholder, and what is bound is
the value in the form that its column stores.  Nothing else about the descriptor's parameters changes.

Main definitions:

* `Operation.isExpression` — the calls that write a clause with an expression;
* `Query.clauseText` — the text of a clause.

Main results:

* `Query.write_parameterized` — writing a clause with parameters follows writing it with literals;
* `Query.perform_parameterized` — **a call with parameters follows the call with literals**.
-/

import ModelSql.Proofs.Query.Ownership
import ModelSql.Proofs.Query.Simulation

set_option relaxedAutoImplicit false
set_option autoImplicit false

namespace ModelSql

open Hole

/-- The calls that write a clause with an expression and nothing else. -/
def Operation.isExpression : Operation → Bool
  | select .. | filter _ | groupBy _ | having _ | orderBy .. => true
  | _ => false

namespace Query

/-- The text of a clause. -/
def clauseText (q : Query) : Clause → String
  | .select => q.select
  | .filter => q.filterText
  | .groupBy => q.groupBy
  | .having => q.having
  | .orderBy => q.orderByText
  | .update | .insert => ""

/-- What a call with literals and a call with parameters have in common: one template, the holes of
which are the literals of one text, the placeholders of the other one, and the parameters added. -/
def Follows (q : Query) (k : Clause) (q₁ q₂ : Query) : Prop :=
  ∃ (t : Template) (hs : List Hole), Held q.dialect hs ∧ t.Below hs.length ∧
    (q₁.clauseText k).toList = t.fill (shown hs) ∧
    (q₂.clauseText k).toList = t.fill (bound q.dialect q.counter) ∧
    q₂.parameters.entries = (q.parameters.removeAll (q.owned k)).entries ++
      q.dialect.placeholders q.counter (hs.map stored)

/-- **Writing a clause with parameters follows writing it with literals.** -/
theorem write_parameterized {q : Query} {α : Type} {R : List Hole → α → α → Prop} {k : Clause}
    {step step' : Compile α} (hsim : Simulates q.dialect q.counter R [] step step') {r : α}
    {q₁ : Query} (h : (q.setParameterized false).write k false step = .ok (r, q₁)) :
    ∃ hs r', Held q.dialect hs ∧ R hs r r' ∧ (q.setParameterized true).write k false step' =
      .ok (r', (q.setParameterized true).rewrite k false (hs.map stored)) := by
  unfold write at h
  cases hb : step ⟨(q.setParameterized false).parameters, (q.setParameterized false).counter⟩ with
  | error e => simp [hb] at h
  | ok p =>
      obtain ⟨a, b⟩ := p
      simp only [hb, Except.ok.injEq, Prod.mk.injEq] at h
      obtain ⟨rfl, -⟩ := h
      obtain ⟨hs, r', hheld, hr', hR⟩ := hsim _ a b hb ⟨q.parameters, q.counter⟩ (by simp)
      exact ⟨hs, r', hheld, by simpa using hR, write_of_extend hr'⟩

/-- A call that makes a clause of the text that a step writes. -/
theorem settle_parameterized {q : Query} (hq : q.Tracked) {α : Type} {R : List Hole → α → α → Prop}
    {k : Clause} {step step' : Compile α} (hsim : Simulates q.dialect q.counter R [] step step')
    {f : α × Query → Query} {q₁ : Query}
    (h : settle (((q.setParameterized false).write k false step).map f) = (.ok (), q₁))
    (hf : ∀ r, SameBindings r.2 (f r))
    (htext : ∀ hs r r' p₁ p₂, R hs r r' →
      Twins q.dialect q.counter hs ((f (r, p₁)).clauseText k) ((f (r', p₂)).clauseText k)) :
    ∃ q₂, settle (((q.setParameterized true).write k false step').map f) = (.ok (), q₂) ∧
      q.Follows k q₁ q₂ := by
  cases hw : (q.setParameterized false).write k false step with
  | error e => simp [hw, Except.map, settle] at h
  | ok p =>
      obtain ⟨r, p₁⟩ := p
      obtain ⟨hs, r', hheld, hR, hw'⟩ := write_parameterized hsim hw
      simp only [hw, Except.map, settle, Prod.mk.injEq, true_and] at h
      subst h
      refine ⟨_, by rw [hw']; rfl, ?_⟩
      obtain ⟨t, hbelow, ht, ht'⟩ := htext hs r r' p₁ _ hR
      refine ⟨t, hs, hheld, hbelow, ht, ht', ?_⟩
      have hq' : (q.setParameterized true).Tracked := hq.congr ⟨rfl, rfl, rfl, rfl⟩
      rw [(hf _).parameters]
      exact hq'.entries_rewrite k _

/-- **A call with parameters follows the call with literals.**  For every database but SQL Server, a call
that writes a clause with an expression and succeeds with literals succeeds with parameters; both texts
fill one template, and the parameters added are those of its holes, in order. -/
theorem perform_parameterized {q : Query} (hq : q.Reachable) (hd : q.dialect.kind ≠ .sqlserver)
    {op : Operation} (hop : op.isExpression = true) {k : Clause} (hk : op.clause? = some k)
    {q₁ : Query} (h : (q.setParameterized false).perform op = (.ok (), q₁)) :
    ∃ q₂, (q.setParameterized true).perform op = (.ok (), q₂) ∧ q.Follows k q₁ q₂ := by
  have hheld : Held q.scope.dialect [] := by simp [Held]
  have hfixed {hs : List Hole} (s : String) : Twins q.dialect q.counter hs s s := .text s
  have ht : q.Tracked := hq.tracked
  -- each operation writes one clause, from what one expression is written as
  cases op with
  | filter e =>
      cases hk
      exact settle_parameterized ht (q.scope.simulates_predicate hd e hheld) h
        (fun _ => ⟨rfl, rfl, rfl, rfl⟩) fun _ _ _ _ _ hr => hr
  | having e =>
      cases hk
      exact settle_parameterized ht (q.scope.simulates_predicate hd e hheld) h
        (fun _ => ⟨rfl, rfl, rfl, rfl⟩) fun _ _ _ _ _ hr => hr
  | select distinct e =>
      cases hk
      refine settle_parameterized ht (q.scope.simulates_projection hd e hheld) h
        (fun _ => ⟨rfl, rfl, rfl, rfl⟩) fun hs r r' _ _ hr => ?_
      exact (((hfixed "SELECT ").append ((hfixed _).append hr)).append (hfixed " \nFROM ")).append
        (hfixed (q.dialect.quotedTable q.model))
  | groupBy e =>
      cases hk
      refine settle_parameterized ht (q.scope.simulates_projection hd e hheld) h
        (fun _ => ⟨rfl, rfl, rfl, rfl⟩) fun hs r r' _ _ hr => ?_
      exact (hfixed "GROUP BY ").append hr
  | orderBy descending e =>
      cases hk
      refine settle_parameterized ht (q.scope.simulates_sortKeys hd (directionText descending) e.items
        hheld) h (fun _ => ⟨rfl, rfl, rfl, rfl⟩) fun hs r r' _ _ hr => ?_
      have hjoin := (hfixed "ORDER BY ").append (Twins.joinWith "," hr)
      cases hr with
      | nil => exact hfixed ""
      | cons h htail => exact hjoin
  | _ => cases hop

/-- The filter `Age > 5` of a new descriptor, with literals and with parameters. -/
theorem perform_parameterized_filter :
    let q := new DialectKind.sqlite.dialect people
    let op := Operation.filter (.binary .gt (.column "Age") (.value (.int 5)))
    q.Reachable ∧ ((q.setParameterized false).perform op).2.filterText = "\"Age\" > 5" ∧
      ∃ q₂, (q.setParameterized true).perform op = (.ok (), q₂) ∧
        q.Follows .filter ((q.setParameterized false).perform op).2 q₂ :=
  ⟨.new _ _, by decide, perform_parameterized (.new _ _) (by decide) rfl rfl rfl⟩

end Query

end ModelSql
