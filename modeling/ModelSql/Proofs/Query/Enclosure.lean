/-
**Statements close what they open.**

Conditions and projections are made of quiet characters, texts and names between quotes, and groups in
parentheses, and so is what is left of them without an outer pair of parentheses.  So each closes its
parentheses and its quotations, whatever characters names and values have.

On SQL Server a name may hold the very bracket that the test for an outer pair of parentheses takes for
its end; the results are about the other databases.

Main results:

* `Scope.keeps_composed` — **every form of text is made of such parts**;
* `Scope.closes_of_predicate_or_projection` — **conditions and projections close what they open**.
-/

import ModelSql.Proofs.Query.Operation
import ModelSql.Proofs.Query.Written
import ModelSql.Proofs.Syntax.Composed

set_option relaxedAutoImplicit false
set_option autoImplicit false

namespace ModelSql

namespace Scope

variable (s : Scope)

/-- **Every form of text is made of parts that close what they open.** -/
theorem keeps_composed : s.Keeps fun _ t => Composed s.dialect t.toList where
  mono h _ := h
  form := composed_form
  placeholder := composed_placeholder
  column := composed_column s
  joinWith := .joinWith
  wrap := .wrap
  truth v := .of_all_isQuiet (by cases v <;> decide)
  equal ht hu := ht.around (by decide) hu
  logical _ ht hu := composed_infixText ht (BinaryOp.all_isQuiet_sign _) hu
  operator text _ ht hu := composed_operatorText _ text ht hu
  nullTest op h := by
    have hword : (if op = .eq then " IS NULL" else " IS NOT NULL").toList.all isQuiet = true := by
      split <;> decide
    have hgroup := (h.text_append (.of_all_isQuiet hword)).parenthesized
    rwa [← String.append_assoc] at hgroup
  not h := (Composed.of_all_isQuiet (by decide)).text_append h
  negative h := (Composed.of_all_isQuiet (by decide)).text_append h
  null := .of_all_isQuiet (by decide)
  member ht hu := by
    have hgroup := ht.text_append (hu.enclosed " IN (" (by decide))
    simpa only [String.append_assoc] using hgroup
  like ht hu := ht.around (by decide) hu
  apply hf h := composed_apply hf h
  trim := composed_trim
  trimStart := composed_trimStart
  trimEnd := composed_trimEnd
  substring start length h := composed_substring h start length
  desc h := h.text_append (.of_all_isQuiet (by decide))
  named name h := h.around (by decide) (.of_name name)
  countAll := by
    have hstar : Composed s.dialect "*".toList := .of_all_isQuiet (by decide)
    exact hstar.enclosed "COUNT(" (by decide)

variable {s} {e : Expr} {b c : Bindings} {text : String}

/-- **Conditions and projections close whatever they open**, outside of SQL Server. -/
theorem closes_of_predicate_or_projection (hd : s.dialect.kind ≠ .sqlserver)
    (h : s.predicate e b = .ok (text, c) ∨ s.projection e b = .ok (text, c)) :
    s.dialect.Closes text := by
  obtain ⟨u, hu, rfl⟩ : ∃ u, Composed s.dialect u.toList ∧ text = stripOuter u := by
    rcases h with h | h
    · exact s.keeps_composed.predicate h
    · exact s.keeps_composed.projection h
  exact ((hu.stripOuter hd).level hd).closes

/-- Quotes, backslashes and parentheses in a value and in a name of its own, on MySQL. -/
theorem closes_of_predicate_or_projection_alias :
    let s : Scope := ⟨DialectKind.mysql.dialect, Query.people, false, false⟩
    let e := Expr.named (.binary .add (.column "Name") (.value (.text "\\')("))) ")\x60("
    ∃ text c, s.projection e ⟨⟨[]⟩, 0⟩ = .ok (text, c) ∧
      text = "CONCAT(\x60Name\x60, '\\\\'')(') AS \x60)\x60\x60(\x60" ∧ s.dialect.Closes text := by
  intro s e
  have hd : s.dialect.kind ≠ .sqlserver := by decide
  have hprojection : s.projection e ⟨⟨[]⟩, 0⟩ = .ok (_, ⟨⟨[]⟩, 0⟩) := rfl
  exact ⟨_, _, hprojection, by decide, closes_of_predicate_or_projection hd (.inr hprojection)⟩

end Scope

end ModelSql
