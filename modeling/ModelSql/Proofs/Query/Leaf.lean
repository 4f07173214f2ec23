/-
**The leaves of a membership.**

To the right of a membership of a column stands a list of values, of other expressions, or of both, nested in
any way.  A leaf of it should be written as a comparison with the column writes it.  How it is written
depends on its neighbours: in a list that is computed a leaf is taken in the form that the column stores and
written beside the column; in a list with a text among its items it is written as if there were no column.
Here a membership is written with one step for the leaves of the former and one for those of the latter, and
it is said for which leaves these are the step of the comparison.

Main definitions:

* `Scope.writeBy` — a value written leaf by leaf;
* `Scope.listBy`, `Scope.memberBy` — **a membership with given steps for its leaves**.

Main results:

* `Scope.visit_inList_eq_memberBy` — the steps with which a membership is written;
* `Scope.bind_eq_bind_iff` — when two values become the same in a statement;
* `Scope.leaf_iff_comparison` — **the leaves that are written as the comparison writes them**.
-/

import ModelSql.Proofs.Query.Membership

set_option relaxedAutoImplicit false
set_option autoImplicit false

namespace ModelSql

/-! ### Steps for leaves -/

namespace Scope

variable {s : Scope}

mutual

/-- A value written leaf by leaf. -/
def writeBy (leaf : Value → Compile String) : Value → Compile String
  | .list items => do
    let texts ← writeAllBy leaf items
    return Text.joinWith "," texts
  | v => leaf v

/-- Values written leaf by leaf, in order. -/
def writeAllBy (leaf : Value → Compile String) : List Value → Compile (List String)
  | [] => return []
  | v :: vs => do
    let text ← writeBy leaf v
    let texts ← writeAllBy leaf vs
    return text :: texts

end

/-- A part as an operand, a value written leaf by leaf. -/
def operandBy (s : Scope) (leaf : Value → Compile String) : Fragment → Compile String
  | .value v => writeBy leaf v
  | p => s.operand none p

/-- Parts as operands, in order. -/
def operandsBy (s : Scope) (leaf : Value → Compile String) : List Fragment → Compile (List String)
  | [] => return []
  | p :: ps => do
    let text ← s.operandBy leaf p
    let texts ← s.operandsBy leaf ps
    return text :: texts

mutual

/-- **A list with a step for its leaves**; whatever is no list is visited. -/
def listBy (s : Scope) (leaf : Value → Compile String) : Expr → Compile Fragment
  | .list items => do
    let ps ← listAllBy s leaf items
    if ps.all (·.value?.isSome) then return .value (.list (ps.filterMap Fragment.value?))
    else do
      let texts ← s.operandsBy leaf ps
      return .sql (Text.joinWith "," texts)
  | .convert e => listBy s leaf e
  | e => s.visit e

/-- The items of a list, in order. -/
def listAllBy (s : Scope) (leaf : Value → Compile String) : List Expr → Compile (List Fragment)
  | [] => return []
  | e :: es => do
    let p ← listBy s leaf e
    let ps ← listAllBy s leaf es
    return p :: ps

end

/-- **A membership of a column**, with a step for the leaves of lists that are computed, and one for the
leaves of lists that are not. -/
def memberBy (s : Scope) (f : Field) (computed mixed : Value → Compile String) (e : Expr) :
    Compile Fragment := do
  let p ← s.listBy mixed e
  match p with
  | .value v => do
    let texts ← writeAllBy computed v.flatten
    return .sql (s.column f ++ " IN (" ++ listText v.flatten texts ++ ")")
  | p => do
    let right ← s.operand none p
    return .sql (s.column f ++ " IN (" ++ right ++ ")")

/-! ### The steps of a membership -/

theorem outcome_map {α β : Type} (x : Except Error α) (f : α → β) :
    outcome (x.map f) = (do
      let a ← outcome x
      return f a) := by
  cases x <;> rfl

/-- A value in a statement is written leaf by leaf. -/
theorem bind_eq_writeBy_and (s : Scope) (hint : Option FieldType) :
    (∀ v, s.bind hint v = writeBy (s.bind hint) v) ∧
      ∀ vs, (if s.parameterized then s.bindParameters hint vs else outcome (s.dialect.literals hint vs)) =
        writeAllBy (s.bind hint) vs := by
  apply Value.flatten.mutual_induct
  case case1 =>
      intro items ih
      rw [writeBy, ← ih, bind]
      split
      · rw [bindParameter]
      · rw [Dialect.literal, outcome_map]
  case case2 =>
      intro v hv
      rw [writeBy]
      exact hv
  case case3 =>
      rw [writeAllBy]
      split
      · rw [bindParameters]
      · rfl
  case case4 =>
      intro v vs ih ihs
      rw [writeAllBy, ← ih, ← ihs, bind]
      split
      · rw [bindParameters]
      · rw [Dialect.literals]
        cases s.dialect.literal hint v with
        | error e => rfl
        | ok t => exact outcome_map _ _

/-- **A value in a statement is written leaf by leaf.** -/
theorem bind_eq_writeBy (s : Scope) (hint : Option FieldType) (v : Value) :
    s.bind hint v = writeBy (s.bind hint) v := (s.bind_eq_writeBy_and hint).1 v

theorem operand_eq_operandBy (s : Scope) (p : Fragment) :
    s.operand none p = s.operandBy (s.bind none) p := by
  cases p with
  | value v => exact s.bind_eq_writeBy none v
  | sql t | column t type => rfl

theorem operands_eq_operandsBy (s : Scope) (ps : List Fragment) :
    s.operands ps = s.operandsBy (s.bind none) ps := by
  induction ps with
  | nil => rfl
  | cons p ps ih => rw [operands, operandsBy, operand_eq_operandBy, ih]

/-- **A list is visited with the step for leaves that knows of no column.** -/
theorem visit_eq_listBy_and (s : Scope) :
    (∀ e, s.visit e = s.listBy (s.bind none) e) ∧
      ∀ es, s.visitAll es = s.listAllBy (s.bind none) es := by
  apply Scope.listBy.mutual_induct
  case case1 =>
      intro items ih
      rw [visit, listBy, ih]
      congr 1
      funext ps
      rw [listOf, operands_eq_operandsBy]
  case case2 =>
      intro e ih
      rw [visit, listBy, ih]
  case case3 =>
      intro e hlist hconvert
      rw [listBy]
      · exact hlist
      · exact hconvert
  case case4 => rw [visitAll, listAllBy]
  case case5 =>
      intro e es ih ihs
      rw [visitAll, listAllBy, ih, ihs]

/-- The leaves of a list that is computed. -/
theorem writeAllBy_of_isScalar (s : Scope) (hint : Option FieldType) {vs : List Value}
    (h : ∀ v ∈ vs, v.isScalar = true) :
    s.bindAll hint (vs.map (coerce hint)) = writeAllBy (fun v => s.bind hint (coerce hint v)) vs := by
  induction vs with
  | nil => rfl
  | cons v vs ih =>
      have hv : writeBy (fun v => s.bind hint (coerce hint v)) v = s.bind hint (coerce hint v) := by
        rw [writeBy]
        exact Value.ne_list_of_isScalar (h v List.mem_cons_self)
      rw [List.map_cons, bindAll, writeAllBy, hv, ih fun w hw => h w (List.mem_cons_of_mem v hw)]

/-- **The steps with which a membership of a column is written.**  A leaf of a list that is computed is taken
in the form that the column stores, and written beside the column; a leaf of another list is written as if
there were no column. -/
theorem visit_inList_eq_memberBy (s : Scope) {name : String} {f : Field}
    (h : s.model.field? name = some f) (e : Expr) :
    s.visit (.inList (.column name) e) =
      s.memberBy f (fun v => s.bind (some f.type) (coerce (some f.type) v)) (s.bind none) e := by
  have hmembership (v : Value) : s.membership (s.column f) (some f.type) v = (do
      let texts ← writeAllBy (fun v => s.bind (some f.type) (coerce (some f.type) v)) v.flatten
      return s.column f ++ " IN (" ++ listText v.flatten texts ++ ")") := by
    rw [membership_eq, writeAllBy_of_isScalar s _ fun w hw => Value.isScalar_of_mem_flatten hw]
  rw [visit, visit_of_field h, pure_bind, memberBy, s.visit_eq_listBy_and.1 e]
  change (pure (s.column f) >>= fun left => _) = _
  rw [pure_bind]
  congr 1
  funext p
  cases p with
  | value v =>
      change (s.membership (s.column f) (some f.type) v >>= fun text => _) = _
      rw [hmembership, bind_assoc]
      simp only [pure_bind]
  | sql t => rfl
  | column t type => rfl

/-! ### Leaves that are written alike -/

theorem outcome_inj {α : Type} {x y : Except Error α} : outcome x = outcome y ↔ x = y := by
  refine ⟨fun h => ?_, fun h => h ▸ rfl⟩
  have hrun := congrFun h ⟨⟨[]⟩, 0⟩
  cases x with
  | error e => cases y <;> cases hrun; rfl
  | ok a => cases y <;> cases hrun; rfl

theorem placeholder_inj {v w : Value} : s.placeholder v = s.placeholder w ↔ v = w := by
  refine ⟨fun h => ?_, fun h => h ▸ rfl⟩
  have hrun := congrFun h ⟨⟨[]⟩, 0⟩
  rw [placeholder_eq, placeholder_eq, Except.ok.injEq, Prod.mk.injEq] at hrun
  simpa using congrArg (·.parameters.entries) hrun.2

/-- **When two values become the same in a statement**: where values are bound, the same form is bound; and
elsewhere they have the same literal. -/
theorem bind_eq_bind_iff {v w : Value} (hv : v.isScalar = true) (hw : w.isScalar = true)
    (hvnull : v ≠ .null) (hwnull : w ≠ .null) {hint other : Option FieldType} :
    s.bind hint v = s.bind other w ↔
      if s.parameterized then coerce hint v = coerce other w
      else s.dialect.literal hint v = s.dialect.literal other w := by
  cases hs : s.parameterized with
  | true =>
      rw [s.bind_parameterized hs hv hvnull, s.bind_parameterized hs hw hwnull, placeholder_inj]
      exact Iff.rfl
  | false =>
      have hliteral (h : Option FieldType) (x : Value) : s.bind h x = outcome (s.dialect.literal h x) :=
        if_neg (ne_true_of_eq_false hs)
      rw [hliteral, hliteral, outcome_inj]
      exact Iff.rfl

/-! ### Leaves and comparisons -/

/-- **The leaves that are written as the comparison writes them.**  A membership of a column writes the leaves
of a list that is computed with one step, and those of another list with another one, however the list is
nested; and the comparison of the column with a leaf writes it with a third step.  The first of them is the
step of the comparison but for a variant that is no text of an identifier, beside a column of identifiers;
the second is that step only for a leaf that the column stores as it is, where values are bound, and for one
that is written alike beside the column and alone, where they are not. -/
theorem leaf_iff_comparison (s : Scope) {name : String} {f : Field}
    (h : s.model.field? name = some f) :
    (∀ e, s.visit (.inList (.column name) e) =
      s.memberBy f (fun v => s.bind (some f.type) (coerce (some f.type) v)) (s.bind none) e) ∧
    ∀ v, v.isScalar = true → v ≠ .null →
      s.visit (.binary .eq (.column name) (.value v)) = (do
        let text ← s.bind (some f.type) v
        return .sql (Dialect.infixText (s.column f) "=" text)) ∧
      (s.bind (some f.type) (coerce (some f.type) v) = s.bind (some f.type) v ↔
        (s.parameterized = false → ∀ w, v = .enum w → f.type = .guid → s.dialect.SpellsGuid w.variant)) ∧
      (s.bind none v = s.bind (some f.type) v ↔
        if s.parameterized then coerce none v = coerce (some f.type) v else s.dialect.Bare f.type v) := by
  refine ⟨s.visit_inList_eq_memberBy h, fun v hv hnull => ⟨visit_comparison h hnull, ?_, ?_⟩⟩
  · rw [bind_eq_bind_iff (Value.isScalar_coerce hv) hv (coerce_ne_null _ hnull) hnull,
      Dialect.literal_coerce_hint_iff, coerce_coerce]
    cases s.parameterized with
    | true => simp
    | false => simp
  · rw [bind_eq_bind_iff hv hv hnull hnull, Dialect.literal_none_eq_iff hv]

/-- A model with a column of variants that are stored by their names, and one of identifiers. -/
def tickets : Model :=
  { Model.new "Ticket" with
    fields := [Field.new "Status" (.enum ⟨"Status", ["Active", "Closed"], false⟩), Field.new "Key" .guid] }

/-- A position in a list of values is written as the name, as it is in the comparison. -/
theorem leaf_iff_comparison_position :
    let s : Scope := ⟨DialectKind.sqlite.dialect, tickets, false, false⟩
    let t := FieldType.enum ⟨"Status", ["Active", "Closed"], false⟩
    s.model.field? "Status" = some (Field.new "Status" t) ∧
      (Value.int 1).isScalar = true ∧ Value.int 1 ≠ .null ∧
      s.bind (some t) (coerce (some t) (.int 1)) = s.bind (some t) (.int 1) ∧
      s.visit (.inList (.column "Status") (.value (.list [.int 1]))) ⟨⟨[]⟩, 0⟩ =
        .ok (.sql "\"Status\" IN ('Closed')", ⟨⟨[]⟩, 0⟩) := by
  have hfield : tickets.field? "Status" =
      some (Field.new "Status" (.enum ⟨"Status", ["Active", "Closed"], false⟩)) := rfl
  have hleaf := (leaf_iff_comparison ⟨DialectKind.sqlite.dialect, tickets, false, false⟩ hfield).2
    (.int 1) rfl (by simp)
  exact ⟨hfield, rfl, by simp, hleaf.2.1.2 (by simp), rfl⟩

/-- **Leaves that are written in another way**: a position in a list with a column, beside a column of names;
and a variant in a list of values, beside a column of identifiers, where it is refused. -/
theorem leaf_differs_from_comparison :
    let s : Scope := ⟨DialectKind.sqlite.dialect, tickets, false, false⟩
    let b : Bindings := ⟨⟨[]⟩, 0⟩
    let red := Value.enum ⟨"Color", "Red", 0⟩
    s.visit (.binary .eq (.column "Status") (.value (.int 1))) b =
        .ok (.sql "(\"Status\" = 'Closed')", b) ∧
      s.visit (.inList (.column "Status") (.list [.value (.int 1), .column "Status"])) b =
        .ok (.sql "\"Status\" IN (1,\"Status\")", b) ∧
      s.visit (.binary .eq (.column "Key") (.value red)) b = .ok (.sql "(\"Key\" = 'Red')", b) ∧
      s.visit (.inList (.column "Key") (.value (.list [red]))) b = .error ⟨.notAGuid "Red", b⟩ :=
  ⟨rfl, rfl, rfl, rfl⟩

end Scope

end ModelSql
