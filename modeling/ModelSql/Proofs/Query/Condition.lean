/-
**The formula of a filter.**

A predicate is built with `And`, `Or` and `Not` over atomic conditions.  With literals, the text of the
filter is read as a formula that has the truth of the predicate, whatever the atomic conditions are written
as: no pair of parentheses is missing between them, and none that is taken away is missed.  A column of
truth values is written as its comparison with the true one.

An atomic condition is written as an atom, but for one kind.  An inversion has no parentheses around it, so
that a comparison or a test for null with an inversion in front is read as the inversion of the comparison
of what stands behind the `NOT`.  A predicate is written as a formula over its atomic conditions exactly
when there is no such comparison among them.

Main definitions:

* `Expr.IsTest`, `Expr.IsCondition` — atomic conditions, and **predicates over them**;
* `Expr.isCaptured` — comparisons that start with `NOT`;
* `Expr.holds`, `Expr.atoms` — the truth of a predicate, and its atomic conditions;
* `States` — a text that is read as a formula, with or without parentheses around it;
* `Query.Says` — a formula over the atomic conditions of a predicate.

Main results:

* `Scope.isAtom_test` — an atomic condition is written as an atom, or as the inversion of one;
* `Scope.formula_captured` — a column behind `NOT` that is tested for null;
* `Scope.expresses_condition` — a predicate is written as a formula of the same truth;
* `Query.filter_formula_iff` — **which filters are written as a formula of the predicate**.
-/

import ModelSql.Proofs.Query.Inversion
import ModelSql.Proofs.Query.Operation

set_option relaxedAutoImplicit false
set_option autoImplicit false

namespace ModelSql

/-! ### Predicates -/

/-- The operators that compare. -/
def BinaryOp.isComparison : BinaryOp → Bool
  | .eq | .ne | .gt | .ge | .lt | .le => true
  | _ => false

namespace Expr

/-- **Atomic conditions**: comparisons, tests for null among them; memberships of a column in a list,
written in two ways; string matches of a column. -/
inductive IsTest : Expr → Prop
  | comparison {op : BinaryOp} (hop : op.isComparison = true) (l r : Expr) : IsTest (.binary op l r)
  | member (name : String) (values : Expr) : IsTest (.inList (.column name) values)
  | element (items : List Value) (name : String) :
    IsTest (.method .contains (.value (.list items)) [.column name])
  | pattern {m : StringMethod} (hm : m.isTest = true) (name : String) (args : List Expr) :
    IsTest (.method m (.column name) args)

/-- **Predicates**: columns of truth values, constants and atomic conditions, and what `And`, `Or` and
`Not` make of them. -/
inductive IsCondition (m : Model) : Expr → Prop
  | column {name : String} {f : Field} (hf : m.field? name = some f) (ht : f.type = .bool) :
    IsCondition m (.column name)
  | constant (b : Bool) : IsCondition m (.value (.bool b))
  | test {e : Expr} (h : e.IsTest) : IsCondition m e
  | connected {op : BinaryOp} {l r : Expr} (hop : op.isLogical = true) (hl : IsCondition m l)
    (hr : IsCondition m r) : IsCondition m (.binary op l r)
  | inverted {e : Expr} (he : IsCondition m e) : IsCondition m (.unary .not e)

/-- The operand of a comparison that is written first: a test for null writes the other one only. -/
def leading (op : BinaryOp) (l r : Expr) : Expr :=
  if (op = .eq ∨ op = .ne) ∧ l.value?.any Value.isNull = true then r else l

/-- **A comparison whose text starts with `NOT`**, so that the `NOT` of its first operand is read as that of
the whole comparison. -/
def isCaptured : Expr → Bool
  | .binary op l r => (leading op l r).startsWithNot
  | _ => false

/-- The comparison of a column with the true value. -/
def isTrue (name : String) : Expr := .binary .eq (.column name) (.value (.bool true))

/-- **The truth of a predicate**, given that of its atomic conditions. -/
def holds (truth : Expr → Bool) : Expr → Bool
  | .column name => truth (isTrue name)
  | .value (.bool b) => b
  | .binary .and l r => l.holds truth && r.holds truth
  | .binary .or l r => l.holds truth || r.holds truth
  | .unary .not e => !e.holds truth
  | e => truth e

/-- The atomic conditions of a predicate. -/
def atoms : Expr → List Expr
  | .column name => [isTrue name]
  | .value _ => []
  | .binary .and l r | .binary .or l r => l.atoms ++ r.atoms
  | .unary .not e => e.atoms
  | e => [e]

theorem IsTest.holds_eq {e : Expr} (h : e.IsTest) (truth : Expr → Bool) :
    e.holds truth = truth e := by
  cases h with
  | @comparison op hop l r => cases op <;> first | rfl | cases hop
  | _ => rfl

theorem IsTest.atoms_eq {e : Expr} (h : e.IsTest) : e.atoms = [e] := by
  cases h with
  | @comparison op hop l r => cases op <;> first | rfl | cases hop
  | _ => rfl

theorem holds_connected {op : BinaryOp} (hop : op.isLogical = true) (l r : Expr)
    (truth : Expr → Bool) : (binary op l r).holds truth =
      if op = .and then l.holds truth && r.holds truth else l.holds truth || r.holds truth := by
  cases op with
  | and | or => rfl
  | _ => cases hop

theorem atoms_connected {op : BinaryOp} (hop : op.isLogical = true) (l r : Expr) :
    (binary op l r).atoms = l.atoms ++ r.atoms := by
  cases op with
  | and | or => rfl
  | _ => cases hop

end Expr

/-! ### Texts that say a formula -/

/-- **A text that is read as a formula**, also when parentheses are put around it or taken off. -/
def States (d : Dialect) (t : String) (φ : Formula) : Prop :=
  ∃ ns, Spells d t ns ∧ ReadsFormula ns φ ∧ Enclosed d t ns

section

variable {d : Dialect} {s t : String} {φ ψ : Formula}

theorem read_formula_group (ms : List Nest) :
    formulaGrammar.read [.group ms] = formulaGrammar.read ms := (ReadsFormula.group ms).read_eq

theorem States.formula?_eq (h : States d t φ) : d.formula? t = some φ := by
  obtain ⟨ns, hs, hread, -⟩ := h
  exact hread.readText_eq hs

/-- The text has the same formula without the parentheses around it. -/
theorem States.formula?_strip (h : States d t φ) : d.formula? (stripOuter t) = some φ := by
  obtain ⟨ns, hs, hread, henc⟩ := h
  obtain ⟨ms, hms, heq⟩ := henc.strip hs read_formula_group
  rw [Dialect.formula?, Grammar.readText_of_spells _ hms, heq, hread.read_eq]

theorem States.unique (h : States d t φ) (h' : States d t ψ) : φ = ψ :=
  Option.some.inj (h.formula?_eq.symm.trans h'.formula?_eq)

theorem states_truth (b : Bool) : States d (if b then "1=1" else "1=0") (.constant b) := by
  refine ⟨_, spells_truth b, .truth b, .bare (isWrapped_of_head ?_)⟩
  cases b <;> decide

/-- **Two texts with a connective between them.** -/
theorem states_connected {op : BinaryOp} (hop : op.isLogical = true) (hs : States d s φ)
    (ht : States d t ψ) :
    States d (Dialect.infixText s op.sign t) (if op = .and then .and φ ψ else .or φ ψ) := by
  obtain ⟨ns, hs, hl, -⟩ := hs
  obtain ⟨ms, ht, hr, -⟩ := ht
  have hne : op ≠ .coalesce := by
    rintro rfl
    cases hop
  have hdelimited := delimited_infixText (spells_operator hne) hs ht
  have hread := ReadsFormula.group (ns ++ .token op.token :: ms)
  rw [ReadsFormula.connected hop hl hr] at hread
  exact ⟨_, hdelimited.spells, hread, hdelimited.enclosed⟩

/-- **A text with `NOT` in front.** -/
theorem states_not (h : States d t φ) : States d ("NOT " ++ wrap t) (.not φ) := by
  obtain ⟨ns, hs, hread, henc⟩ := h
  obtain ⟨ms, hms, heq⟩ := henc.wrap hs read_formula_group
  refine ⟨_, spells_not hms, .not (heq.trans hread.read_eq), .bare (isWrapped_of_head ?_)⟩
  rw [String.toList_append]
  simp

/-- A formula in parentheses. -/
theorem states_group {inner : String} {ns : List Nest} (hs : Spells d inner ns)
    (h : ReadsFormula ns φ) : States d ("(" ++ inner ++ ")") φ := by
  have hgroup := ReadsFormula.group ns
  rw [h.read_eq] at hgroup
  exact ⟨_, hs.group, hgroup, .group rfl hs rfl⟩

/-- A formula that does not start with a parenthesis. -/
theorem states_bare {ns : List Nest} (hs : Spells d t ns) (hhead : t.toList.head? ≠ some '(')
    (h : ReadsFormula ns φ) : States d t φ := ⟨ns, hs, h, .bare (isWrapped_of_head hhead)⟩

end

/-! ### Atomic conditions -/

theorem isConnective_nullNests (op : BinaryOp) :
    ∀ n ∈ (nullNests op).tail, n.isConnective = false := by
  unfold nullNests
  split <;> decide

theorem infixText_equal (s t : String) :
    Dialect.infixText s "=" t = "(" ++ (s ++ " = " ++ t) ++ ")" := by
  have hsplit : " = " = " " ++ ("=" ++ " ") := by decide
  simp only [infixText_eq, hsplit, String.append_assoc]

namespace Scope

variable (s : Scope) {b c : Bindings} {p q : Fragment} {t : String}

theorem head_equal (f : Field) (t : String) :
    (s.column f ++ " = " ++ t).toList.head? ≠ some '(' := by
  rw [String.append_assoc]
  exact s.head_column f _

/-- **A test for null is an atom**, or the inversion of one if its operand starts with `NOT`. -/
theorem states_nullTest {op : BinaryOp} {i : Bool} (hp : p.Opens s.dialect i)
    (h : s.nullTest op p b = .ok (t, c)) :
    ∃ φ : Formula, φ.isAtomic = true ∧ States s.dialect t (φ.invert i) := by
  obtain ⟨u, hu, rfl⟩ := s.nullTest_eq_ok h
  obtain ⟨ns, hs, hreads⟩ := (opens_operand hp hu).reads
  obtain ⟨φ, hφ, hread⟩ :
      ∃ φ : Formula, φ.isAtomic = true ∧ ReadsFormula (ns ++ nullNests op) (φ.invert i) :=
    hreads (by decide) (by decide) (isConnective_nullNests op)
  have hstates := states_group (spells_isNull op hs) hread
  rw [← String.append_assoc] at hstates
  exact ⟨φ, hφ, hstates⟩

/-- **A comparison is an atom**, or the inversion of one if the operand that is written first starts with
`NOT`. -/
theorem states_comparison {op : BinaryOp} {i j : Bool} (hop : op.isComparison = true)
    (hp : p.Opens s.dialect i) (hq : q.Opens s.dialect j)
    (h : s.binaryText op p q b = .ok (t, c)) : ∃ φ : Formula, φ.isAtomic = true ∧
      States s.dialect t (φ.invert (if (op = .eq ∨ op = .ne) ∧ p.isNull = true then j else i)) := by
  have hlogical : op.isLogical = false := by
    cases op <;> first | rfl | cases hop
  unfold binaryText at h
  rw [if_neg (by simp [hlogical])] at h
  split at h
  · rename_i hnull
    split at h
    · rename_i hleft
      rw [if_pos ⟨hnull.1, hleft⟩]
      exact s.states_nullTest hq h
    · rename_i hleft
      rw [if_neg fun hboth => hleft hboth.2]
      exact s.states_nullTest hp h
  · rename_i hnull
    rw [if_neg fun hboth => hnull ⟨hboth.1, by simp [hboth.2]⟩]
    obtain ⟨⟨l, r⟩, m, hlr, h⟩ := bind_eq_ok.1 h
    obtain ⟨ht, -⟩ := pure_eq_ok.1 h
    obtain ⟨n, hl, hr⟩ := s.operandPair_eq_ok hlr
    obtain ⟨ns, hl, hreads⟩ := (opens_operand hp hl).reads
    -- a `NOT` behind the sign is no operator of the formula
    obtain ⟨ms, hr, hms, -⟩ := (opens_operand hq hr).spelled
    have htext : t = "(" ++ (l ++ " " ++ op.sign ++ " " ++ r) ++ ")" := by
      have hbetween : t = Dialect.infixText l op.sign r := by
        cases op <;> first | exact ht | cases hop
      rw [hbetween, infixText_eq]
    have hsign : op ≠ .coalesce ∧ (Nest.token op.token).isConnective = false ∧
        (Nest.token op.token).isWord "not" = false := by
      cases op <;> first | decide | cases hop
    obtain ⟨φ, hφ, hread⟩ := hreads hsign.2.1 hsign.2.2 hms
    rw [htext]
    exact ⟨φ, hφ, states_group (Spells.infixed (spells_operator hsign.1) hl hr) hread⟩

/-- What stands behind a column, with a token between, is an atom. -/
theorem reads_column (f : Field) {x : Token} {ms : List Nest}
    (hx : (Nest.token x).isConnective = false) (hnot : (Nest.token x).isWord "not" = false)
    (hms : ∀ m ∈ ms, m.isConnective = false) :
    ∃ φ : Formula, φ.isAtomic = true ∧
      ReadsFormula (s.dialect.pathNests (s.path f) ++ .token x :: ms) φ := by
  have hkey := (s.simple_column f).1.isKeyword
  obtain ⟨φ, hφ, hread⟩ := exists_operand_between
    (fun n hn => Nest.isConnective_of_isKeyword (hkey n hn))
    (fun n hn => Nest.isWord_of_isKeyword (hkey n (List.mem_of_mem_head? hn)) (by decide)) hx hnot hms
  exact ⟨φ, hφ, .of_operands hread⟩

/-- **A membership of a column is an atom.** -/
theorem states_in (f : Field) {inverts : Bool} {u : String} (hu : Spelled s.dialect inverts u) :
    ∃ φ : Formula, φ.isAtomic = true ∧ States s.dialect (s.column f ++ " IN (" ++ u ++ ")") φ := by
  obtain ⟨ms, hu, -⟩ := hu
  obtain ⟨φ, hφ, hread⟩ :=
    s.reads_column f (x := .word "IN".toList) (by decide) (by decide) (isConnective_group ms)
  refine ⟨φ, hφ, states_bare (spells_in (spells_column s f) hu) ?_ hread⟩
  rw [String.append_assoc, String.append_assoc]
  exact s.head_column f _

theorem states_membership {f : Field} {hint : Option FieldType} {values : Value}
    (h : s.membership (s.column f) hint values b = .ok (t, c)) :
    ∃ φ : Formula, φ.isAtomic = true ∧ States s.dialect t φ := by
  obtain ⟨u, hu, rfl⟩ := s.keeps_spelled.exists_membership h
  exact s.states_in f hu

/-- **A string match of a column is an atom.** -/
theorem states_like {m : StringMethod} {f : Field} {before after : String} {args : List Value}
    (h : s.like m (s.column f) before after args b = .ok (t, c)) :
    ∃ φ : Formula, φ.isAtomic = true ∧ States s.dialect t φ := by
  obtain ⟨u, ⟨ms, hu, hms, -⟩, rfl⟩ := s.keeps_spelled.exists_like h
  have hupper := spells_apply "UPPER" (by decide) (spells_column s f)
  have hkey := (simple_apply (f := "UPPER") (by decide) (s.dialect.pathNests (s.path f))).isKeyword
  obtain ⟨φ, hφ, hread⟩ := exists_operand_between (x := .word "LIKE".toList)
    (fun n hn => Nest.isConnective_of_isKeyword (hkey n hn))
    (fun n hn => Nest.isWord_of_isKeyword (hkey n (List.mem_of_mem_head? hn)) (by decide))
    (by decide) (by decide) hms
  have hspells : Spells s.dialect (s.dialect.upper (s.column f) ++ " LIKE " ++ u) _ :=
    spells_like hupper hu
  refine ⟨φ, hφ, states_bare hspells ?_ (.of_operands hread)⟩
  have htext : s.dialect.upper (s.column f) = "UPPER(" ++ (s.column f ++ ")") := by
    rw [← String.append_assoc]
    rfl
  rw [htext, String.append_assoc, String.append_assoc, String.toList_append]
  simp

/-- The value of a comparison is a truth value. -/
theorem isBool_of_comparison {op : BinaryOp} (hop : op.isComparison = true) {x y v : Value}
    (h : Value.binary op x y = .ok v) : ∃ a, v = .bool a := by
  cases op with
  | eq | ne =>
      cases h
      exact ⟨_, rfl⟩
  | gt | ge | lt | le =>
      simp only [Value.binary] at h
      split at h
      · cases h
        exact ⟨_, rfl⟩
      · cases h
  | _ => cases hop

/-- **A part that is a truth value, or an atom**, or the inversion of one. -/
def IsAtom (i : Bool) (p : Fragment) : Prop :=
  (∃ a, p = .value (.bool a) ∧ i = false) ∨
    ∃ (t : String) (φ : Formula), p = .sql t ∧ φ.isAtomic = true ∧ States s.dialect t (φ.invert i)

variable {s} in
theorem IsAtom.of_states (h : ∃ φ : Formula, φ.isAtomic = true ∧ States s.dialect t φ) :
    s.IsAtom false (.sql t) := by
  obtain ⟨φ, hφ, hstates⟩ := h
  exact .inr ⟨t, φ, rfl, hφ, hstates⟩

/-- A visit yields null exactly when that is the value of the expression. -/
theorem isNull_visit {e : Expr} (h : s.visit e b = .ok (p, c)) :
    p.isNull = e.value?.any Value.isNull := by
  cases p with
  | value v =>
      rw [(visit_value_iff.1 h).1]
      cases v <;> rfl
  | sql t | column t type =>
      rw [(value_eq_none_iff h).1 rfl]
      rfl

theorem isAtom_comparison {op : BinaryOp} {l r : Expr} (hop : op.isComparison = true)
    (h : s.visit (.binary op l r) b = .ok (p, c)) : s.IsAtom (Expr.binary op l r).isCaptured p := by
  obtain ⟨u, m, v, n, hu, hv, hstep⟩ := visit_binary h
  have hleft := opens_visit hu
  have hright := opens_visit hv
  have hcaptured : (Expr.binary op l r).isCaptured =
      if (op = .eq ∨ op = .ne) ∧ u.isNull = true then r.startsWithNot else l.startsWithNot := by
    rw [Expr.isCaptured, Expr.leading, s.isNull_visit hu]
    exact apply_ite _ _ _ _
  rw [hcaptured]
  rcases s.binary_eq_ok hstep with ⟨x, y, w, rfl, rfl, hw, rfl, -⟩ | ⟨t, -, ht, rfl⟩
  · obtain ⟨a, rfl⟩ := isBool_of_comparison hop hw
    refine .inl ⟨a, rfl, ?_⟩
    split
    · exact hright
    · exact hleft
  · obtain ⟨φ, hφ, hstates⟩ := s.states_comparison hop hleft hright ht
    exact .inr ⟨t, φ, rfl, hφ, hstates⟩

theorem isAtom_member {name : String} {values : Expr}
    (h : s.visit (.inList (.column name) values) b = .ok (p, c)) : s.IsAtom false p := by
  obtain ⟨u, m, left, n, q, k, hu, hleft, hq, hlist⟩ := visit_inList h
  obtain ⟨f, -, rfl, rfl⟩ := visit_column hu
  -- the column is its own text
  obtain ⟨rfl, rfl⟩ := pure_eq_ok.1 hleft
  rcases hlist with ⟨w, text, rfl, htext, rfl⟩ | ⟨-, right, hright, rfl⟩
  · exact .of_states (s.states_membership htext)
  · exact .of_states (s.states_in f (s.spelled_operand (s.writes_visit hq) hright))

theorem isAtom_element {items : List Value} {name : String}
    (h : s.visit (.method .contains (.value (.list items)) [.column name]) b = .ok (p, c)) :
    s.IsAtom false p := by
  obtain ⟨q, k, hq, hcontains⟩ := visit_element h
  obtain ⟨f, -, rfl, rfl⟩ := visit_column hq
  rcases s.collectionContains_eq_ok hcontains with ⟨a, rfl, -, -⟩ |
    ⟨q, target, k, text, hlast, htarget, htext, rfl⟩
  · exact .inl ⟨a, rfl, rfl⟩
  · cases hlast
    obtain ⟨rfl, rfl⟩ := pure_eq_ok.1 htarget
    exact .of_states (s.states_membership htext)

theorem isAtom_pattern {m : StringMethod} (hm : m.isTest = true) {name : String} {args : List Expr}
    (h : s.visit (.method m (.column name) args) b = .ok (p, c)) : s.IsAtom false p := by
  obtain ⟨u, k, ps, n, hu, hps, hmethod⟩ := visit_method h
  obtain ⟨f, -, rfl, rfl⟩ := visit_column hu
  rcases s.method_eq_ok hmethod with ⟨items, -, hcol, -⟩ | ⟨v, w, hcol, -⟩ |
    ⟨-, -, sql, j, text, hsql, htext, rfl⟩
  · cases hcol
  · cases hcol
  · obtain ⟨rfl, rfl⟩ := pure_eq_ok.1 hsql
    obtain ⟨before, after, hlike⟩ : ∃ before after,
        s.like m (s.column f) before after (values ps) j = .ok (text, c) := by
      cases m with
      | startsWith | endsWith | contains => exact ⟨_, _, htext⟩
      | _ => cases hm
    exact .of_states (s.states_like hlike)

/-- **What an atomic condition yields**: a truth value, an atom, or the inversion of one where it is a
comparison that starts with `NOT`. -/
theorem isAtom_test {e : Expr} (he : e.IsTest) (h : s.visit e b = .ok (p, c)) :
    s.IsAtom e.isCaptured p := by
  cases he with
  | comparison hop l r => exact s.isAtom_comparison hop h
  | member name values => exact s.isAtom_member h
  | element items name => exact s.isAtom_element h
  | pattern hm name args => exact s.isAtom_pattern hm h

/-! ### Predicates -/

/-- The formula that a predicate is written as, from some bindings on. -/
def formula (b : Bindings) (e : Expr) : Option Formula :=
  match s.predicate e b with
  | .ok r => s.dialect.formula? r.1
  | .error _ => none

/-- The truth of a predicate that is written as a formula, for an assignment of the atoms. -/
def truth (b : Bindings) (assignment : List Nest → Bool) (e : Expr) : Bool :=
  ((s.formula b e).map (Formula.eval assignment)).getD false

/-- A predicate that is written as a text. -/
theorem formula_eq {e : Expr} {φ : Formula} {m : Bindings} (h : s.visit e b = .ok (p, m))
    (ht : s.condition p m = .ok (t, c)) (hstates : States s.dialect t φ) :
    s.formula b e = some φ := by
  have hpred : s.predicate e b = .ok (stripOuter t, c) := by
    rw [predicate]
    exact bind_eq_ok.2 ⟨p, m, h, bind_eq_ok.2 ⟨t, c, ht, pure_eq_ok.2 ⟨rfl, rfl⟩⟩⟩
  rw [formula, hpred]
  exact hstates.formula?_strip

/-- **What an atomic condition is written as alone**: an atom or a constant, or the inversion of one where
it is a comparison that starts with `NOT`. -/
def WrittenAlone (b : Bindings) (a : Expr) : Prop :=
  ∃ ψ : Formula, ψ.isAtomic = true ∧ s.formula b a = some (ψ.invert a.isCaptured)

/-- **What a predicate is written as**: a formula over what its atomic conditions are written as. -/
structure Expresses (b : Bindings) (e : Expr) (t : String) (φ : Formula) : Prop where
  states : States s.dialect t φ
  atoms : ∀ a ∈ e.atoms, s.WrittenAlone b a
  eval : ∀ assignment, φ.eval assignment = e.holds (s.truth b assignment)

/-- An atomic condition is what it is written as alone. -/
theorem expresses_test {e : Expr} {φ : Formula} {m : Bindings} (he : e.IsTest)
    (h : s.visit e b = .ok (p, m)) (ht : s.condition p m = .ok (t, c))
    (hstates : States s.dialect t (φ.invert e.isCaptured)) (hφ : φ.isAtomic = true) :
    s.Expresses b e t (φ.invert e.isCaptured) := by
  have hformula := s.formula_eq h ht hstates
  refine ⟨hstates, ?_, fun assignment => ?_⟩
  · intro a ha
    rw [he.atoms_eq, List.mem_singleton] at ha
    subst ha
    exact ⟨φ, hφ, hformula⟩
  · rw [he.holds_eq, truth, hformula]
    rfl

/-- The visit of the comparison of a column with the true value. -/
theorem visit_isTrue {name u : String} {f : Field} (hf : s.model.field? name = some f)
    (ht : f.type = .bool) (hu : s.bind (some .bool) (.bool true) b = .ok (u, c)) :
    s.visit (Expr.isTrue name) b = .ok (.sql (Dialect.infixText (s.column f) "=" u), c) := by
  rw [Expr.isTrue, visit_comparison hf (by simp), ht]
  exact bind_eq_ok.2 ⟨u, c, hu, rfl⟩

/-- The formula of a test for null, from what its operand is read as. -/
theorem formula_nullTest {op : BinaryOp} (hop : op = .eq ∨ op = .ne) {e : Expr} {ns : List Nest}
    {φ : Formula} (h : s.visit e b = .ok (.sql t, c)) (hs : Spells s.dialect t ns)
    (hread : ReadsFormula (ns ++ nullNests op) φ) :
    s.formula b (.binary op e (.value .null)) = some φ := by
  have hstep : s.binary op (.sql t) (.value .null) = (do
      let text ← s.nullTest op (.sql t)
      return .sql text) := by
    rcases hop with rfl | rfl <;> rfl
  have hvisit : s.visit (.binary op e (.value .null)) b =
      .ok (.sql ("(" ++ t ++ (if op = .eq then " IS NULL" else " IS NOT NULL") ++ ")"), c) := by
    rw [visit]
    refine bind_eq_ok.2 ⟨_, c, h, bind_eq_ok.2 ⟨.value .null, c, by rw [visit]; rfl, ?_⟩⟩
    rw [hstep]
    rfl
  have hstates := states_group (spells_isNull op hs) hread
  rw [← String.append_assoc] at hstates
  exact s.formula_eq hvisit (pure_eq_ok.2 ⟨rfl, rfl⟩) hstates

/-- **A column behind `NOT` that is tested for null** is read as the inversion of the test of the column. -/
theorem formula_captured {op : BinaryOp} (hop : op = .eq ∨ op = .ne) {name : String} {f : Field}
    (hf : s.model.field? name = some f) (htype : f.type = .bool) (b : Bindings) :
    s.formula b (.binary op (.unary .not (.column name)) (.value .null)) =
      (s.formula b (.binary op (.isTrue name) (.value .null))).map .not := by
  obtain ⟨u, c, hu⟩ : ∃ u c, s.bind (some .bool) (.bool true) b = .ok (u, c) := by
    unfold Scope.bind
    split
    · exact ⟨_, _, rfl⟩
    · exact ⟨_, _, rfl⟩
  have hspelled : Spelled s.dialect false u := s.spelled_bind hu
  obtain ⟨ms, hspells, -⟩ := hspelled
  have hequal := spells_equal (spells_column s f) hspells
  have htrue := s.visit_isTrue hf htype hu
  rw [infixText_equal] at htrue
  have hnot : s.visit (.unary .not (.column name)) b =
      .ok (.sql ("NOT " ++ ("(" ++ (s.column f ++ " = " ++ u) ++ ")")), c) := by
    have hcondition : s.condition (.column (s.column f) .bool) b = .ok (s.column f ++ " = " ++ u, c) :=
      bind_eq_ok.2 ⟨u, c, hu, rfl⟩
    rw [visit, visit_of_field hf, htype, pure_bind]
    refine bind_eq_ok.2 ⟨_, c, hcondition, pure_eq_ok.2 ⟨?_, rfl⟩⟩
    rw [wrap, isWrapped_of_head (s.head_equal f u)]
    rfl
  -- both tests are read with the group of the column in front, the one behind the `NOT`
  obtain ⟨φ, -, hread⟩ : ∃ φ : Formula, φ.isAtomic = true ∧ formulaGrammar.Reads formulaLevels []
      ([.group (s.dialect.pathNests (s.path f) ++ signNest "=" :: ms)] ++ nullNests op) φ :=
    exists_operand_between (isConnective_group _) (by simp [Nest.isWord]) (by decide) (by decide)
      (isConnective_nullNests op)
  rw [s.formula_nullTest hop htrue hequal.group (.of_operands hread),
    s.formula_nullTest hop hnot (spells_not hequal.group) (.inverted hread)]
  rfl

/-- A column of truth values is the atom of its comparison with the true value. -/
theorem expresses_column {name : String} {f : Field} (hf : s.model.field? name = some f)
    (htype : f.type = .bool) (ht : s.condition (.column (s.column f) .bool) b = .ok (t, c)) :
    ∃ φ, s.Expresses b (.column name) t φ := by
  obtain ⟨u, m, hu, hpure⟩ := bind_eq_ok.1 ht
  obtain ⟨rfl, rfl⟩ := pure_eq_ok.1 hpure
  have hspelled : Spelled s.dialect false u := s.spelled_bind hu
  obtain ⟨ms, hspells, hms, -⟩ := hspelled
  obtain ⟨φ, hφ, hread⟩ := s.reads_column f (x := .sign "=".toList) (by decide) (by decide) hms
  have hequal := spells_equal (spells_column s f) hspells
  have hgroup : States s.dialect (Dialect.infixText (s.column f) "=" u) φ := by
    rw [infixText_equal]
    exact states_group hequal hread
  have hformula := s.formula_eq (s.visit_isTrue hf htype hu) (pure_eq_ok.2 ⟨rfl, rfl⟩) hgroup
  refine ⟨φ, states_bare hequal (s.head_equal f u) hread, ?_, fun assignment => ?_⟩
  · intro a ha
    rw [Expr.atoms, List.mem_singleton] at ha
    subst ha
    exact ⟨φ, hφ, hformula⟩
  · rw [Expr.holds, truth, hformula]
    rfl

/-- A truth value as a condition. -/
theorem condition_bool {a : Bool} (ht : s.condition (.value (.bool a)) b = .ok (t, c)) :
    States s.dialect t (.constant a) := by
  obtain ⟨rfl, -⟩ := pure_eq_ok.1 ht
  exact states_truth a

/-- The truth of a part that is a truth value. -/
theorem holds_of_bool {e : Expr} {a : Bool}
    (h : ∀ {t : String} {c : Bindings}, s.condition (.value (.bool a)) b = .ok (t, c) →
      ∃ φ, s.Expresses b e t φ) :
    (∀ x ∈ e.atoms, s.WrittenAlone b x) ∧
      ∀ assignment, a = e.holds (s.truth b assignment) := by
  obtain ⟨φ, hφ⟩ := h (pure_eq_ok.2 ⟨rfl, rfl⟩)
  refine ⟨hφ.atoms, fun assignment => ?_⟩
  rw [← hφ.eval, hφ.states.unique (states_truth a)]
  rfl

theorem Expresses.connected {op : BinaryOp} {l r : Expr} {u : String} {φ ψ : Formula}
    (hop : op.isLogical = true) (hl : s.Expresses b l t φ) (hr : s.Expresses b r u ψ) :
    s.Expresses b (.binary op l r) (Dialect.infixText t op.sign u)
      (if op = .and then .and φ ψ else .or φ ψ) := by
  refine ⟨states_connected hop hl.states hr.states, ?_, fun assignment => ?_⟩
  · intro a ha
    rw [Expr.atoms_connected hop, List.mem_append] at ha
    exact ha.elim (hl.atoms a) (hr.atoms a)
  · rw [Expr.holds_connected hop, ← hl.eval, ← hr.eval]
    split <;> rfl

theorem Expresses.inverted {e : Expr} {φ : Formula} (h : s.Expresses b e t φ) :
    s.Expresses b (.unary .not e) ("NOT " ++ wrap t) (.not φ) := by
  refine ⟨states_not h.states, h.atoms, fun assignment => ?_⟩
  rw [Expr.holds, ← h.eval]
  rfl

/-- Two truth values that are put together. -/
theorem binary_bool {op : BinaryOp} (hop : op.isLogical = true) {x y : Bool} {v : Value}
    (h : Value.binary op (.bool x) (.bool y) = .ok v) :
    v = .bool (if op = .and then x && y else x || y) := by
  cases op with
  | and | or =>
      cases h
      rfl
  | _ => cases hop

/-- Two predicates that are truth values, put together. -/
theorem expresses_bool_connected {op : BinaryOp} {l r : Expr} {x y : Bool} (hop : op.isLogical = true)
    (hl : (∀ a ∈ l.atoms, s.WrittenAlone b a) ∧
      ∀ assignment, x = l.holds (s.truth b assignment))
    (hr : (∀ a ∈ r.atoms, s.WrittenAlone b a) ∧
      ∀ assignment, y = r.holds (s.truth b assignment))
    (ht : s.condition (.value (.bool (if op = .and then x && y else x || y))) b = .ok (t, c)) :
    s.Expresses b (.binary op l r) t (.constant (if op = .and then x && y else x || y)) := by
  refine ⟨s.condition_bool ht, ?_, fun assignment => ?_⟩
  · intro a ha
    rw [Expr.atoms_connected hop, List.mem_append] at ha
    exact ha.elim (hl.1 a) (hr.1 a)
  · rw [Expr.holds_connected hop, ← hl.2, ← hr.2]
    rfl

/-- **A predicate is written as a formula of the same truth**, and a value that it has is a truth
value. -/
theorem expresses_condition (hs : s.parameterized = false) {e : Expr} (he : e.IsCondition s.model) :
    ∀ {p : Fragment} {b : Bindings}, s.visit e b = .ok (p, b) →
      (∀ v, p = .value v → ∃ a, v = .bool a) ∧
        ∀ {t : String} {c : Bindings}, s.condition p b = .ok (t, c) → ∃ φ, s.Expresses b e t φ := by
  -- with literals nothing is bound, so that all parts are written in the same bindings
  have hvisit {e : Expr} {p : Fragment} {b c : Bindings} (h : s.visit e b = .ok (p, c)) : c = b :=
    (hs ▸ s.binds_visit e).eq_of_literals h
  have hcondition {p : Fragment} {t : String} {b c : Bindings}
      (h : s.condition p b = .ok (t, c)) : c = b := (hs ▸ s.binds_condition p).eq_of_literals h
  induction he with
  | @column name f hf htype =>
      intro p b h
      obtain ⟨g, hg, rfl, -⟩ := visit_column h
      obtain rfl : f = g := Option.some.inj (hf.symm.trans hg)
      rw [htype]
      exact ⟨by simp, fun ht => s.expresses_column hf htype ht⟩
  | constant a =>
      intro p b h
      obtain ⟨rfl, -⟩ := visit_value h
      refine ⟨fun v hv => ⟨a, (Fragment.value.inj hv).symm⟩, fun ht => ?_⟩
      exact ⟨.constant a, s.condition_bool ht, by simp [Expr.atoms], fun _ => rfl⟩
  | test he =>
      intro p b h
      rcases s.isAtom_test he h with ⟨a, rfl, hcaptured⟩ | ⟨u, φ, rfl, hφ, hstates⟩
      · refine ⟨fun v hv => ⟨a, (Fragment.value.inj hv).symm⟩, fun ht => ?_⟩
        refine ⟨_, s.expresses_test he h ht (φ := .constant a) ?_ rfl⟩
        rw [hcaptured]
        exact s.condition_bool ht
      · refine ⟨by simp, fun ht => ?_⟩
        obtain ⟨rfl, rfl⟩ := pure_eq_ok.1 ht
        exact ⟨_, s.expresses_test he h ht hstates hφ⟩
  | @connected op l r hop hl hr ihl ihr =>
      intro p b h
      obtain ⟨u, m, v, n, hu, hv, hbinary⟩ := visit_binary h
      obtain rfl := hvisit hu
      obtain rfl := hvisit hv
      obtain ⟨hul, hleft⟩ := ihl hu
      obtain ⟨hvr, hright⟩ := ihr hv
      rcases s.binary_eq_ok hbinary with ⟨x, y, w, rfl, rfl, hw, rfl, -⟩ | ⟨t, -, ht, rfl⟩
      · obtain ⟨a, rfl⟩ := hul x rfl
        obtain ⟨a', rfl⟩ := hvr y rfl
        obtain rfl := binary_bool hop hw
        refine ⟨fun v hv => ⟨_, (Fragment.value.inj hv).symm⟩, fun ht => ?_⟩
        exact ⟨_, s.expresses_bool_connected hop (s.holds_of_bool hleft) (s.holds_of_bool hright) ht⟩
      · refine ⟨by simp, fun hpure => ?_⟩
        obtain ⟨rfl, -⟩ := pure_eq_ok.1 hpure
        unfold binaryText at ht
        rw [if_pos hop] at ht
        obtain ⟨left, m, hlt, hrest⟩ := bind_eq_ok.1 ht
        obtain ⟨right, n, hrt, hpure⟩ := bind_eq_ok.1 hrest
        obtain rfl := hcondition hlt
        obtain ⟨rfl, -⟩ := pure_eq_ok.1 hpure
        obtain ⟨φ, hφ⟩ := hleft hlt
        obtain ⟨ψ, hψ⟩ := hright hrt
        exact ⟨_, hφ.connected s hop hψ⟩
  | @inverted e he ih =>
      intro p b h
      obtain ⟨u, m, hu, hunary⟩ := visit_unary h
      obtain rfl := hvisit hu
      obtain ⟨hbool, hcond⟩ := ih hu
      rcases s.unary_eq_ok hunary with ⟨x, v, rfl, hv, rfl, -⟩ | ⟨-, t, ht, rfl⟩
      · obtain ⟨a, rfl⟩ := hbool x rfl
        cases hv
        refine ⟨fun v hv => ⟨_, (Fragment.value.inj hv).symm⟩, fun ht => ?_⟩
        obtain ⟨hatoms, heval⟩ := s.holds_of_bool hcond
        exact ⟨_, s.condition_bool ht, hatoms, fun assignment => by
          rw [Expr.holds, ← heval]
          rfl⟩
      · refine ⟨by simp, fun hpure => ?_⟩
        obtain ⟨rfl, -⟩ := pure_eq_ok.1 hpure
        obtain ⟨φ, hφ⟩ := hcond ht
        exact ⟨_, hφ.inverted s⟩

end Scope

/-! ### Filters -/

namespace Query

/-- The formula that a filter would be written as. -/
def formula (q : Query) (e : Expr) : Option Formula :=
  match q.filter e with
  | .ok q' => q.dialect.formula? q'.filterText
  | .error _ => none

/-- The truth of a filter, for an assignment of the atoms. -/
def truth (q : Query) (assignment : List Nest → Bool) (e : Expr) : Bool :=
  ((q.formula e).map (Formula.eval assignment)).getD false

/-- A filter is what its predicate is written as. -/
theorem filter_eq_ok {q q' : Query} {e : Expr} (h : q.filter e = .ok q') :
    ∃ b, q.scope.predicate e ⟨q.parameters, q.counter⟩ = .ok (q'.filterText, b) := by
  obtain ⟨r, hr, rfl⟩ := map_eq_ok h
  unfold write at hr
  split at hr
  · cases hr
  · rename_i text b hpred
    cases hr
    exact ⟨b, hpred⟩

theorem formula_eq (q : Query) (e : Expr) :
    q.formula e = q.scope.formula ⟨q.parameters, q.counter⟩ e := by
  unfold formula Scope.formula filter write
  cases q.scope.predicate e ⟨q.parameters, q.counter⟩ with
  | error err => rfl
  | ok r => rfl

/-- **A formula over the atomic conditions of a predicate**: alone, each of them is written as an atom or a
constant, and whatever the atoms are, the formula holds when the predicate does. -/
structure Says (q : Query) (e : Expr) (φ : Formula) : Prop where
  atoms : ∀ a ∈ e.atoms, ∃ ψ, q.formula a = some ψ ∧ ψ.isAtomic = true
  eval : ∀ assignment, φ.eval assignment = e.holds (q.truth assignment)

/-- No atomic condition is written as an inversion then. -/
theorem Says.isCaptured_eq_false {q : Query} {e a : Expr} {φ : Formula} (h : q.Says e φ)
    (ha : a ∈ e.atoms)
    (halone : ∃ ψ : Formula, ψ.isAtomic = true ∧ q.formula a = some (ψ.invert a.isCaptured)) :
    a.isCaptured = false := by
  obtain ⟨ψ, hψ, hformula⟩ := halone
  obtain ⟨χ, hχ, hatomic⟩ := h.atoms a ha
  rw [hformula, Option.some.injEq] at hχ
  rw [← hχ, Formula.isAtomic_invert hψ] at hatomic
  simpa using hatomic

/-- The formula of a filter, over what its atomic conditions are written as alone. -/
theorem exists_formula {q q' : Query} (hq : q.parameterized = false) {e : Expr}
    (he : e.IsCondition q.model) (h : q.filter e = .ok q') :
    ∃ φ, q.dialect.formula? q'.filterText = some φ ∧
      (∀ a ∈ e.atoms, ∃ ψ : Formula, ψ.isAtomic = true ∧ q.formula a = some (ψ.invert a.isCaptured)) ∧
      ∀ assignment, φ.eval assignment = e.holds (q.truth assignment) := by
  obtain ⟨b, hpred⟩ := filter_eq_ok h
  obtain ⟨p, m, hp, hrest⟩ := bind_eq_ok.1 hpred
  obtain ⟨t, n, ht, hpure⟩ := bind_eq_ok.1 hrest
  obtain ⟨htext, -⟩ := pure_eq_ok.1 hpure
  have hs : q.scope.parameterized = false := hq
  obtain rfl := (hs ▸ q.scope.binds_visit e).eq_of_literals hp
  obtain ⟨φ, hstates, hatoms, heval⟩ := (q.scope.expresses_condition hs he hp).2 ht
  refine ⟨φ, ?_, ?_, ?_⟩
  · rw [htext]
    exact hstates.formula?_strip
  · intro a ha
    rw [formula_eq]
    exact hatoms a ha
  · intro assignment
    have htruth : q.truth assignment = q.scope.truth ⟨q.parameters, q.counter⟩ assignment := by
      funext a
      rw [truth, formula_eq]
      rfl
    rw [htruth]
    exact heval assignment

/-- **Which filters are written as a formula of the predicate.**  With literals, the text of a filter is
always read as a formula, which holds when the predicate does for what its atomic conditions are written as
alone: an atom or a constant, or the inversion of one where it is a comparison that starts with `NOT`.  So
the atomic conditions are the atoms exactly when no such comparison is among them. -/
theorem filter_formula_iff {q q' : Query} (hq : q.parameterized = false) {e : Expr}
    (he : e.IsCondition q.model) (h : q.filter e = .ok q') :
    (∃ φ, q.dialect.formula? q'.filterText = some φ ∧
      (∀ a ∈ e.atoms, ∃ ψ : Formula, ψ.isAtomic = true ∧ q.formula a = some (ψ.invert a.isCaptured)) ∧
      ∀ assignment, φ.eval assignment = e.holds (q.truth assignment)) ∧
    ((∃ φ, q.dialect.formula? q'.filterText = some φ ∧ q.Says e φ) ↔
      ∀ a ∈ e.atoms, a.isCaptured = false) := by
  obtain ⟨φ, hφ, hatoms, heval⟩ := exists_formula hq he h
  refine ⟨⟨φ, hφ, hatoms, heval⟩, ?_, fun hnone => ?_⟩
  · rintro ⟨χ, -, hsays⟩ a ha
    exact hsays.isCaptured_eq_false ha (hatoms a ha)
  · refine ⟨φ, hφ, fun a ha => ?_, heval⟩
    obtain ⟨ψ, hψ, hformula⟩ := hatoms a ha
    rw [hnone a ha] at hformula
    exact ⟨ψ, hformula, hψ⟩

/-- The filter `Not Flag And (Age Is Null Or Name Starts With "a")` of a new descriptor. -/
theorem filter_formula_flag :
    let q := new DialectKind.sqlite.dialect people
    let e := Expr.binary .and (.unary .not (.column "Flag")) (.binary .or
      (.isNullTest (.column "Age")) (.method .startsWith (.column "Name") [.value (.text "a")]))
    ∃ q', q.filter e = .ok q' ∧
      q'.filterText = "NOT (\"Flag\" = 1) AND ((\"Age\" IS NULL) OR UPPER(\"Name\") LIKE 'A%')" ∧
      ∃ φ, q.dialect.formula? q'.filterText = some φ ∧ q.Says e φ := by
  intro q e
  have he : e.IsCondition q.model := .connected rfl (.inverted (.column rfl rfl))
    (.connected rfl (.test (.comparison rfl _ _)) (.test (.pattern rfl _ _)))
  exact ⟨_, rfl, by decide, (filter_formula_iff rfl he rfl).2.2 (by decide)⟩

/-- **A comparison that starts with `NOT`**: the test whether `Not Flag` is null is written as the inversion
of the test whether `Flag` is. -/
theorem filter_captured :
    let q := new DialectKind.sqlite.dialect people
    let e := Expr.isNullTest (.unary .not (.column "Flag"))
    e.IsCondition q.model ∧ ∃ q', q.filter e = .ok q' ∧
      q'.filterText = "NOT (\"Flag\" = 1) IS NULL" ∧
      q.formula e = (q.formula (.isNullTest (.isTrue "Flag"))).map .not ∧
      ¬ ∃ φ, q.dialect.formula? q'.filterText = some φ ∧ q.Says e φ := by
  intro q e
  have he : e.IsCondition q.model := .test (.comparison rfl _ _)
  refine ⟨he, _, rfl, by decide, ?_, ?_⟩
  · rw [formula_eq, formula_eq]
    exact q.scope.formula_captured (.inl rfl) rfl rfl _
  · rintro ⟨φ, -, hsays⟩
    obtain ⟨-, -, halone, -⟩ := exists_formula rfl he rfl
    have hcaptured : e.isCaptured = false :=
      hsays.isCaptured_eq_false List.mem_cons_self (halone e List.mem_cons_self)
    cases hcaptured

end Query

end ModelSql
