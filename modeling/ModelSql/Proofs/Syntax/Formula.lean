/-
**Conditions as formulas.**

A condition is read as a formula: parentheses first, then `NOT`, then `AND`, then `OR`.  What no
connective is left in is an atom, whatever it says; the conditions `1=1` and `1=0` are constants.

Main definitions:

* `Formula`, `Formula.eval` — formulas, and **their truth** for an assignment of the atoms;
* `Formula.isAtomic`, `Formula.invert` — formulas without connectives, and inversions;
* `formulaGrammar`, `Dialect.formula?` — how a condition is read.

Main results:

* `exists_operand_between` — a list without connectives is read as an atom or a constant;
* `ReadsFormula.connected`, `ReadsFormula.inverted` — **the connectives**.
-/

import ModelSql.Proofs.Syntax.Operator

set_option relaxedAutoImplicit false
set_option autoImplicit false

namespace ModelSql

/-! ### Formulas -/

/-- Formulas over conditions. -/
inductive Formula
  | atom (ns : List Nest)
  | constant (b : Bool)
  | not (φ : Formula)
  | and (φ ψ : Formula)
  | or (φ ψ : Formula)

namespace Formula

/-- **The truth of a formula** for an assignment of its atoms. -/
def eval (truth : List Nest → Bool) : Formula → Bool
  | atom ns => truth ns
  | constant b => b
  | not φ => !φ.eval truth
  | and φ ψ => φ.eval truth && ψ.eval truth
  | or φ ψ => φ.eval truth || ψ.eval truth

/-- Whether a formula has no connectives. -/
def isAtomic : Formula → Bool
  | atom _ | constant _ => true
  | _ => false

/-- A formula, or its inversion. -/
def invert (i : Bool) (φ : Formula) : Formula := if i then not φ else φ

/-- The inversion of a formula is none of those without connectives. -/
theorem isAtomic_invert {i : Bool} {φ : Formula} (h : φ.isAtomic = true) :
    (φ.invert i).isAtomic = !i := by
  cases i with
  | true => rfl
  | false => exact h

end Formula

/-- A part of a list as it was, but for the letter case of operators. -/
def Item.nest {τ : Type} : Item τ → Nest
  | .leaf t => .token t
  | .group ns _ => .group ns
  | .between (.word cs) | .before (.word cs) => .token (.word cs)
  | .between (.sign cs) | .before (.sign cs) => .token (.sign cs)

/-- The formula of what no connective is left in. -/
def formulaPrimary : List (Item Formula) → Formula
  | [.group _ φ] => φ
  | [.leaf (.number ['1']), .leaf (.sign ['=']), .leaf (.number ['1'])] => .constant true
  | [.leaf (.number ['1']), .leaf (.sign ['=']), .leaf (.number ['0'])] => .constant false
  | xs => .atom (xs.map Item.nest)

/-- The levels of the connectives. -/
def formulaLevels : List Level :=
  [.between [.ofWord "or"], .between [.ofWord "and"], .before (.ofWord "not")]

/-- **How conditions are read as formulas.** -/
def formulaGrammar : Grammar Formula where
  levels := formulaLevels
  infixed φ op ψ := if op = .ofWord "or" then .or φ ψ else .and φ ψ
  prefixed _ φ := .not φ
  primary := formulaPrimary

/-- **The formula that a condition is read as.** -/
def Dialect.formula? (d : Dialect) (sql : String) : Option Formula :=
  formulaGrammar.readText d sql

/-- A list that `AND` and `OR` do not split, and that is read as a formula. -/
def ReadsFormula (ns : List Nest) (φ : Formula) : Prop :=
  formulaGrammar.Reads (formulaLevels.take 2) (formulaLevels.drop 2) ns φ

theorem ReadsFormula.read_eq {ns : List Nest} {φ : Formula} (h : ReadsFormula ns φ) :
    formulaGrammar.read ns = φ := Grammar.Reads.read_eq h

/-! ### Atoms -/

/-- A token that is no connective is read as what it is; `NOT` is one only at the start. -/
theorem tag_formula {t : Token} {start : Bool} (hconn : (Nest.token t).isConnective = false)
    (hnot : start = true → (Nest.token t).isWord "not" = false) :
    formulaGrammar.tag start t = .leaf t := by
  rw [Grammar.tag]
  cases hop : t.operator? with
  | none => rfl
  | some op =>
      simp only [Nest.isConnective, Nest.isWord, hop, Bool.or_eq_false_iff, beq_eq_false_iff_ne, ne_eq,
        Option.some.injEq] at hconn hnot
      have hbetween : formulaGrammar.hasBetween op = false := by
        simp [Grammar.hasBetween, formulaGrammar, formulaLevels, hconn]
      have hbefore : start = true → formulaGrammar.hasBefore op = false := by
        intro hstart
        simp [Grammar.hasBefore, formulaGrammar, formulaLevels, hnot hstart]
      cases start with
      | true => simp [hbefore rfl]
      | false => simp [hbetween]

/-- A list without connectives has no operators. -/
theorem isOperator_items {start : Bool} {ns : List Nest} (hconn : ∀ n ∈ ns, n.isConnective = false)
    (hnot : start = true → ∀ n, ns.head? = some n → n.isWord "not" = false) :
    ∀ x ∈ formulaGrammar.items start ns, x.isOperator = false := by
  induction ns generalizing start with
  | nil =>
      intro x hx
      cases hx
  | cons n ns ih =>
      have hitem : (formulaGrammar.item start n).isOperator = false := by
        cases n with
        | group ms => rfl
        | token t =>
            rw [Grammar.item, tag_formula (hconn _ List.mem_cons_self) fun hs => hnot hs _ rfl]
            rfl
      intro x hx
      rw [Grammar.items, hitem] at hx
      rcases List.mem_cons.1 hx with rfl | hx
      · exact hitem
      · exact ih (fun m hm => hconn m (List.mem_cons_of_mem n hm)) (by simp) x hx

/-- The formula of parts without operators, of which there is more than one. -/
theorem isAtomic_formulaPrimary {xs : List (Item Formula)} (h : ∀ ns φ, xs ≠ [.group ns φ]) :
    (formulaPrimary xs).isAtomic = true := by
  unfold formulaPrimary
  split
  · rename_i ns φ
    exact absurd rfl (h ns φ)
  · rfl
  · rfl
  · rfl

/-- **A list without connectives is an atom or a constant**, unless it is a group. -/
theorem exists_operand {ns : List Nest} (hne : ns ≠ []) (hgroup : ∀ ms, ns ≠ [.group ms])
    (hconn : ∀ n ∈ ns, n.isConnective = false)
    (hnot : ∀ n, ns.head? = some n → n.isWord "not" = false) :
    ∃ φ, φ.isAtomic = true ∧ formulaGrammar.Reads formulaLevels [] ns φ := by
  have hops : ∀ x ∈ formulaGrammar.items true ns, x.isOperator = false :=
    isOperator_items hconn fun _ => hnot
  refine ⟨_, isAtomic_formulaPrimary ?_, Grammar.reads_operands rfl hne hops⟩
  intro ms φ heq
  cases ns with
  | nil => exact hne rfl
  | cons n ns =>
      rw [Grammar.items, List.cons.injEq] at heq
      obtain ⟨hn, hns⟩ := heq
      cases n with
      | token t =>
          rw [Grammar.item, tag_formula (hconn _ List.mem_cons_self) fun _ => hnot _ rfl] at hn
          cases hn
      | group ks =>
          cases ns with
          | nil => exact hgroup ks rfl
          | cons m ns => cases hns

/-- **A list with a token between two lists** is an atom or a constant, when no connective stands in it
and no `NOT` in front. -/
theorem exists_operand_between {ns ms : List Nest} {x : Token}
    (hns : ∀ n ∈ ns, n.isConnective = false)
    (hhead : ∀ n, ns.head? = some n → n.isWord "not" = false)
    (hx : (Nest.token x).isConnective = false) (hnot : (Nest.token x).isWord "not" = false)
    (hms : ∀ m ∈ ms, m.isConnective = false) :
    ∃ φ, φ.isAtomic = true ∧ formulaGrammar.Reads formulaLevels [] (ns ++ .token x :: ms) φ := by
  refine exists_operand (by simp) ?_ ?_ ?_
  · intro ks heq
    have hmem : Nest.token x ∈ [Nest.group ks] := by
      rw [← heq]
      simp
    cases List.mem_singleton.1 hmem
  · exact List.forall_mem_append.2 ⟨hns, List.forall_mem_cons.2 ⟨hx, hms⟩⟩
  · intro n hn
    -- the first part is that of the left list, if it has one
    cases ns with
    | nil =>
        cases hn
        exact hnot
    | cons k ns => exact hhead n hn

namespace ReadsFormula

/-- A list without operators is read as a formula. -/
theorem of_operands {ns : List Nest} {φ : Formula} (h : formulaGrammar.Reads formulaLevels [] ns φ) :
    ReadsFormula ns φ := by
  have hread : formulaGrammar.Reads (formulaLevels.take 2 ++ formulaLevels.drop 2) [] ns φ := h
  exact hread.loosen_all

theorem operand_group (ns : List Nest) :
    formulaGrammar.Reads formulaLevels [] [.group ns] (formulaGrammar.read ns) :=
  Grammar.reads_group (G := formulaGrammar) ns

/-- **A group is read on its own.** -/
theorem group (ns : List Nest) : ReadsFormula [.group ns] (formulaGrammar.read ns) :=
  .of_operands (operand_group ns)

/-- The conditions `1=1` and `1=0`. -/
theorem truth (b : Bool) : ReadsFormula (truthNests b) (.constant b) := by
  have hitems : formulaGrammar.items true (truthNests b) =
      [.leaf (.number ['1']), .leaf (.sign ['=']), .leaf (.number [if b then '1' else '0'])] := by
    cases b <;> rfl
  have hread := Grammar.reads_of_items hitems (by simp [truthNests]) (by simp [Item.isOperator])
  cases b with
  | true => exact .of_operands hread
  | false => exact .of_operands hread

variable {ns ms : List Nest} {φ ψ : Formula}

/-- Two conditions with `AND` between them. -/
theorem and (hl : ReadsFormula ns φ) (hr : ReadsFormula ms ψ) :
    formulaGrammar.read (ns ++ wordNest "AND" :: ms) = .and φ ψ := by
  have hword : (Token.word "AND".toList).operator? = some (.ofWord "and") := by decide
  have hleft : formulaGrammar.Reads (formulaLevels.take 1) (formulaLevels.drop 1) ns φ :=
    Grammar.Reads.loosen hl
  refine (hleft.infixed hr hword (by decide) fun os hos => ?_).read_eq
  cases List.mem_singleton.1 hos
  decide

/-- Two conditions with `OR` between them. -/
theorem or (hl : ReadsFormula ns φ) (hr : ReadsFormula ms ψ) :
    formulaGrammar.read (ns ++ wordNest "OR" :: ms) = .or φ ψ := by
  have hword : (Token.word "OR".toList).operator? = some (.ofWord "or") := by decide
  have hloose {ks : List Nest} {χ : Formula} (h : ReadsFormula ks χ) :
      formulaGrammar.Reads (formulaLevels.take 1) (formulaLevels.drop 1) ks χ :=
    Grammar.Reads.loosen h
  have hleft : formulaGrammar.Reads [] formulaLevels ns φ := Grammar.Reads.loosen (hloose hl)
  exact (hleft.infixed (hloose hr) hword (by decide) (by simp)).read_eq

/-- **Two conditions with a connective between them.** -/
theorem connected {op : BinaryOp} (hop : op.isLogical = true) (hl : ReadsFormula ns φ)
    (hr : ReadsFormula ms ψ) :
    formulaGrammar.read (ns ++ .token op.token :: ms) = if op = .and then .and φ ψ else .or φ ψ := by
  cases op with
  | and => exact and hl hr
  | or => exact or hl hr
  | _ => cases hop

/-- **`NOT` in front of a list without operators.** -/
theorem inverted (h : formulaGrammar.Reads formulaLevels [] ns φ) :
    ReadsFormula (wordNest "NOT" :: ns) (.not φ) := by
  have hword : (Token.word "NOT".toList).operator? = some (.ofWord "not") := by decide
  have hoperand : formulaGrammar.Reads (formulaLevels.take 2 ++ [.before (.ofWord "not")]) [] ns φ := h
  exact hoperand.prefixed hword (by decide)

/-- `NOT` in front of a group. -/
theorem not (h : formulaGrammar.read ns = φ) :
    ReadsFormula (wordNest "NOT" :: [.group ns]) (.not φ) := inverted (h ▸ operand_group ns)

end ReadsFormula

end ModelSql
