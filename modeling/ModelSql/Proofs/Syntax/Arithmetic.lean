/-
**Arithmetic in statements, read and computed.**

What stands between parentheses in arithmetic is read by the precedence of its signs.  The operators on bits
are looser here than sums; databases do not agree on that, and what they are given does not depend on it.  A
tree is computed by what a database makes of two operands.  Integers stand for themselves, and a row says
what names, placeholders and all other operands stand for.

Main definitions:

* `arithmeticGrammar` — how arithmetic is read;
* `Arithmetic`, `Tree.value?` — what a database makes of operands, and **the value of a tree**;
* `Dialect.value?` — the value of a text;
* `Dialect.Computes` — **a text that has a value wherever it stands**.

Main results:

* `Dialect.computes_int`, `Dialect.computes_placeholder` — operands;
* `Dialect.Computes.infixText`, `Dialect.Computes.apply` — **what operators and functions make of them**;
* `Dialect.Computes.value?_eq` — such a text has its value on its own too.
-/

import ModelSql.Proofs.Syntax.Operator
import ModelSql.Proofs.Value.Integer

set_option relaxedAutoImplicit false
set_option autoImplicit false

namespace ModelSql

/-! ### Reading -/

/-- **The operators of arithmetic by precedence**, the loosest first. -/
def arithmeticLevels : List Level :=
  [ .between [.ofSign ","],
    .between (["|", "&", "<<", ">>"].map .ofSign),
    .between (["+", "-"].map .ofSign),
    .between (["*", "/", "%"].map .ofSign),
    .before (.ofSign "-"),
    .between [.ofSign "."] ]

/-- How arithmetic is read. -/
def arithmeticGrammar : Grammar (Option Tree) := treeGrammar arithmeticLevels

/-- The level of the sign in front of an operand; all infix operators between operands are looser. -/
def signLevel : Nat := 4

/-- The tree of a text of arithmetic. -/
def Dialect.arithmetic? (d : Dialect) (sql : String) : Option Tree :=
  (arithmeticGrammar.readText d sql).join

theorem isNamed_of_mem_arithmeticLevels : ∀ l ∈ arithmeticLevels, l.isNamed = true := by decide

section

variable {d : Dialect} {sql : String} {ns : List Nest} {k : Nat}

theorem arithmetic?_of_reads {v : Option Tree} (hs : Spells d sql ns)
    (h : arithmeticGrammar.ReadsAt k ns v) : d.arithmetic? sql = v := by
  rw [Dialect.arithmetic?, Grammar.Reads.readText_eq hs h, Option.join_some]

/-- What is in parentheses is an operand. -/
theorem arithmetic_group {a : Tree} (h : arithmeticGrammar.ReadsAt k ns (some a)) (m : Nat) :
    arithmeticGrammar.ReadsAt m [.group ns] (some a) := by
  have hread : arithmeticGrammar.ReadsAt m [.group ns] (arithmeticGrammar.read ns) :=
    .of_reads (Grammar.reads_group ns) m
  rwa [h.read_eq] at hread

end

/-! ### Values -/

/-- **What a database makes of operands** that are numbers of a type, if it makes something of them. -/
structure Arithmetic (α : Type) where
  ofInt : Int64 → α
  infixed : Op → α → α → Option α
  function : List Char → α → α → Option α

section

variable {α : Type} (A : Arithmetic α) (row : Tree → Option Int64)

/-- The integer that an operand stands for. -/
def Tree.integer? (x : Tree) : Option Int64 :=
  match x.int? with
  | some n => Value.int64? n
  | none => row x

/-- **The value of a tree**: names with points between them are one operand. -/
def Tree.value? : Tree → Option α
  | .infixed a op b =>
    if op = .ofSign "." then ((Tree.infixed a op b).integer? row).map A.ofInt
    else a.value?.bind fun x => b.value?.bind fun y => A.infixed op x y
  | .call f (.infixed a op b) =>
    if op = .ofSign "," then a.value?.bind fun x => b.value?.bind fun y => A.function f x y else none
  | x => (x.integer? row).map A.ofInt

/-- **The value of a text.** -/
def Dialect.value? (d : Dialect) (sql : String) : Option α :=
  (d.arithmetic? sql).bind (Tree.value? A row)

/-- **A text that has a value wherever it stands.** -/
def Dialect.Computes (d : Dialect) (sql : String) (a : α) : Prop :=
  ∃ ns x, Spells d sql ns ∧ arithmeticGrammar.ReadsAt signLevel ns (some x) ∧
    x.value? A row = some a

end

namespace Dialect

variable {α : Type} {A : Arithmetic α} {row : Tree → Option Int64} {d : Dialect} {l r : String}
  {a b c : α} {n : Int64}

/-- Such a text has its value on its own too. -/
theorem Computes.value?_eq (h : d.Computes A row l a) : d.value? A row l = some a := by
  obtain ⟨ns, x, hs, hread, hx⟩ := h
  rw [Dialect.value?, arithmetic?_of_reads hs hread]
  exact hx

/-! ### Operands -/

/-- **An integer has itself as value**, also the least one. -/
theorem computes_int (n : Int64) : d.Computes A row (toString n.toInt) (A.ofInt n) := by
  refine ⟨_, _, spells_int n.toInt,
    reads_intNests isNamed_of_mem_arithmeticLevels rfl (by decide) n.toInt, ?_⟩
  have hint : (Tree.int n.toInt).integer? row = some n := by
    rw [Tree.integer?, Tree.int?_int]
    exact Value.int64?_eq_some_iff.2 rfl
  have hvalue : (Tree.int n.toInt).value? A row = ((Tree.int n.toInt).integer? row).map A.ofInt := by
    unfold Tree.int
    dsimp only
    split <;> rfl
  rw [hvalue, hint]
  rfl

/-- **A placeholder has the value of the row.** -/
theorem computes_placeholder {i : Nat} (h : row (.leaf (d.parameterToken i)) = some n) :
    d.Computes A row (d.placeholder i) (A.ofInt n) := by
  refine ⟨_, _, spells_placeholder i,
    .of_reads (reads_leaf isNamed_of_mem_arithmeticLevels rfl) signLevel, ?_⟩
  exact congrArg (Option.map A.ofInt) h

/-! ### Operators -/

/-- **A sign between two operands**, in parentheses. -/
theorem Computes.infixText {w : String} {k : Nat}
    (hw : ∀ escapes, Lexer.Feeds escapes .blank w.toList [] (.sign w.toList))
    (hk : arithmeticGrammar.isAt (.ofSign w) k = true) (hlevel : k < signLevel)
    (hl : d.Computes A row l a) (hr : d.Computes A row r b)
    (h : A.infixed (.ofSign w) a b = some c) :
    d.Computes A row (infixText l w r) c := by
  obtain ⟨ns, x, hns, hx, hxa⟩ := hl
  obtain ⟨ms, y, hms, hy, hyb⟩ := hr
  have hread : arithmeticGrammar.ReadsAt k (ns ++ signNest w :: ms) (some (.infixed x (.ofSign w) y)) :=
    Grammar.ReadsAt.infixed rfl hk (hx.mono (Nat.le_of_lt hlevel)) (hy.mono hlevel)
  have hspells := (delimited_infixText (spells_sign hw) hns hms).spells
  refine ⟨_, _, hspells, arithmetic_group hread signLevel, ?_⟩
  -- the point is tighter than a sign in front of an operand
  have hpoint : Op.ofSign w ≠ .ofSign "." := by
    have htight : ∀ k < signLevel, arithmeticGrammar.isAt (.ofSign ".") k = false := by decide
    intro heq
    rw [heq, htight k hlevel] at hk
    cases hk
  rw [Tree.value?, if_neg hpoint, hxa, hyb]
  exact h

/-- **A function of two operands.** -/
theorem Computes.apply {f : String} (hf : isFunctionName f = true) (hl : d.Computes A row l a)
    (hr : d.Computes A row r b) (h : A.function f.toList a b = some c) :
    d.Computes A row (f ++ "(" ++ (l ++ ", " ++ r) ++ ")") c := by
  obtain ⟨ns, x, hns, hx, hxa⟩ := hl
  obtain ⟨ms, y, hms, hy, hyb⟩ := hr
  have hargs : arithmeticGrammar.ReadsAt 0 (ns ++ signNest "," :: ms)
      (some (.infixed x (.ofSign ",") y)) :=
    Grammar.ReadsAt.infixed rfl (by decide) (hx.mono (by decide)) (hy.mono (by decide))
  have hname : (Token.word f.toList).isOperand = true := ((Bool.and_eq_true _ _).mp hf).2
  have hread : arithmeticGrammar.ReadsAt signLevel [wordNest f, .group (ns ++ signNest "," :: ms)]
      ((arithmeticGrammar.read (ns ++ signNest "," :: ms)).map (.call f.toList)) :=
    .of_reads (reads_function isNamed_of_mem_arithmeticLevels hname _) signLevel
  rw [hargs.read_eq] at hread
  refine ⟨_, _, spells_apply f hf (hns.list hms), hread, ?_⟩
  rw [Tree.value?, if_pos rfl, hxa, hyb]
  exact h

end Dialect

end ModelSql
