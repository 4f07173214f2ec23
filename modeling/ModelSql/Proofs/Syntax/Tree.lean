/-
**Conditions as trees.**

A condition is read by the precedence that databases share: `OR`, `AND` and `NOT` are looser than the
comparisons, among them `IN`, `LIKE` and `IS`; these are looser than arithmetic, and a sign in front of
an operand is tighter.  Operators of one level are read from the left.  The commas and the words inside
the parentheses of a function are read as the loosest operators.

Main definitions:

* `Tree`, `sqlGrammar` — trees, and **how they are read**;
* `treeGrammar` — the same with other operators;
* `ReadsAt` — a list that is read at one level and passes the looser ones;
* `Nest.Simple`, `Nest.SelfDelimiting` — **the lists that no operator beside them can reach into**.

Main results:

* `ReadsAt.infixed`, `ReadsAt.negated`, `ReadsAt.inverted` — readings put together;
* `Nest.SelfDelimiting.reads` — a self-delimiting list is an operand of every infix operator;
* `Nest.SelfDelimiting.isKeyword` — no keyword stands in it, but in parentheses.
-/

import Mathlib.Data.List.Induction
import ModelSql.Proofs.Syntax.Keyword

set_option relaxedAutoImplicit false
set_option autoImplicit false

namespace ModelSql

/-! ### Trees -/

/-- The trees that conditions are read as. -/
inductive Tree
  | leaf (t : Token)
  | prefixed (op : Op) (operand : Tree)
  | infixed (left : Tree) (op : Op) (right : Tree)
  | call (f : List Char) (args : Tree)
  deriving DecidableEq, Repr

/-- **The operators of conditions by precedence**, the loosest first. -/
def sqlLevels : List Level :=
  [ .between [.ofSign ","],
    .between (["from", "for", "as"].map .ofWord),
    .between [.ofWord "or"],
    .between [.ofWord "and"],
    .before (.ofWord "not"),
    .between (["=", "<>", ">", ">=", "<", "<="].map .ofSign ++ ["in", "like", "is"].map .ofWord),
    .between [.ofSign "||"],
    .between (["+", "-"].map .ofSign),
    .between (["*", "/", "%"].map .ofSign),
    .before (.ofSign "-"),
    .between [.ofSign "::"],
    .between [.ofSign "."] ]

namespace Precedence

/-- The level of the words inside the parentheses of a function. -/
def word : Nat := 1

/-- The level of the loosest operator of conditions. -/
def condition : Nat := 2

/-- The level of the inversion of a condition. -/
def inversion : Nat := 4

/-- The level of comparisons. -/
def comparison : Nat := 5

/-- The level of the sign in front of an operand; all infix operators between operands are looser. -/
def negation : Nat := 9

/-- The level of types behind texts. -/
def cast : Nat := 10

/-- The level of points between names. -/
def point : Nat := 11

/-- The level of lists without operators. -/
def operand : Nat := 12

end Precedence

/-- The reading of what no operator is left in: a token, a group, or a function with its arguments.  The
test `IS NOT NULL` has its `NOT` behind an infix operator. -/
def sqlPrimary : List (Item (Option Tree)) → Option Tree
  | [.leaf t] => some (.leaf t)
  | [.group _ v] => v
  | [.leaf (.word f), .group _ v] => v.map (.call f)
  | [.before op, .leaf t] =>
    if op = .ofWord "not" ∧ t = .word "NULL".toList then some (.prefixed op (.leaf t)) else none
  | _ => none

/-- **How conditions are read.** -/
def sqlGrammar : Grammar (Option Tree) where
  levels := sqlLevels
  infixed l op r := l.bind fun a => r.map fun b => .infixed a op b
  prefixed op t := t.map (.prefixed op)
  primary := sqlPrimary

/-- **The tree that a text is read as.** -/
def Dialect.tree? (d : Dialect) (sql : String) : Option Tree := (sqlGrammar.readText d sql).join

/-- A list that passes all levels looser than the `k`th and is read at the ones from there on. -/
abbrev ReadsAt (k : Nat) (ns : List Nest) (v : Option Tree) : Prop :=
  sqlGrammar.Reads (sqlLevels.take k) (sqlLevels.drop k) ns v

theorem tree?_of_reads {d : Dialect} {s : String} {ns : List Nest} {k : Nat} {v : Option Tree}
    (hs : Spells d s ns) (h : ReadsAt k ns v) : d.tree? s = v := by
  rw [Dialect.tree?, Grammar.Reads.readText_eq hs h, Option.join_some]

/-! ### Readings put together -/

namespace ReadsAt

variable {ns ms : List Nest} {v w : Option Tree} {k : Nat}

/-- A list that passes more levels is read at the looser ones too. -/
theorem mono {m : Nat} (h : ReadsAt m ns v) (hk : k ≤ m) : ReadsAt k ns v :=
  Grammar.ReadsAt.mono (G := sqlGrammar) h hk

/-- **An infix operator between two lists**; the right one passes its level, so that it is read from the
left. -/
theorem infixed {t : Token} {op : Op} (ht : t.operator? = some op)
    (hop : sqlGrammar.isAt op k = true) (hl : ReadsAt k ns v) (hr : ReadsAt (k + 1) ms w) :
    ReadsAt k (ns ++ .token t :: ms) (sqlGrammar.infixed v op w) :=
  Grammar.ReadsAt.infixed (G := sqlGrammar) ht hop hl hr

/-- A sign in front of a list. -/
theorem negated (h : ReadsAt Precedence.cast ns v) :
    ReadsAt Precedence.negation (signNest "-" :: ns) (v.map (.prefixed (.ofSign "-"))) :=
  Grammar.ReadsAt.prefixed (G := sqlGrammar) (t := .sign ['-']) rfl rfl (by decide) h

/-- **A `NOT` in front of a list.** -/
theorem inverted (h : ReadsAt Precedence.comparison ns v) :
    ReadsAt Precedence.inversion (wordNest "NOT" :: ns) (v.map (.prefixed (.ofWord "not"))) :=
  Grammar.ReadsAt.prefixed (G := sqlGrammar) (t := .word "NOT".toList) rfl rfl (by decide) h

end ReadsAt

/-! ### Operands -/

/-- Whether a token is an operand: no sign and no keyword. -/
def Token.isOperand (t : Token) : Bool := t.operator?.all fun
  | .word cs => !(Op.word cs).isKeyword
  | .sign _ => false

/-- Whether the words among the operators of a level are keywords. -/
def Level.isNamed (l : Level) : Bool := l.ops.all fun
  | .word cs => (Op.word cs).isKeyword
  | .sign _ => true

/-- **An operand is read as one**, wherever it stands. -/
theorem tag_isOperand {τ : Type} {G : Grammar τ} (hG : ∀ l ∈ G.levels, l.isNamed = true) {t : Token}
    (h : t.isOperand = true) (start : Bool) : G.tag start t = .leaf t := by
  rw [Token.isOperand] at h
  rw [Grammar.tag]
  cases hop : t.operator? with
  | none => rfl
  | some op =>
      have hno : ¬ (G.hasBefore op = true ∨ G.hasBetween op = true) := by
        intro hlevel
        obtain ⟨l, hl, hmem⟩ := G.exists_level hlevel
        -- an operator of the grammar would be a keyword or a sign
        have hkey := List.all_eq_true.1 (hG l hl) op hmem
        rw [hop] at h
        cases op with
        | word cs => simp_all
        | sign cs => simp at h
      rw [not_or, Bool.not_eq_true, Bool.not_eq_true] at hno
      simp [hno]

theorem isNamed_of_mem_levels : ∀ l ∈ sqlLevels, l.isNamed = true := by decide

/-! ### Lists without operators -/

section

variable {levels : List Level}

/-- The trees of statements with other operators. -/
def treeGrammar (levels : List Level) : Grammar (Option Tree) := { sqlGrammar with levels }

/-- **A token that is an operand is a tree.** -/
theorem reads_leaf (hlevels : ∀ l ∈ levels, l.isNamed = true) {t : Token} (h : t.isOperand = true) :
    (treeGrammar levels).Reads levels [] [.token t] (some (.leaf t)) := by
  have hitems : (treeGrammar levels).items true [.token t] = [.leaf t] := by
    rw [Grammar.items, Grammar.items, Grammar.item, tag_isOperand hlevels h]
  exact Grammar.reads_of_items hitems (by simp) (by simp [Item.isOperator])

/-- A function and its arguments, which are read on their own. -/
theorem reads_function (hlevels : ∀ l ∈ levels, l.isNamed = true) {f : List Char}
    (h : (Token.word f).isOperand = true) (ns : List Nest) :
    (treeGrammar levels).Reads levels [] [.token (.word f), .group ns]
      (((treeGrammar levels).read ns).map (.call f)) := by
  have hitems : (treeGrammar levels).items true [.token (.word f), .group ns] =
      [.leaf (.word f), .group ns ((treeGrammar levels).read ns)] := by
    rw [Grammar.items, Grammar.items, Grammar.items, Grammar.item, tag_isOperand hlevels h,
      Grammar.item]
    rfl
  exact Grammar.reads_of_items hitems (by simp) (by simp [Item.isOperator])

/-- Names with points between them. -/
def dotted (t : Token) (ts : List Token) : List Nest :=
  .token t :: ts.flatMap fun x => [pointNest, .token x]

/-- The tree of names with points between them. -/
def Tree.dotted (t : Token) (ts : List Token) : Tree :=
  ts.foldl (fun left x => .infixed left (.ofSign ".") (.leaf x)) (.leaf t)

theorem Tree.dotted_append_singleton (t : Token) (ts : List Token) (x : Token) :
    Tree.dotted t (ts ++ [x]) = .infixed (Tree.dotted t ts) (.ofSign ".") (.leaf x) := by
  rw [Tree.dotted, List.foldl_append]
  rfl

/-- **Names with points between them.** -/
theorem reads_dotted (hlevels : ∀ l ∈ levels, l.isNamed = true) {k : Nat}
    (hpoint : (treeGrammar levels).isAt (.ofSign ".") k = true) {t : Token} {ts : List Token}
    (h : ∀ x ∈ t :: ts, x.isOperand = true) :
    (treeGrammar levels).ReadsAt k (dotted t ts) (some (Tree.dotted t ts)) := by
  have hleaf {x : Token} (hx : x.isOperand = true) (k : Nat) :
      (treeGrammar levels).ReadsAt k [.token x] (some (.leaf x)) := .of_reads (reads_leaf hlevels hx) k
  -- the last name is the right operand, so the induction takes names off the end
  induction ts using List.reverseRecOn with
  | nil => exact hleaf (h t (by simp)) k
  | append_singleton ts x ih =>
      have hx : x.isOperand = true := h x (by simp)
      have hinit := ih fun y hy => h y (by
        rw [← List.cons_append]
        exact List.mem_append_left _ hy)
      -- a name at the end adds a point and a token
      have hnests : dotted t (ts ++ [x]) = dotted t ts ++ .token (.sign ['.']) :: [.token x] := by
        simp [dotted, pointNest, signNest]
      rw [hnests, Tree.dotted_append_singleton]
      exact Grammar.ReadsAt.infixed rfl hpoint hinit (hleaf hx (k + 1))

end

namespace ReadsAt

open Precedence

theorem leaf {t : Token} (h : t.isOperand = true) : ReadsAt operand [.token t] (some (.leaf t)) :=
  reads_leaf isNamed_of_mem_levels h

/-- **A group is read on its own.** -/
theorem group (ns : List Nest) : ReadsAt operand [.group ns] (sqlGrammar.read ns) :=
  Grammar.reads_group (G := sqlGrammar) ns

/-- A function and its arguments, which are read on their own. -/
theorem function {f : List Char} (h : (Token.word f).isOperand = true) (ns : List Nest) :
    ReadsAt operand [.token (.word f), .group ns] ((sqlGrammar.read ns).map (.call f)) :=
  reads_function isNamed_of_mem_levels h ns

theorem call {f : List Char} {ns : List Nest} {a : Tree} {k : Nat} (ha : ReadsAt k ns (some a))
    (h : (Token.word f).isOperand = true) :
    ReadsAt operand [.token (.word f), .group ns] (some (.call f a)) := by
  have hread := function h ns
  rwa [ha.read_eq] at hread

theorem dotted {t : Token} {ts : List Token} (h : ∀ x ∈ t :: ts, x.isOperand = true) :
    ReadsAt point (ModelSql.dotted t ts) (some (Tree.dotted t ts)) :=
  reads_dotted isNamed_of_mem_levels (by decide) h

end ReadsAt

namespace Nest

/-- **The lists that no operator beside them can reach into**: a token, or names with points; a text with
its type; a function with its arguments; a group. -/
inductive Simple : List Nest → Prop
  | path {t : Token} {ts : List Token} (h : ∀ x ∈ t :: ts, x.isOperand = true) :
    Simple (dotted t ts)
  | typed (mark cs : List Char) {type : List Char} (h : (Token.word type).isOperand = true) :
    Simple [.token (.text mark cs), signNest "::", .token (.word type)]
  | call {f : List Char} (h : (Token.word f).isOperand = true) (ns : List Nest) :
    Simple [.token (.word f), .group ns]
  | group (ns : List Nest) : Simple [.group ns]

/-- Such a list, with at most one minus in front. -/
def SelfDelimiting (ns : List Nest) : Prop :=
  Simple ns ∨ ∃ ms, ns = signNest "-" :: ms ∧ Simple ms

theorem Simple.token {t : Token} (h : t.isOperand = true) : Simple [.token t] :=
  show Simple (dotted t []) from .path (by simpa using h)

theorem Simple.reads {ns : List Nest} (h : Simple ns) :
    ReadsAt Precedence.cast ns (sqlGrammar.read ns) := by
  have hall {k : Nat} {v : Option Tree} (hread : ReadsAt k ns v) (hk : Precedence.cast ≤ k) :
      ReadsAt Precedence.cast ns (sqlGrammar.read ns) := by
    rw [hread.read_eq]
    exact hread.mono hk
  cases h with
  | path h => exact hall (ReadsAt.dotted h) (by decide)
  | typed mark cs h =>
      have htext : (Token.text mark cs).isOperand = true := rfl
      have hread := ((ReadsAt.leaf htext).mono (by decide : Precedence.cast ≤ _)).infixed
        (t := .sign [':', ':']) rfl (by decide) ((ReadsAt.leaf h).mono (by decide))
      exact hall hread (Nat.le_refl _)
  | call h ns => exact hall (ReadsAt.function h ns) (by decide)
  | group ns => exact hall (ReadsAt.group ns) (by decide)

/-- **A self-delimiting list is an operand of every infix operator.** -/
theorem SelfDelimiting.reads {ns : List Nest} (h : SelfDelimiting ns) :
    ReadsAt Precedence.negation ns (sqlGrammar.read ns) := by
  rcases h with h | ⟨ms, rfl, h⟩
  · exact h.reads.mono (by decide)
  · have hread := h.reads.negated
    rw [hread.read_eq]
    exact hread

end Nest

theorem Token.isKeyword_of_isOperand {t : Token} (h : t.isOperand = true) : t.isKeyword = false := by
  rw [isOperand] at h
  rw [isKeyword]
  cases hop : t.operator? with
  | none => rfl
  | some op =>
      rw [hop] at h
      cases op with
      | word cs => simpa using h
      | sign cs => simp at h

namespace Nest

theorem Simple.isKeyword {ns : List Nest} (h : Simple ns) : ∀ n ∈ ns, n.isKeyword = false := by
  intro n hn
  cases h with
  | path h =>
      rw [dotted, List.mem_cons, List.mem_flatMap] at hn
      rcases hn with rfl | ⟨x, hx, hn⟩
      · exact Token.isKeyword_of_isOperand (h _ (by simp))
      · rw [List.mem_cons, List.mem_singleton] at hn
        rcases hn with rfl | rfl
        · rfl
        · exact Token.isKeyword_of_isOperand (h _ (List.mem_cons_of_mem _ hx))
  | typed mark cs h =>
      simp only [List.mem_cons, List.not_mem_nil, or_false] at hn
      rcases hn with rfl | rfl | rfl
      · rfl
      · rfl
      · exact Token.isKeyword_of_isOperand h
  | call h ns =>
      simp only [List.mem_cons, List.not_mem_nil, or_false] at hn
      rcases hn with rfl | rfl
      · exact Token.isKeyword_of_isOperand h
      · rfl
  | group ns =>
      rw [List.mem_singleton] at hn
      subst hn
      rfl

/-- **No keyword stands in a self-delimiting list**, but in parentheses. -/
theorem SelfDelimiting.isKeyword {ns : List Nest} (h : SelfDelimiting ns) :
    ∀ n ∈ ns, n.isKeyword = false := by
  rcases h with h | ⟨ms, rfl, h⟩
  · exact h.isKeyword
  · intro n hn
    rcases List.mem_cons.1 hn with rfl | hn
    · rfl
    · exact h.isKeyword n hn

end Nest

end ModelSql
