/-
**Operands beside infix operators.**

Most parts of a condition bring their own parentheses, but three do not: an inversion, a membership and a
string match.  Beside an infix operator the text of such a part is not closed, and the operator may take a
piece of it; every other part is a name, a value, a function or a group there.

Main definitions:

* `Expr.IsScalar` — the expressions of conditions, columns and values put together;
* `Expr.isBare` — **the expressions that are written without parentheses of their own**;
* `Scope.Beside` — an operand whose text stands beside an infix operator;
* `Scope.Denotes` — **the tree of an expression**, with literals and placeholders for its values.
-/

import ModelSql.Proofs.Query.Spelling
import ModelSql.Proofs.Value.Scalar

set_option relaxedAutoImplicit false
set_option autoImplicit false

namespace ModelSql

namespace Expr

/-! ### Expressions of conditions -/

mutual

/-- Whether an expression is computed, since no column stands in it. -/
def isConstant : Expr → Bool
  | .value _ => true
  | .binary _ l r => l.isConstant && r.isConstant
  | .unary _ e => e.isConstant
  | .method _ t args => t.isConstant && allConstant args
  | .list items => allConstant items
  | _ => false

/-- Whether all of some expressions are computed. -/
def allConstant : List Expr → Bool
  | [] => true
  | e :: es => e.isConstant && allConstant es

end

/-- **The expressions of conditions**: columns and values, operators of conditions and of arithmetic,
methods of texts, and memberships, where the list is a value, a list of expressions or one expression. -/
inductive IsScalar : Expr → Prop
  | column (name : String) : IsScalar (.column name)
  | value {v : Value} (hv : v.isScalar = true) : IsScalar (.value v)
  | binary {op : BinaryOp} {l r : Expr} (hop : op.isBitwise = false) (hl : IsScalar l)
    (hr : IsScalar r) : IsScalar (.binary op l r)
  | unary (op : UnaryOp) {e : Expr} (he : IsScalar e) : IsScalar (.unary op e)
  | method (m : StringMethod) {t : Expr} {args : List Expr} (ht : IsScalar t)
    (ha : ∀ e ∈ args, IsScalar e) : IsScalar (.method m t args)
  | element (items : List Value) {e : Expr} (he : IsScalar e) :
    IsScalar (.method .contains (.value (.list items)) [e])
  | member {t : Expr} (ht : IsScalar t) (v : Value) : IsScalar (.inList t (.value v))
  | memberOf {t : Expr} {items : List Expr} (ht : IsScalar t) (hi : ∀ e ∈ items, IsScalar e) :
    IsScalar (.inList t (.list items))
  | memberIn {t e : Expr} (ht : IsScalar t) (he : IsScalar e) : IsScalar (.inList t e)

/-- **Whether an expression is written without parentheses of its own**: an inversion, a membership or a
string match that is not computed. -/
def isBare (e : Expr) : Bool :=
  !e.isConstant && match e with
    | .unary .not _ | .inList _ _ => true
    | .method m _ _ => m.isTest
    | _ => false

theorem isBare_of_isConstant {e : Expr} (h : e.isConstant = true) : e.isBare = false := by
  unfold isBare
  rw [h]
  rfl

end Expr

/-! ### Operands beside operators -/

/-- Whether an operator tests a part for null. -/
def BinaryOp.testsNull (op : BinaryOp) (p q : Fragment) : Bool :=
  (op == .eq || op == .ne) && (p.isNull || q.isNull)

namespace Scope

variable (s : Scope)

/-- Whether a sign is written between two parts. -/
def isInfix (op : BinaryOp) (p q : Fragment) : Bool :=
  (p.value?.isNone || q.value?.isNone) && !op.isLogical && !op.testsNull p q &&
    s.dialect.isInfix op (p.isText || q.isText)

/-- **An operand whose text stands beside an infix operator**, or before `IS` or `IN`, where an expression
is written from some bindings on: the operator may be that of any expression inside. -/
inductive Beside : Expr → Bindings → Expr → String → Prop
  | left {op : BinaryOp} {l r : Expr} {p q : Fragment} {b k m n : Bindings} {t u : String}
    (hl : s.visit l b = .ok (p, k)) (hr : s.visit r k = .ok (q, m)) (hop : s.isInfix op p q = true)
    (h : s.operandPair p q m = .ok ((t, u), n)) : Beside (.binary op l r) b l t
  | right {op : BinaryOp} {l r : Expr} {p q : Fragment} {b k m n : Bindings} {t u : String}
    (hl : s.visit l b = .ok (p, k)) (hr : s.visit r k = .ok (q, m)) (hop : s.isInfix op p q = true)
    (h : s.operandPair p q m = .ok ((t, u), n)) : Beside (.binary op l r) b r u
  | leftTested {op : BinaryOp} {l r : Expr} {p q : Fragment} {b k m n : Bindings} {t : String}
    (hl : s.visit l b = .ok (p, k)) (hr : s.visit r k = .ok (q, m)) (hvalue : p.value? = none)
    (hop : op.testsNull p q = true) (h : s.operand none p m = .ok (t, n)) :
    Beside (.binary op l r) b l t
  | rightTested {op : BinaryOp} {l r : Expr} {p q : Fragment} {b k m n : Bindings} {t : String}
    (hl : s.visit l b = .ok (p, k)) (hr : s.visit r k = .ok (q, m)) (hvalue : q.value? = none)
    (hop : op.testsNull p q = true) (h : s.operand none q m = .ok (t, n)) :
    Beside (.binary op l r) b r t
  | member {e v : Expr} {p : Fragment} {b k m : Bindings} {t : String}
    (he : s.visit e b = .ok (p, k)) (h : s.operand none p k = .ok (t, m)) :
    Beside (.inList e v) b e t
  | element {items : List Value} {e : Expr} {p : Fragment} {b k m : Bindings} {t : String}
    (he : s.visit e b = .ok (p, k)) (hvalue : p.value? = none)
    (h : s.operand none p k = .ok (t, m)) :
    Beside (.method .contains (.value (.list items)) [e]) b e t
  | inLeft {op : BinaryOp} {l r o : Expr} {b : Bindings} {t : String} (h : Beside l b o t) :
    Beside (.binary op l r) b o t
  | inRight {op : BinaryOp} {l r o : Expr} {p : Fragment} {b k : Bindings} {t : String}
    (hl : s.visit l b = .ok (p, k)) (h : Beside r k o t) : Beside (.binary op l r) b o t
  | inUnary {op : UnaryOp} {e o : Expr} {b : Bindings} {t : String} (h : Beside e b o t) :
    Beside (.unary op e) b o t
  | inTarget {m : StringMethod} {e o : Expr} {args : List Expr} {b : Bindings} {t : String}
    (h : Beside e b o t) : Beside (.method m e args) b o t
  | inElement {items : List Value} {e o : Expr} {b : Bindings} {t : String} (h : Beside e b o t) :
    Beside (.method .contains (.value (.list items)) [e]) b o t
  | inMember {e v o : Expr} {b : Bindings} {t : String} (h : Beside e b o t) :
    Beside (.inList e v) b o t
  | inList {e v o : Expr} {p : Fragment} {b k m : Bindings} {t u : String}
    (he : s.visit e b = .ok (p, k)) (hu : s.operand none p k = .ok (u, m)) (h : Beside v m o t) :
    Beside (.inList e v) b o t
  | inItems {e i o : Expr} {front back : List Expr} {p : Fragment} {ps : List Fragment}
    {b k m n : Bindings} {t u : String} (he : s.visit e b = .ok (p, k))
    (hu : s.operand none p k = .ok (u, m)) (hfront : s.visitAll front m = .ok (ps, n))
    (h : Beside i n o t) : Beside (.inList e (.list (front ++ i :: back))) b o t

/-- **No operand beside an infix operator is bare.** -/
def Guarded (e : Expr) (b : Bindings) : Prop := ∀ o t, s.Beside e b o t → o.isBare = false

end Scope

/-! ### Trees of expressions -/

/-- The word of a connective. -/
def BinaryOp.connective (op : BinaryOp) : Op := if op = .and then .ofWord "and" else .ofWord "or"

/-- The pattern of a string match for a text. -/
def StringMethod.pattern (m : StringMethod) (text : String) : String :=
  match m with
  | .startsWith => "" ++ Text.upper text ++ "%"
  | .endsWith => "%" ++ Text.upper text ++ ""
  | _ => "%" ++ Text.upper text ++ "%"

/-- The tree of a method that is a function of one text. -/
def Dialect.functionTree? (d : Dialect) : StringMethod → Option (Tree → Tree)
  | .trim => some d.trimTree
  | .trimStart => some d.trimStartTree
  | .trimEnd => some d.trimEndTree
  | .toUpper => some (.apply "UPPER")
  | .toLower => some (.apply "LOWER")
  | _ => none

/-- What a part is written as: an operand beside something of a type, or a condition. -/
inductive Place
  | operand (hint : Option FieldType)
  | condition

/-- Whether a part that is a condition is written as it would be as an operand. -/
def Fragment.isPlain : Fragment → Bool
  | .value (.bool _) | .value .null | .column _ .bool => false
  | _ => true

namespace Scope

variable (s : Scope)

/-- What an expression yields in some bindings. -/
def Yields (e : Expr) (p : Fragment) : Prop := ∃ b c, s.visit e b = .ok (p, c)

/-- What some expressions yield in some bindings. -/
def YieldsAll (es : List Expr) (ps : List Fragment) : Prop := ∃ b c, s.visitAll es b = .ok (ps, c)

/-- The tree of a value that is written in some bindings. -/
def Written (hint : Option FieldType) (v : Value) (a : Tree) : Prop :=
  ∃ b t c, s.bind hint v b = .ok (t, c) ∧ s.dialect.tree? t = some a

/-- **The tree of an expression at a place.**  Expressions that are computed are the trees of their
values; every other expression is the tree of its operator over those of its operands. -/
inductive Denotes : Place → Expr → Tree → Prop
  | column {hint : Option FieldType} {name : String} {f : Field} {a : Tree}
    (hf : s.model.field? name = some f) (ha : s.dialect.tree? (s.column f) = some a) :
    Denotes (.operand hint) (.column name) a
  | value {hint : Option FieldType} {e : Expr} {v : Value} {a : Tree}
    (he : s.Yields e (.value v)) (ha : s.Written hint v a) : Denotes (.operand hint) e a
  | operator {hint : Option FieldType} {op : BinaryOp} {l r : Expr} {p q : Fragment} {a c : Tree}
    (hc : (Expr.binary op l r).isConstant = false) (hl : s.Yields l p) (hr : s.Yields r q)
    (hop : op.isLogical = false) (hnull : op.testsNull p q = false)
    (ha : Denotes (.operand q.type?) l a) (hb : Denotes (.operand p.type?) r c) :
    Denotes (.operand hint) (.binary op l r)
      (s.dialect.operatorTree op (p.isText || q.isText) a c)
  | nullTest {hint : Option FieldType} {op : BinaryOp} {l r : Expr} {p q : Fragment} {a : Tree}
    (hc : (Expr.binary op l r).isConstant = false) (hl : s.Yields l p) (hr : s.Yields r q)
    (hnull : op.testsNull p q = true)
    (ha : Denotes (.operand none) (if p.isNull then r else l) a) :
    Denotes (.operand hint) (.binary op l r) (.nullTest op a)
  | connected {hint : Option FieldType} {op : BinaryOp} {l r : Expr} {a c : Tree}
    (hc : (Expr.binary op l r).isConstant = false) (hop : op.isLogical = true)
    (ha : Denotes .condition l a) (hb : Denotes .condition r c) :
    Denotes (.operand hint) (.binary op l r) (.infixed a op.connective c)
  | inverted {hint : Option FieldType} {e : Expr} {a : Tree} (hc : e.isConstant = false)
    (ha : Denotes .condition e a) :
    Denotes (.operand hint) (.unary .not e) (.prefixed (.ofWord "not") a)
  | negated {hint : Option FieldType} {e : Expr} {a : Tree} (hc : e.isConstant = false)
    (ha : Denotes (.operand none) e a) :
    Denotes (.operand hint) (.unary .neg e) (.prefixed (.ofSign "-") a)
  | function {hint : Option FieldType} {m : StringMethod} {t : Expr} {args : List Expr} {a : Tree}
    {f : Tree → Tree} (hc : t.isConstant = false) (hf : s.dialect.functionTree? m = some f)
    (ha : Denotes (.operand none) t a) : Denotes (.operand hint) (.method m t args) (f a)
  | substring {hint : Option FieldType} {t : Expr} {args : List Expr} {vs : List Value}
    {start : Int64} {length : Option Int64} {a : Tree} (hc : t.isConstant = false)
    (hargs : s.YieldsAll args (vs.map .value))
    (hstart : vs.head?.bind Value.toInt? = some start)
    (hlength : vs[1]?.map Value.toInt? = length.map some) (ha : Denotes (.operand none) t a) :
    Denotes (.operand hint) (.method .substring t args)
      (s.dialect.substringTree (start.toInt + 1) (length.map Int64.toInt) a)
  | pattern {hint : Option FieldType} {m : StringMethod} {t : Expr} {args : List Expr} {v : Value}
    {vs : List Value} {a x : Tree} (hc : t.isConstant = false) (hm : m.isTest = true)
    (hargs : s.YieldsAll args ((v :: vs).map .value)) (ha : Denotes (.operand none) t a)
    (hx : s.Written none (.text (m.pattern v.toText)) x) :
    Denotes (.operand hint) (.method m t args) (.like a x)
  | element {hint : Option FieldType} {items : List Value} {e : Expr} {p : Fragment} {a : Tree}
    {xs : List Tree} (hc : e.isConstant = false) (he : s.Yields e p)
    (ha : Denotes (.operand none) e a)
    (hxs : List.Forall₂ (fun v x => s.Written p.type? (coerce p.type? v) x)
      (Value.list items).flatten xs) :
    Denotes (.operand hint) (.method .contains (.value (.list items)) [e])
      (.member a (.items xs))
  | member {hint : Option FieldType} {e v : Expr} {p : Fragment} {w : Value} {a : Tree}
    {xs : List Tree} (he : s.Yields e p) (ha : Denotes (.operand none) e a)
    (hv : s.Yields v (.value w))
    (hxs : List.Forall₂ (fun v x => s.Written p.type? (coerce p.type? v) x) w.flatten xs) :
    Denotes (.operand hint) (.inList e v) (.member a (.items xs))
  | memberOf {hint : Option FieldType} {e : Expr} {items : List Expr} {a : Tree} {xs : List Tree}
    (hc : Expr.allConstant items = false) (ha : Denotes (.operand none) e a)
    (hxs : List.Forall₂ (Denotes (.operand none)) items xs) :
    Denotes (.operand hint) (.inList e (.list items)) (.member a (.items xs))
  | memberIn {hint : Option FieldType} {e v : Expr} {a x : Tree} (hc : v.isConstant = false)
    (ha : Denotes (.operand none) e a) (hx : Denotes (.operand none) v x) :
    Denotes (.operand hint) (.inList e v) (.member a x)
  | constant {e : Expr} {b : Bool} (he : s.Yields e (.value (.bool b))) :
    Denotes .condition e (.truth b)
  | unknown {e : Expr} (he : s.Yields e (.value .null)) : Denotes .condition e (.truth false)
  | flag {name : String} {f : Field} {a x : Tree} (hf : s.model.field? name = some f)
    (ht : f.type = .bool) (ha : s.dialect.tree? (s.column f) = some a)
    (hx : s.Written (some .bool) (.bool true) x) :
    Denotes .condition (.column name) (.infixed a (.ofSign "=") x)
  | plain {e : Expr} {p : Fragment} {a : Tree} (he : s.Yields e p) (hp : p.isPlain = true)
    (ha : Denotes (.operand none) e a) : Denotes .condition e a

end Scope

end ModelSql
