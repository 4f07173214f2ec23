/-
**Expressions over the fields of a model.**

Conditions, projections and orderings are trees of columns, values and operators.  A part whose
operands are all values is computed; a part that touches a column becomes text of a statement.

Main definitions:

* `HostFunction` — a function of the host program, known by name;
* `Expr` — the trees;
* `Expr.isNullTest`, `Expr.isNotNullTest`, `Expr.fields` — trees built from others;
* `Expr.asColumn?`, `Expr.items` — a tree as a column, or as a list of trees.
-/

import ModelSql.Error
import ModelSql.Value

set_option autoImplicit false

namespace ModelSql

/-- A function of the host program; it has no counterpart in a statement and is applied to values
only. -/
structure HostFunction where
  name : String
  apply : List Value → Except Error Value

/-- The trees.  A deferred value is the outcome of a computation of the host program. -/
inductive Expr
  | column (name : String)
  | value (v : Value)
  | deferred (outcome : Except Error Value)
  | binary (op : BinaryOp) (left right : Expr)
  | unary (op : UnaryOp) (operand : Expr)
  | convert (operand : Expr)
  | convertWith (f : HostFunction) (operand : Expr)
  | method (m : StringMethod) (target : Expr) (args : List Expr)
  | call (f : HostFunction) (args : List Expr)
  | inList (target values : Expr)
  | desc (operand : Expr)
  | named (operand : Expr) (name : String)
  | aggregate (f : Aggregate) (operand : Expr)
  | countAll
  | list (items : List Expr)

namespace Expr

instance : Inhabited Expr := ⟨countAll⟩

/-- The test that something is null. -/
def isNullTest (e : Expr) : Expr := binary .eq e (value .null)

/-- The test that something is not null. -/
def isNotNullTest (e : Expr) : Expr := binary .ne e (value .null)

/-- The list of the columns of some fields. -/
def fields (names : List String) : Expr := list (names.map column)

/-- The name of the field that the tree is. -/
def asColumn? : Expr → Option String
  | column name => some name
  | _ => none

/-- The items of a list; a tree that is no list is its only item. -/
def items : Expr → List Expr
  | list es => es
  | e => [e]

/-- Whether the tree is marked to be sorted in descending order. -/
def isDesc : Expr → Bool
  | desc _ => true
  | _ => false

end Expr

/-! ### Functions of the host -/

namespace HostFunction

/-- The first argument, or null. -/
def first : HostFunction := ⟨"first", fun args => .ok (args.head?.getD .null)⟩

/-- The number of arguments. -/
def count : HostFunction := ⟨"count", fun args => .ok (.int (Int64.ofNat args.length))⟩

/-- The list of the arguments. -/
def list : HostFunction := ⟨"list", fun args => .ok (.list args)⟩

/-- The text of the first argument, its characters in reverse order. -/
def reverse : HostFunction :=
  ⟨"reverse", fun args =>
    .ok (.text (String.ofList (((args.head?.map Value.toText).getD "").toList.reverse)))⟩

/-- A function that the host does not have; it fails with its name. -/
def missing (name : String) : HostFunction := ⟨name, fun _ => .error (.functionFailed name)⟩

/-- The function of a name. -/
def ofName (name : String) : HostFunction :=
  match name with
  | "first" => first
  | "count" => count
  | "list" => list
  | "reverse" => reverse
  | _ => missing name

end HostFunction

end ModelSql
