/-
**Operators, methods and aggregates.**

The names that expressions are built with: binary and unary operators, methods of texts, and
aggregate functions, with the name of each and its sign in a statement.

Main definitions:

* `BinaryOp`, `UnaryOp`, `StringMethod`, `Aggregate` — the names;
* `BinaryOp.sign` — the sign that stands between two operands;
* `BinaryOp.isLogical`, `BinaryOp.isBitwise` — two classes of operators.
-/

set_option autoImplicit false

namespace ModelSql

/-! ### Operators -/

/-- Operators of two operands. -/
inductive BinaryOp
  | and | or
  | eq | ne | gt | ge | lt | le
  | add | sub | mul | div | mod
  | coalesce
  | bitAnd | bitOr | bitXor | shl | shr
  deriving DecidableEq, Repr

namespace BinaryOp

/-- All binary operators. -/
def all : List BinaryOp :=
  [and, or, eq, ne, gt, ge, lt, le, add, sub, mul, div, mod, coalesce, bitAnd, bitOr, bitXor, shl,
    shr]

/-- The name of an operator. -/
def name : BinaryOp → String
  | and => "And" | or => "Or"
  | eq => "Eq" | ne => "Ne" | gt => "Gt" | ge => "Ge" | lt => "Lt" | le => "Le"
  | add => "Add" | sub => "Sub" | mul => "Mul" | div => "Div" | mod => "Mod"
  | coalesce => "Coalesce"
  | bitAnd => "BitAnd" | bitOr => "BitOr" | bitXor => "BitXor" | shl => "Shl" | shr => "Shr"

/-- The operator of a name. -/
def ofName? (s : String) : Option BinaryOp := all.find? (·.name == s)

/-- The sign between two operands in a statement. -/
def sign : BinaryOp → String
  | and => "AND" | or => "OR"
  | eq => "=" | ne => "<>" | gt => ">" | ge => ">=" | lt => "<" | le => "<="
  | add => "+" | sub => "-" | mul => "*" | div => "/" | mod => "%"
  | coalesce => "COALESCE"
  | bitAnd => "&" | bitOr => "|" | bitXor => "^" | shl => "<<" | shr => ">>"

/-- Whether the operands are conditions. -/
def isLogical : BinaryOp → Bool
  | and | or => true
  | _ => false

/-- Whether the operator works on the bits of integers. -/
def isBitwise : BinaryOp → Bool
  | bitAnd | bitOr | bitXor | shl | shr => true
  | _ => false

end BinaryOp

/-- Operators of one operand. -/
inductive UnaryOp
  | not | neg
  deriving DecidableEq, Repr

/-- The name of an operator. -/
def UnaryOp.name : UnaryOp → String
  | .not => "Not"
  | .neg => "Neg"

/-! ### Methods and aggregates -/

/-- Methods of texts that have a counterpart in a statement. -/
inductive StringMethod
  | trim | trimStart | trimEnd | toUpper | toLower
  | startsWith | endsWith | contains
  | substring
  deriving DecidableEq, Repr

namespace StringMethod

/-- All methods. -/
def all : List StringMethod :=
  [trim, trimStart, trimEnd, toUpper, toLower, startsWith, endsWith, contains, substring]

/-- The name of a method. -/
def name : StringMethod → String
  | trim => "Trim" | trimStart => "TrimStart" | trimEnd => "TrimEnd"
  | toUpper => "ToUpper" | toLower => "ToLower"
  | startsWith => "StartsWith" | endsWith => "EndsWith" | contains => "Contains"
  | substring => "Substring"

/-- The method of a name. -/
def ofName? (s : String) : Option StringMethod := all.find? (·.name == s)

end StringMethod

/-- Aggregate functions. -/
inductive Aggregate
  | sum | count | min | max | avg
  deriving DecidableEq, Repr

/-- The name of an aggregate function in a statement. -/
def Aggregate.sql : Aggregate → String
  | .sum => "SUM" | .count => "COUNT" | .min => "MIN" | .max => "MAX" | .avg => "AVG"

end ModelSql
