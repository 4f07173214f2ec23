/-
**Functions and infix operators.**

Main definitions:

* `Dialect.upper`, `Dialect.lower`, `Dialect.trim`, `Dialect.trimStart`, `Dialect.trimEnd`,
  `Dialect.substring` — functions of texts;
* `Dialect.modulo`, `Dialect.coalesce`, `Dialect.concat`, `Dialect.bitwise` — operators that
  databases write in different ways.
-/

import ModelSql.Dialect
import ModelSql.Operator

set_option autoImplicit false

namespace ModelSql.Dialect

/-! ### Functions -/

/-- A function applied to one argument. -/
def apply (function argument : String) : String := function ++ "(" ++ argument ++ ")"

/-- A text in upper case. -/
def upper (_ : Dialect) (sql : String) : String := apply "UPPER" sql

/-- A text in lower case. -/
def lower (_ : Dialect) (sql : String) : String := apply "LOWER" sql

/-- A text without blanks at its ends. -/
def trim (d : Dialect) (sql : String) : String :=
  match d.kind with
  | .sqlserver => apply "LTRIM" (apply "RTRIM" sql)
  | _ => apply "TRIM" sql

/-- A text without blanks at its start. -/
def trimStart (d : Dialect) (sql : String) : String :=
  match d.kind with
  | .firebird => "TRIM(LEADING FROM " ++ sql ++ ")"
  | _ => apply "LTRIM" sql

/-- A text without blanks at its end. -/
def trimEnd (d : Dialect) (sql : String) : String :=
  match d.kind with
  | .firebird => "TRIM(TRAILING FROM " ++ sql ++ ")"
  | _ => apply "RTRIM" sql

/-- The part of a text from a position on, counted from one, of a given length or to the end. -/
def substring (d : Dialect) (sql : String) (start : Int) (length : Option Int) : String :=
  match d.kind with
  | .firebird | .postgres =>
    "SUBSTRING(" ++ sql ++ " FROM " ++ toString start ++
      (match length with
        | some n => " FOR " ++ toString n
        | none => "") ++ ")"
  | _ =>
    (if d.kind = .sqlite then "SUBSTR(" else "SUBSTRING(") ++ sql ++ ", " ++ toString start ++
      (match length with
        | some n => ", " ++ toString n
        | none => if d.kind = .sqlserver then ", " ++ apply "LEN" sql else "") ++ ")"

/-! ### Operators -/

/-- A sign between two operands, in parentheses. -/
def infixText (left sign right : String) : String :=
  "(" ++ left ++ " " ++ sign ++ " " ++ right ++ ")"

/-- The remainder of a division. -/
def modulo (d : Dialect) (left right : String) : String :=
  match d.kind with
  | .sqlserver | .sqlite => infixText left "%" right
  | _ => "MOD(" ++ left ++ "," ++ right ++ ")"

/-- The first operand, or the second where the first is null. -/
def coalesce (_ : Dialect) (left right : String) : String :=
  "COALESCE(" ++ left ++ "," ++ right ++ ")"

/-- Two texts, one after the other. -/
def concat (d : Dialect) (left right : String) : String :=
  match d.kind with
  | .mysql => "CONCAT(" ++ left ++ ", " ++ right ++ ")"
  | .sqlserver => infixText left "+" right
  | _ => infixText left "||" right

/-- The name of the function that Firebird has for an operator on bits. -/
def bitFunction : BinaryOp → String
  | .bitAnd => "BIN_AND"
  | .bitOr => "BIN_OR"
  | .bitXor => "BIN_XOR"
  | .shl => "BIN_SHL"
  | _ => "BIN_SHR"

/-- An operator on bits.  PostgreSQL has a sign of its own for the exclusive or, SQLite none, and
SQL Server shifts by powers of two. -/
def bitwise (d : Dialect) (op : BinaryOp) (left right : String) : String :=
  match d.kind, op with
  | .firebird, op => bitFunction op ++ "(" ++ left ++ ", " ++ right ++ ")"
  | .postgres, .bitXor => infixText left "#" right
  | .sqlite, .bitXor => infixText (infixText left "|" right) "-" (infixText left "&" right)
  | .sqlserver, .shl => infixText left "*" ("POWER(2, " ++ right ++ ")")
  | .sqlserver, .shr => infixText left "/" ("POWER(2, " ++ right ++ ")")
  | _, op => infixText left op.sign right

end ModelSql.Dialect
