/-
**Operators on values.**

A part of an expression without columns is computed here.  Integers have 64 bits, and a result
that does not fit is an error, never another number; a decimal on one side makes both sides
decimals; an integer beside a float becomes a float; a text takes any value on its right.

Main definitions:

* `Value.arithmetic`, `Value.bitwise` — the two families of operators on numbers;
* `Value.binary`, `Value.unary` — **the operators on values**.
-/

import ModelSql.Error
import ModelSql.Numeric.Decimal.Arithmetic
import ModelSql.Value.Compare

set_option autoImplicit false

namespace ModelSql.Value

/-! ### Numbers -/

/-- The operators of arithmetic on integers; `none` where the result does not fit.  Quotients are
truncated toward zero. -/
def intArithmetic (op : BinaryOp) (a b : Int) : Option Int64 :=
  match op with
  | .add => int64? (a + b)
  | .sub => int64? (a - b)
  | .mul => int64? (a * b)
  | .div => int64? (a.tdiv b)
  | _ => if b = -1 ∧ a = Int64.minValue.toInt then none else int64? (a.tmod b)

/-- The operators of arithmetic on decimals. -/
def decimalArithmetic (op : BinaryOp) (a b : Numeric.Decimal) : Option Numeric.Decimal :=
  match op with
  | .add => a.add b
  | .sub => a.sub b
  | .mul => a.mul b
  | .div => a.div b
  | _ => a.rem b

/-- The operators of arithmetic on floats. -/
def floatArithmetic (op : BinaryOp) (a b : Float) : Float :=
  match op with
  | .add => a + b
  | .sub => a - b
  | .mul => a * b
  | .div => a / b
  | _ => Numeric.remainder a b

/-- The error of a division whose divisor is zero, if the operator divides. -/
def zeroDivision : BinaryOp → Option Error
  | .div => some .divisionByZero
  | .mod => some .remainderByZero
  | _ => none

/-- The result of an operator, unless it divides by zero or the result does not fit. -/
def guarded {α : Type} (op : BinaryOp) (divisorIsZero : Bool) (overflow : Error)
    (result : Option α) : Except Error α :=
  match (if divisorIsZero then zeroDivision op else none), result with
  | some e, _ => .error e
  | none, some r => .ok r
  | none, none => .error overflow

/-- The decimal of a number. -/
def toDecimal? : Value → Option Numeric.Decimal
  | decimal d => some d
  | int n => some (.ofInt64 n)
  | float f => Numeric.Decimal.ofFloat? f
  | _ => none

/-- The operators of arithmetic where one side is a decimal. -/
def decimalSides (op : BinaryOp) (a b : Value) : Except Error Value :=
  match a.toDecimal?, b.toDecimal? with
  | some x, some y =>
    (guarded op y.isZero (.decimalOverflow op) (decimalArithmetic op x y)).map decimal
  | _, _ => .error (.mismatch op a.kind b.kind)

/-- **The operators of arithmetic.** -/
def arithmetic (op : BinaryOp) (a b : Value) : Except Error Value :=
  match a, b with
  | null, _ => .ok null
  | _, null => .ok null
  | int x, int y =>
    (guarded op (y == 0) (.integerOverflow op) (intArithmetic op x.toInt y.toInt)).map int
  | decimal _, _ => decimalSides op a b
  | _, decimal _ => decimalSides op a b
  | int x, float y => .ok (float (floatArithmetic op (Numeric.ofInt x.toInt) y))
  | float x, int y => .ok (float (floatArithmetic op x (Numeric.ofInt y.toInt)))
  | float x, float y => .ok (float (floatArithmetic op x y))
  | text s, other =>
    if op = .add then .ok (text (s ++ other.toText)) else .error (.mismatch op a.kind b.kind)
  | _, _ => .error (.mismatch op a.kind b.kind)

/-- **The operators on bits**; a shift by a negative amount or by more than the width is an
error. -/
def bitwise (op : BinaryOp) (a b : Value) : Except Error Value :=
  match a, b with
  | int x, int y =>
    match op with
    | .bitAnd => .ok (int (x &&& y))
    | .bitOr => .ok (int (x ||| y))
    | .bitXor => .ok (int (x ^^^ y))
    | .shl =>
      if 0 ≤ y.toInt ∧ y.toInt < 64 then .ok (int (x <<< y)) else .error (.shiftOutOfRange y.toInt)
    | _ =>
      if 0 ≤ y.toInt ∧ y.toInt < 64 then .ok (int (x >>> y)) else .error (.shiftOutOfRange y.toInt)
  | _, _ => .error (.mismatch op a.kind b.kind)

/-! ### All operators -/

/-- Whether an order satisfies a comparison. -/
def holds : BinaryOp → Ordering → Bool
  | .gt, o => o == .gt
  | .ge, o => o != .lt
  | .lt, o => o == .lt
  | _, o => o != .gt

/-- **The value of `a op b`.** -/
def binary (op : BinaryOp) (a b : Value) : Except Error Value :=
  match op with
  | .and | .or =>
    match a.toBool?, b.toBool? with
    | some x, some y => .ok (bool (if op = .and then x && y else x || y))
    | _, _ => .error (.mismatch op a.kind b.kind)
  | .eq => .ok (bool (a.looseEq b))
  | .ne => .ok (bool (!a.looseEq b))
  | .gt | .ge | .lt | .le =>
    match a.compare b with
    | some o => .ok (bool (holds op o))
    | none => .error (.mismatch op a.kind b.kind)
  | .coalesce => .ok (if a.isNull then b else a)
  | .add | .sub | .mul | .div | .mod => arithmetic op a b
  | .bitAnd | .bitOr | .bitXor | .shl | .shr => bitwise op a b

/-- **The value of an operator with one operand.** -/
def unary (op : UnaryOp) (a : Value) : Except Error Value :=
  match op, a with
  | .not, bool b => .ok (bool (!b))
  | .not, int n => .ok (int (~~~n))
  | .neg, int n =>
    match int64? (-n.toInt) with
    | some r => .ok (int r)
    | none => .error .negationOverflow
  | .neg, float f => .ok (float (-f))
  | .neg, decimal d => .ok (decimal d.neg)
  | _, null => .ok null
  | op, a => .error (.unaryMismatch op a.kind)

end ModelSql.Value
