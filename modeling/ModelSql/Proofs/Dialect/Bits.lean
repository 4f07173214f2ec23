/-
**Operators on bits, as databases compute them.**

SQLite has no exclusive or and is given a difference, and SQL Server has no shifts and is given a product
and a quotient with a power of two.  The difference never needs more than 64 bits and is the exclusive or of
integers.  The product is the shift to the left as long as it has 64 bits.  The quotient is cut off toward
zero, while a shift to the right rounds down: they differ for every negative integer that the power does
not divide.

Main definitions:

* `Arithmetic.sqlite` — words of 64 bits with a checked difference;
* `Arithmetic.exact` — integers of any size, with division cut off toward zero.

Main results:

* `Dialect.computes_bitXor` — **what SQLite computes is the exclusive or**;
* `Dialect.shifts_computed` — **what SQL Server computes for shifts**, and when it is the shift;
* `Dialect.shift_rounds` — a shift that SQL Server computes otherwise.
-/

import ModelSql.Proofs.Syntax.Arithmetic
import ModelSql.Proofs.Value.Bits

set_option relaxedAutoImplicit false
set_option autoImplicit false

namespace ModelSql

/-! ### What databases make of operands -/

namespace Arithmetic

/-- **Words of 64 bits**, as SQLite has them: a difference that needs more bits is no integer. -/
def sqlite : Arithmetic Int64 where
  ofInt := id
  infixed
    | .sign ['|'], a, b => some (a ||| b)
    | .sign ['&'], a, b => some (a &&& b)
    | .sign ['-'], a, b => Value.int64? (a.toInt - b.toInt)
    | _, _, _ => none
  function _ _ _ := none

/-- **Integers of any size**: a quotient is cut off toward zero, and powers are whole numbers. -/
def exact : Arithmetic Int where
  ofInt := Int64.toInt
  infixed
    | .sign ['*'], a, b => some (a * b)
    | .sign ['/'], a, b => if b = 0 then none else some (a.tdiv b)
    | _, _, _ => none
  function f a b := if f = "POWER".toList ∧ 0 ≤ b then some (a ^ b.toNat) else none

end Arithmetic

namespace Dialect

variable {d : Dialect} {row : Tree → Option Int64} {l r : String} {a b : Int64} {n : Nat}

/-! ### The exclusive or -/

/-- **What SQLite computes is the exclusive or**, as it is computed on values: the or, the and, and their
difference, which has 64 bits. -/
theorem computes_bitXor (hd : d.kind = .sqlite) (hl : d.Computes .sqlite row l a)
    (hr : d.Computes .sqlite row r b) :
    d.Computes .sqlite row (d.bitwise .bitXor l r) (a ^^^ b) ∧
      (a ||| b).toInt - (a &&& b).toInt = (a ^^^ b).toInt ∧
      Value.binary .bitXor (.int a) (.int b) = .ok (.int (a ^^^ b)) := by
  have htext : d.bitwise .bitXor l r = infixText (infixText l "|" r) "-" (infixText l "&" r) := by
    simp only [bitwise, hd]
  have hor : d.Computes .sqlite row (infixText l "|" r) (a ||| b) :=
    .infixText (k := 1) (fun _ _ => rfl) (by decide) (by decide) hl hr rfl
  have hand : d.Computes .sqlite row (infixText l "&" r) (a &&& b) :=
    .infixText (k := 1) (fun _ _ => rfl) (by decide) (by decide) hl hr rfl
  have hdifference := Value.toInt_or_sub_and a b
  refine ⟨?_, hdifference, rfl⟩
  rw [htext]
  exact .infixText (k := 2) (fun _ _ => rfl) (by decide) (by decide) hor hand
    (Value.int64?_eq_some_iff.2 hdifference)

example : DialectKind.sqlite.dialect.bitwise .bitXor "a" "b" = "((a | b) - (a & b))" := by decide

/-- The least integer, bound to a placeholder, and minus one: the exclusive or of the two is the largest
integer. -/
theorem computes_bitXor_least :
    let d := DialectKind.sqlite.dialect
    let row : Tree → Option Int64 := fun x =>
      if x = .leaf (d.parameterToken 1) then some Int64.minValue else none
    d.Computes .sqlite row (d.placeholder 1) Int64.minValue ∧ d.Computes .sqlite row "-1" (-1) ∧
      d.value? .sqlite row (d.bitwise .bitXor (d.placeholder 1) "-1") = some Int64.maxValue ∧
      Value.binary .bitXor (.int Int64.minValue) (.int (-1)) = .ok (.int Int64.maxValue) := by
  intro d row
  have hleast : d.Computes .sqlite row (d.placeholder 1) Int64.minValue :=
    computes_placeholder (if_pos rfl)
  have hone : d.Computes .sqlite row "-1" (-1) := computes_int (A := .sqlite) (-1)
  obtain ⟨hcomputes, -, hvalue⟩ := computes_bitXor rfl hleast hone
  exact ⟨hleast, hone, hcomputes.value?_eq, hvalue⟩

/-! ### Shifts -/

/-- A power of two, as SQL Server is given it. -/
theorem computes_power (hr : d.Computes .exact row r b.toInt) (hb : b.toInt = n) :
    d.Computes .exact row ("POWER(2, " ++ r ++ ")") (2 ^ n) := by
  have htwo : d.Computes .exact row "2" 2 := computes_int (A := .exact) 2
  have htext : "POWER(2, " = "POWER" ++ ("(" ++ ("2" ++ ", ")) := by decide
  have hpower : Arithmetic.exact.function "POWER".toList 2 b.toInt = some (2 ^ n) := by
    have hnonneg : "POWER".toList = "POWER".toList ∧ 0 ≤ b.toInt := ⟨rfl, by omega⟩
    have hamount : b.toInt.toNat = n := by omega
    rw [← hamount]
    exact if_pos hnonneg
  have happly := Computes.apply (by decide) htwo hr hpower
  simpa only [htext, String.append_assoc] using happly

/-- **A shift to the left is a product for SQL Server.** -/
theorem computes_shl (hd : d.kind = .sqlserver) (hl : d.Computes .exact row l a.toInt)
    (hr : d.Computes .exact row r b.toInt) (hb : b.toInt = n) :
    d.Computes .exact row (d.bitwise .shl l r) (a.toInt * 2 ^ n) := by
  have htext : d.bitwise .shl l r = infixText l "*" ("POWER(2, " ++ r ++ ")") := by
    simp only [bitwise, hd]
  rw [htext]
  exact .infixText (k := 3) (fun _ _ => rfl) (by decide) (by decide) hl (computes_power hr hb) rfl

/-- **A shift to the right is a quotient for SQL Server**, which is cut off toward zero. -/
theorem computes_shr (hd : d.kind = .sqlserver) (hl : d.Computes .exact row l a.toInt)
    (hr : d.Computes .exact row r b.toInt) (hb : b.toInt = n) :
    d.Computes .exact row (d.bitwise .shr l r) (a.toInt.tdiv (2 ^ n)) := by
  have htext : d.bitwise .shr l r = infixText l "/" ("POWER(2, " ++ r ++ ")") := by
    simp only [bitwise, hd]
  have hpos : (0 : Int) < 2 ^ n := Int.pow_pos (by decide)
  rw [htext]
  exact .infixText (k := 3) (fun _ _ => rfl) (by decide) (by decide) hl (computes_power hr hb)
    (if_neg (by omega))

/-- **What SQL Server computes for shifts, and when it is the shift of values**: the product is as long as it
has 64 bits, and the quotient is unless it cuts off places of a negative integer. -/
theorem shifts_computed (hd : d.kind = .sqlserver) (hl : d.Computes .exact row l a.toInt)
    (hr : d.Computes .exact row r b.toInt) (hb : b.toInt = n) (hn : n ≤ 62) :
    (d.Computes .exact row (d.bitwise .shl l r) (a.toInt * 2 ^ n) ∧
      ∃ k : Int64, Value.binary .shl (.int a) (.int b) = .ok (.int k) ∧
        (k.toInt = a.toInt * 2 ^ n ↔ -2 ^ 63 ≤ a.toInt * 2 ^ n ∧ a.toInt * 2 ^ n < 2 ^ 63)) ∧
    (d.Computes .exact row (d.bitwise .shr l r) (a.toInt.tdiv (2 ^ n)) ∧
      ∃ k : Int64, Value.binary .shr (.int a) (.int b) = .ok (.int k) ∧
        k.toInt = a.toInt / 2 ^ n ∧
        (k.toInt = a.toInt.tdiv (2 ^ n) ↔ 0 ≤ a.toInt ∨ (2 ^ n : Int) ∣ a.toInt)) := by
  have hwidth : n < 64 := by omega
  constructor
  · exact ⟨computes_shl hd hl hr hb, a <<< b, Value.binary_shl hb hwidth,
      Value.toInt_shiftLeft_eq_iff hb hwidth⟩
  · exact ⟨computes_shr hd hl hr hb, a >>> b, Value.binary_shr hb hwidth,
      Value.toInt_shiftRight hb hwidth, Value.toInt_shiftRight_eq_iff hb hwidth⟩

example : DialectKind.sqlserver.dialect.bitwise .shr "a" "b" = "(a / POWER(2, b))" := by decide

/-- Minus eight, bound to a placeholder, and three: the product has 64 bits, and the power divides it. -/
theorem shifts_computed_eight :
    let d := DialectKind.sqlserver.dialect
    let row : Tree → Option Int64 := fun x =>
      if x = .leaf (d.parameterToken 1) then some (-8) else none
    d.Computes .exact row (d.placeholder 1) (-8) ∧ d.Computes .exact row "3" 3 ∧
      d.value? .exact row (d.bitwise .shl (d.placeholder 1) "3") = some (-64) ∧
      d.value? .exact row (d.bitwise .shr (d.placeholder 1) "3") = some (-1) := by
  intro d row
  have height : d.Computes .exact row (d.placeholder 1) (-8 : Int64).toInt :=
    computes_placeholder (A := .exact) (n := -8) (if_pos rfl)
  have hthree : d.Computes .exact row "3" (3 : Int64).toInt := computes_int (A := .exact) 3
  obtain ⟨⟨hshl, -⟩, hshr, -⟩ := shifts_computed (n := 3) rfl height hthree rfl (by decide)
  exact ⟨height, hthree, hshl.value?_eq, hshr.value?_eq⟩

/-- **A shift that SQL Server computes otherwise**: minus one by one is zero for SQL Server and minus one as a
value, though the product of minus one and two has 64 bits. -/
theorem shift_rounds :
    let d := DialectKind.sqlserver.dialect
    d.value? .exact (fun _ => none) (d.bitwise .shr "-1" "1") = some 0 ∧
      Value.binary .shr (.int (-1)) (.int 1) = .ok (.int (-1)) ∧
      -2 ^ 63 ≤ (-1 : Int) * 2 ^ 1 ∧ (-1 : Int) * 2 ^ 1 < 2 ^ 63 := by
  intro d
  have hminus : d.Computes .exact (fun _ => none) "-1" (-1 : Int64).toInt :=
    computes_int (A := .exact) (-1)
  have hone : d.Computes .exact (fun _ => none) "1" (1 : Int64).toInt := computes_int (A := .exact) 1
  have hshr := computes_shr (n := 1) rfl hminus hone rfl
  exact ⟨hshr.value?_eq, by rfl, by decide, by decide⟩

end Dialect

end ModelSql
