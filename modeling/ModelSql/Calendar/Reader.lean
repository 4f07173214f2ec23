/-
**Reading dates and times.**

The written form of a date is `year-month-day`, of a time `hour:minute:second` with an optional
fraction, of a date-time both with a `T` between.  Blanks may stand in front of a number and on
either side of a mark; the seconds of a time may be left out; the sixtieth second is a leap second.

Main definitions:

* `Calendar.Scan` — a step that reads from the front of a text;
* `Date.ofText?`, `TimeOfDay.ofText?`, `DateTime.ofText?` — **the three readers**.
-/

import ModelSql.Calendar
import ModelSql.Numeric.Power

set_option autoImplicit false

namespace ModelSql

namespace Calendar

/-- A step that reads something from the front of a text and leaves the rest. -/
abbrev Scan (α : Type) := List Char → Option (α × List Char)

/-- Reads a mark, with blanks around it. -/
def readMark (c : Char) (cs : List Char) : Option (List Char) :=
  match Text.dropBlanks cs with
  | d :: rest => if d = c then some rest else none
  | [] => none

/-- Reads at least one and at most `width` digits. -/
def readDigits (width : Nat) : Scan Nat := fun cs =>
  let ds := (cs.takeWhile Char.isDigit).take width
  if ds.isEmpty then none else some (Text.natOfDigits ds, cs.drop ds.length)

/-- Reads a number of at most `width` digits within bounds, after blanks. -/
def readNumber (width low high : Nat) : Scan Nat := fun cs =>
  (readDigits width (Text.dropBlanks cs)).bind fun r =>
    if low ≤ r.1 ∧ r.1 ≤ high then some r else none

/-- Reads a year: four digits at most, or a sign and any number of digits. -/
def readYear : Scan Int := fun cs =>
  match Text.dropBlanks cs with
  | '-' :: rest => (readDigits rest.length rest).map fun r => (-(r.1 : Int), r.2)
  | '+' :: rest => (readDigits rest.length rest).map fun r => ((r.1 : Int), r.2)
  | rest => (readDigits 4 rest).map fun r => ((r.1 : Int), r.2)

/-- Reads `year-month-day`. -/
def readDate : Scan Date := fun cs =>
  (readYear cs).bind fun y =>
    (readMark '-' y.2).bind fun rest => (readNumber 2 1 12 rest).bind fun m =>
      (readMark '-' m.2).bind fun rest => (readNumber 2 1 31 rest).bind fun d =>
        (Date.ofParts? y.1 m.1 d.1).map (·, d.2)

/-- Reads an optional fraction of a second, in nanoseconds; places after the ninth are skipped. -/
def readFraction : Scan Nat := fun cs =>
  match cs with
  | '.' :: rest =>
    let ds := rest.takeWhile Char.isDigit
    if ds.isEmpty then none
    else
      let kept := ds.take 9
      some (Text.natOfDigits kept * Numeric.tenTo (9 - kept.length), rest.drop ds.length)
  | _ => some (0, cs)

/-- Reads `hour:minute`. -/
def readHourAndMinute : Scan (Nat × Nat) := fun cs =>
  (readNumber 2 0 23 cs).bind fun h =>
    (readMark ':' h.2).bind fun rest => (readNumber 2 0 59 rest).map fun m => ((h.1, m.1), m.2)

/-- Reads `:second` with an optional fraction, as second and nanoseconds. -/
def readSecondAndFraction : Scan (Nat × Nat) := fun cs =>
  (readMark ':' cs).bind fun rest => (readNumber 2 0 60 rest).bind fun s =>
    (readFraction s.2).map fun f =>
      (if s.1 = 60 then (59, f.1 + 1000000000) else (s.1, f.1), f.2)

/-- The result of a step that leaves blanks only. -/
def complete {α : Type} (r : Option (α × List Char)) : Option α :=
  r.bind fun p => if p.2.all Text.isBlank then some p.1 else none

end Calendar

open Calendar

/-- The date that a text spells. -/
def Date.ofText? (s : String) : Option Date := complete (readDate s.toList)

/-- The time that a text spells. -/
def TimeOfDay.ofText? (s : String) : Option TimeOfDay :=
  complete <| (readHourAndMinute s.toList).bind fun hm =>
    match readSecondAndFraction hm.2 with
    | some sf => (TimeOfDay.ofParts? hm.1.1 hm.1.2 sf.1.1 sf.1.2).map (·, sf.2)
    | none => (TimeOfDay.ofParts? hm.1.1 hm.1.2 0 0).map (·, hm.2)

/-- The date-time that a text spells. -/
def DateTime.ofText? (s : String) : Option DateTime :=
  complete <| (readDate s.toList).bind fun d =>
    (readMark 'T' d.2).bind fun rest => (readHourAndMinute rest).bind fun hm =>
      (readSecondAndFraction hm.2).bind fun sf =>
        (TimeOfDay.ofParts? hm.1.1 hm.1.2 sf.1.1 sf.1.2).map fun t => (⟨d.1, t⟩, sf.2)

end ModelSql
