/-
**Reading JSON.**

A reader of one JSON document into a tree.  An integer of 64 bits stays an integer; any other
number becomes a float: the leading digits that fit 64 bits, times or over a power of ten.  What
nests too deeply, a number out of range and a lone surrogate are well-formed and unreadable.

Main definitions:

* `Json.readNumber`, `Json.readText`, `Json.readValue` — the parts of a document;
* `Json.read?` — **the tree of a document**.
-/

import ModelSql.Document.Datum

set_option autoImplicit false

namespace ModelSql.Json

/-- A step that reads something from the front of a text and leaves the rest. -/
abbrev Step (α : Type) := List Char → Option (α × List Char)

/-- Whether the character may stand between tokens. -/
def isSpace (c : Char) : Bool := c == ' ' || c == '\t' || c == '\n' || c == '\r'

/-- The text from the next token on. -/
def skip (cs : List Char) : List Char := cs.dropWhile isSpace

/-! ### Numbers -/

/-- The digits of a numeral that fit 64 bits, the power of ten they stand for, and whether digits
were dropped. -/
structure Significand where
  digits : Nat
  exponent : Int
  full : Bool

/-- Takes up a digit in front of the point; the first one that does not fit, and all that follow,
only count. -/
def Significand.pushWhole (s : Significand) (d : Nat) : Significand :=
  if s.full || Numeric.twoTo 64 ≤ 10 * s.digits + d then
    { s with exponent := s.exponent + 1, full := true }
  else { s with digits := 10 * s.digits + d }

/-- Takes up a digit after the point; the first one that does not fit, and all that follow, are
dropped. -/
def Significand.pushPlace (s : Significand) (d : Nat) : Significand :=
  if s.full || Numeric.twoTo 64 ≤ 10 * s.digits + d then { s with full := true }
  else { s with digits := 10 * s.digits + d, exponent := s.exponent - 1 }

/-- The value of a digit. -/
def digitValue (c : Char) : Nat := c.toNat - 48

/-- A power of ten as a float. -/
def powerOfTen (n : Nat) : Float := (Numeric.ofScaled Numeric.double false 1 n).toFloat

/-- Divides by powers of ten, at most 308 places at a time. -/
def divideByTens : Nat → Float → Nat → Float
  | 0, f, _ => f
  | fuel + 1, f, places =>
    if places ≤ 308 then f / powerOfTen places
    else if f == 0 then f
    else divideByTens fuel (f / powerOfTen 308) (places - 308)

/-- The float of a significand and a power of ten; none beyond the range. -/
def scaled (digits : Nat) (exponent : Int) : Option Float :=
  let f := Numeric.ofNat digits
  if exponent < 0 then some (divideByTens 10 f (min exponent.natAbs 2000))
  else if exponent ≤ 308 then
    let r := f * powerOfTen exponent.toNat
    if r.isInf then none else some r
  else if f == 0 then some f
  else none

/-- The number of a numeral's parts. -/
def makeFloat (negative : Bool) (digits : Nat) (exponent : Int) : Datum :=
  match scaled digits exponent with
  | some f => .float (if negative then -f else f)
  | none => .unreadable

/-- The number without a fraction and without an exponent. -/
def makeWhole (negative : Bool) (s : Significand) : Datum :=
  if s.full then makeFloat negative s.digits s.exponent
  else if negative then
    if s.digits = 0 ∨ Numeric.twoTo 63 < s.digits then .float (-Numeric.ofNat s.digits)
    else .integer (-(s.digits : Int))
  else .integer s.digits

/-- Reads an optional exponent. -/
def readExponent (negative : Bool) (s : Significand) (whole : Bool) : Step Datum := fun cs =>
  match cs with
  | c :: rest =>
    if c = 'e' ∨ c = 'E' then
      let signed := match rest with
        | '+' :: r => (false, r)
        | '-' :: r => (true, r)
        | r => (false, r)
      let ds := signed.2.takeWhile Char.isDigit
      if ds.isEmpty then none
      else
        let e : Int := Text.natOfDigits ds
        some (makeFloat negative s.digits (if signed.1 then s.exponent - e else s.exponent + e),
          signed.2.drop ds.length)
    else some (if whole then makeWhole negative s else makeFloat negative s.digits s.exponent, cs)
  | [] => some (if whole then makeWhole negative s else makeFloat negative s.digits s.exponent, [])

/-- Reads a number without its sign. -/
def readMagnitude (negative : Bool) : Step Datum := fun cs =>
  let ds := cs.takeWhile Char.isDigit
  let rest := cs.drop ds.length
  if ds.isEmpty ∨ (ds.head? = some '0' ∧ 1 < ds.length) then none
  else
    let s := ds.foldl (fun s c => s.pushWhole (digitValue c)) ⟨0, 0, false⟩
    match rest with
    | '.' :: rest =>
      let ps := rest.takeWhile Char.isDigit
      if ps.isEmpty then none
      else
        let t := ps.foldl (fun t c => t.pushPlace (digitValue c)) { s with full := false }
        readExponent negative t false (rest.drop ps.length)
    | _ => readExponent negative s true rest

/-- Reads a number. -/
def readNumber : Step Datum := fun cs =>
  match cs with
  | '-' :: rest => readMagnitude true rest
  | _ => readMagnitude false cs

/-! ### Texts -/

/-- The number that four digits of base 16 spell. -/
def readUnit : Step Nat := fun cs =>
  match cs with
  | a :: b :: c :: d :: rest => do
    let a ← Text.hexValue? a
    let b ← Text.hexValue? b
    let c ← Text.hexValue? c
    let d ← Text.hexValue? d
    some (((16 * a + b) * 16 + c) * 16 + d, rest)
  | _ => none

/-- The characters that may follow a backslash alone. -/
def simpleEscape? (c : Char) : Option Char :=
  match c with
  | '"' => some '"' | '\\' => some '\\' | '/' => some '/'
  | 'b' => some '\x08' | 'f' => some '\x0c' | 'n' => some '\n' | 'r' => some '\r' | 't' => some '\t'
  | _ => none

/-- Reads a text up to its closing quote; `sound` as long as no surrogate stands alone. -/
def readTextFrom : Nat → Bool → List Char → Step (Option (List Char))
  | 0, _, _, _ => none
  | fuel + 1, sound, done, cs =>
    match cs with
    | '"' :: rest => some (if sound then some done.reverse else none, rest)
    | '\\' :: 'u' :: rest =>
      match readUnit rest with
      | none => none
      | some (u, rest) =>
        if 0xD800 ≤ u ∧ u < 0xDC00 then
          match rest with
          | '\\' :: 'u' :: rest' =>
            match readUnit rest' with
            | some (v, rest') =>
              if 0xDC00 ≤ v ∧ v < 0xE000 then
                readTextFrom fuel sound
                  (Char.ofNat (0x10000 + (u - 0xD800) * 0x400 + (v - 0xDC00)) :: done) rest'
              else readTextFrom fuel false done rest
            | none => none
          | _ => readTextFrom fuel false done rest
        else if 0xDC00 ≤ u ∧ u < 0xE000 then readTextFrom fuel false done rest
        else readTextFrom fuel sound (Char.ofNat u :: done) rest
    | '\\' :: c :: rest =>
      match simpleEscape? c with
      | some d => readTextFrom fuel sound (d :: done) rest
      | none => none
    | c :: rest => if c.toNat < 32 then none else readTextFrom fuel sound (c :: done) rest
    | [] => none

/-- Reads a text after its opening quote; none for a text with a lone surrogate. -/
def readText : Step (Option String) := fun cs =>
  (readTextFrom (cs.length + 1) true [] cs).map fun r => (r.1.map String.ofList, r.2)

/-! ### Documents -/

/-- Reads a fixed word. -/
def readWord (word : String) (d : Datum) : Step Datum := fun cs =>
  if word.toList.isPrefixOf cs then some (d, cs.drop word.length) else none

/-- The entries under names that could be read, or nothing readable. -/
def makeTable (entries : List (Option String × Datum)) : Datum :=
  match entries.mapM fun e => e.1.map (·, e.2) with
  | some es => .table es
  | none => .unreadable

mutual

/-- Reads a value that stands inside `depth` lists and tables; at most `limit` may stand around a
scalar. -/
def readValue (limit : Nat) : Nat → Nat → Step Datum
  | 0, _, _ => none
  | fuel + 1, depth, cs =>
    match skip cs with
    | '"' :: rest => (readText rest).map fun r => (r.1.elim .unreadable .text, r.2)
    | '[' :: rest =>
      let items : Option (List Datum × List Char) := match skip rest with
        | ']' :: rest => some ([], rest)
        | rest => readItems limit fuel (depth + 1) rest
      items.map fun r => (if depth + 1 < limit then .list r.1 else .unreadable, r.2)
    | '\x7b' :: rest =>
      let entries : Option (List (Option String × Datum) × List Char) := match skip rest with
        | '\x7d' :: rest => some ([], rest)
        | rest => readEntries limit fuel (depth + 1) rest
      entries.map fun r => (if depth + 1 < limit then makeTable r.1 else .unreadable, r.2)
    | 't' :: rest => readWord "rue" (.bool true) rest
    | 'f' :: rest => readWord "alse" (.bool false) rest
    | 'n' :: rest => readWord "ull" .null rest
    | rest => readNumber rest

/-- Reads the items of a list and its closing bracket. -/
def readItems (limit : Nat) : Nat → Nat → Step (List Datum)
  | 0, _, _ => none
  | fuel + 1, depth, cs =>
    (readValue limit fuel depth cs).bind fun r =>
      match skip r.2 with
      | ',' :: rest => (readItems limit fuel depth rest).map fun s => (r.1 :: s.1, s.2)
      | ']' :: rest => some ([r.1], rest)
      | _ => none

/-- Reads the entries of a table and its closing brace. -/
def readEntries (limit : Nat) : Nat → Nat → Step (List (Option String × Datum))
  | 0, _, _ => none
  | fuel + 1, depth, cs =>
    match skip cs with
    | '"' :: rest =>
      (readText rest).bind fun k =>
        match skip k.2 with
        | ':' :: rest =>
          (readValue limit fuel depth rest).bind fun r =>
            match skip r.2 with
            | ',' :: rest =>
              (readEntries limit fuel depth rest).map fun s => ((k.1, r.1) :: s.1, s.2)
            | '\x7d' :: rest => some ([(k.1, r.1)], rest)
            | _ => none
        | _ => none
    | _ => none

end

/-- **The tree of a document**; lists and tables may nest up to the limit. -/
def read? (limit : Nat) (s : String) : Option Datum :=
  (readValue limit (2 * s.length + 4) 0 s.toList).bind fun r =>
    if (skip r.2).isEmpty then some r.1 else none

/-- The depth up to which documents are read. -/
def depthLimit : Nat := 128

end ModelSql.Json
