/-
**Scalars of TOML.**

A scalar without quotes is a word: a truth value, an integer, a float or a moment of time.  The
words of each kind are told apart by their shape.  An integer of at most 64 bits and a truth value
are data; floats, moments and larger integers are well-formed and unreadable; any other word is
refused.

Main definitions:

* `Toml.integer?`, `Toml.isFloat`, `Toml.isMoment` — the three shapes;
* `Toml.scalar?` — **what a word stands for**.
-/

import ModelSql.Calendar
import ModelSql.Document.Datum

set_option autoImplicit false

namespace ModelSql.Toml

/-! ### Digits -/

/-- The digits of a numeral, underscores between digits left out. -/
def plainDigits (isDigit : Char → Bool) : Bool → List Char → Option (List Char)
  | after, [] => if after then some [] else none
  | after, c :: cs =>
    if isDigit c then (plainDigits isDigit true cs).map (c :: ·)
    else if c = '_' ∧ after then
      match cs with
      | d :: _ => if isDigit d then plainDigits isDigit false cs else none
      | [] => none
    else none

/-- Whether the characters are digits of base ten with underscores between digits. -/
def areDigits (cs : List Char) : Bool := (plainDigits Char.isDigit false cs).isSome

/-- The word without a sign in front. -/
def unsigned : List Char → List Char
  | '+' :: cs => cs
  | '-' :: cs => cs
  | cs => cs

/-! ### Integers -/

/-- The number that digits of a base spell. -/
def numberOf (base : Nat) (digits : List Char) : Option Nat :=
  (digits.mapM Text.hexValue?).bind fun ds =>
    if ds.all (· < base) then some (ds.foldl (fun n d => base * n + d) 0) else none

/-- The integer that a word spells in base ten; a leading zero stands alone. -/
def decimal? (cs : List Char) : Option Nat :=
  (plainDigits Char.isDigit false cs).bind fun ds =>
    if ds.head? = some '0' ∧ 1 < ds.length then none else some (Text.natOfDigits ds)

/-- The integer that a word spells. -/
def integer? (word : List Char) : Option Int :=
  let inBase := fun (base : Nat) (cs : List Char) =>
    ((plainDigits (fun c => (Text.hexValue? c).isSome) false cs).bind (numberOf base)).map
      fun n => (n : Int)
  match word with
  | '0' :: 'x' :: cs => inBase 16 cs
  | '0' :: 'o' :: cs => inBase 8 cs
  | '0' :: 'b' :: cs => inBase 2 cs
  | '+' :: cs => (decimal? cs).map fun n => (n : Int)
  | '-' :: cs => (decimal? cs).map fun n => -(n : Int)
  | cs => (decimal? cs).map fun n => (n : Int)

/-- Whether the word names a base and has no digits in it. -/
def isBareBase (word : List Char) : Bool :=
  word == ['0', 'x'] || word == ['0', 'o'] || word == ['0', 'b']

/-! ### Floats -/

/-- Whether the character stands in front of an exponent. -/
def isExponentMark (c : Char) : Bool := c == 'e' || c == 'E'

/-- Whether the word is a float: an integer part, a fraction and an exponent, of which one of the
last two may be missing, or one of the two words for no number and for infinity. -/
def isFloat (word : List Char) : Bool :=
  let body := unsigned word
  let mantissa := body.takeWhile fun c => !isExponentMark c
  let whole := mantissa.takeWhile (· != '.')
  let fraction := mantissa.drop whole.length
  let exponent := body.drop mantissa.length
  body == ['i', 'n', 'f'] || body == ['n', 'a', 'n'] ||
    ((decimal? whole).isSome && !(fraction.isEmpty && exponent.isEmpty) &&
      (fraction.isEmpty || areDigits (fraction.drop 1)) &&
      (exponent.isEmpty || areDigits (unsigned (exponent.drop 1))))

/-! ### Moments -/

/-- Reads a number within bounds whose digits are so many and no more. -/
def readField (count low high : Nat) (cs : List Char) : Option (Nat × List Char) :=
  let digits := cs.takeWhile Char.isDigit
  let n := Text.natOfDigits digits
  if digits.length = count ∧ low ≤ n ∧ n ≤ high then some (n, cs.drop count) else none

/-- Reads a character. -/
def readMark (c : Char) : List Char → Option (List Char)
  | d :: rest => if d = c then some rest else none
  | [] => none

/-- What follows the date that a word starts with. -/
def afterDate (cs : List Char) : Option (List Char) :=
  (readField 4 0 9999 cs).bind fun year =>
    (readMark '-' year.2).bind fun rest => (readField 2 1 12 rest).bind fun month =>
      (readMark '-' month.2).bind fun rest =>
        (readField 2 1 (daysInMonth year.1 month.1) rest).map (·.2)

/-- What follows the hour and the minute that a word starts with. -/
def afterMinute (cs : List Char) : Option (List Char) :=
  (readField 2 0 23 cs).bind fun hour =>
    (readMark ':' hour.2).bind fun rest => (readField 2 0 59 rest).map (·.2)

/-- What follows the fraction of a second that a word may start with. -/
def afterFraction : List Char → Option (List Char)
  | '.' :: rest =>
    let digits := rest.takeWhile Char.isDigit
    if digits.isEmpty then none else some (rest.drop digits.length)
  | rest => some rest

/-- What follows the time of day that a word starts with; the seconds may be left out. -/
def afterTime (cs : List Char) : Option (List Char) :=
  (afterMinute cs).bind fun rest =>
    match rest with
    | ':' :: rest => (readField 2 0 60 rest).bind fun second => afterFraction second.2
    | rest => some rest

/-- Whether the characters are a difference from universal time, or nothing. -/
def isOffset : List Char → Bool
  | [] => true
  | ['Z'] => true
  | ['z'] => true
  | '+' :: rest => afterMinute rest == some []
  | '-' :: rest => afterMinute rest == some []
  | _ => false

/-- Whether the word is a date, a time of day, or both with an optional offset; a blank or the
letter `T` stands between the two. -/
def isMoment (word : List Char) : Bool :=
  match afterDate word with
  | some [] => true
  | some (c :: rest) =>
    (c == 'T' || c == 't' || c == ' ') && (afterTime rest).any isOffset
  | none => afterTime word == some []

/-! ### Words -/

/-- **What a word stands for.** -/
def scalar? (word : List Char) : Option Datum :=
  if word = ['t', 'r', 'u', 'e'] then some (.bool true)
  else if word = ['f', 'a', 'l', 's', 'e'] then some (.bool false)
  else
    match integer? word with
    | some n =>
      if Int64.minValue.toInt ≤ n ∧ n ≤ Int64.maxValue.toInt then some (.integer n)
      else some .unreadable
    | none =>
      if isFloat word || isMoment word || isBareBase word then some .unreadable else none

end ModelSql.Toml
