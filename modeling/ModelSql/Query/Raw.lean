/-
**Raw text with numbered arguments.**

A text may refer to its arguments by their numbers in braces.  Every reference is replaced by the
literal or placeholder of its argument, and nothing else changes.

Main definitions:

* `Raw.reference?` — a reference at the front of a text;
* `Scope.raw` — **the text with its arguments in place**.
-/

import ModelSql.Numeric.Power
import ModelSql.Query.Binding
import ModelSql.Text.Letter

set_option autoImplicit false

namespace ModelSql

namespace Raw

/-- The digits of the reference that a text starts with, and what follows it. -/
def reference? (cs : List Char) : Option (List Char × List Char) :=
  match cs with
  | '\x7b' :: rest =>
    let digits := rest.takeWhile Text.isDecimalDigit
    match digits, rest.drop digits.length with
    | _ :: _, '\x7d' :: after => some (digits, after)
    | _, _ => none
  | _ => none

/-- The number of a reference: ASCII digits only, and at most 64 bits. -/
def index? (digits : List Char) : Option Nat :=
  if digits.all Char.isDigit then
    let n := Text.natOfDigits digits
    if n < Numeric.twoTo 64 then some n else none
  else none

/-- The error of a reference without an argument. -/
def missing (digits : List Char) (given : Nat) : Error :=
  .missingRawArgument (String.ofList ('\x7b' :: digits ++ ['\x7d'])) given

end Raw

namespace Scope

/-- Puts the arguments in place, reading the text from the front; at most `fuel` characters. -/
def rawFrom (s : Scope) (args : List Value) : Nat → List Char → Compile (List Char)
  | 0, cs => return cs
  | _ + 1, [] => return []
  | fuel + 1, c :: cs =>
    match Raw.reference? (c :: cs) with
    | some (digits, after) =>
      match (Raw.index? digits).bind (args[·]?) with
      | none => fail (Raw.missing digits args.length)
      | some v => do
        let text ← s.bind none v
        let rest ← s.rawFrom args fuel after
        return text.toList ++ rest
    | none => do
      let rest ← s.rawFrom args fuel cs
      return c :: rest

/-- **The text with its arguments in place.** -/
def raw (s : Scope) (sql : String) (args : List Value) : Compile String := do
  let cs ← s.rawFrom args sql.length sql.toList
  return String.ofList cs

end Scope

end ModelSql
