/-
**String methods on values.**

A method of a text that is a value is computed, with the texts of other values where they take the
place of a text.

Main definitions:

* `Fold.substring` — a part of a text;
* `Fold.method` — **the value of a method**.
-/

import ModelSql.Error
import ModelSql.Text.Casing
import ModelSql.Value

set_option autoImplicit false

namespace ModelSql.Fold

/-- The text of the first argument. -/
def argument (m : StringMethod) (args : List Value) : Except Error String :=
  match args with
  | v :: _ => .ok v.toText
  | [] => .error (.missingArgument m)

/-- The part of a text from a position on, counted from zero.  A length that is no integer counts
as none, and a negative one as zero. -/
def substring (s : String) (args : List Value) : Except Error String :=
  match (args.head?.bind Value.toInt?).map Int64.toInt with
  | none => .error .negativeStart
  | some start =>
    if start < 0 then .error .negativeStart
    else
      let rest := s.toList.drop start.toNat
      match (args[1]?.bind Value.toInt?).map Int64.toInt with
      | some length => .ok (String.ofList (rest.take length.toNat))
      | none => .ok (String.ofList rest)

/-- **The value of a method** on a value that is not null. -/
def method (m : StringMethod) (target : Value) (args : List Value) : Except Error Value :=
  if target.isNull then .error (.nullTarget m)
  else
    let s := target.toText
    match m with
    | .trim => .ok (.text (Text.trim s))
    | .trimStart => .ok (.text (Text.trimStart s))
    | .trimEnd => .ok (.text (Text.trimEnd s))
    | .toUpper => .ok (.text (Text.upper s))
    | .toLower => .ok (.text (Text.lower s))
    | .startsWith => (argument m args).map fun p => .bool (Text.startsWith s p)
    | .endsWith => (argument m args).map fun p => .bool (Text.endsWith s p)
    | .contains => (argument m args).map fun p => .bool (Text.contains s p)
    | .substring => (substring s args).map .text

end ModelSql.Fold
