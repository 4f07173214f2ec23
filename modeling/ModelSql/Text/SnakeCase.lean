/-
**The words of a name, and snake case.**

A name such as `OrderLine` is cut into words at changes of case and at signs that are neither
letters nor digits; in snake case the words are in lower case with underscores between.

Main definitions:

* `Text.nameWords` — the words of a name;
* `Text.snakeCase` — **the words in lower case, joined by underscores**.
-/

import ModelSql.Text.Basic
import ModelSql.Text.Casing

set_option autoImplicit false

namespace ModelSql.Text

/-! ### Words -/

/-- The case of the letter read last: none yet, lower, or upper. -/
inductive LetterCase
  | none | lower | upper
  deriving DecidableEq, Repr

/-- The case after reading `c`; a character without case leaves it. -/
def LetterCase.after (m : LetterCase) (c : Char) : LetterCase :=
  if isLowercase c then .lower else if isUppercase c then .upper else m

/-- The words of a run of letters and digits: a word ends where a capital follows a small letter,
and before the last of several capitals that a small letter follows. -/
def nameWordsFrom (m : LetterCase) (word : List Char) : List Char → List (List Char)
  | [] => []
  | [c] => [word ++ [c]]
  | c :: next :: rest =>
    if m.after c = .lower ∧ isUppercase next then
      (word ++ [c]) :: nameWordsFrom .none [] (next :: rest)
    else if m = .upper ∧ isUppercase c ∧ isLowercase next then
      word :: nameWordsFrom .none [c] (next :: rest)
    else nameWordsFrom (m.after c) (word ++ [c]) (next :: rest)

/-- The words of a name. -/
def nameWords (name : String) : List (List Char) :=
  (piecesFrom (fun c => !isAlphanumeric c) [] name.toList).flatMap (nameWordsFrom .none [])

/-- The words of a name in lower case, joined by underscores. -/
def snakeCase (name : String) : String :=
  joinWith "_" ((nameWords name).map fun w => String.ofList (lowerWord w))

end ModelSql.Text
