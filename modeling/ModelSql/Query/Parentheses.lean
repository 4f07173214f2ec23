/-
**Parentheses around a part of a statement.**

A part of a statement is *wrapped* when one pair of parentheses encloses it; parentheses between
quotes and in quoted names do not count.

Main definitions:

* `Parentheses.encloses` — whether the parentheses that are open close with the last character;
* `isWrapped`, `wrap`, `stripOuter` — **testing, adding and removing the outer pair**.
-/

set_option autoImplicit false

namespace ModelSql

namespace Parentheses

/-- The character that closes a quotation begun by `c`. -/
def closing? (c : Char) : Option Char :=
  if c = '\'' ∨ c = '"' ∨ c = '\x60' then some c
  else if c = '[' then some ']'
  else none

/-- Whether `depth` open parentheses all close, the last of them with the last character; `quote`
closes the quotation that is being read. -/
def encloses : Option Char → Nat → List Char → Bool
  | _, depth, [] => depth == 0
  | some q, depth, c :: cs => encloses (if c = q then none else some q) depth cs
  | none, depth, c :: cs =>
    match closing? c with
    | some q => encloses (some q) depth cs
    | none =>
      if c = '(' then encloses none (depth + 1) cs
      else if c = ')' then
        if depth - 1 = 0 ∧ !cs.isEmpty then false else encloses none (depth - 1) cs
      else encloses none depth cs

end Parentheses

/-- Whether one pair of parentheses encloses the characters. -/
def isWrapped (cs : List Char) : Bool :=
  cs.head? == some '(' && cs.getLast? == some ')' && Parentheses.encloses none 0 cs

/-- A part of a statement in parentheses, unless it is already. -/
def wrap (sql : String) : String := if isWrapped sql.toList then sql else "(" ++ sql ++ ")"

/-- A part of a statement without the parentheses that enclose it. -/
def stripOuter (sql : String) : String :=
  if isWrapped sql.toList then String.ofList (sql.toList.drop 1).dropLast else sql

end ModelSql
