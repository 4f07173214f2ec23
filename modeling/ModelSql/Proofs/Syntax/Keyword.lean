/-
**Keywords and names.**

The words that operators are written with are reserved by every database.  A name that is one of them, in
any letter case, is written between quotes, and so no name is ever read as an operator.

Main definitions:

* `keywords` — the words of operators;
* `Token.isKeyword` — whether a token is one of them.

Main results:

* `keywords_reserved` — **every database reserves them**;
* `operator?_nameToken_ne`, `isKeyword_nameToken` — no name is a reserved word, and none a keyword.
-/

import ModelSql.Proofs.Syntax.Grammar

set_option relaxedAutoImplicit false
set_option autoImplicit false

namespace ModelSql

/-- The operator of a word in lower case. -/
def Op.ofWord (w : String) : Op := .word w.toList

/-- The operator of a sign. -/
def Op.ofSign (w : String) : Op := .sign w.toList

/-- The words that operators are written with. -/
def keywords : List String := ["AND", "OR", "NOT", "IN", "LIKE", "IS", "AS", "FROM", "FOR", "DESC"]

/-- Whether an operator is a keyword. -/
def Op.isKeyword (op : Op) : Bool := keywords.any fun w => op == .word (w.toList.map Char.toLower)

/-- Whether a token is a keyword, in any letter case. -/
def Token.isKeyword (t : Token) : Bool := t.operator?.any Op.isKeyword

/-- **Every database reserves the words of operators.** -/
theorem keywords_reserved (k : DialectKind) : ∀ w ∈ keywords, w ∈ k.rules.reservedWords := by
  cases k <;> decide +kernel

/-- A name that is a reserved word, in any letter case, is written between quotes. -/
theorem operator?_nameToken_ne (d : Dialect) (name : String) {w : String}
    (hw : w ∈ d.rules.reservedWords) :
    (d.nameToken name).operator? ≠ some (.word (w.toList.map Char.toLower)) := by
  unfold Dialect.nameToken
  split
  · exact nofun
  · rename_i hq
    intro heq
    have hname : w.toList.map Char.toLower = name.toList.map Char.toLower :=
      (Op.word.inj (Option.some.inj heq)).symm
    have hreserved : d.rules.isReserved name = true := by
      rw [DialectRules.isReserved, List.any_eq_true]
      exact ⟨w, hw, beq_iff_eq.2 hname⟩
    simp [Dialect.needsQuotes, hreserved] at hq

/-- **A name is not read as a keyword.** -/
theorem isKeyword_nameToken (d : Dialect) (name : String) :
    (d.nameToken name).isKeyword = false := by
  cases hk : (d.nameToken name).isKeyword with
  | false => rfl
  | true =>
      rw [Token.isKeyword, Option.any_eq_true] at hk
      obtain ⟨op, hop, hk⟩ := hk
      rw [Op.isKeyword, List.any_eq_true] at hk
      obtain ⟨w, hw, heq⟩ := hk
      rw [beq_iff_eq.1 heq] at hop
      exact absurd hop (operator?_nameToken_ne d name (keywords_reserved d.kind w hw))

/-! ### Words of lists -/

namespace Nest

/-- Whether a keyword stands here. -/
def isKeyword : Nest → Bool
  | token t => t.isKeyword
  | group _ => false

/-- Whether a word of an operator stands here. -/
def isWord (w : String) : Nest → Bool
  | token t => t.operator? == some (.ofWord w)
  | group _ => false

/-- Whether a connective of conditions stands here. -/
def isConnective (n : Nest) : Bool := n.isWord "and" || n.isWord "or"

theorem isWord_of_isKeyword {n : Nest} (h : n.isKeyword = false) {w : String}
    (hw : (Op.ofWord w).isKeyword = true) : n.isWord w = false := by
  cases n with
  | group ns => rfl
  | token t =>
      cases ht : (token t).isWord w with
      | false => rfl
      | true =>
          rw [isWord, beq_iff_eq] at ht
          rw [isKeyword, Token.isKeyword, ht, Option.any_some, hw] at h
          cases h

theorem isConnective_of_isKeyword {n : Nest} (h : n.isKeyword = false) : n.isConnective = false := by
  rw [isConnective, isWord_of_isKeyword h (by decide), isWord_of_isKeyword h (by decide)]
  rfl

end Nest

end ModelSql
