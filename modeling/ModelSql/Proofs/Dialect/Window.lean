/-
**Windows of results.**

A paging clause says which of the results of a query are wanted.  Four forms of it are in use: three of
them skip some rows and take some, and one names the first and the last row, counted from one.  Read by
the rules of its database, the clause that a dialect writes names the same rows everywhere.

Main definitions:

* `Window`, `Window.Has` — a stretch of results, and the positions in it;
* `Mark`, `Nest.mark` — what a reader of paging clauses tells apart;
* `LimitStyle.window?`, `Dialect.window?` — **the reader of paging clauses**;
* `LimitStyle.nests`, `LimitStyle.window` — the tokens and the window of a form.

Main results:

* `LimitStyle.window_nests`, `Dialect.spells_paging` — from tokens to windows, and from clauses to
  tokens;
* `Dialect.paging_window` — **a paging clause asks for the rows behind the skipped ones**.
-/

import ModelSql.Dialect.Paging
import ModelSql.Proofs.Syntax.Nest
import ModelSql.Query

set_option relaxedAutoImplicit false
set_option autoImplicit false

namespace ModelSql

/-! ### Windows -/

/-- A stretch of results: some rows behind a number of skipped ones, or those from a first to a last
one. -/
inductive Window
  | behind (skip rows : Nat)
  | between (first last : Nat)
  deriving DecidableEq, Repr

/-- The positions of a window.  The first result stands at position one. -/
def Window.Has : Window → Nat → Prop
  | behind skip rows, p => skip < p ∧ p ≤ skip + rows
  | between first last, p => first ≤ p ∧ p ≤ last

/-! ### Reading a clause -/

/-- What a reader of paging clauses tells apart. -/
inductive Mark
  | word (w : String)
  | number (n : Nat)
  | comma
  | other
  deriving DecidableEq, Repr

/-- The mark of a token or a group.  A numeral counts when it is made of digits. -/
def Nest.mark : Nest → Mark
  | .token (.word cs) => .word (String.ofList cs)
  | .token (.number cs) =>
    if cs.all Char.isDigit then .number (Nat.ofDigitChars 10 cs 0) else .other
  | .token (.sign cs) => if cs = [','] then .comma else .other
  | _ => .other

/-- A clause without the order by one item that may stand in front of it. -/
def LimitStyle.clause : LimitStyle → List Mark → List Mark
  | .offsetFetch, .word "ORDER" :: .word "BY" :: _ :: ms => ms
  | _, ms => ms

/-- **Reads a paging clause by the rules of its form.** -/
def LimitStyle.window? : LimitStyle → List Mark → Option Window
  | .commaLimit, [.word "LIMIT", .number n] => some (.behind 0 n)
  | .commaLimit, [.word "LIMIT", .number skip, .comma, .number n] => some (.behind skip n)
  | .limitOffset, [.word "LIMIT", .number n] => some (.behind 0 n)
  | .limitOffset, [.word "LIMIT", .number n, .word "OFFSET", .number skip] => some (.behind skip n)
  | .offsetFetch, [.word "OFFSET", .number skip, .word "ROWS", .word "FETCH", .word "NEXT",
      .number n, .word "ROWS", .word "ONLY"] => some (.behind skip n)
  | .rows, [.word "ROWS", .number last] => some (.between 1 last)
  | .rows, [.word "ROWS", .number first, .word "TO", .number last] => some (.between first last)
  | _, _ => none

/-- **The window that a paging clause asks a database for.** -/
def Dialect.window? (d : Dialect) (sql : String) : Option Window :=
  (d.nests sql).bind fun ns =>
    d.rules.limitStyle.window? (d.rules.limitStyle.clause (ns.map Nest.mark))

/-! ### The pieces of a clause -/

/-- The token of a number in a clause. -/
def numberNest (n : Nat) : Nest := .token (.number (Nat.toDigits 10 n))

/-- **A number is read back.** -/
@[simp]
theorem mark_numberNest (n : Nat) : (numberNest n).mark = .number n := by
  have hdigits : (Nat.toDigits 10 n).all Char.isDigit = true :=
    List.all_eq_true.2 fun _ => Text.isDigit_of_mem_toDigits
  rw [numberNest, Nest.mark, if_pos hdigits, Nat.ofDigitChars_ten_toDigits]

@[simp]
theorem mark_wordNest (w : String) : (wordNest w).mark = .word w := by
  rw [wordNest, Nest.mark, String.ofList_toList]

@[simp]
theorem mark_comma : (signNest ",").mark = .comma := rfl

theorem Spells.number {d : Dialect} (n : Nat) : Spells d (toString n) [numberNest n] := by
  rw [Spells, Nat.toString_eq_repr, Nat.toList_repr]
  exact lexes_isNumeral (Literal.isNumeral_toDigits n)

/-! ### The tokens of a clause -/

/-- The tokens that a form of paging asks for some rows with. -/
def LimitStyle.nests : LimitStyle → Option Nat → Nat → List Nest
  | .commaLimit, some skip, n =>
    [wordNest "LIMIT", numberNest skip, signNest ",", numberNest n]
  | .limitOffset, some skip, n =>
    [wordNest "LIMIT", numberNest n, wordNest "OFFSET", numberNest skip]
  | .commaLimit, none, n | .limitOffset, none, n => [wordNest "LIMIT", numberNest n]
  | .offsetFetch, skip, n =>
    [wordNest "OFFSET", numberNest (skip.getD 0), wordNest "ROWS", wordNest "FETCH",
      wordNest "NEXT", numberNest n, wordNest "ROWS", wordNest "ONLY"]
  | .rows, some skip, n =>
    [wordNest "ROWS", numberNest (skip + 1), wordNest "TO", numberNest (skip + n)]
  | .rows, none, n => [wordNest "ROWS", numberNest n]

section

variable {d : Dialect} {s : String} {ns : List Nest}

theorem spells_limit (n : Nat) :
    Spells d ("LIMIT " ++ toString n) [wordNest "LIMIT", numberNest n] :=
  .keyword (by decide) (by decide) (.number n)

theorem spells_limitOffset (skip n : Nat) :
    Spells d ("LIMIT " ++ toString n ++ " OFFSET " ++ toString skip)
      [wordNest "LIMIT", numberNest n, wordNest "OFFSET", numberNest skip] := by
  have hword : Spells d "OFFSET" [wordNest "OFFSET"] := .word (by decide)
  have hsplit : " OFFSET " = " " ++ ("OFFSET" ++ " ") := by decide
  have hall := Spells.infixed hword (spells_limit n) (.number skip)
  simpa only [hsplit, String.append_assoc, List.cons_append, List.nil_append] using hall

theorem spells_offsetFetch (skip n : Nat) :
    Spells d ("OFFSET " ++ toString skip ++ " ROWS" ++
        (" FETCH NEXT " ++ toString n ++ " ROWS ONLY"))
      [wordNest "OFFSET", numberNest skip, wordNest "ROWS", wordNest "FETCH", wordNest "NEXT",
        numberNest n, wordNest "ROWS", wordNest "ONLY"] := by
  have honly : Spells d "ONLY" [wordNest "ONLY"] := .word (by decide)
  have hrows : Spells d "ROWS" [wordNest "ROWS"] := .word (by decide)
  have hnext : Spells d ("NEXT " ++ toString n) [wordNest "NEXT", numberNest n] :=
    .keyword (by decide) (by decide) (.number n)
  have hfetch : Spells d ("FETCH " ++ ("NEXT " ++ toString n))
      [wordNest "FETCH", wordNest "NEXT", numberNest n] :=
    .keyword (by decide) (by decide) hnext
  have hoffset : Spells d ("OFFSET " ++ toString skip) [wordNest "OFFSET", numberNest skip] :=
    .keyword (by decide) (by decide) (.number skip)
  have hsplit : " ROWS" = " " ++ "ROWS" ∧ " FETCH NEXT " = " " ++ ("FETCH " ++ "NEXT ") ∧
      " ROWS ONLY" = " " ++ ("ROWS" ++ (" " ++ "ONLY")) := by decide
  have hall := hrows.infixed (hrows.infixed hoffset hfetch) honly
  simpa only [hsplit, String.append_assoc, List.cons_append, List.nil_append] using hall

theorem spells_rows (n : Nat) :
    Spells d ("ROWS " ++ toString n) [wordNest "ROWS", numberNest n] :=
  .keyword (by decide) (by decide) (.number n)

theorem spells_rowsTo (first last : Nat) :
    Spells d ("ROWS " ++ toString first ++ " TO " ++ toString last)
      [wordNest "ROWS", numberNest first, wordNest "TO", numberNest last] := by
  have hword : Spells d "TO" [wordNest "TO"] := .word (by decide)
  have hsplit : " TO " = " " ++ ("TO" ++ " ") := by decide
  have hall := Spells.infixed hword (spells_rows first) (.number last)
  simpa only [hsplit, String.append_assoc, List.cons_append, List.nil_append] using hall

/-- An order by one thing in front of a clause. -/
theorem spells_ordered {key head : String} {k : Nest} (hhead : head = "ORDER BY " ++ key ++ " ")
    (hkey : Spells d key [k]) (h : Spells d s ns) :
    Spells d (head ++ s) (wordNest "ORDER" :: wordNest "BY" :: k :: ns) := by
  have hsplit : "ORDER BY " = "ORDER " ++ "BY " := by decide
  have hby : Spells d ("BY " ++ (key ++ " " ++ s)) (wordNest "BY" :: k :: ns) :=
    .keyword (by decide) (by decide) (hkey.spaced h)
  have hall : Spells d ("ORDER " ++ ("BY " ++ (key ++ " " ++ s)))
      (wordNest "ORDER" :: wordNest "BY" :: k :: ns) :=
    .keyword (by decide) (by decide) hby
  simpa only [hhead, hsplit, String.append_assoc] using hall

/-- The void order. -/
theorem spells_void : Spells d ("(" ++ ("SELECT " ++ "NULL") ++ ")")
    [.group [wordNest "SELECT", wordNest "NULL"]] := by
  have hnull : Spells d "NULL" [wordNest "NULL"] := .word (by decide)
  exact (Spells.keyword (w := "SELECT") (by decide) (by decide) hnull).group

end

/-! ### The window of a clause -/

namespace LimitStyle

/-- The window that a form of paging describes some rows with. -/
def window : LimitStyle → Option Nat → Nat → Window
  | .rows, none, n => .between 1 n
  | .rows, some skip, n => .between (skip + 1) (skip + n)
  | _, skip, n => .behind (skip.getD 0) n

variable (style : LimitStyle) (skip : Option Nat) (n : Nat)

/-- **The tokens of a form are read as its window.** -/
theorem window_nests : style.window? ((style.nests skip n).map Nest.mark) = some (style.window skip n) := by
  cases style <;> cases skip <;> simp [nests, window?, window]

/-- They have no order in front. -/
theorem clause_nests :
    style.clause ((style.nests skip n).map Nest.mark) = (style.nests skip n).map Nest.mark := by
  cases style <;> simp [nests, clause]

/-- **Every form describes the same rows**: those behind the skipped ones. -/
theorem has_window (p : Nat) :
    (style.window skip n).Has p ↔ skip.getD 0 < p ∧ p ≤ skip.getD 0 + n := by
  cases style with
  | rows =>
      cases skip with
      | none =>
          simp only [window, Window.Has, Option.getD_none, Nat.zero_add]
          omega
      | some skip =>
          simp only [window, Window.Has, Option.getD_some]
          omega
  | commaLimit => exact Iff.rfl
  | limitOffset => exact Iff.rfl
  | offsetFetch => exact Iff.rfl

end LimitStyle

namespace Dialect

variable {d : Dialect} {sql : String} {skip : Option Nat} {n : Nat}

/-- **A text that spells a clause is read as it.** -/
theorem window_of_spells (h : Spells d sql (d.rules.limitStyle.nests skip n)) :
    d.window? sql = some (d.rules.limitStyle.window skip n) := by
  rw [window?, nests_of_spells h, Option.bind_some, LimitStyle.clause_nests,
    LimitStyle.window_nests]

/-- An order by one thing in front changes nothing, where the form has one. -/
theorem window_ordered (hstyle : d.rules.limitStyle = .offsetFetch) {key head : String} {k : Nest}
    (hhead : head = "ORDER BY " ++ key ++ " ") (hkey : Spells d key [k])
    (h : Spells d sql (d.rules.limitStyle.nests skip n)) :
    d.window? (head ++ sql) = some (d.rules.limitStyle.window skip n) := by
  rw [window?, nests_of_spells (spells_ordered hhead hkey h), Option.bind_some, ← LimitStyle.window_nests]
  simp only [hstyle, List.map_cons, mark_wordNest, LimitStyle.clause]

/-! ### The clauses of a dialect -/

/-- The first and the last row, where row numbers reach them. -/
theorem firstRow_of_le {skip n : Nat} (h : skip + n ≤ maxRow) : firstRow skip = skip + 1 := by
  unfold maxRow at h
  unfold firstRow maxCount
  omega

theorem lastRow_of_le {unbounded : String} {skip n : Nat} (h : skip + n ≤ maxRow) :
    lastRow unbounded skip n = toString (skip + n) := by
  rw [lastRow, if_pos h]

/-- **The paging clause spells the tokens of its form**, behind an order where one is needed. -/
theorem spells_paging (d : Dialect) (h : skip.getD 0 + n ≤ maxRow) :
    Spells d (d.paging skip (some n) true) (d.rules.limitStyle.nests skip n) := by
  unfold paging
  cases d.rules.limitStyle with
  | commaLimit =>
      cases skip with
      | none => exact spells_limit n
      | some skip => exact (spells_limit skip).pair (.number n)
  | limitOffset =>
      cases skip with
      | none => exact spells_limit n
      | some skip => exact spells_limitOffset skip n
  | offsetFetch =>
      simp only [reduceIte, String.empty_append]
      exact spells_offsetFetch (skip.getD 0) n
  | rows =>
      cases skip with
      | none => exact spells_rows n
      | some skip =>
          rw [Option.getD_some] at h
          simp only [firstRow_of_le h, lastRow_of_le h]
          exact spells_rowsTo (skip + 1) (skip + n)

/-- The void order stands in front where there is none and the form needs one. -/
theorem paging_unordered (hstyle : d.rules.limitStyle = .offsetFetch) {skip rows : Option Nat}
    (h : skip ≠ none ∨ rows ≠ none) :
    d.paging skip rows false = "ORDER BY (SELECT NULL) " ++ d.paging skip rows true := by
  unfold paging
  rw [hstyle]
  cases skip with
  | some s => simp only [Bool.false_eq_true, reduceIte, String.empty_append, String.append_assoc]
  | none =>
      cases rows with
      | some n => simp only [Bool.false_eq_true, reduceIte, String.empty_append, String.append_assoc]
      | none => simp at h

/-- Elsewhere it makes no difference whether there is an order. -/
theorem paging_eq (hstyle : d.rules.limitStyle ≠ .offsetFetch) (skip rows : Option Nat)
    (isOrdered : Bool) : d.paging skip rows isOrdered = d.paging skip rows true := by
  unfold paging
  cases h : d.rules.limitStyle with
  | offsetFetch => exact absurd h hstyle
  | commaLimit | limitOffset | rows => rfl

/-- **The paging clause is read as the window it describes.** -/
theorem window_paging (d : Dialect) (isOrdered : Bool) (h : skip.getD 0 + n ≤ maxRow) :
    d.window? (d.paging skip (some n) isOrdered) = some (d.rules.limitStyle.window skip n) := by
  have hspells := spells_paging d h
  by_cases hstyle : d.rules.limitStyle = .offsetFetch
  · cases isOrdered with
    | true => exact window_of_spells hspells
    | false =>
        rw [paging_unordered hstyle (.inr (Option.some_ne_none n))]
        exact window_ordered hstyle (by decide) spells_void hspells
  · rw [paging_eq hstyle]
    exact window_of_spells hspells

/-- **A paging clause asks every database for the same rows**: those behind the skipped ones, as many as
are wanted. -/
theorem paging_window (d : Dialect) (skip : Option Nat) (n : Nat) (isOrdered : Bool)
    (h : skip.getD 0 + n ≤ maxRow) :
    ∃ w, d.window? (d.paging skip (some n) isOrdered) = some w ∧
      ∀ p, w.Has p ↔ skip.getD 0 < p ∧ p ≤ skip.getD 0 + n :=
  ⟨d.rules.limitStyle.window skip n, window_paging d isOrdered h,
    d.rules.limitStyle.has_window skip n⟩

/-- The last of all rows, where rows are counted from one. -/
theorem paging_window_maxRow :
    let d := DialectKind.firebird.dialect
    maxRow - 1 + 1 ≤ maxRow ∧
      ∃ w, d.window? (d.paging (some (maxRow - 1)) (some 1) false) = some w ∧
        ∀ p, w.Has p ↔ maxRow - 1 < p ∧ p ≤ maxRow - 1 + 1 :=
  ⟨by decide, paging_window DialectKind.firebird.dialect (some (maxRow - 1)) 1 false (by decide)⟩

/-- A clause that needs an order is not empty. -/
theorem isEmpty_paging (hstyle : d.rules.limitStyle = .offsetFetch) {skip rows : Option Nat}
    (h : skip ≠ none ∨ rows ≠ none) : (d.paging skip rows true).isEmpty = false := by
  unfold paging
  rw [hstyle]
  cases skip with
  | some s => simp [String.isEmpty_eq_false_iff]
  | none =>
      cases rows with
      | some n => simp [String.isEmpty_eq_false_iff]
      | none => simp at h

end Dialect

end ModelSql
