/-
**Groups of tokens.**

The parentheses of a statement nest: between an opening one and the closing one that belongs to it
stands a group.  A statement is read as a list of tokens and groups.  The parts that statements are made
of, names, literals, functions and operators, are read in one way wherever they stand.

Main definitions:

* `Nest`, `Nest.read` — tokens and groups, and **the reader**;
* `Dialect.nests` — the tokens and groups of a statement;
* `Spells` — a text that is read as a given list wherever it stands.

Main results:

* `nests_of_spells` — a statement that spells a list is read as it;
* `prefix_of_nests` — the start of a statement that goes on in any way;
* `Spells.group`, `Spells.infixed`, `Spells.call` — texts put together;
* `spells_form`, `spells_column`, `spells_placeholder` — literals, columns and placeholders.
-/

import ModelSql.Proofs.Syntax.Lexer
import ModelSql.Query.Binding

set_option relaxedAutoImplicit false
set_option autoImplicit false

namespace ModelSql

/-! ### Groups -/

/-- A token, or what stands between a pair of parentheses. -/
inductive Nest
  | token (t : Token)
  | group (ns : List Nest)

namespace Nest

mutual

/-- The lexemes of a token or a group. -/
def lexemes : Nest → List Lexeme
  | token t => [.token t]
  | group ns => .opening :: lexemesAll ns ++ [.closing]

/-- The lexemes of tokens and groups, one after the other. -/
def lexemesAll : List Nest → List Lexeme
  | [] => []
  | n :: ns => n.lexemes ++ lexemesAll ns

end

/-- **Reads tokens and groups.**  The groups that are open are kept, each with what has been read of it,
last things first. -/
def read : List (List Nest) → List Nest → List Lexeme → Option (List Nest)
  | [], current, [] => some current.reverse
  | _ :: _, _, [] => none
  | outer, current, .token t :: ls => read outer (token t :: current) ls
  | outer, current, .opening :: ls => read (current :: outer) [] ls
  | [], _, .closing :: _ => none
  | up :: outer, current, .closing :: ls => read outer (group current.reverse :: up) ls

theorem lexemesAll_append (ns ms : List Nest) :
    lexemesAll (ns ++ ms) = lexemesAll ns ++ lexemesAll ms := by
  induction ns with
  | nil => simp [lexemesAll]
  | cons n ns ih => simp [lexemesAll, ih]

/-- The lexemes of a list are read as the list, behind what has been read before. -/
theorem read_lexemes_and :
    (∀ (n : Nest) outer current rest,
      read outer current (n.lexemes ++ rest) = read outer (n :: current) rest) ∧
    ∀ (ns : List Nest) outer current rest,
      read outer current (lexemesAll ns ++ rest) = read outer (ns.reverse ++ current) rest := by
  apply Nest.lexemes.mutual_induct
  case case1 =>
      intro t outer current rest
      simp [lexemes, read]
  case case2 =>
      intro ns ih outer current rest
      simp only [lexemes, List.cons_append, List.append_assoc, read]
      rw [ih]
      simp [read]
  case case3 =>
      intro outer current rest
      simp [lexemesAll]
  case case4 =>
      intro n ns ih ihs outer current rest
      rw [lexemesAll, List.append_assoc, ih, ihs]
      simp

/-- What has been read outside all groups. -/
def outermost : List (List Nest) → List Nest → List Nest
  | [], current => current
  | up :: outer, _ => outermost outer up

/-- **What has been read outside all groups stays**: the list that is read in the end starts with it. -/
theorem outermost_prefix_of_read {outer : List (List Nest)} {current ns : List Nest} {ls : List Lexeme}
    (h : read outer current ls = some ns) : (outermost outer current).reverse <+: ns := by
  -- one thing more in the list that is being read
  have hone (outer : List (List Nest)) (n : Nest) (current : List Nest) :
      (outermost outer current).reverse <+: (outermost outer (n :: current)).reverse := by
    cases outer with
    | nil =>
        rw [outermost, outermost, List.reverse_cons]
        exact List.prefix_append _ _
    | cons up outer => exact List.prefix_refl _
  induction ls generalizing outer current with
  | nil =>
      cases outer with
      | nil =>
          rw [read] at h
          rw [← Option.some.inj h]
          exact List.prefix_refl _
      | cons up outer => cases h
  | cons l ls ih =>
      cases l with
      | token t =>
          rw [read] at h
          exact (hone outer (token t) current).trans (ih h)
      | opening =>
          rw [read] at h
          have hgroup := ih h
          exact hgroup
      | closing =>
          cases outer with
          | nil => cases h
          | cons up outer =>
              rw [read] at h
              exact (hone outer (group current.reverse) up).trans (ih h)

end Nest

open Lexer

/-- **The tokens and groups of a statement**, if its parentheses nest. -/
def Dialect.nests (d : Dialect) (sql : String) : Option (List Nest) :=
  Nest.read [] [] (d.lexemes sql)

/-! ### Texts that spell a list -/

/-- **A text that is read as a list of tokens and groups wherever it stands** in front of a
delimiter. -/
def Spells (d : Dialect) (s : String) (ns : List Nest) : Prop :=
  Lexes d.escapes s.toList (Nest.lexemesAll ns)

/-- A statement that spells a list is read as it. -/
theorem nests_of_spells {d : Dialect} {s : String} {ns : List Nest} (h : Spells d s ns) :
    d.nests s = some ns := by
  have hrun := h [] boundary_nil
  rw [List.append_nil, run, finish, List.append_nil] at hrun
  have hread := Nest.read_lexemes_and.2 ns [] [] []
  rw [List.append_nil, List.append_nil] at hread
  rw [Dialect.nests, Dialect.lexemes, hrun, hread]
  simp [Nest.read]

/-- **What a statement starts with** is what its list starts with, whatever stands behind. -/
theorem prefix_of_nests {d : Dialect} {head s : String} {front ns : List Nest}
    (hhead : Feeds d.escapes .blank head.toList (Nest.lexemesAll front) .blank)
    (h : d.nests (head ++ s) = some ns) : front <+: ns := by
  rw [Dialect.nests, Dialect.lexemes, String.toList_append, hhead, Nest.read_lexemes_and.2] at h
  simpa [Nest.outermost] using Nest.outermost_prefix_of_read h

/-- The word of a keyword or a function. -/
def wordNest (w : String) : Nest := .token (.word w.toList)

/-- The token of a sign. -/
def signNest (w : String) : Nest := .token (.sign w.toList)

namespace Spells

variable {d : Dialect} {s t : String} {ns ms : List Nest}

theorem empty : Spells d "" [] := Lexes.nil

/-- Two texts, the second one starting with a delimiter. -/
theorem append (hs : Spells d s ns) (ht : Spells d t ms) (h : Starts t.toList) :
    Spells d (s ++ t) (ns ++ ms) := by
  have := Lexes.append hs ht h
  rwa [Spells, String.toList_append, Nest.lexemesAll_append]

theorem space (h : Spells d s ns) : Spells d (" " ++ s) ns := by
  rw [Spells, String.toList_append]
  exact Lexes.space h

theorem comma (h : Spells d s ns) : Spells d ("," ++ s) (signNest "," :: ns) := by
  rw [Spells, String.toList_append]
  exact Lexes.comma h

/-- **A text in parentheses is a group.** -/
theorem group (h : Spells d s ns) : Spells d ("(" ++ s ++ ")") [.group ns] := by
  have := Lexes.group h
  rw [Spells, String.toList_append, String.toList_append]
  simpa [Nest.lexemesAll, Nest.lexemes] using this

theorem negative (h : Spells d s ns) : Spells d ("-" ++ s) (signNest "-" :: ns) := by
  rw [Spells, String.toList_append]
  exact Lexes.negative h

theorem word {w : String} (h : Text.isPlainName w.toList = true) : Spells d w [wordNest w] :=
  lexes_word h

/-- A sign that is read as one token. -/
theorem sign {w : String} (h : Feeds d.escapes .blank w.toList [] (.sign w.toList)) :
    Spells d w [signNest w] := .of_feeds h rfl

theorem starts_space (s : String) : Starts (" " ++ s).toList := by
  rw [String.toList_append]
  exact starts_cons (by decide) _

theorem starts_comma (s : String) : Starts ("," ++ s).toList := by
  rw [String.toList_append]
  exact starts_cons (by decide) _

theorem starts_group (s : String) : Starts ("(" ++ s ++ ")").toList := by
  rw [String.toList_append, String.toList_append]
  exact starts_cons (by decide) _

/-- **Two texts with something between them** that blanks set apart. -/
theorem infixed {w : String} {n : Nest} (hw : Spells d w [n]) (hs : Spells d s ns)
    (ht : Spells d t ms) : Spells d (s ++ " " ++ w ++ " " ++ t) (ns ++ n :: ms) := by
  have htail := (hw.append ht.space (starts_space t)).space
  have hall := hs.append htail (starts_space _)
  simpa only [String.append_assoc, List.cons_append, List.nil_append] using hall

/-- Two texts with a comma between them. -/
theorem pair (hs : Spells d s ns) (ht : Spells d t ms) :
    Spells d (s ++ "," ++ t) (ns ++ signNest "," :: ms) := by
  have hall := hs.append ht.comma (starts_comma t)
  rwa [← String.append_assoc] at hall

/-- Two texts with a blank between them. -/
theorem spaced (hs : Spells d s ns) (ht : Spells d t ms) : Spells d (s ++ " " ++ t) (ns ++ ms) := by
  rw [String.append_assoc]
  exact hs.append ht.space (starts_space t)

/-- **A keyword in front of a text**, with the blank behind it. -/
theorem keyword {w head : String} (hhead : head = w ++ " ") (hw : Text.isPlainName w.toList = true)
    (h : Spells d s ns) : Spells d (head ++ s) (wordNest w :: ns) := by
  rw [hhead]
  exact (word hw).spaced h

/-- **A function with what stands between its parentheses.** -/
theorem call {f : String} (hf : Text.isPlainName f.toList = true) (h : Spells d s ns) :
    Spells d (f ++ ("(" ++ s ++ ")")) [wordNest f, .group ns] :=
  (word hf).append h.group (starts_group s)

end Spells

/-! ### Literals, columns and placeholders -/

/-- **The tokens and groups of literals.** -/
inductive Nest.IsLiteral : List Nest → Prop
  | number (cs : List Char) : IsLiteral [.token (.number cs)]
  | negative (cs : List Char) : IsLiteral [signNest "-", .token (.number cs)]
  | word {cs : List Char} (h : cs ∈ Literal.words) : IsLiteral [.token (.word cs)]
  | infinity : IsLiteral [signNest "-", wordNest "inf"]
  | text (mark cs : List Char) : IsLiteral [.token (.text mark cs)]
  | uuid (cs : List Char) : IsLiteral [.token (.text [] cs), signNest "::", wordNest "uuid"]
  | decode (cs : List Char) : IsLiteral [wordNest "decode",
      .group [.token (.text [] cs), signNest ",", .token (.text [] "hex".toList)]]
  | cast (cs : List Char) : IsLiteral [wordNest "CAST",
      .group [.token (.text [] cs), wordNest "AS", wordNest "UNIQUEIDENTIFIER"]]

section

variable {d : Dialect}

theorem spells_quotation (cs : List Char) :
    Spells d (String.ofList (d.quotation cs)) [.token (.text [] cs)] := by
  have hmark : [] ∈ Literal.marks := by decide
  rw [Spells, String.toList_ofList]
  exact lexes_quotation d hmark cs

/-- **A literal spells one of the lists of literals.** -/
theorem spells_form {s : String} (h : Literal.Form d s.toList) :
    ∃ ns, Spells d s ns ∧ Nest.IsLiteral ns := by
  generalize hcs : s.toList = cs at h
  have hs : s = String.ofList cs := by rw [← hcs, String.ofList_toList]
  subst hs
  cases h with
  | numeral h =>
      -- a minus in front of the digits is a token of its own
      obtain ⟨negative, ds, hds, rfl⟩ := h
      cases negative with
      | false => exact ⟨_, by rw [Spells, String.toList_ofList]; exact lexes_isNumeral hds, .number ds⟩
      | true =>
          refine ⟨_, ?_, .negative ds⟩
          rw [Spells, String.toList_ofList]
          exact (lexes_isNumeral hds).negative
  | word h =>
      have hplain : ∀ w ∈ Literal.words, Text.isPlainName w = true := by decide
      refine ⟨_, ?_, .word h⟩
      rw [Spells, String.toList_ofList]
      exact lexes_word (hplain _ h)
  | infinity =>
      have hplain : Text.isPlainName "inf".toList = true := by decide
      exact ⟨_, (Spells.word hplain).negative, .infinity⟩
  | @text mark h cs =>
      refine ⟨_, ?_, .text mark cs⟩
      rw [Spells, String.toList_ofList]
      exact lexes_quotation d h cs
  | uuid cs =>
      have hmark : [] ∈ Literal.marks := by decide
      have hstep : step d.escapes (.textEnd [] cs) ':' =
          ([.token (.text [] cs)], .parameter [':']) := rfl
      have htype : Feeds d.escapes (.textEnd [] cs) "::uuid".toList
          [.token (.text [] cs), .token (.sign [':', ':'])] (.word "uuid".toList) := fun _ => rfl
      refine ⟨_, ?_, .uuid cs⟩
      rw [Spells, String.toList_ofList]
      exact .of_feeds ((feeds_quotation d hmark cs).append htype) rfl
  | decode cs =>
      have hplain : Text.isPlainName "decode".toList = true := by decide
      have hbackslash : '\\' ∉ "hex".toList := by decide
      have hquote : '\'' ∉ "hex".toList := by decide
      have hhex : "'hex'".toList = d.quotation "hex".toList := d.toList_bare hbackslash hquote
      have htext : Spells d "'hex'" [.token (.text [] "hex".toList)] := by
        have := spells_quotation (d := d) "hex".toList
        rwa [Spells, String.toList_ofList, ← hhex] at this
      have hcall := Spells.call hplain
        ((spells_quotation (d := d) cs).append htext.space.comma (Spells.starts_comma _))
      refine ⟨_, ?_, .decode cs⟩
      rw [Spells] at hcall ⊢
      simpa using hcall
  | cast cs =>
      have hplain : Text.isPlainName "CAST".toList = true := by decide
      have has : Text.isPlainName "AS".toList = true := by decide
      have htype : Text.isPlainName "UNIQUEIDENTIFIER".toList = true := by decide
      have hcall := Spells.call hplain
        (Spells.infixed (Spells.word has) (spells_quotation (d := d) cs) (Spells.word htype))
      refine ⟨_, ?_, .cast cs⟩
      rw [Spells] at hcall ⊢
      simpa using hcall

theorem spells_placeholder (n : Nat) :
    Spells d (d.placeholder n) [.token (d.parameterToken n)] := d.lexes_placeholder n

theorem spells_quoteName (name : String) :
    Spells d (d.quoteName name) [.token (d.nameToken name)] := d.lexes_quoteName name

/-- The point between the parts of a name. -/
def pointNest : Nest := signNest "."

/-- A name with a sign right behind it. -/
theorem spells_nameSign (name : String) {w s : String} {c : Char} (hw : w.toList = [c])
    (hc : c ∈ Dialect.nameEnds) {ns : List Nest} (h : Spells d s ns) :
    Spells d (d.quoteName name ++ w ++ s) (.token (d.nameToken name) :: signNest w :: ns) := by
  have hname := d.lexes_quoteName_sign name hc h
  rw [Spells]
  simpa [Nest.lexemesAll, Nest.lexemes, signNest, hw] using hname

theorem spells_qualified (name : String) {s : String} {ns : List Nest} (h : Spells d s ns) :
    Spells d (d.quoteName name ++ "." ++ s) (.token (d.nameToken name) :: pointNest :: ns) :=
  spells_nameSign name rfl (by decide) h

end

/-- The tokens of names with points between them. -/
def Dialect.pathNests (d : Dialect) : List String → List Nest
  | [] => []
  | [name] => [.token (d.nameToken name)]
  | name :: more => .token (d.nameToken name) :: pointNest :: d.pathNests more

/-- The names that a column is written with. -/
def Scope.path (s : Scope) (f : Field) : List String :=
  (if s.qualified then s.model.schema.toList ++ [s.dialect.tableName s.model] else []) ++
    [s.dialect.columnName f.column]

/-- **A column spells its names**, with points between them. -/
theorem spells_column (s : Scope) (f : Field) :
    Spells s.dialect (s.column f) (s.dialect.pathNests (s.path f)) := by
  have hcolumn : Spells s.dialect (s.dialect.quotedField f)
      [.token (s.dialect.nameToken (s.dialect.columnName f.column))] := spells_quoteName _
  have htable := spells_qualified (s.dialect.tableName s.model) hcolumn
  unfold Scope.column Scope.path Dialect.quotedTable Dialect.qualified
  split
  · split
    · rename_i schema hschema
      have hall := spells_qualified schema htable
      rw [hschema]
      simp only [String.append_assoc] at hall ⊢
      exact hall
    · rename_i hschema
      rw [hschema]
      exact htable
  · exact hcolumn

end ModelSql
