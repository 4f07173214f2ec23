/-
**Operands and functions of statements, read back.**

Literals, placeholders and columns are self-delimiting, and so is a function with its arguments.  What a
function writes is read as its tree as soon as its arguments are read as theirs.

Main definitions:

* `Applies` — a self-delimiting text made of one text, and **its tree**;
* `Dialect.trimTree`, `Dialect.trimStartTree`, `Dialect.substringTree`, … — the trees of functions.

Main results:

* `selfDelimiting_isLiteral`, `simple_pathNests` — literals and columns are self-delimiting;
* `applies_trim`, `applies_trimStart`, `applies_substring`, … — what functions write.
-/

import ModelSql.Dialect.Functions
import ModelSql.Proofs.Syntax.Tree

set_option relaxedAutoImplicit false
set_option autoImplicit false

namespace ModelSql

/-! ### Literals, placeholders and columns -/

/-- A token with a minus in front. -/
theorem ReadsAt.negativeLeaf {t : Token} (h : t.isOperand = true) :
    ReadsAt Precedence.negation [signNest "-", .token t]
      (some (.prefixed (.ofSign "-") (.leaf t))) :=
  ((ReadsAt.leaf h).mono (by decide)).negated

/-- **Literals are self-delimiting**, and each is read as a tree. -/
theorem selfDelimiting_isLiteral {ns : List Nest} (h : Nest.IsLiteral ns) :
    Nest.SelfDelimiting ns ∧ ∃ a, sqlGrammar.read ns = some a := by
  have hsimple {ms : List Nest} {k : Nat} {a : Tree} (hms : Nest.Simple ms)
      (hread : ReadsAt k ms (some a)) :
      Nest.SelfDelimiting ms ∧ ∃ a, sqlGrammar.read ms = some a := ⟨.inl hms, a, hread.read_eq⟩
  have hnegative {t : Token} (ht : t.isOperand = true) :
      Nest.SelfDelimiting [signNest "-", .token t] ∧
        ∃ a, sqlGrammar.read [signNest "-", .token t] = some a :=
    ⟨.inr ⟨[.token t], rfl, .token ht⟩, _, (ReadsAt.negativeLeaf ht).read_eq⟩
  cases h with
  | number cs =>
      have ht : (Token.number cs).isOperand = true := rfl
      exact hsimple (.token ht) (.leaf ht)
  | negative cs => exact hnegative rfl
  | @word cs h =>
      have hwords : ∀ w ∈ Literal.words, (Token.word w).isOperand = true := by decide
      exact hsimple (.token (hwords cs h)) (.leaf (hwords cs h))
  | infinity => exact hnegative (by decide)
  | text mark cs =>
      have ht : (Token.text mark cs).isOperand = true := rfl
      exact hsimple (.token ht) (.leaf ht)
  | uuid cs =>
      have ht : (Token.text [] cs).isOperand = true := rfl
      have htype : (Token.word "uuid".toList).isOperand = true := by decide
      have hread : ReadsAt Precedence.cast _ _ := ReadsAt.infixed
        (t := .sign [':', ':']) rfl (by decide) ((ReadsAt.leaf ht).mono (by decide))
        ((ReadsAt.leaf htype).mono (by decide))
      exact hsimple (.typed [] cs htype) hread
  | decode cs =>
      have ht (cs : List Char) : (Token.text [] cs).isOperand = true := rfl
      have hname : (Token.word "decode".toList).isOperand = true := by decide
      -- the arguments are read on their own, between the parentheses
      have hargs : ReadsAt 0 _ _ := ReadsAt.infixed
        (t := .sign [',']) rfl (by decide) ((ReadsAt.leaf (ht cs)).mono (by decide))
        ((ReadsAt.leaf (ht "hex".toList)).mono (by decide))
      exact hsimple (.call hname _) (hargs.call hname)
  | cast cs =>
      have ht : (Token.text [] cs).isOperand = true := rfl
      have htype : (Token.word "UNIQUEIDENTIFIER".toList).isOperand = true := by decide
      have hname : (Token.word "CAST".toList).isOperand = true := by decide
      have hargs : ReadsAt Precedence.word _ _ := ReadsAt.infixed
        (t := .word "AS".toList) rfl (by decide) ((ReadsAt.leaf ht).mono (by decide))
        ((ReadsAt.leaf htype).mono (by decide))
      exact hsimple (.call hname _) (hargs.call hname)

section

variable (d : Dialect)

theorem isOperand_nameToken (name : String) : (d.nameToken name).isOperand = true := by
  have hkey := isKeyword_nameToken d name
  unfold Dialect.nameToken at hkey ⊢
  split
  · rfl
  · rename_i hq
    rw [if_neg hq] at hkey
    simpa [Token.isOperand, Token.isKeyword, Token.operator?] using hkey

theorem isOperand_names (name : String) (names : List String) :
    ∀ x ∈ d.nameToken name :: names.map d.nameToken, x.isOperand = true := by
  intro x hx
  rw [← List.map_cons, List.mem_map] at hx
  obtain ⟨n, -, rfl⟩ := hx
  exact isOperand_nameToken d n

/-- The names of a column, with points between them. -/
theorem pathNests_eq_dotted (name : String) (names : List String) :
    d.pathNests (name :: names) = dotted (d.nameToken name) (names.map d.nameToken) := by
  induction names generalizing name with
  | nil => rfl
  | cons next names ih =>
      rw [Dialect.pathNests, ih]
      · simp [dotted]
      · simp

/-- **Names with points between them are self-delimiting**, and read as a tree. -/
theorem simple_pathNests {names : List String} (hne : names ≠ []) :
    Nest.Simple (d.pathNests names) ∧ ∃ a, sqlGrammar.read (d.pathNests names) = some a := by
  cases names with
  | nil => exact absurd rfl hne
  | cons name names =>
      have hall := isOperand_names d name names
      rw [pathNests_eq_dotted]
      exact ⟨.path hall, _, (ReadsAt.dotted hall).read_eq⟩

end

/-- **Columns are self-delimiting.** -/
theorem Scope.simple_column (s : Scope) (f : Field) :
    Nest.Simple (s.dialect.pathNests (s.path f)) ∧
      ∃ a, sqlGrammar.read (s.dialect.pathNests (s.path f)) = some a :=
  simple_pathNests s.dialect (by simp [Scope.path])

/-- A column starts with a name. -/
theorem Scope.exists_column (s : Scope) (f : Field) :
    ∃ name rest, s.column f = s.dialect.quoteName name ++ rest := by
  unfold Scope.column Dialect.quotedTable Dialect.qualified Dialect.quotedField
  split
  · split
    · rename_i schema _
      simp only [String.append_assoc]
      exact ⟨schema, _, rfl⟩
    · exact ⟨_, _, String.append_assoc⟩
  · exact ⟨_, "", String.append_empty.symm⟩

/-- What starts with a column does not start with a parenthesis. -/
theorem Scope.head_column (s : Scope) (f : Field) (t : String) :
    (s.column f ++ t).toList.head? ≠ some '(' := by
  obtain ⟨name, rest, hcolumn⟩ := s.exists_column f
  obtain ⟨c, cs, hcs, hc⟩ := head_quoteName s.dialect name
  rw [hcolumn, String.append_assoc, String.toList_append, hcs]
  simpa using hc

/-! ### Functions of one text -/

/-- A function with its argument. -/
def Tree.apply (f : String) (a : Tree) : Tree := .call f.toList a

/-- A list of two trees. -/
def Tree.pair (a b : Tree) : Tree := .infixed a (.ofSign ",") b

/-- **A self-delimiting text**; parentheses around it, if it has some, are where they are looked for. -/
structure Delimited (d : Dialect) (text : String) (ms : List Nest) : Prop where
  spells : Spells d text ms
  simple : Nest.Simple ms
  enclosed : Enclosed d text ms

/-- **A self-delimiting text made of a text**, that spells `ns`; its tree is `f` of the tree of `ns`. -/
def Applies (d : Dialect) (s : String) (ns : List Nest) (text : String) (f : Tree → Tree) : Prop :=
  ∃ ms, Delimited d text ms ∧ (Balanced s.toList → Neutral text.toList) ∧
    ∀ a, ReadsAt Precedence.condition ns (some a) → sqlGrammar.read ms = some (f a)

/-- Whether a name can be that of a function. -/
def isFunctionName (f : String) : Bool :=
  Text.isPlainName f.toList && (Token.word f.toList).isOperand

section

variable {d : Dialect} {s t : String} {ns ms : List Nest}

theorem spells_apply (f : String) (hf : isFunctionName f = true) (hs : Spells d s ns) :
    Spells d (f ++ "(" ++ s ++ ")") [wordNest f, .group ns] := by
  rw [isFunctionName, Bool.and_eq_true] at hf
  have hcall := Spells.call hf.1 hs
  rwa [← String.append_assoc, ← String.append_assoc] at hcall

theorem simple_apply {f : String} (hf : isFunctionName f = true) (ns : List Nest) :
    Nest.Simple [wordNest f, .group ns] := by
  rw [isFunctionName, Bool.and_eq_true] at hf
  exact .call hf.2 ns

theorem ReadsAt.apply (f : String) (hf : isFunctionName f = true) {a : Tree} {k : Nat}
    (h : ReadsAt k ns (some a)) :
    ReadsAt Precedence.operand [wordNest f, .group ns] (some (.apply f a)) := by
  rw [isFunctionName, Bool.and_eq_true] at hf
  exact h.call hf.2

theorem delimited_apply (f : String) (hf : isFunctionName f = true) (hs : Spells d s ns) :
    Delimited d (f ++ "(" ++ s ++ ")") [wordNest f, .group ns] := by
  refine ⟨spells_apply f hf hs, simple_apply hf ns, .bare (isWrapped_of_head ?_)⟩
  rw [isFunctionName, Bool.and_eq_true] at hf
  have htext : f ++ "(" ++ s ++ ")" = f ++ ("(" ++ s ++ ")") := by simp only [String.append_assoc]
  rw [htext, String.toList_append]
  exact (neutral_plainName hf.1).head_append _

theorem neutral_function (f : String) (hf : isFunctionName f = true) (h : Balanced s.toList) :
    Neutral (f ++ "(" ++ s ++ ")").toList := by
  rw [isFunctionName, Bool.and_eq_true] at hf
  exact neutral_apply hf.1 h

/-- **A function of something that is made of a text.** -/
theorem applies_of_args (f : String) (hf : isFunctionName f = true) {args : String}
    {ks : List Nest} {g : Tree → Tree} (hargs : Spells d args ks)
    (hbal : Balanced s.toList → Balanced args.toList)
    (hread : ∀ a, ReadsAt Precedence.condition ns (some a) → ReadsAt 0 ks (some (g a))) :
    Applies d s ns (f ++ "(" ++ args ++ ")") fun a => .apply f (g a) :=
  ⟨_, delimited_apply f hf hargs, fun h => neutral_function f hf (hbal h),
    fun a ha => ((hread a ha).apply f hf).read_eq⟩

theorem applies_apply (f : String) (hf : isFunctionName f = true) (hs : Spells d s ns) :
    Applies d s ns (Dialect.apply f s) (.apply f) :=
  applies_of_args f hf hs (fun h => h) fun _ h => h.mono (by decide)

/-- Two texts with a comma and a blank between them. -/
theorem Spells.list (hs : Spells d s ns) (ht : Spells d t ms) :
    Spells d (s ++ ", " ++ t) (ns ++ signNest "," :: ms) := by
  have hall := hs.append ht.space.comma (starts_comma _)
  have hcomma : ", " = "," ++ " " := by decide
  rwa [hcomma, String.append_assoc, String.append_assoc]

/-- A list of two trees is read from the left. -/
theorem ReadsAt.pair {a b : Tree} (ha : ReadsAt 0 ns (some a))
    (hb : ReadsAt Precedence.word ms (some b)) :
    ReadsAt 0 (ns ++ signNest "," :: ms) (some (.pair a b)) := ha.infixed rfl (by decide) hb

end

/-! ### Parts of texts -/

section

variable {d : Dialect} {s : String} {ns : List Nest}

/-- The tree of a text without blanks at its ends. -/
def Dialect.trimTree (d : Dialect) (a : Tree) : Tree :=
  match d.kind with
  | .sqlserver => .apply "LTRIM" (.apply "RTRIM" a)
  | _ => .apply "TRIM" a

theorem applies_trim (hs : Spells d s ns) : Applies d s ns (d.trim s) d.trimTree := by
  unfold Dialect.trim Dialect.trimTree
  cases d.kind with
  | sqlserver =>
      have hinner := spells_apply "RTRIM" (by decide) hs
      exact applies_of_args "LTRIM" (by decide) hinner
        (fun h => (neutral_function "RTRIM" (by decide) h).balanced)
        fun _ h => (h.apply "RTRIM" (by decide)).mono (by decide)
  | _ => exact applies_apply "TRIM" (by decide) hs

/-- The tree of a text without blanks at one end: `side` names the end where `TRIM` is told of it. -/
def Dialect.trimSideTree (d : Dialect) (side function : String) (a : Tree) : Tree :=
  match d.kind with
  | .firebird => .apply "TRIM" (.infixed (.leaf (.word side.toList)) (.ofWord "from") a)
  | _ => .apply function a

/-- The tree of a text without blanks at its start. -/
def Dialect.trimStartTree (d : Dialect) : Tree → Tree := d.trimSideTree "LEADING" "LTRIM"

/-- The tree of a text without blanks at its end. -/
def Dialect.trimEndTree (d : Dialect) : Tree → Tree := d.trimSideTree "TRAILING" "RTRIM"

/-- `TRIM` with the end that it is told of. -/
theorem applies_trimSide (side : String) (hside : isFunctionName side = true)
    (hs : Spells d s ns) :
    Applies d s ns ("TRIM" ++ "(" ++ (side ++ " " ++ "FROM" ++ " " ++ s) ++ ")") fun a =>
      .apply "TRIM" (.infixed (.leaf (.word side.toList)) (.ofWord "from") a) := by
  rw [isFunctionName, Bool.and_eq_true] at hside
  have hfrom : Spells d "FROM" [wordNest "FROM"] := .word (by decide)
  have hneutral := neutral_plainName hside.1
  refine applies_of_args "TRIM" (by decide) (.infixed hfrom (.word hside.1) hs)
    (fun h => hneutral.balanced.infixed (.quiet (by decide)) h) fun a ha => ?_
  have hword := (ReadsAt.leaf hside.2).mono (by decide : Precedence.word ≤ _)
  exact (hword.infixed rfl (by decide) ha).mono (by decide)

theorem applies_trimStart (hs : Spells d s ns) :
    Applies d s ns (d.trimStart s) d.trimStartTree := by
  unfold Dialect.trimStart Dialect.trimStartTree Dialect.trimSideTree
  cases d.kind with
  | firebird =>
      have htext : "TRIM(LEADING FROM " = "TRIM" ++ "(" ++ ("LEADING" ++ " " ++ "FROM" ++ " ") := by
        decide
      have happ := applies_trimSide "LEADING" (by decide) hs
      rw [← String.append_assoc, ← htext] at happ
      exact happ
  | _ => exact applies_apply "LTRIM" (by decide) hs

theorem applies_trimEnd (hs : Spells d s ns) : Applies d s ns (d.trimEnd s) d.trimEndTree := by
  unfold Dialect.trimEnd Dialect.trimEndTree Dialect.trimSideTree
  cases d.kind with
  | firebird =>
      have htext : "TRIM(TRAILING FROM " = "TRIM" ++ "(" ++ ("TRAILING" ++ " " ++ "FROM" ++ " ") := by
        decide
      have happ := applies_trimSide "TRAILING" (by decide) hs
      rw [← String.append_assoc, ← htext] at happ
      exact happ
  | _ => exact applies_apply "RTRIM" (by decide) hs

/-! ### Numbers and substrings -/

/-- The tokens of an integer. -/
def intNests (n : Int) : List Nest :=
  (if n < 0 then [signNest "-"] else []) ++ [.token (.number (Nat.toDigits 10 n.natAbs))]

/-- The tree of an integer. -/
def Tree.int (n : Int) : Tree :=
  let digits := .leaf (.number (Nat.toDigits 10 n.natAbs))
  if n < 0 then .prefixed (.ofSign "-") digits else digits

theorem spells_int (n : Int) : Spells d (toString n) (intNests n) := by
  have hdigits (m : Nat) : Spells d (Nat.repr m) [.token (.number (Nat.toDigits 10 m))] := by
    rw [Spells, Nat.repr_eq_ofList_toDigits, String.toList_ofList]
    exact lexes_isNumeral (Literal.isNumeral_toDigits m)
  cases n with
  | ofNat m => exact hdigits m
  | negSucc m =>
      rw [intNests, if_pos (Int.negSucc_lt_zero m)]
      exact (hdigits (m + 1)).negative

theorem balanced_int (n : Int) : Balanced (toString n).toList :=
  (neutral_form (Literal.Form.int (d := DialectKind.sqlite.dialect) n)).balanced

/-- An integer is read with its sign, where a minus in front of an operand is. -/
theorem reads_intNests {levels : List Level} (hlevels : ∀ l ∈ levels, l.isNamed = true) {k : Nat}
    (hk : levels[k]? = some (.before (.ofSign "-")))
    (hlow : Level.before (.ofSign "-") ∉ levels.take k) (n : Int) :
    (treeGrammar levels).ReadsAt k (intNests n) (some (.int n)) := by
  have ht : (Token.number (Nat.toDigits 10 n.natAbs)).isOperand = true := rfl
  have hdigits := Grammar.ReadsAt.of_reads (reads_leaf hlevels ht)
  unfold intNests Tree.int
  split
  · exact Grammar.ReadsAt.prefixed (t := .sign ['-']) rfl hk hlow (hdigits (k + 1))
  · exact hdigits k

theorem reads_int (n : Int) : ReadsAt Precedence.negation (intNests n) (some (.int n)) :=
  reads_intNests isNamed_of_mem_levels rfl (by decide) n

/-- The integer that a tree is. -/
def Tree.int? : Tree → Option Int
  | .leaf (.number cs) => if cs.all Char.isDigit then some (Nat.ofDigitChars 10 cs 0) else none
  | .prefixed (.sign ['-']) (.leaf (.number cs)) =>
    if cs.all Char.isDigit then some (-Nat.ofDigitChars 10 cs 0) else none
  | _ => none

/-- **An integer is read back.** -/
theorem Tree.int?_int (n : Int) : (Tree.int n).int? = some n := by
  have hdigits : (Nat.toDigits 10 n.natAbs).all Char.isDigit = true :=
    List.all_eq_true.2 fun _ => Text.isDigit_of_mem_toDigits
  unfold Tree.int
  dsimp only
  split
  · rename_i hn
    have hneg : Op.ofSign "-" = .sign ['-'] := rfl
    rw [hneg, int?, if_pos hdigits, Nat.ofDigitChars_ten_toDigits, Option.some.injEq]
    omega
  · rename_i hn
    rw [int?, if_pos hdigits, Nat.ofDigitChars_ten_toDigits, Option.some.injEq]
    omega

/-- The tree of a part of a text. -/
def Dialect.substringTree (d : Dialect) (start : Int) (length : Option Int) (a : Tree) : Tree :=
  match d.kind with
  | .firebird | .postgres =>
    let rest := .infixed a (.ofWord "from") (.int start)
    .apply "SUBSTRING" (match length with
      | some n => .infixed rest (.ofWord "for") (.int n)
      | none => rest)
  | _ =>
    let rest := .pair a (.int start)
    .apply (if d.kind = .sqlite then "SUBSTR" else "SUBSTRING") (match length with
      | some n => .pair rest (.int n)
      | none => if d.kind = .sqlserver then .pair rest (.apply "LEN" a) else rest)

/-- The words of `SUBSTRING` between its arguments. -/
theorem applies_substringWords (hs : Spells d s ns) (start : Int) (length : Option Int) :
    Applies d s ns ("SUBSTRING(" ++ s ++ " FROM " ++ toString start ++
      (match length with
        | some n => " FOR " ++ toString n
        | none => "") ++ ")") fun a =>
      let rest := .infixed a (.ofWord "from") (.int start)
      .apply "SUBSTRING" (match length with
        | some n => .infixed rest (.ofWord "for") (.int n)
        | none => rest) := by
  have hname : "SUBSTRING(" = "SUBSTRING" ++ "(" := by decide
  have hfrom : " FROM " = " " ++ "FROM" ++ " " := by decide
  have hfor : " FOR " = " " ++ "FOR" ++ " " := by decide
  have hspell : Spells d (s ++ " FROM " ++ toString start)
      (ns ++ wordNest "FROM" :: intNests start) := by
    have hw : Spells d "FROM" [wordNest "FROM"] := .word (by decide)
    rw [hfrom, ← String.append_assoc, ← String.append_assoc]
    exact .infixed hw hs (spells_int start)
  have hbal (h : Balanced s.toList) : Balanced (s ++ " FROM " ++ toString start).toList :=
    h.around (by decide) (balanced_int start)
  have hread (a : Tree) (ha : ReadsAt Precedence.condition ns (some a)) :
      ReadsAt Precedence.word (ns ++ wordNest "FROM" :: intNests start)
        (some (.infixed a (.ofWord "from") (.int start))) :=
    (ha.mono (by decide)).infixed rfl (by decide) ((reads_int start).mono (by decide))
  cases length with
  | none =>
      have happ := applies_of_args "SUBSTRING" (by decide) hspell hbal fun a ha =>
        (hread a ha).mono (by decide)
      simpa only [hname, String.append_assoc, String.append_empty] using happ
  | some n =>
      have hw : Spells d "FOR" [wordNest "FOR"] := .word (by decide)
      have hfull (a : Tree) (ha : ReadsAt Precedence.condition ns (some a)) :
          ReadsAt Precedence.word _ (some (.infixed (.infixed a (.ofWord "from") (.int start))
            (.ofWord "for") (.int n))) :=
        (hread a ha).infixed (t := .word "FOR".toList) rfl (by decide) ((reads_int n).mono (by decide))
      have happ := applies_of_args "SUBSTRING" (by decide) (.infixed hw hspell (spells_int n))
        (fun h => (hbal h).infixed (.quiet (by decide)) (balanced_int n))
        fun a ha => (hfull a ha).mono (by decide)
      simpa only [hname, hfor, String.append_assoc] using happ

/-- A function of a text and an integer. -/
theorem applies_position (f : String) (hf : isFunctionName f = true) (hs : Spells d s ns)
    (start : Int) :
    Applies d s ns (f ++ "(" ++ (s ++ ", " ++ toString start) ++ ")") fun a =>
      .apply f (.pair a (.int start)) :=
  applies_of_args f hf (hs.list (spells_int start))
    (fun h => h.around (by decide) (balanced_int start)) fun _ ha =>
      (ha.mono (by decide)).pair ((reads_int start).mono (by decide))

/-- A function of a text, an integer, and something else that is made of the text. -/
theorem applies_range (f : String) (hf : isFunctionName f = true) (hs : Spells d s ns) (start : Int)
    {t : String} {ms : List Nest} {g : Tree → Tree} (ht : Spells d t ms)
    (hbal : Balanced s.toList → Balanced t.toList)
    (hread : ∀ a, ReadsAt Precedence.condition ns (some a) →
      ReadsAt Precedence.word ms (some (g a))) :
    Applies d s ns (f ++ "(" ++ (s ++ ", " ++ toString start ++ ", " ++ t) ++ ")") fun a =>
      .apply f (.pair (.pair a (.int start)) (g a)) :=
  applies_of_args f hf ((hs.list (spells_int start)).list ht)
    (fun h => (h.around (by decide) (balanced_int start)).around (by decide) (hbal h))
    fun a ha => ((ha.mono (by decide)).pair ((reads_int start).mono (by decide))).pair (hread a ha)

/-- **A part of a text**, in the form of each database. -/
theorem applies_substring (hs : Spells d s ns) (start : Int) (length : Option Int) :
    Applies d s ns (d.substring s start length) (d.substringTree start length) := by
  have hname : "SUBSTRING(" = "SUBSTRING" ++ "(" := by decide
  have hshort : "SUBSTR(" = "SUBSTR" ++ "(" := by decide
  have hint (n a) (_ : ReadsAt Precedence.condition ns (some a)) :
      ReadsAt Precedence.word (intNests n) (some (.int n)) := (reads_int n).mono (by decide)
  have hlength (n : Int) (_ : Balanced s.toList) : Balanced (toString n).toList :=
    balanced_int n
  -- SQL Server has no substring to the end and is given the whole length
  have hlen (a) (ha : ReadsAt Precedence.condition ns (some a)) :
      ReadsAt Precedence.word [wordNest "LEN", .group ns] (some (.apply "LEN" a)) :=
    (ha.apply "LEN" (by decide)).mono (by decide)
  unfold Dialect.substring Dialect.substringTree
  cases d.kind with
  | firebird => exact applies_substringWords hs start length
  | postgres => exact applies_substringWords hs start length
  | mysql =>
      cases length with
      | none =>
          have happ := applies_position "SUBSTRING" (by decide) hs start
          simpa [hname, String.append_assoc] using happ
      | some n =>
          have happ := applies_range "SUBSTRING" (by decide) hs start (spells_int n) (hlength n) (hint n)
          simpa [hname, String.append_assoc] using happ
  | sqlserver =>
      cases length with
      | none =>
          have happ := applies_range "SUBSTRING" (by decide) hs start
            (spells_apply "LEN" (by decide) hs)
            (fun h => (neutral_function "LEN" (by decide) h).balanced) hlen
          simpa [hname, Dialect.apply, String.append_assoc] using happ
      | some n =>
          have happ := applies_range "SUBSTRING" (by decide) hs start (spells_int n) (hlength n) (hint n)
          simpa [hname, String.append_assoc] using happ
  | sqlite =>
      cases length with
      | none =>
          have happ := applies_position "SUBSTR" (by decide) hs start
          simpa [hshort, String.append_assoc] using happ
      | some n =>
          have happ := applies_range "SUBSTR" (by decide) hs start (spells_int n) (hlength n) (hint n)
          simpa [hshort, String.append_assoc] using happ

end

end ModelSql
