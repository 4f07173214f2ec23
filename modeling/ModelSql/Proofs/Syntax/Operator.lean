/-
**Operators of statements, read back.**

An operator on operands stands between them, with parentheses around, or is a function of both; either is
self-delimiting, and is read as its tree as soon as its operands are read as theirs.  The tests that bring
no parentheses are spelled here too, and lists with commas.

Main definitions:

* `Combines` — a self-delimiting text made of two texts, and **its tree**;
* `Dialect.operatorText`, `Dialect.operatorTree` — an operator on operands, and its tree;
* `Tree.items`, `Nest.items` — trees and lists with commas between them.

Main results:

* `combines_infixText`, `combines_apply` — an operator between operands, and a function of both;
* `combines_operator` — **what every operator on operands writes**;
* `ReadsAt.items` — lists with commas are read from the left.
-/

import ModelSql.Proofs.Syntax.Function

set_option relaxedAutoImplicit false
set_option autoImplicit false

namespace ModelSql

/-! ### Operators -/

/-- **A self-delimiting text made of two**, that spell `ns` and `ms`; its tree is `f` of their trees,
which have to be read at a level. -/
def Combines (d : Dialect) (k : Nat) (s : String) (ns : List Nest) (t : String) (ms : List Nest)
    (text : String) (f : Tree → Tree → Tree) : Prop :=
  ∃ ks, Delimited d text ks ∧ (Balanced s.toList → Balanced t.toList → Framed text.toList) ∧
    ∀ a b, ReadsAt k ns (some a) → ReadsAt k ms (some b) → sqlGrammar.read ks = some (f a b)

section

variable {d : Dialect} {s t : String} {ns ms : List Nest}

theorem infixText_eq (s sign t : String) :
    Dialect.infixText s sign t = "(" ++ (s ++ " " ++ sign ++ " " ++ t) ++ ")" := by
  simp only [Dialect.infixText, String.append_assoc]

/-- Something between two texts, in parentheses. -/
theorem delimited_infixText {sign : String} {n : Nest} (hsign : Spells d sign [n])
    (hs : Spells d s ns) (ht : Spells d t ms) :
    Delimited d (Dialect.infixText s sign t) [.group (ns ++ n :: ms)] := by
  have hinner := Spells.infixed hsign hs ht
  rw [infixText_eq]
  exact ⟨hinner.group, .group _, .group rfl hinner rfl⟩

theorem framed_infixText {sign : String} (hsign : sign.toList.all isQuiet = true)
    (hs : Balanced s.toList) (ht : Balanced t.toList) :
    Framed (Dialect.infixText s sign t).toList := by
  rw [infixText_eq, String.toList_append, String.toList_append]
  exact .group (hs.infixed (.quiet hsign) ht)

/-- **An operator between two operands**, in parentheses. -/
theorem combines_infixText {sign : String} {x : Token} {op : Op} {k : Nat}
    (hsign : Spells d sign [.token x]) (hquiet : sign.toList.all isQuiet = true)
    (hx : x.operator? = some op) (hop : sqlGrammar.isAt op k = true) (hk : k < Precedence.negation)
    (hs : Spells d s ns) (ht : Spells d t ms) :
    Combines d Precedence.negation s ns t ms (Dialect.infixText s sign t) fun a b =>
      .infixed a op b := by
  refine ⟨_, delimited_infixText hsign hs ht, framed_infixText hquiet, fun a b ha hb => ?_⟩
  have hread := (ha.mono (Nat.le_of_lt hk)).infixed hx hop (hb.mono hk)
  rw [(ReadsAt.group _).read_eq, hread.read_eq]
  rfl

/-- **A function of two texts**, with a comma between them. -/
theorem combines_apply (f : String) (hf : isFunctionName f = true) {args : String}
    (hargs : Spells d args (ns ++ signNest "," :: ms))
    (hbal : Balanced s.toList → Balanced t.toList → Balanced args.toList) :
    Combines d Precedence.condition s ns t ms (f ++ "(" ++ args ++ ")") fun a b =>
      .apply f (.pair a b) := by
  refine ⟨_, delimited_apply f hf hargs,
    fun hs ht => .of_neutral (neutral_function f hf (hbal hs ht)), fun a b ha hb => ?_⟩
  exact (((ha.mono (by decide)).pair (hb.mono (by decide))).apply f hf).read_eq

/-- A membership in a list. -/
theorem spells_in (hs : Spells d s ns) (ht : Spells d t ms) :
    Spells d (s ++ " IN (" ++ t ++ ")") (ns ++ wordNest "IN" :: [.group ms]) := by
  have hword : Spells d "IN" [wordNest "IN"] := .word (by decide)
  have hsplit : " IN (" = " " ++ ("IN" ++ (" " ++ "(")) := by decide
  have hall := Spells.infixed hword hs ht.group
  simpa only [hsplit, String.append_assoc] using hall

/-- A comparison of a text with a pattern. -/
theorem spells_like (hs : Spells d s ns) (ht : Spells d t ms) :
    Spells d (s ++ " LIKE " ++ t) (ns ++ wordNest "LIKE" :: ms) := by
  have hword : Spells d "LIKE" [wordNest "LIKE"] := .word (by decide)
  have hsplit : " LIKE " = " " ++ ("LIKE" ++ " ") := by decide
  have hall := Spells.infixed hword hs ht
  simpa only [hsplit, String.append_assoc] using hall

theorem spells_sign {w : String} (h : ∀ escapes, Lexer.Feeds escapes .blank w.toList [] (.sign w.toList)) :
    Spells d w [signNest w] := .sign (h d.escapes)

/-- The tokens of a condition that always holds, or never. -/
def truthNests (b : Bool) : List Nest :=
  [.token (.number ['1']), signNest "=", .token (.number [if b then '1' else '0'])]

theorem spells_truth (b : Bool) : Spells d (if b then "1=1" else "1=0") (truthNests b) := by
  cases b with
  | true =>
      have hfeeds : Lexer.Feeds d.escapes .blank "1=1".toList
          [.token (.number ['1']), .token (.sign ['='])] (.number ['1']) := fun _ => rfl
      exact .of_feeds hfeeds rfl
  | false =>
      have hfeeds : Lexer.Feeds d.escapes .blank "1=0".toList
          [.token (.number ['1']), .token (.sign ['='])] (.number ['0']) := fun _ => rfl
      exact .of_feeds hfeeds rfl

/-- A comparison without parentheses. -/
theorem spells_equal (hs : Spells d s ns) (ht : Spells d t ms) :
    Spells d (s ++ " = " ++ t) (ns ++ signNest "=" :: ms) := by
  have hsign : Spells d "=" [signNest "="] := spells_sign fun _ _ => rfl
  have hsplit : " = " = " " ++ ("=" ++ " ") := by decide
  have hall := Spells.infixed hsign hs ht
  simpa only [hsplit, String.append_assoc] using hall

/-- A `NOT` in front of a text. -/
theorem spells_not (hs : Spells d s ns) : Spells d ("NOT " ++ s) (wordNest "NOT" :: ns) := by
  have hword : Spells d "NOT" [wordNest "NOT"] := .word (by decide)
  have hsplit : "NOT " = "NOT" ++ " " := by decide
  rw [hsplit, String.append_assoc]
  exact hword.append hs.space (Spells.starts_space _)

/-- The tokens of a test for null, or for something else. -/
def nullNests (op : BinaryOp) : List Nest :=
  wordNest "IS" :: if op = .eq then [wordNest "NULL"] else [wordNest "NOT", wordNest "NULL"]

theorem spells_isNull (op : BinaryOp) (hs : Spells d s ns) :
    Spells d (s ++ (if op = .eq then " IS NULL" else " IS NOT NULL")) (ns ++ nullNests op) := by
  have his : Spells d "IS" [wordNest "IS"] := .word (by decide)
  have hnull : Spells d "NULL" [wordNest "NULL"] := .word (by decide)
  unfold nullNests
  split
  · have hsplit : " IS NULL" = " " ++ ("IS" ++ (" " ++ "NULL")) := by decide
    have hall := Spells.infixed his hs hnull
    simpa only [hsplit, String.append_assoc] using hall
  · have hsplit : " IS NOT NULL" = " " ++ ("IS" ++ (" " ++ "NOT NULL")) := by decide
    have hall := Spells.infixed his hs (spells_not hnull)
    have htext : "NOT " ++ "NULL" = "NOT NULL" := by decide
    simpa only [hsplit, htext, String.append_assoc] using hall

theorem spells_nullTest (op : BinaryOp) (hs : Spells d s ns) :
    Spells d ("(" ++ s ++ (if op = .eq then " IS NULL" else " IS NOT NULL") ++ ")")
      [.group (ns ++ nullNests op)] := by
  have hall := (spells_isNull op hs).group
  rwa [← String.append_assoc] at hall

/-! ### Trees of tests -/

/-- The word `NULL` as a tree. -/
def Tree.null : Tree := .leaf (.word "NULL".toList)

/-- The condition that always holds, or never. -/
def Tree.truth (b : Bool) : Tree :=
  .infixed (.leaf (.number ['1'])) (.ofSign "=") (.leaf (.number [if b then '1' else '0']))

/-- A test for null, or for something else. -/
def Tree.nullTest (op : BinaryOp) (a : Tree) : Tree :=
  .infixed a (.ofWord "is") (if op = .eq then null else .prefixed (.ofWord "not") null)

/-- A string match in upper case. -/
def Tree.like (a pattern : Tree) : Tree := .infixed (.apply "UPPER" a) (.ofWord "like") pattern

/-- A membership in a list. -/
def Tree.member (a list : Tree) : Tree := .infixed a (.ofWord "in") list

namespace ReadsAt

open Precedence

variable {a x : Tree}

theorem truth (b : Bool) : ReadsAt comparison (truthNests b) (some (.truth b)) := by
  have hdigit (cs : List Char) : ReadsAt operand [.token (.number cs)] (some (.leaf (.number cs))) :=
    .leaf rfl
  exact ((hdigit ['1']).mono (by decide)).infixed (t := .sign ['=']) rfl (by decide)
    ((hdigit _).mono (by decide))

theorem like (ha : ReadsAt condition ns (some a)) (hx : ReadsAt negation ms (some x)) :
    ReadsAt comparison ([wordNest "UPPER", .group ns] ++ wordNest "LIKE" :: ms)
      (some (.like a x)) := by
  have hupper := ha.apply "UPPER" (by decide)
  exact (hupper.mono (by decide)).infixed (t := .word "LIKE".toList) rfl (by decide)
    (hx.mono (by decide))

theorem member (ha : ReadsAt comparison ns (some a)) (hx : sqlGrammar.read ms = some x) :
    ReadsAt comparison (ns ++ wordNest "IN" :: [.group ms]) (some (.member a x)) := by
  have hgroup := ReadsAt.group ms
  rw [hx] at hgroup
  exact ha.infixed (t := .word "IN".toList) rfl (by decide) (hgroup.mono (by decide))

/-- **A test for null**; the `NOT` of the other test stands behind an infix operator, where no level looks
for it. -/
theorem nullTest (op : BinaryOp) (ha : ReadsAt comparison ns (some a)) :
    ReadsAt comparison (ns ++ nullNests op) (some (.nullTest op a)) := by
  have hnull : ReadsAt operand [wordNest "NULL"] (some .null) := .leaf (by decide)
  unfold nullNests Tree.nullTest
  split
  · exact ha.infixed (t := .word "IS".toList) rfl (by decide) (hnull.mono (by decide))
  · have hitems : sqlGrammar.items true [wordNest "NOT", wordNest "NULL"] =
        [.before (.ofWord "not"), .leaf (.word "NULL".toList)] := by
      rfl
    have hread : sqlGrammar.readFrom (sqlLevels.drop 6)
        (sqlGrammar.items true [wordNest "NOT", wordNest "NULL"]) =
          some (.prefixed (.ofWord "not") .null) := by
      rfl
    obtain ⟨ops, hmem, hdrop, -, hlow⟩ := Grammar.eq_of_isAt
      (by decide : sqlGrammar.isAt (Op.ofWord "is") comparison = true)
    have hlevels : sqlLevels.drop comparison = .between ops :: sqlLevels.drop (comparison + 1) := hdrop
    unfold ReadsAt at ha ⊢
    rw [hlevels] at ha ⊢
    refine ha.infixed_of_passes ?_ hread rfl rfl hmem hlow
    intro os _ op _ hbetween
    rw [hitems] at hbetween
    simp at hbetween

end ReadsAt

/-! ### Operators on operands -/

/-- The token of an operator. -/
def BinaryOp.token (op : BinaryOp) : Token :=
  if op.isLogical then .word op.sign.toList else .sign op.sign.toList

theorem spells_operator {op : BinaryOp} (h : op ≠ .coalesce) :
    Spells d op.sign [.token op.token] := by
  cases op with
  | coalesce => exact absurd rfl h
  | and => exact .word (by decide)
  | or => exact .word (by decide)
  | _ => exact spells_sign fun _ _ => rfl

/-- Whether an operator on operands is written between them; `text` if one of them is known to be a
text. -/
def Dialect.isInfix (d : Dialect) (op : BinaryOp) (text : Bool) : Bool :=
  match op with
  | .coalesce => false
  | .add => !(text && d.kind == .mysql)
  | .mod => d.kind == .sqlserver || d.kind == .sqlite
  | _ => true

/-- An operator on operands. -/
def Dialect.operatorText (d : Dialect) (op : BinaryOp) (text : Bool) (left right : String) : String :=
  match op with
  | .add => if text then d.concat left right else infixText left op.sign right
  | .mod => d.modulo left right
  | .coalesce => d.coalesce left right
  | op => if op.isBitwise then d.bitwise op left right else infixText left op.sign right

/-- The tree of an operator on operands that are no conditions and no bits. -/
def Dialect.operatorTree (d : Dialect) (op : BinaryOp) (text : Bool) (a b : Tree) : Tree :=
  match op with
  | .coalesce => .apply "COALESCE" (.pair a b)
  | .mod => if d.isInfix op text then .infixed a (.ofSign "%") b else .apply "MOD" (.pair a b)
  | .add =>
    if text then
      match d.kind with
      | .mysql => .apply "CONCAT" (.pair a b)
      | .sqlserver => .infixed a (.ofSign "+") b
      | _ => .infixed a (.ofSign "||") b
    else .infixed a (.ofSign "+") b
  | op => .infixed a (.ofSign op.sign) b

/-- The level that operands have to be read at. -/
def Dialect.operandLevel (d : Dialect) (op : BinaryOp) (text : Bool) : Nat :=
  if d.isInfix op text then Precedence.negation else Precedence.condition

theorem combines_coalesce (hs : Spells d s ns) (ht : Spells d t ms) :
    Combines d Precedence.condition s ns t ms (d.coalesce s t) fun a b =>
      .apply "COALESCE" (.pair a b) := by
  have hname : "COALESCE(" = "COALESCE" ++ "(" := by decide
  have hcomb := combines_apply "COALESCE" (by decide) (hs.pair ht) fun h h' => h.around (by decide) h'
  simpa only [Dialect.coalesce, hname, String.append_assoc] using hcomb

theorem combines_modulo (text : Bool) (hs : Spells d s ns) (ht : Spells d t ms) :
    Combines d (d.operandLevel .mod text) s ns t ms (d.modulo s t) (d.operatorTree .mod text) := by
  have hname : "MOD(" = "MOD" ++ "(" := by decide
  have hsign : Spells d "%" [signNest "%"] := spells_sign fun _ _ => rfl
  have hbetween := combines_infixText (k := 8) hsign (by decide) rfl (by decide) (by decide) hs ht
  have happly := combines_apply "MOD" (by decide) (hs.pair ht) fun h h' => h.around (by decide) h'
  unfold Dialect.modulo Dialect.operandLevel Dialect.operatorTree Dialect.isInfix
  cases d.kind with
  | sqlserver => exact hbetween
  | sqlite => exact hbetween
  | _ => simpa [hname, String.append_assoc] using happly

theorem combines_concat (hs : Spells d s ns) (ht : Spells d t ms) :
    Combines d (d.operandLevel .add true) s ns t ms (d.concat s t) (d.operatorTree .add true) := by
  have hname : "CONCAT(" = "CONCAT" ++ "(" := by decide
  have hplus : Spells d "+" [signNest "+"] := spells_sign fun _ _ => rfl
  have hbars : Spells d "||" [signNest "||"] := spells_sign fun _ _ => rfl
  have hsum := combines_infixText (k := 7) hplus (by decide) rfl (by decide) (by decide) hs ht
  have hjoin := combines_infixText (k := 6) hbars (by decide) rfl (by decide) (by decide) hs ht
  have happly := combines_apply "CONCAT" (by decide) (hs.list ht) fun h h' => h.around (by decide) h'
  unfold Dialect.concat Dialect.operandLevel Dialect.operatorTree Dialect.isInfix
  cases d.kind with
  | mysql => simpa [hname, String.append_assoc] using happly
  | sqlserver => exact hsum
  | _ => exact hjoin

/-- The level of the sign of an operator. -/
def BinaryOp.level (op : BinaryOp) : Nat :=
  match op with
  | .add | .sub => 7
  | .mul | .div => 8
  | _ => Precedence.comparison

/-- **An operator on operands**, in the form of each database. -/
theorem combines_operator {op : BinaryOp} (hlogical : op.isLogical = false)
    (hbits : op.isBitwise = false) (text : Bool) (hs : Spells d s ns) (ht : Spells d t ms) :
    Combines d (d.operandLevel op text) s ns t ms (d.operatorText op text s t)
      (d.operatorTree op text) := by
  -- most operators stand between their operands in every database
  have hsign (op : BinaryOp) (hne : op ≠ .coalesce)
      (hop : op.token.operator? = some (.ofSign op.sign) ∧ sqlGrammar.isAt (.ofSign op.sign) op.level = true ∧
        op.level < Precedence.negation ∧ op.sign.toList.all isQuiet = true) :
      Combines d Precedence.negation s ns t ms (Dialect.infixText s op.sign t) fun a b =>
        .infixed a (.ofSign op.sign) b :=
    combines_infixText (spells_operator hne) hop.2.2.2 hop.1 hop.2.1 hop.2.2.1 hs ht
  cases op with
  | and | or => cases hlogical
  | bitAnd | bitOr | bitXor | shl | shr => cases hbits
  | mod => exact combines_modulo text hs ht
  | coalesce => exact combines_coalesce hs ht
  | add =>
      cases text with
      | true => exact combines_concat hs ht
      | false => exact hsign .add (by decide) (by decide)
  | sub => exact hsign .sub (by decide) (by decide)
  | mul => exact hsign .mul (by decide) (by decide)
  | div => exact hsign .div (by decide) (by decide)
  | eq => exact hsign .eq (by decide) (by decide)
  | ne => exact hsign .ne (by decide) (by decide)
  | gt => exact hsign .gt (by decide) (by decide)
  | ge => exact hsign .ge (by decide) (by decide)
  | lt => exact hsign .lt (by decide) (by decide)
  | le => exact hsign .le (by decide) (by decide)

/-- **An operator on bits is self-delimiting** in every database. -/
theorem exists_bitwise {op : BinaryOp} (hbits : op.isBitwise = true) (hs : Spells d s ns)
    (ht : Spells d t ms) : ∃ ks, Spells d (d.bitwise op s t) ks ∧ Nest.Simple ks := by
  have hbetween {sign : String} {l r : String} {ls rs : List Nest}
      (hsign : Spells d sign [signNest sign]) (hl : Spells d l ls) (hr : Spells d r rs) :
      ∃ ks, Spells d (Dialect.infixText l sign r) ks ∧ Nest.Simple ks :=
    ⟨_, (delimited_infixText hsign hl hr).spells, .group _⟩
  have happly (f : String) (hf : isFunctionName f = true) :
      ∃ ks, Spells d (f ++ "(" ++ s ++ ", " ++ t ++ ")") ks ∧ Nest.Simple ks := by
    have hall := spells_apply f hf (hs.list ht)
    rw [← String.append_assoc, ← String.append_assoc] at hall
    exact ⟨_, hall, simple_apply hf _⟩
  have hpower : Spells d ("POWER(2, " ++ t ++ ")")
      [wordNest "POWER", .group (intNests 2 ++ signNest "," :: ms)] := by
    have hname : "POWER(2, " = "POWER" ++ "(" ++ (toString (2 : Int) ++ ", ") := by decide
    have hall := spells_apply "POWER" (by decide) ((spells_int 2).list ht)
    rwa [← String.append_assoc, ← hname] at hall
  have hfunction : isFunctionName (Dialect.bitFunction op) = true := by
    cases op <;> decide
  have hsign : Spells d op.sign [signNest op.sign] := by
    cases op with
    | bitAnd | bitOr | bitXor | shl | shr => exact spells_sign fun _ _ => rfl
    | _ => cases hbits
  -- the cases are those of the databases that have no such sign
  unfold Dialect.bitwise
  split
  · exact happly _ hfunction
  · exact hbetween (spells_sign fun _ _ => rfl) hs ht
  · exact hbetween (spells_sign fun _ _ => rfl)
      (delimited_infixText (spells_sign fun _ _ => rfl) hs ht).spells
      (delimited_infixText (spells_sign fun _ _ => rfl) hs ht).spells
  · exact hbetween (spells_sign fun _ _ => rfl) hs hpower
  · exact hbetween (spells_sign fun _ _ => rfl) hs hpower
  · exact hbetween hsign hs ht

end

/-! ### Lists -/

/-- Trees with commas between them; no tree at all is `NULL`. -/
def Tree.items : List Tree → Tree
  | [] => null
  | a :: as => as.foldl pair a

/-- Lists with commas between them. -/
def Nest.items : List (List Nest) → List Nest
  | [] => []
  | ns :: nss => nss.foldl (fun ms ns => ms ++ signNest "," :: ns) ns

/-- The first two of some texts may be put together. -/
theorem joinWith_merge (sep s t : String) (ts : List String) :
    Text.joinWith sep (s :: t :: ts) = Text.joinWith sep ((s ++ sep ++ t) :: ts) := by
  cases ts with
  | nil => rfl
  | cons u ts => simp only [Text.joinWith_cons_cons, String.append_assoc]

section

variable {d : Dialect} {ts : List String} {nss : List (List Nest)} {as : List Tree}

theorem spells_items (h : List.Forall₂ (Spells d) ts nss) :
    Spells d (Text.joinWith "," ts) (Nest.items nss) := by
  -- the first two texts are put together, so that the texts read so far are always the first one
  cases h with
  | nil => exact .empty
  | @cons t ns ts nss ht hts =>
      rw [Nest.items]
      induction hts generalizing t ns with
      | nil => exact ht
      | cons hu _ ih =>
          rw [joinWith_merge, List.foldl_cons]
          exact ih (ht.pair hu)

theorem balanced_items (h : ∀ t ∈ ts, Balanced t.toList) :
    Balanced (Text.joinWith "," ts).toList := by
  induction ts with
  | nil => exact .nil
  | cons t ts ih =>
      have ht := h t List.mem_cons_self
      have hts := ih fun u hu => h u (List.mem_cons_of_mem t hu)
      cases ts with
      | nil => exact ht
      | cons u ts =>
          rw [Text.joinWith_cons_cons]
          exact ht.around (by decide) hts

/-- **Lists with commas between them are read from the left.** -/
theorem ReadsAt.items (h : List.Forall₂ (fun ns a => ReadsAt Precedence.word ns (some a)) nss as)
    (hne : nss ≠ []) : ReadsAt 0 (Nest.items nss) (some (Tree.items as)) := by
  cases h with
  | nil => exact absurd rfl hne
  | @cons ns a nss as ha has =>
      have hfirst : ReadsAt 0 ns (some a) := ha.mono (Nat.zero_le _)
      clear ha
      rw [Nest.items, Tree.items]
      induction has generalizing ns a with
      | nil => exact hfirst
      | cons hb _ ih =>
          rw [List.foldl_cons, List.foldl_cons]
          exact ih (by simp) (hfirst.pair hb)

end

end ModelSql
