/-
**The names in the clauses of a statement.**

A statement is taken apart by its words.  Between them stand lists with commas, in which every item starts
with a name, and lists of comparisons, each of which has a name in front of it.  A name may have several
parts with points between them.

Main definitions:

* `Nest.behind?`, `Nest.cut` — what stands behind some words, and around one;
* `Nest.path`, `Nest.listed` — a name with its parts, and **the names of a list**;
* `Nest.compared` — **the names in front of comparisons**;
* `Separates`, `Nest.Compares` — a text between items, and a comparison of a name.

Main results:

* `spells_joinWith` — items with a text between them;
* `Nest.path_pathNests`, `Nest.listed_intercalate`, `Nest.compared_intercalate` — **names read back**;
* `spells_qualifiedName` — a name behind its schema;
* `exists_spells_literal` — what a literal spells is no part of a comparison.
-/

import ModelSql.Proofs.Syntax.Keyword
import ModelSql.Proofs.Syntax.Operator

set_option relaxedAutoImplicit false
set_option autoImplicit false

namespace ModelSql

/-! ### Reading a clause -/

namespace Nest

/-- Whether a sign stands here. -/
def isSign (w : String) : Nest → Bool
  | token t => t.operator? == some (.ofSign w)
  | group _ => false

/-- What stands behind some words, if they come first; the words are in lower case. -/
def behind? : List String → List Nest → Option (List Nest)
  | [], ns => some ns
  | w :: ws, n :: ns => if n.isWord w then behind? ws ns else none
  | _ :: _, [] => none

/-- What stands in front of a word, and what stands behind it. -/
def cut (w : String) : List Nest → List Nest × List Nest
  | [] => ([], [])
  | n :: ns => if n.isWord w then ([], ns) else (n :: (cut w ns).1, (cut w ns).2)

/-- **The name at the start**, part by part, and what stands behind it. -/
def path : List Nest → List Token × List Nest
  | .token t :: n :: ns =>
    if n.isSign "." then (t :: (path ns).1, (path ns).2) else ([t], n :: ns)
  | [.token t] => ([t], [])
  | ns => ([], ns)

/-- **The names of a list**: those that its items start with. -/
def listed (ns : List Nest) : List (List Token) :=
  if ns.isEmpty then [] else (ns.splitOnP (isSign ",")).map fun item => (path item).1

/-- Whether a comparison stands here. -/
def isComparison (n : Nest) : Bool := n.isSign "=" || n.isWord "is"

/-- **The names in front of comparisons**, each of one part. -/
def compared : List Nest → List (List Token)
  | .token t :: n :: ns => if n.isComparison then [t] :: compared ns else compared (n :: ns)
  | .group _ :: ns => compared ns
  | _ => []

/-! ### Words and names -/

variable {d : Dialect} {n : Nest} {ns ms : List Nest} {w : String} {ws : List String} {t : Token}

theorem behind?_cons (h : n.isWord w = true) : behind? (w :: ws) (n :: ns) = behind? ws ns := by
  rw [behind?, if_pos h]

theorem behind?_of_isWord (h : n.isWord w = false) : behind? (w :: ws) (n :: ns) = none := by
  rw [behind?, h]
  rfl

/-- **A list is cut at a word that is not in its first part.** -/
theorem cut_append (hns : ∀ x ∈ ns, x.isWord w = false) (hn : n.isWord w = true) :
    cut w (ns ++ n :: ms) = (ns, ms) := by
  induction ns with
  | nil => rw [List.nil_append, cut, if_pos hn]
  | cons x ns ih =>
      have hx : x.isWord w = false := hns x List.mem_cons_self
      rw [List.cons_append, cut, hx, ih fun y hy => hns y (List.mem_cons_of_mem x hy)]
      rfl

/-- What stands first in a list that starts with something. -/
theorem forall_head_cons {p : Nest → Prop} (hn : p n) : ∀ x ∈ (n :: ns).head?, p x := by
  rintro x hx
  obtain rfl := Option.some.inj hx
  exact hn

theorem isSign_nameToken (name : String) : (token (d.nameToken name)).isSign w = false := by
  unfold Dialect.nameToken
  split <;> rfl

/-- A name is made of the tokens of its parts and points. -/
theorem eq_of_mem_pathNests {names : List String} (h : n ∈ d.pathNests names) :
    n = pointNest ∨ ∃ name, n = .token (d.nameToken name) := by
  induction names with
  | nil => cases h
  | cons name names ih =>
      cases names with
      | nil => exact .inr ⟨name, List.mem_singleton.1 h⟩
      | cons other names =>
          rcases List.mem_cons.1 h with rfl | h
          · exact .inr ⟨name, rfl⟩
          · rcases List.mem_cons.1 h with rfl | h
            · exact .inl rfl
            · exact ih h

/-- Nothing in a name is a comma or a keyword. -/
theorem isSign_comma_of_mem_pathNests {names : List String} (h : n ∈ d.pathNests names) :
    n.isSign "," = false := by
  obtain rfl | ⟨name, rfl⟩ := eq_of_mem_pathNests h
  · decide
  · exact isSign_nameToken name

theorem isKeyword_of_mem_pathNests {names : List String} (h : n ∈ d.pathNests names) :
    n.isKeyword = false := by
  obtain rfl | ⟨name, rfl⟩ := eq_of_mem_pathNests h
  · decide
  · exact isKeyword_nameToken d name

/-- **A name is read part by part.** -/
theorem path_pathNests {names : List String} (hnames : names ≠ [])
    (hns : ∀ n ∈ ns.head?, n.isSign "." = false) :
    path (d.pathNests names ++ ns) = (names.map d.nameToken, ns) := by
  induction names with
  | nil => exact absurd rfl hnames
  | cons name names ih =>
      cases names with
      | nil =>
          cases ns with
          | nil => rfl
          | cons n ns =>
              have hn : n.isSign "." = false := hns n rfl
              rw [Dialect.pathNests, List.singleton_append, path, hn]
              rfl
      | cons other names =>
          have hpoint : pointNest.isSign "." = true := by decide
          have hrest := ih (List.cons_ne_nil other names)
          rw [Dialect.pathNests, List.cons_append, List.cons_append, path, if_pos hpoint, hrest]
          · rfl
          · exact List.cons_ne_nil other names

/-! ### Lists -/

/-- **The names of a list with commas.** -/
theorem listed_intercalate {comma : Nest} {nss : List (List Nest)} (hcomma : comma.isSign "," = true)
    (hne : ∀ ns ∈ nss, ns ≠ []) (hfree : ∀ ns ∈ nss, ∀ n ∈ ns, n.isSign "," = false) :
    listed ([comma].intercalate nss) = nss.map fun item => (path item).1 := by
  have hsplit : ∀ (ns : List Nest) (nss : List (List Nest)),
      (∀ ms ∈ ns :: nss, ∀ n ∈ ms, n.isSign "," = false) →
        ([comma].intercalate (ns :: nss)).splitOnP (isSign ",") = ns :: nss := by
    intro ns nss
    induction nss generalizing ns with
    | nil =>
        intro hfree
        rw [List.intercalate_singleton]
        exact List.splitOnP_eq_singleton (hfree ns List.mem_cons_self)
    | cons ms nss ih =>
        intro hfree
        rw [List.intercalate_cons_cons, List.append_assoc, List.singleton_append,
          List.splitOnP_append_cons_of_forall_mem (hfree ns List.mem_cons_self) comma hcomma,
          ih ms fun ks hks => hfree ks (List.mem_cons_of_mem ns hks)]
  cases nss with
  | nil => rfl
  | cons ns nss =>
      have hsome : ([comma].intercalate (ns :: nss)).isEmpty = false := by
        obtain ⟨n, ns, rfl⟩ := List.exists_cons_of_ne_nil (hne ns List.mem_cons_self)
        cases nss <;> rfl
      rw [listed, hsome, hsplit ns nss hfree]
      rfl

/-- **The names of items**, each of which may go on behind its name. -/
theorem listed_names {α : Type} {comma : Nest} (hcomma : comma.isSign "," = true) (xs : List α)
    {names : α → List String} {tail : α → List Nest} (hnames : ∀ x, names x ≠ [])
    (htail : ∀ x, ∀ n ∈ tail x, n.isSign "," = false ∧ n.isSign "." = false) :
    listed ([comma].intercalate (xs.map fun x => d.pathNests (names x) ++ tail x)) =
      xs.map fun x => (names x).map d.nameToken := by
  have hitem (x : α) : path (d.pathNests (names x) ++ tail x) = ((names x).map d.nameToken, tail x) :=
    path_pathNests (hnames x) fun n hn => (htail x n (List.mem_of_mem_head? hn)).2
  rw [listed_intercalate hcomma, List.map_map]
  · refine List.map_congr_left fun x _ => ?_
    rw [Function.comp_apply, hitem]
  · intro item hx hempty
    obtain ⟨x, -, rfl⟩ := List.mem_map.1 hx
    have hnil := hitem x
    rw [hempty, path] at hnil
    · exact hnames x (List.map_eq_nil_iff.1 (congrArg Prod.fst hnil).symm)
    · exact nofun
    · exact nofun
  · intro item hx n hn
    obtain ⟨x, -, rfl⟩ := List.mem_map.1 hx
    rcases List.mem_append.1 hn with hn | hn
    · exact isSign_comma_of_mem_pathNests hn
    · exact (htail x n hn).1

/-! ### Comparisons -/

/-- Whether a comparison or the word in front of a condition stands here. -/
def isMark (n : Nest) : Bool := n.isComparison || n.isWord "where"

/-- **A comparison of a name** with something that has no comparison in it. -/
inductive Compares (t : Token) : List Nest → Prop
  | intro {n : Nest} {ns : List Nest} (ht : (token t).isMark = false) (hn : n.isComparison = true)
      (hns : ∀ x ∈ ns, x.isMark = false) : Compares t (.token t :: n :: ns)

theorem isComparison_of_isMark (h : n.isMark = false) : n.isComparison = false :=
  (Bool.or_eq_false_iff.1 h).1

theorem isWord_where_of_isMark (h : n.isMark = false) : n.isWord "where" = false :=
  (Bool.or_eq_false_iff.1 h).2

/-- Where there is no comparison, no name stands in front of one. -/
theorem compared_append (hns : ∀ x ∈ ns, x.isComparison = false)
    (hms : ∀ x ∈ ms.head?, x.isComparison = false) : compared (ns ++ ms) = compared ms := by
  induction ns with
  | nil => rfl
  | cons n ns ih =>
      have hrest := ih fun x hx => hns x (List.mem_cons_of_mem n hx)
      have hhead : ∀ x ∈ (ns ++ ms).head?, x.isComparison = false := by
        cases ns with
        | nil => exact hms
        | cons x ns => exact forall_head_cons (hns x (by simp))
      rw [List.cons_append, ← hrest]
      cases n with
      | group ks => rfl
      | token t =>
          cases hall : ns ++ ms with
          | nil => rfl
          | cons x xs =>
              rw [hall] at hhead
              rw [compared, hhead x rfl]
              rfl

/-- A comparison of a name, and what stands behind it. -/
theorem Compares.compared_append (h : Compares t ns)
    (hms : ∀ x ∈ ms.head?, x.isComparison = false) : compared (ns ++ ms) = [t] :: compared ms := by
  obtain ⟨_, hn, hns⟩ := h
  rw [List.cons_append, List.cons_append, compared, if_pos hn,
    Nest.compared_append (fun x hx => isComparison_of_isMark (hns x hx)) hms]

/-- **The names of comparisons with something between them.** -/
theorem compared_intercalate {sep : Nest} (hsep : sep.isComparison = false) {ts : List Token}
    {nss : List (List Nest)} (h : List.Forall₂ Compares ts nss) :
    compared ([sep].intercalate nss) = ts.map fun t => [t] := by
  induction h with
  | nil => rfl
  | @cons t ns ts nss ht hts ih =>
      cases hts with
      | nil =>
          have hlast : compared (ns ++ []) = _ := ht.compared_append nofun
          rw [List.append_nil] at hlast
          rw [List.intercalate_singleton]
          exact hlast
      | @cons u ms ts nss hu hts =>
          have hhead : ∀ x ∈ ([sep].intercalate (ms :: nss)).head?, x.isComparison = false := by
            obtain ⟨hu, -, -⟩ := hu
            cases nss <;> exact forall_head_cons (isComparison_of_isMark hu)
          have hrest : compared ([sep] ++ [sep].intercalate (ms :: nss)) = (u :: ts).map fun t => [t] :=
            (Nest.compared_append (by simpa using hsep) hhead).trans ih
          rw [List.intercalate_cons_cons, List.append_assoc, ht.compared_append (by simpa using hsep),
            hrest]
          rfl

/-- A name is neither a comparison nor the word in front of a condition. -/
theorem isMark_nameToken (d : Dialect) (name : String) :
    (token (d.nameToken name)).isMark = false := by
  have hreserved (k : DialectKind) : "WHERE" ∈ k.rules.reservedWords := by
    cases k <;> decide +kernel
  have hkey : (token (d.nameToken name)).isKeyword = false := isKeyword_nameToken d name
  have his : (token (d.nameToken name)).isWord "is" = false := isWord_of_isKeyword hkey (by decide)
  have hwhere : (token (d.nameToken name)).isWord "where" = false :=
    beq_eq_false_iff_ne.2 (operator?_nameToken_ne d name (hreserved d.kind))
  rw [isMark, isComparison, isSign_nameToken, his, hwhere]
  rfl

theorem isWord_where_of_isComparison (h : n.isComparison = true) : n.isWord "where" = false := by
  cases n with
  | group ns => rfl
  | token t =>
      rw [isComparison, isSign, isWord, Bool.or_eq_true, beq_iff_eq, beq_iff_eq] at h
      rw [isWord]
      rcases h with h | h <;> rw [h] <;> decide

/-- There is no condition in a comparison. -/
theorem Compares.isWord_where (h : Compares t ns) : ∀ n ∈ ns, n.isWord "where" = false := by
  obtain ⟨ht, hn, hns⟩ := h
  rintro x hx
  rcases List.mem_cons.1 hx with rfl | hx
  · exact isWord_where_of_isMark ht
  · rcases List.mem_cons.1 hx with rfl | hx
    · exact isWord_where_of_isComparison hn
    · exact isWord_where_of_isMark (hns x hx)

/-- What stands in a list with something between its items. -/
theorem mem_intercalate {sep : Nest} {nss : List (List Nest)} (h : n ∈ [sep].intercalate nss) :
    n = sep ∨ ∃ ns ∈ nss, n ∈ ns := by
  induction nss with
  | nil => cases h
  | cons ns nss ih =>
      cases nss with
      | nil => exact .inr ⟨ns, List.mem_cons_self, by simpa using h⟩
      | cons ms nss =>
          rw [List.intercalate_cons_cons, List.append_assoc, List.mem_append, List.mem_append,
            List.mem_singleton] at h
          rcases h with h | rfl | h
          · exact .inr ⟨ns, List.mem_cons_self, h⟩
          · exact .inl rfl
          · obtain rfl | ⟨ks, hks, hn⟩ := ih h
            · exact .inl rfl
            · exact .inr ⟨ks, List.mem_cons_of_mem ns hks, hn⟩

/-- There is no condition in comparisons with something between them. -/
theorem isWord_where_intercalate {sep : Nest} (hsep : sep.isMark = false) {ts : List Token}
    {nss : List (List Nest)} (h : List.Forall₂ Compares ts nss) :
    ∀ n ∈ [sep].intercalate nss, n.isWord "where" = false := by
  have hitems : ∀ ns ∈ nss, ∀ n ∈ ns, n.isWord "where" = false := by
    induction h with
    | nil => exact nofun
    | cons ht _ ih => exact List.forall_mem_cons.2 ⟨ht.isWord_where, ih⟩
  intro n hn
  obtain rfl | ⟨ns, hns, hn⟩ := mem_intercalate hn
  · exact isWord_where_of_isMark hsep
  · exact hitems ns hns n hn

end Nest

/-! ### Texts between items -/

section

variable {d : Dialect} {s t sep : String} {n : Nest} {ns ms : List Nest}

/-- **A text that stands between items**, and what it is read as. -/
def Separates (d : Dialect) (sep : String) (n : Nest) : Prop :=
  ∀ {s t : String} {ns ms : List Nest}, Spells d s ns → Spells d t ms →
    Spells d (s ++ sep ++ t) (ns ++ n :: ms)

theorem separates_comma : Separates d "," (signNest ",") := fun hs ht => hs.pair ht

theorem separates_commaBlank : Separates d ", " (signNest ",") := by
  intro s t ns ms hs ht
  have hsplit : ", " = "," ++ " " := by decide
  have hall := hs.pair ht.space
  simpa only [hsplit, String.append_assoc] using hall

theorem separates_and : Separates d " AND " (wordNest "AND") := by
  intro s t ns ms hs ht
  have hword : Spells d "AND" [wordNest "AND"] := .word (by decide)
  have hsplit : " AND " = " " ++ ("AND" ++ " ") := by decide
  have hall := Spells.infixed hword hs ht
  simpa only [hsplit, String.append_assoc] using hall

/-- **Items with a text between them.** -/
theorem spells_joinWith (hsep : Separates d sep n) {ts : List String} {nss : List (List Nest)}
    (h : List.Forall₂ (Spells d) ts nss) : Spells d (Text.joinWith sep ts) ([n].intercalate nss) := by
  induction h with
  | nil => exact .empty
  | @cons t ns ts nss ht hts ih =>
      cases hts with
      | nil =>
          rw [List.intercalate_singleton]
          exact ht
      | cons hu hts =>
          rw [Text.joinWith_cons_cons, List.intercalate_cons_cons, List.append_assoc]
          exact hsep ht ih

/-- A line break in front of a text. -/
theorem Spells.newline (h : Spells d s ns) : Spells d ("\n" ++ s) ns := by
  rw [Spells, String.toList_append]
  exact Lexes.delimiter rfl h

/-- A text in parentheses with more right behind it. -/
theorem Spells.enclosed (hs : Spells d s ns) (ht : Spells d t ms) :
    Spells d ("(" ++ s ++ ")" ++ t) (.group ns :: ms) := by
  have hclose : Lexes d.escapes (')' :: t.toList) (.closing :: Nest.lexemesAll ms) :=
    Lexes.delimiter rfl ht
  have hall : Lexes d.escapes ('(' :: (s.toList ++ ')' :: t.toList))
      (.opening :: (Nest.lexemesAll ns ++ .closing :: Nest.lexemesAll ms)) :=
    (Lexes.append hs hclose (starts_cons (by decide) _)).delimiter rfl
  rw [Spells]
  simpa [Nest.lexemesAll, Nest.lexemes, String.toList_append] using hall

/-- **A name behind its schema.** -/
theorem spells_qualifiedName (schema : Option String) (name : String) :
    Spells d (d.qualified schema name) (d.pathNests (schema.toList ++ [name])) := by
  cases schema with
  | none => exact spells_quoteName name
  | some schema => exact spells_qualified schema (spells_quoteName name)

/-! ### Literals -/

theorem Nest.IsLiteral.isMark (h : IsLiteral ns) : ∀ n ∈ ns, n.isMark = false := by
  have hwords : ∀ cs ∈ Literal.words, (Nest.token (.word cs)).isMark = false := by decide
  have hall : ns.all (fun n => !n.isMark) = true := by
    cases h with
    | word hcs => simpa using hwords _ hcs
    | _ => rfl
  intro n hn
  simpa using List.all_eq_true.1 hall n hn

/-- **There is no comparison in what a literal spells**, nor a condition. -/
theorem exists_spells_literal {hint : Option FieldType} {v : Value} (h : d.literal hint v = .ok s) :
    ∃ ns, Spells d s ns ∧ ∀ n ∈ ns, n.isMark = false := by
  have hform {t : String} (ht : Literal.Form d t.toList) :
      ∃ ns, Spells d t ns ∧ ∀ n ∈ ns, n.isMark = false := by
    obtain ⟨ns, hns, hliteral⟩ := spells_form ht
    exact ⟨ns, hns, hliteral.isMark⟩
  refine (Literal.forms_and hform (fun {ts} hts => ?_) hint).1 v s h
  induction ts with
  | nil => exact ⟨[], .empty, nofun⟩
  | cons t ts ih =>
      obtain ⟨ns, hns, hquiet⟩ := hts t List.mem_cons_self
      obtain ⟨ms, hms, hrest⟩ := ih fun u hu => hts u (List.mem_cons_of_mem t hu)
      cases ts with
      | nil => exact ⟨ns, hns, hquiet⟩
      | cons u ts =>
          refine ⟨ns ++ signNest "," :: ms, hns.pair hms, fun n hn => ?_⟩
          rw [List.mem_append, List.mem_cons] at hn
          obtain hn | rfl | hn := hn
          · exact hquiet n hn
          · decide
          · exact hrest n hn

end

end ModelSql
