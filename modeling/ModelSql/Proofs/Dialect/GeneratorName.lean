/-
**Names of generators.**

Firebird numbers a field by a generator.  Where the field names no sequence, the generator has a name made
of the table and the column, cut off where the database takes no more.  The same name is in the statement
that creates the generator and in the query for its next value, so a field always draws from a generator
that is created with its table.  But nobody compares the names of two fields: what the limit leaves of them
may be the same, and then there is one statement, one generator and one row of numbers for both.  A name
without quotes stands for itself in capitals, so the case of its letters does not set generators apart.

Main definitions:

* `Model.numberedFields` — the fields that are numbered by generators that they do not name;
* `Dialect.generatorTail` — **what the limit leaves of the column in the name of a generator**;
* `Token.object?` — what a name stands for;
* `Dialect.generator`, `Dialect.SharesGenerator` — the generator of a field, and **fields with one
  generator**;
* `Nest.created?`, `Nest.drawn?` — the generator that a statement creates, and that a query draws from.

Main results:

* `Dialect.generatorName_eq_iff` — fields whose generators have one name;
* `Dialect.generator_eq_iff` — **fields with one generator**;
* `Dialect.nodup_createSequences` — no sequence is created twice;
* `Dialect.exists_spells_createSequence` — **the statement for a sequence**, in all dialects;
* `Dialect.parse_createSequence`, `Dialect.parse_nextValue` — a statement and a query name one generator;
* `Dialect.generators_distinct_iff` — **the generators of a checked model**.
-/

import ModelSql.Proofs.Dialect.IndexName

set_option relaxedAutoImplicit false
set_option autoImplicit false

namespace ModelSql

open DialectRules (cut)

/-! ### What a name stands for -/

/-- **What a name stands for**: for itself if it is between quotes, and else for itself in capitals. -/
def Token.object? : Token → Option (List Char)
  | .word cs => some (cs.map Char.toUpper)
  | .name cs => some cs
  | _ => none

namespace Dialect

variable {d : Dialect} {m b : Model} {f g : Field} {x y : String}

/-- A name in capitals is quoted where the name is. -/
theorem needsQuotes_capitals (d : Dialect) (x : String) :
    d.needsQuotes (String.ofList (x.toList.map Char.toUpper)) = d.needsQuotes x := by
  unfold needsQuotes DialectRules.isReserved Text.equalsIgnoringCase
  rw [String.toList_ofList, Text.isPlainName_map_toUpper, Text.map_toLower_map_toUpper]

theorem object?_of_quoted (h : d.needsQuotes x = true) : (d.nameToken x).object? = some x.toList := by
  rw [nameToken, if_pos h]
  rfl

theorem object?_of_bare (h : d.needsQuotes x = false) :
    (d.nameToken x).object? = some (x.toList.map Char.toUpper) := by
  rw [nameToken, h]
  rfl

/-- A name between quotes stands for nothing that a bare name stands for. -/
theorem object?_ne (hx : d.needsQuotes x = false) (hy : d.needsQuotes y = true) :
    (d.nameToken x).object? ≠ (d.nameToken y).object? := by
  rw [object?_of_bare hx, object?_of_quoted hy]
  intro h
  have hcapitals : String.ofList (x.toList.map Char.toUpper) = y := by
    rw [Option.some.inj h, String.ofList_toList]
  rw [← hcapitals, needsQuotes_capitals, hx] at hy
  cases hy

/-- **Names that stand for the same** are the same, or bare and the same in capitals. -/
theorem object?_eq_iff : (d.nameToken x).object? = (d.nameToken y).object? ↔
    x = y ∨ (d.needsQuotes x = false ∧ d.needsQuotes y = false ∧
      x.toList.map Char.toUpper = y.toList.map Char.toUpper) := by
  cases hx : d.needsQuotes x with
  | true =>
      simp only [Bool.true_eq_false, false_and, or_false]
      constructor
      · intro h
        cases hy : d.needsQuotes y with
        | true =>
            rw [object?_of_quoted hx, object?_of_quoted hy] at h
            exact String.toList_inj.1 (Option.some.inj h)
        | false => exact absurd h.symm (object?_ne hy hx)
      · exact fun h => h ▸ rfl
  | false =>
      constructor
      · intro h
        cases hy : d.needsQuotes y with
        | true => exact absurd h (object?_ne hx hy)
        | false =>
            rw [object?_of_bare hx, object?_of_bare hy] at h
            exact .inr ⟨rfl, rfl, Option.some.inj h⟩
      · rintro (rfl | ⟨-, hy, h⟩)
        · rfl
        · rw [object?_of_bare hx, object?_of_bare hy, h]

end Dialect

/-! ### The name of a generator -/

/-- Whether a field is numbered, and names no sequence for it. -/
def Field.isNumbered (f : Field) : Bool := f.autoIncrement && f.sequence.isNone

/-- **The fields that are numbered by generators that they do not name.** -/
def Model.numberedFields (m : Model) : List Field := m.fields.filter Field.isNumbered

namespace Dialect

variable {d : Dialect} {m b : Model} {f g : Field}

/-- What stands in front of the column. -/
def generatorHead (d : Dialect) (m : Model) : String := d.tableName m ++ "_"

/-- What the name of a generator says of its field. -/
def generatorLabel (d : Dialect) (f : Field) : String := d.columnName f.column ++ "_GEN"

/-- **The characters that the limit leaves of it.** -/
def generatorTail (d : Dialect) (m : Model) (f : Field) : List Char :=
  cut (d.rules.maxNameLength.map (· - (d.generatorHead m).toList.length)) (d.generatorLabel f).toList

/-- **The generator of a field**: what its name stands for. -/
def generator (d : Dialect) (m : Model) (f : Field) : Option (List Char) :=
  (d.nameToken (d.generatorName m f)).object?

/-- **Fields with one generator**: the limit leaves the same of both, or the same but for the case of
letters, in names without quotes. -/
def SharesGenerator (d : Dialect) (m : Model) (f g : Field) : Prop :=
  d.generatorTail m f = d.generatorTail m g ∨
    (d.needsQuotes (d.generatorName m f) = false ∧ d.needsQuotes (d.generatorName m g) = false ∧
      (d.generatorTail m f).map Char.toUpper = (d.generatorTail m g).map Char.toUpper)

/-- A name in its parts: the table and the column, cut off. -/
theorem generatorName_eq (d : Dialect) (m : Model) (f : Field) :
    d.generatorName m f = d.rules.clamp (d.generatorHead m ++ d.generatorLabel f) := by
  rw [generatorName, generatorHead, generatorLabel]
  simp only [String.append_assoc]

/-- The letters of a name: what is left of its head, and then of its label. -/
theorem toList_generatorName (d : Dialect) (m : Model) (f : Field) :
    (d.generatorName m f).toList =
      cut d.rules.maxNameLength (d.generatorHead m).toList ++ d.generatorTail m f := by
  rw [generatorName_eq, DialectRules.toList_clamp_append]
  rfl

/-- **Fields whose generators have one name** are those of which the limit leaves the same. -/
theorem generatorName_eq_iff :
    d.generatorName m f = d.generatorName m g ↔ d.generatorTail m f = d.generatorTail m g := by
  rw [← String.toList_inj, toList_generatorName, toList_generatorName, List.append_right_inj]

/-- **Fields with one generator.** -/
theorem generator_eq_iff : d.generator m f = d.generator m g ↔ d.SharesGenerator m f g := by
  rw [generator, generator, object?_eq_iff, generatorName_eq_iff, toList_generatorName,
    toList_generatorName, List.map_append, List.map_append, List.append_right_inj]
  exact Iff.rfl

/-- The limit leaves all of a label that it has room for. -/
theorem generatorTail_of_fits
    (h : ∀ n ∈ d.rules.maxNameLength, (d.generatorHead m ++ d.generatorLabel f).length ≤ n) :
    d.generatorTail m f = (d.generatorLabel f).toList := DialectRules.cut_of_append_fits h

/-- Where the names fit, fields with one generator have one column but for the case of letters. -/
theorem asciiLower_eq_of_sharesGenerator
    (hf : ∀ n ∈ d.rules.maxNameLength, (d.generatorHead m ++ d.generatorLabel f).length ≤ n)
    (hg : ∀ n ∈ d.rules.maxNameLength, (d.generatorHead m ++ d.generatorLabel g).length ≤ n)
    (h : d.SharesGenerator m f g) :
    Text.asciiLower (d.columnName f.column) = Text.asciiLower (d.columnName g.column) := by
  have hcapitals : (d.generatorLabel f).toList.map Char.toUpper =
      (d.generatorLabel g).toList.map Char.toUpper := by
    rw [← generatorTail_of_fits hf, ← generatorTail_of_fits hg]
    rcases h with h | ⟨-, -, h⟩
    · rw [h]
    · exact h
  rw [generatorLabel, generatorLabel, String.toList_append, String.toList_append, List.map_append,
    List.map_append, List.append_left_inj] at hcapitals
  rw [Text.asciiLower, Text.asciiLower, ← Text.map_toLower_map_toUpper, hcapitals,
    Text.map_toLower_map_toUpper]

/-! ### Creating a generator and drawing from it -/

/-- What is listed once is not listed twice. -/
theorem nodup_firstOnes (seen ns : List String) : (firstOnes seen ns).Nodup := by
  induction ns generalizing seen with
  | nil => exact List.nodup_nil
  | cons n ns ih =>
      rw [firstOnes]
      split
      · exact ih seen
      · refine List.nodup_cons.2 ⟨fun hn => ?_, ih (n :: seen)⟩
        exact (mem_firstOnes.1 hn).2 List.mem_cons_self

theorem createSequence_injective (d : Dialect) : Function.Injective d.createSequence := by
  intro x y h
  refine d.injective_quoteName ?_
  unfold createSequence at h
  cases hk : d.kind <;> simpa [hk, String.append_assoc] using h

/-- **No sequence is created twice.** -/
theorem nodup_createSequences (d : Dialect) (m : Model) : (d.createSequences m).Nodup :=
  (nodup_firstOnes [] _).map d.createSequence_injective

/-- A numbered field draws from the generator that is named after it. -/
theorem sequence?_of_isNumbered (hd : d.kind = .firebird) (hf : f.isNumbered = true) :
    d.sequence? m f = some (d.generatorName m f) := by
  rw [Field.isNumbered, Bool.and_eq_true, Option.isNone_iff_eq_none] at hf
  have hrules : d.rules.identity = .generator := by
    rw [rules, hd]
    rfl
  rw [sequence?, hf.2, hf.1, hrules]
  rfl

end Dialect

namespace Nest

/-- **The generator that a statement creates**: the name behind `CREATE GENERATOR`. -/
def created? (ns : List Nest) : Option (List Token) :=
  (behind? ["create", "generator"] ns).map fun ns => (path ns).1

/-- **The generator that a query draws from**: the first name in the parentheses of `GEN_ID`. -/
def drawn? (ns : List Nest) : Option (List Token) :=
  (behind? ["select", "gen_id"] ns).bind fun ns => (list? ns).bind List.head?

end Nest

namespace Dialect

open Nest

variable {d : Dialect} {m b : Model} {f g : Field}

/-- What a dialect calls a sequence. -/
def sequenceWord (d : Dialect) : String :=
  match d.kind with
  | .firebird => "GENERATOR"
  | _ => "SEQUENCE"

/-- **The statement that creates a sequence names it**, whatever the dialect calls it. -/
theorem exists_spells_createSequence (d : Dialect) (name : String) :
    ∃ ns, Spells d (d.createSequence name) (wordNest "CREATE" :: wordNest d.sequenceWord :: ns) ∧
      (path ns).1 = [d.nameToken name] := by
  have hcreate {w s : String} {ns : List Nest} (hw : Text.isPlainName w.toList = true)
      (h : Spells d s ns) :
      Spells d ("CREATE " ++ (w ++ " " ++ s)) (wordNest "CREATE" :: wordNest w :: ns) :=
    .keyword (by decide) (by decide) ((Spells.word hw).spaced h)
  have hname : Spells d (d.quoteName name ++ ";" ++ "") [.token (d.nameToken name), signNest ";"] :=
    spells_nameSign name rfl (by decide) .empty
  have hpath : path [.token (d.nameToken name), signNest ";"] = ([d.nameToken name], [signNest ";"]) :=
    path_nameToken (by decide)
  have hgenerator : "CREATE GENERATOR " = "CREATE " ++ ("GENERATOR" ++ " ") := by decide
  have hsequence : "CREATE SEQUENCE " = "CREATE " ++ ("SEQUENCE" ++ " ") := by decide
  have hplain : Spells d ("CREATE SEQUENCE " ++ d.quoteName name ++ ";")
      [wordNest "CREATE", wordNest "SEQUENCE", .token (d.nameToken name), signNest ";"] := by
    simpa only [hsequence, String.append_assoc, String.append_empty] using hcreate (by decide) hname
  unfold createSequence sequenceWord
  cases hk : d.kind with
  | firebird =>
      refine ⟨_, ?_, congrArg Prod.fst hpath⟩
      simpa only [hgenerator, String.append_assoc, String.append_empty] using hcreate (by decide) hname
  | sqlserver =>
      -- the type, where the numbers start, and their distance
      let options : List Nest := [wordNest "AS", wordNest "BIGINT", wordNest "START", wordNest "WITH",
        .token (.number ['1']), wordNest "INCREMENT", wordNest "BY", .token (.number ['1']), signNest ";"]
      have hfeeds : Lexer.Feeds d.escapes .blank "AS BIGINT START WITH 1 INCREMENT BY 1;".toList
          (Nest.lexemesAll options.dropLast) (.sign [';']) := fun _ => rfl
      have hoptions : Spells d "AS BIGINT START WITH 1 INCREMENT BY 1;" options := .of_feeds hfeeds rfl
      have hall := hcreate (w := "SEQUENCE") (by decide) ((spells_quoteName name).spaced hoptions)
      have hsplit : " AS BIGINT START WITH 1 INCREMENT BY 1;" =
          " " ++ "AS BIGINT START WITH 1 INCREMENT BY 1;" := by decide
      have hread : path ([.token (d.nameToken name)] ++ options) = ([d.nameToken name], options) :=
        path_nameToken (by decide)
      refine ⟨_, ?_, congrArg Prod.fst hread⟩
      simpa only [hsequence, hsplit, String.append_assoc] using hall
  | mysql => exact ⟨_, hplain, congrArg Prod.fst hpath⟩
  | postgres => exact ⟨_, hplain, congrArg Prod.fst hpath⟩
  | sqlite => exact ⟨_, hplain, congrArg Prod.fst hpath⟩

/-- **The statement that creates a generator names it.** -/
theorem parse_createSequence (hd : d.kind = .firebird) (name : String) :
    d.parse created? (d.createSequence name) = some [d.nameToken name] := by
  obtain ⟨ns, hsql, hpath⟩ := exists_spells_createSequence d name
  have hword : d.sequenceWord = "GENERATOR" := by rw [sequenceWord, hd]
  rw [hword] at hsql
  rw [parse_of_spells hsql, created?, behind?_cons (by decide), behind?_cons (by decide), behind?,
    Option.map_some, hpath]

/-- **The query for the next value of a generator names it.** -/
theorem parse_nextValue (hd : d.kind = .firebird) (name : String) :
    ∃ query, d.nextValue name = .ok query ∧ d.parse drawn? query = some [d.nameToken name] := by
  let one : Nest := .token (.number ['1'])
  let items : List Nest := [.token (d.nameToken name), signNest ",", one]
  have hdigit : Lexer.Feeds d.escapes .blank "1".toList [] (.number ['1']) := fun _ => rfl
  have hone : Spells d "1" [one] := .of_feeds hdigit rfl
  have hitems : Spells d (d.quoteName name ++ "," ++ (" " ++ "1")) items :=
    (spells_quoteName name).pair hone.space
  -- the name of the table has a sign in it that ends a word
  have hwords : Lexer.Feeds d.escapes .blank "RDB$DATABASE".toList
      [.token (.word "RDB".toList), .token (.sign ['$'])] (.word "DATABASE".toList) := fun _ => rfl
  have hdual : Spells d "RDB$DATABASE" [wordNest "RDB", signNest "$", wordNest "DATABASE"] :=
    .of_feeds hwords rfl
  have hfrom : Spells d ("FROM " ++ _) (wordNest "FROM" :: _) := .keyword (by decide) (by decide) hdual
  have hcall : Spells d ("GEN_ID" ++ _) (wordNest "GEN_ID" :: _) := .call (by decide) hitems
  have hall : Spells d ("SELECT " ++ _) (wordNest "SELECT" :: _) :=
    .keyword (by decide) (by decide) (hcall.spaced hfrom)
  have hlist : listed items = [[d.nameToken name], [.number ['1']]] := by
    have hfree : ∀ ns ∈ [[Nest.token (d.nameToken name)], [one]], ∀ n ∈ ns, n.isSign "," = false := by
      simp only [List.forall_mem_cons, isSign_nameToken, true_and]
      decide
    exact listed_intercalate (by decide : (signNest ",").isSign "," = true) (by simp) hfree
  have hsplit : "SELECT GEN_ID(" = "SELECT " ++ ("GEN_ID" ++ "(") ∧ ", 1) FROM RDB$DATABASE" =
      "," ++ (" " ++ ("1" ++ (")" ++ (" " ++ ("FROM " ++ "RDB$DATABASE"))))) := by
    decide
  refine ⟨_, by rw [nextValue, hd], ?_⟩
  simp only [hsplit, String.append_assoc] at hall ⊢
  rw [parse_of_spells hall, drawn?, behind?_cons (by decide), List.cons_append, behind?_cons (by decide),
    behind?, Option.bind_some, List.cons_append, list?, Option.bind_some, hlist]
  rfl

/-! ### The generators of a model -/

/-- Columns that a naming rule leaves as they are, but for letters in front of them, are told apart by more
than the case of their letters. -/
theorem nodup_columns_of_build (hb : m.build = .ok b)
    (hrule : d.config.naming = .unchanged ∨ ∃ table column, d.config.naming = .prefixed table column) :
    (b.numberedFields.map fun f => Text.asciiLower (d.columnName f.column)).Nodup := by
  have hdeclared := (Model.distinctFields_of_build hb).columns
  have hinjective (x y : String) (h : Text.asciiLower (d.columnName x) = Text.asciiLower (d.columnName y)) :
      Text.asciiLower x = Text.asciiLower y := by
    rcases hrule with hrule | ⟨table, column, hrule⟩
    · simpa only [columnName, hrule, Naming.columnName_unchanged] using h
    · simpa [columnName, hrule, Naming.prefixed, Text.asciiLower] using h
  rw [List.Nodup, List.pairwise_map] at hdeclared ⊢
  refine List.Pairwise.filter _ (hdeclared.imp fun hne h => hne (hinjective _ _ h))

/-- **Fields have generators of their own** exactly when no two of them share one. -/
theorem nodup_generator_iff {fs : List Field} :
    (fs.map (d.generator m)).Nodup ↔ fs.Pairwise fun f g => ¬ d.SharesGenerator m f g := by
  rw [List.Nodup, List.pairwise_map]
  exact List.Pairwise.iff fun {f g} => not_congr generator_eq_iff

/-- **Generators whose names fit are distinct** where the columns are, but for the case of their letters. -/
theorem nodup_generator_of_fits {fs : List Field}
    (hfits : ∀ f ∈ fs, ∀ n ∈ d.rules.maxNameLength,
      (d.generatorHead m ++ d.generatorLabel f).length ≤ n)
    (hdistinct : (fs.map fun f => Text.asciiLower (d.columnName f.column)).Nodup) :
    (fs.map (d.generator m)).Nodup := by
  rw [nodup_generator_iff]
  rw [List.Nodup, List.pairwise_map] at hdistinct
  exact hdistinct.imp_of_mem fun hf hg hne hshares =>
    hne (asciiLower_eq_of_sharesGenerator (hfits _ hf) (hfits _ hg) hshares)

/-- **The generators of a checked model on Firebird.**  No statement is there twice.  Each numbered field
draws from a generator that a statement creates.  Two generators have one name exactly when the limit leaves
the same of both columns, and the fields have generators of their own exactly when no two of them share one.
So it is where all names fit and the columns differ in more than the case of their letters, as they do where
the naming rule leaves them as they are, or puts letters in front of them. -/
theorem generators_distinct_iff (hd : d.kind = .firebird) (hb : m.build = .ok b) :
    (d.createSequences b).Nodup ∧
      (∀ f ∈ b.numberedFields, ∃ t query,
        d.sequence? b f = some (d.generatorName b f) ∧
        d.createSequence (d.generatorName b f) ∈ d.createSequences b ∧
        d.nextValue (d.generatorName b f) = .ok query ∧
        d.parse created? (d.createSequence (d.generatorName b f)) = some [t] ∧
        d.parse drawn? query = some [t] ∧ t.object? = d.generator b f) ∧
      (∀ f g, d.generatorName b f = d.generatorName b g ↔
        d.generatorTail b f = d.generatorTail b g) ∧
      ((b.numberedFields.map (d.generator b)).Nodup ↔
        b.numberedFields.Pairwise fun f g => ¬ d.SharesGenerator b f g) ∧
      ((∀ f ∈ b.numberedFields, (d.generatorHead b ++ d.generatorLabel f).length ≤ 31) →
        ((b.numberedFields.map fun f => Text.asciiLower (d.columnName f.column)).Nodup ∨
          d.config.naming = .unchanged ∨ ∃ table column, d.config.naming = .prefixed table column) →
        (b.numberedFields.map (d.generator b)).Nodup) := by
  refine ⟨nodup_createSequences d b, fun f hf => ?_, fun f g => generatorName_eq_iff,
    nodup_generator_iff, fun hfits hcolumns => nodup_generator_of_fits (fun f hf n hn => ?_) ?_⟩
  · obtain ⟨hmem, hnumbered⟩ := List.mem_filter.1 hf
    have hname : d.sequence? b f = some (d.generatorName b f) := sequence?_of_isNumbered hd hnumbered
    obtain ⟨query, hquery, hdrawn⟩ := parse_nextValue hd (d.generatorName b f)
    exact ⟨d.nameToken (d.generatorName b f), query, hname, createSequence_mem hmem hname, hquery,
      parse_createSequence hd _, hdrawn, rfl⟩
  · have hmost : d.rules.maxNameLength = some 31 := by
      rw [rules, hd]
      rfl
    obtain rfl : 31 = n := Option.some.inj (hmost.symm.trans hn)
    exact hfits f hf
  · exact hcolumns.elim id fun hrule => nodup_columns_of_build hb hrule

/-- Tickets with two numbers of their own. -/
def doublyNumbered : Model :=
  { Model.new "Ticket" with
    fields := ["Number", "Place"].map fun name => { Field.new name .int64 with autoIncrement := true } }

/-- The two numbers are drawn from two generators. -/
theorem generators_distinct_iff_tickets :
    let d := DialectKind.firebird.dialect
    doublyNumbered.build = .ok doublyNumbered ∧
      d.createSequences doublyNumbered =
        ["CREATE GENERATOR Ticket_Number_GEN;", "CREATE GENERATOR Ticket_Place_GEN;"] ∧
      (doublyNumbered.numberedFields.map (d.generator doublyNumbered)).Nodup := by
  intro d
  have hb : doublyNumbered.build = .ok doublyNumbered := by rfl
  obtain ⟨-, -, -, -, hdistinct⟩ := generators_distinct_iff (d := d) rfl hb
  exact ⟨hb, by decide +kernel, hdistinct (by decide +kernel) (.inr (.inl rfl))⟩

/-- Subscriptions with two numbers whose columns differ behind the limit only. -/
def lengthilyNumbered : Model :=
  { Model.new "Subscription" with
    fields := ["ReferenceNumberLastYear", "ReferenceNumberLastWeek"].map fun name =>
      { Field.new name .int64 with autoIncrement := true } }

/-- **Two fields may share one generator**: one statement creates it, and both draw from it. -/
theorem generators_not_distinct :
    let d := DialectKind.firebird.dialect
    lengthilyNumbered.build = .ok lengthilyNumbered ∧
      lengthilyNumbered.numberedFields = lengthilyNumbered.fields ∧
      lengthilyNumbered.fields.Nodup ∧
      ¬ (lengthilyNumbered.fields.map (d.generatorName lengthilyNumbered)).Nodup ∧
      d.createSequences lengthilyNumbered = ["CREATE GENERATOR Subscription_ReferenceNumberLas;"] ∧
      lengthilyNumbered.fields.map (fun f => d.nextValue (d.generatorName lengthilyNumbered f)) =
        List.replicate 2
          (.ok "SELECT GEN_ID(Subscription_ReferenceNumberLas, 1) FROM RDB$DATABASE") := by
  intro d
  exact ⟨by rfl, by decide +kernel, by decide +kernel, by decide +kernel, by decide +kernel,
    by decide +kernel⟩

end Dialect

end ModelSql
