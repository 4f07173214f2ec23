/-
**The sequences that a script creates.**

A script creates the sequences of its models, model after model.  A model lists each of its sequences once,
but no model knows of the others: a sequence that two of them draw from is created twice.  A database that
has a sequence refuses to create it again, so a script runs through exactly where the models, and the names
in each of them, stand for different sequences.

What a name stands for is a matter of the database: of its rule on the case of letters, say.  Any rule may be
taken.

Main definitions:

* `Nest.createdSequence?` — the sequence or generator that a statement creates;
* `Dialect.executeAll` — **running statements** where some sequences exist;
* `Dialect.OneNameEach`, `Dialect.Apart` — names in one model, and in two, for different sequences.

Main results:

* `Dialect.filterMap_createdSequence` — the sequences that the statements of a model create;
* `Dialect.executeAll_eq_ok_iff` — **when statements run through**;
* `CommandLine.script_creates_once_iff` — **when a script creates no sequence twice**.
-/

import ModelSql.Proofs.CommandLine.Script
import ModelSql.Proofs.Dialect.GeneratorName

set_option relaxedAutoImplicit false
set_option autoImplicit false

namespace ModelSql

/-! ### What a statement creates -/

/-- **The sequence or generator that a statement creates**: the name behind `CREATE SEQUENCE` or
`CREATE GENERATOR`. -/
def Nest.createdSequence? (ns : List Nest) : Option (List Token) :=
  ((behind? ["create", "sequence"] ns).orElse fun _ => behind? ["create", "generator"] ns).map fun ns =>
    (path ns).1

namespace Dialect

open Nest

variable {d : Dialect} {m : Model} {ms : List Model} {sqls : List String}

/-- **The statement for a sequence creates it.** -/
theorem parse_createdSequence (d : Dialect) (name : String) :
    d.parse createdSequence? (d.createSequence name) = some [d.nameToken name] := by
  obtain ⟨ns, hsql, hpath⟩ := exists_spells_createSequence d name
  have hbehind : (behind? ["create", "sequence"] (wordNest "CREATE" :: wordNest d.sequenceWord :: ns)).orElse
      (fun _ => behind? ["create", "generator"] (wordNest "CREATE" :: wordNest d.sequenceWord :: ns)) =
        some ns := by
    unfold sequenceWord
    split
    · rw [behind?_cons (by decide), behind?_of_isWord (by decide), Option.orElse_none,
        behind?_cons (by decide), behind?_cons (by decide), behind?]
    · rw [behind?_cons (by decide), behind?_cons (by decide), behind?, Option.orElse_some]
  rw [parse_of_spells hsql, createdSequence?, hbehind, Option.map_some, hpath]

/-- A statement with another word behind `CREATE` creates none, however it goes on. -/
theorem parse_createdSequence_eq_none {w head : String} (s : String)
    (hhead : Lexer.Feeds d.escapes .blank head.toList (lexemesAll [wordNest "CREATE", wordNest w]) .blank)
    (hw : (wordNest w).isWord "sequence" = false ∧ (wordNest w).isWord "generator" = false) :
    d.parse createdSequence? (head ++ s) = none := by
  rw [parse, Option.bind_eq_none_iff]
  intro ns hns
  obtain ⟨rest, rfl⟩ := prefix_of_nests hhead hns
  rw [createdSequence?, List.cons_append, List.cons_append, behind?_cons (by decide),
    behind?_of_isWord hw.1, Option.orElse_none, behind?_cons (by decide), behind?_of_isWord hw.2]
  rfl

/-- **The statement for a table creates no sequence**, whatever its defaults are. -/
theorem parse_createTable_eq_none {sql : String} (h : d.createTable m = .ok sql) :
    d.parse createdSequence? sql = none := by
  obtain ⟨columns, -, rfl⟩ := map_eq_ok h
  have hhead : Lexer.Feeds d.escapes .blank "CREATE TABLE ".toList
      (lexemesAll [wordNest "CREATE", wordNest "TABLE"]) .blank := fun _ => rfl
  simp only [String.append_assoc]
  exact parse_createdSequence_eq_none _ hhead (by decide)

/-- **The statement for an index creates no sequence.** -/
theorem parse_createIndex_eq_none (isUnique : Bool) (name : String) (columns : List (String × Bool)) :
    d.parse createdSequence? (d.createIndex m isUnique name columns) = none := by
  unfold createIndex
  cases isUnique with
  | false =>
      have hhead : Lexer.Feeds d.escapes .blank ("CREATE " ++ "INDEX ").toList
          (lexemesAll [wordNest "CREATE", wordNest "INDEX"]) .blank := fun _ => rfl
      rw [if_neg (by decide), String.append_empty]
      simp only [String.append_assoc]
      rw [← String.append_assoc]
      exact parse_createdSequence_eq_none _ hhead (by decide)
  | true =>
      have hhead : Lexer.Feeds d.escapes .blank ("CREATE " ++ "UNIQUE ").toList
          (lexemesAll [wordNest "CREATE", wordNest "UNIQUE"]) .blank := fun _ => rfl
      rw [if_pos rfl]
      simp only [String.append_assoc]
      rw [← String.append_assoc]
      exact parse_createdSequence_eq_none _ hhead (by decide)

theorem parse_createIndexes_eq_none {sql : String} (h : sql ∈ d.createIndexes m) :
    d.parse createdSequence? sql = none := by
  rcases List.mem_append.1 h with h | h
  · obtain ⟨f, -, hf⟩ := List.mem_filterMap.1 h
    rw [fieldIndex?] at hf
    split at hf
    · cases hf
    · rw [← Option.some.inj hf]
      exact parse_createIndex_eq_none _ _ _
  · obtain ⟨i, -, rfl⟩ := List.mem_map.1 h
    exact parse_createIndex_eq_none _ _ _

/-- **The sequences that the statements of a model create** are those that its fields draw from, each once. -/
theorem filterMap_createdSequence (h : d.createStatements m = .ok sqls) :
    sqls.filterMap (d.parse createdSequence?) = (d.sequences m).map fun x => [d.nameToken x] := by
  obtain ⟨htable, rfl⟩ := createStatements_eq_ok_iff.1 h
  obtain ⟨sql, hsql, -⟩ := map_eq_ok htable
  have hsequences : (d.createSequences m).filterMap (d.parse createdSequence?) =
      (d.sequences m).map fun x => [d.nameToken x] := by
    rw [createSequences, List.filterMap_map, ← List.filterMap_eq_map]
    exact List.filterMap_congr fun x _ => parse_createdSequence d x
  have hindexes : (d.createIndexes m).filterMap (d.parse createdSequence?) = [] :=
    List.filterMap_eq_nil_iff.2 fun _ => parse_createIndexes_eq_none
  rw [creation_of_ok hsql, List.filterMap_append, List.filterMap_cons_none (parse_createTable_eq_none hsql),
    hsequences, hindexes, List.append_nil]

/-- The statements of several models create the sequences of all of them, in order. -/
theorem filterMap_createdSequence_flatten {groups : List (List String)}
    (h : List.Forall₂ (fun m sqls => d.createStatements m = .ok sqls) ms groups) :
    groups.flatten.filterMap (d.parse createdSequence?) =
      ms.flatMap fun m => (d.sequences m).map fun x => [d.nameToken x] := by
  induction h with
  | nil => rfl
  | cons hm _ ih =>
      rw [List.flatten_cons, List.filterMap_append, filterMap_createdSequence hm, ih, List.flatMap_cons]

/-! ### Running statements -/

section

variable {α : Type} [DecidableEq α] {object : List Token → α} {existing later : List α} {sql : String}

/-- What the sequence that a statement creates stands for, if it creates one. -/
def createdObject? (d : Dialect) (object : List Token → α) (sql : String) : Option α :=
  (d.parse createdSequence? sql).map object

/-- **Runs a statement** where some sequences exist.  One that creates an existing sequence fails. -/
def execute (d : Dialect) (object : List Token → α) (existing : List α) (sql : String) :
    Except String (List α) :=
  match d.createdObject? object sql with
  | none => .ok existing
  | some x => if x ∈ existing then .error sql else .ok (x :: existing)

/-- **Runs statements in turn**, up to the first that fails. -/
def executeAll (d : Dialect) (object : List Token → α) (existing : List α) :
    List String → Except String (List α)
  | [] => .ok existing
  | sql :: sqls =>
    match d.execute object existing sql with
    | .error e => .error e
    | .ok later => executeAll d object later sqls

/-- **One statement** succeeds exactly if it leaves every sequence there once. -/
theorem execute_eq_ok_iff (hexisting : existing.Nodup) :
    d.execute object existing sql = .ok later ↔
      later = (d.createdObject? object sql).toList ++ existing ∧ later.Nodup := by
  unfold execute
  cases d.createdObject? object sql with
  | none =>
      rw [Except.ok.injEq, Option.toList_none, List.nil_append]
      constructor
      · rintro rfl
        exact ⟨rfl, hexisting⟩
      · exact fun h => h.1.symm
  | some x =>
      rw [Option.toList_some, List.singleton_append]
      dsimp only
      split
      · rename_i hx
        constructor
        · exact nofun
        · rintro ⟨rfl, hnodup⟩
          exact absurd hx (List.nodup_cons.1 hnodup).1
      · rename_i hx
        rw [Except.ok.injEq]
        constructor
        · rintro rfl
          exact ⟨rfl, List.nodup_cons.2 ⟨hx, hexisting⟩⟩
        · exact fun h => h.1.symm

/-- **Statements run through** exactly if they leave every sequence there once. -/
theorem executeAll_eq_ok_iff (hexisting : existing.Nodup) :
    d.executeAll object existing sqls = .ok later ↔
      later = (sqls.filterMap (d.createdObject? object)).reverse ++ existing ∧ later.Nodup := by
  induction sqls generalizing existing with
  | nil =>
      rw [executeAll, Except.ok.injEq]
      constructor
      · rintro rfl
        exact ⟨rfl, hexisting⟩
      · exact fun h => h.1.symm
  | cons sql sqls ih =>
      have hone : d.execute object existing sql = .ok ((d.createdObject? object sql).toList ++ existing) ↔
          _ := execute_eq_ok_iff hexisting
      have hall : ((sql :: sqls).filterMap (d.createdObject? object)).reverse ++ existing =
          (sqls.filterMap (d.createdObject? object)).reverse ++
            ((d.createdObject? object sql).toList ++ existing) := by
        rw [List.filterMap_cons]
        cases d.createdObject? object sql <;> simp
      rw [executeAll, hall]
      by_cases hstep : ((d.createdObject? object sql).toList ++ existing).Nodup
      · rw [hone.2 ⟨rfl, hstep⟩]
        exact ih hstep
      · -- a sequence that is there twice stays
        have hfails : ¬ later = (sqls.filterMap (d.createdObject? object)).reverse ++
            ((d.createdObject? object sql).toList ++ existing) ∨ ¬ later.Nodup := by
          rw [← not_and_or]
          rintro ⟨rfl, hnodup⟩
          exact hstep (List.Nodup.of_append_right hnodup)
        cases hexecute : d.execute object existing sql with
        | error e => exact iff_of_false nofun (not_and_or.2 hfails)
        | ok later' =>
            obtain ⟨rfl, hnodup⟩ := (execute_eq_ok_iff hexisting).1 hexecute
            exact absurd hnodup hstep

/-- Statements run through where no sequence exists exactly if they create none twice. -/
theorem executeAll_nil_iff :
    (∃ later, d.executeAll object [] sqls = .ok later) ↔
      (sqls.filterMap (d.createdObject? object)).Nodup := by
  constructor
  · rintro ⟨later, hlater⟩
    obtain ⟨rfl, hnodup⟩ := (executeAll_eq_ok_iff List.nodup_nil).1 hlater
    rw [List.append_nil] at hnodup
    exact List.nodup_reverse.1 hnodup
  · intro hnodup
    refine ⟨_, (executeAll_eq_ok_iff List.nodup_nil).2 ⟨rfl, ?_⟩⟩
    rw [List.append_nil]
    exact List.nodup_reverse.2 hnodup

end

/-! ### The sequences of several models -/

section

variable {α : Type} {object : List Token → α} {x : String}

/-- The sequences of a model are those that its fields draw from. -/
theorem mem_sequences : x ∈ d.sequences m ↔ ∃ f ∈ m.fields, d.sequence? m f = some x := by
  rw [sequences, mem_firstOnes, List.mem_filterMap]
  simp

/-- **Names in one model**: fields that draw from one sequence have one name for it. -/
def OneNameEach (d : Dialect) (object : List Token → α) (m : Model) : Prop :=
  ∀ f ∈ m.fields, ∀ g ∈ m.fields, ∀ x ∈ d.sequence? m f, ∀ y ∈ d.sequence? m g,
    object [d.nameToken x] = object [d.nameToken y] → x = y

/-- **Names in two models**: no field of the one draws from a sequence that one of the other draws from. -/
def Apart (d : Dialect) (object : List Token → α) (m m' : Model) : Prop :=
  ∀ f ∈ m.fields, ∀ g ∈ m'.fields, ∀ x ∈ d.sequence? m f, ∀ y ∈ d.sequence? m' g,
    object [d.nameToken x] ≠ object [d.nameToken y]

theorem nodup_objects_iff :
    ((d.sequences m).map fun x => object [d.nameToken x]).Nodup ↔ d.OneNameEach object m := by
  have hnames : (d.sequences m).Nodup := nodup_firstOnes [] _
  rw [List.nodup_map_iff_inj_on hnames]
  constructor
  · intro h f hf g hg x hx y hy
    exact h x (mem_sequences.2 ⟨f, hf, hx⟩) y (mem_sequences.2 ⟨g, hg, hy⟩)
  · intro h x hx y hy
    obtain ⟨f, hf, hx⟩ := mem_sequences.1 hx
    obtain ⟨g, hg, hy⟩ := mem_sequences.1 hy
    exact h f hf g hg x hx y hy

theorem disjoint_objects_iff {m' : Model} :
    List.Disjoint ((d.sequences m).map fun x => object [d.nameToken x])
      ((d.sequences m').map fun x => object [d.nameToken x]) ↔ d.Apart object m m' := by
  constructor
  · intro h f hf g hg x hx y hy heq
    exact h (List.mem_map_of_mem (mem_sequences.2 ⟨f, hf, hx⟩))
      (List.mem_map.2 ⟨y, mem_sequences.2 ⟨g, hg, hy⟩, heq.symm⟩)
  · intro h o hm hm'
    obtain ⟨x, hx, rfl⟩ := List.mem_map.1 hm
    obtain ⟨y, hy, heq⟩ := List.mem_map.1 hm'
    obtain ⟨f, hf, hx⟩ := mem_sequences.1 hx
    obtain ⟨g, hg, hy⟩ := mem_sequences.1 hy
    exact h f hf g hg x hx y hy heq.symm

/-- **The sequences of several models are distinct** exactly if they are in each model, and in any two. -/
theorem nodup_flatMap_objects_iff :
    (ms.flatMap fun m => (d.sequences m).map fun x => object [d.nameToken x]).Nodup ↔
      (∀ m ∈ ms, d.OneNameEach object m) ∧ ms.Pairwise (d.Apart object) := by
  rw [List.nodup_flatMap]
  exact and_congr (forall₂_congr fun m _ => nodup_objects_iff)
    (List.Pairwise.iff fun {m m'} => disjoint_objects_iff)

end

end Dialect

namespace CommandLine

open Dialect

variable {d : Dialect} {ms : List Model} {text : String}

/-! ### The sequences of a script -/

/-- **A script that can be written** is made of the statements of its models. -/
theorem exists_statements_of_modelScripts (h : modelScripts d ms = .ok text) :
    ∃ groups, List.Forall₂ (fun m sqls => d.createStatements m = .ok sqls) ms groups ∧
      text = String.join (groups.map blockText) := by
  induction ms generalizing text with
  | nil =>
      refine ⟨[], .nil, ?_⟩
      rw [modelScripts] at h
      exact (Except.ok.inj h).symm
  | cons m ms ih =>
      rw [modelScripts] at h
      cases hm : d.createStatements m with
      | error e =>
          rw [modelScript_of_error (createTable_of_statements_error hm)] at h
          cases h
      | ok sqls =>
          rw [modelScript_of_statements hm] at h
          obtain ⟨rest, hrest, rfl⟩ := map_eq_ok h
          obtain ⟨groups, hgroups, rfl⟩ := ih hrest
          refine ⟨sqls :: groups, .cons hm hgroups, ?_⟩
          rw [List.map_cons, String.join_cons]

/-- **When a script creates no sequence twice.**  Its statements create the sequences of its models in order,
and nothing else in it creates any.  They run through where no sequence exists exactly if none is created
twice; that is where fields of one model that draw from one sequence have one name for it, and fields of two
models draw from different ones.  What a name stands for may be told by any rule. -/
theorem script_creates_once_iff {α : Type} [DecidableEq α] (object : List Token → α)
    (h : script d ms = .ok text) : ∃ groups,
      List.Forall₂ (fun m sqls => d.createStatements m = .ok sqls) ms groups ∧
      text = headerText d ++ String.join (groups.map blockText) ∧
      groups.flatten.filterMap (d.parse Nest.createdSequence?) =
        (ms.flatMap d.sequences).map (fun x => [d.nameToken x]) ∧
      ((∃ later, d.executeAll object [] groups.flatten = .ok later) ↔
        (groups.flatten.filterMap (d.createdObject? object)).Nodup) ∧
      ((groups.flatten.filterMap (d.createdObject? object)).Nodup ↔
        (∀ m ∈ ms, d.OneNameEach object m) ∧ ms.Pairwise (d.Apart object)) := by
  obtain ⟨body, hbody, rfl⟩ := map_eq_ok h
  obtain ⟨groups, hgroups, rfl⟩ := exists_statements_of_modelScripts hbody
  have hcreated := filterMap_createdSequence_flatten hgroups
  have hobjects : groups.flatten.filterMap (d.createdObject? object) =
      ms.flatMap fun m => (d.sequences m).map fun x => object [d.nameToken x] := by
    have hmap : d.createdObject? object = fun sql => (d.parse Nest.createdSequence? sql).map object := rfl
    rw [hmap, ← List.map_filterMap, hcreated, List.map_flatMap]
    simp only [List.map_map, Function.comp_def]
  refine ⟨groups, hgroups, rfl, ?_, executeAll_nil_iff, ?_⟩
  · rw [hcreated, List.map_flatMap]
  · rw [hobjects, nodup_flatMap_objects_iff]

/-- A document that draws its number from a sequence. -/
def numberedFrom (name sequence : String) : Model :=
  { Model.new name with fields := [{ Field.new "No" .int64 with sequence := some sequence }] }

/-- Its statements on Firebird. -/
def numberedStatements (name sequence : String) : List String :=
  ["CREATE GENERATOR " ++ sequence ++ ";",
    "CREATE TABLE " ++ name ++ " \n(\n  \"No\" BIGINT NOT NULL\n);"]

/-- Invoices and receipts with sequences of their own are created; the case of letters sets no names apart. -/
theorem script_creates_once_iff_documents :
    let d := DialectKind.firebird.dialect
    let ms := [numberedFrom "Invoice" "invoice_seq", numberedFrom "Receipt" "receipt_seq"]
    ∃ (text : String) (groups : List (List String)), script d ms = .ok text ∧
      text = headerText d ++ String.join (groups.map blockText) ∧
      ∃ later, d.executeAll (List.map Token.object?) [] groups.flatten = .ok later := by
  intro d ms
  have hgroups : List.Forall₂ (fun m sqls => d.createStatements m = .ok sqls) ms
      [numberedStatements "Invoice" "invoice_seq", numberedStatements "Receipt" "receipt_seq"] :=
    .cons (by decide +kernel) (.cons (by decide +kernel) .nil)
  have hscript : script d ms = .ok _ := congrArg (Except.map _) (modelScripts_of_statements hgroups)
  obtain ⟨groups, -, htext, -, hruns, hapart⟩ :=
    script_creates_once_iff (List.map Token.object?) hscript
  have hmodels : (∀ m ∈ ms, d.OneNameEach (List.map Token.object?) m) ∧
      ms.Pairwise (d.Apart (List.map Token.object?)) := by
    rw [← nodup_flatMap_objects_iff]
    decide +kernel
  exact ⟨_, groups, hscript, htext, hruns.2 (hapart.2 hmodels)⟩

/-- **Two models may share a sequence**: their script creates it twice, and fails there in a database that
was empty. -/
theorem script_creates_twice :
    let d := DialectKind.firebird.dialect
    let ms := [numberedFrom "Invoice" "doc_seq", numberedFrom "Receipt" "doc_seq"]
    let groups := [numberedStatements "Invoice" "doc_seq", numberedStatements "Receipt" "doc_seq"]
    (∀ m ∈ ms, m.build = .ok m) ∧
      script d ms = .ok (headerText d ++ String.join (groups.map blockText)) ∧
      d.executeAll (List.map Token.object?) [] groups.flatten = .error "CREATE GENERATOR doc_seq;" := by
  intro d ms groups
  have hgroups : List.Forall₂ (fun m sqls => d.createStatements m = .ok sqls) ms groups :=
    .cons (by decide +kernel) (.cons (by decide +kernel) .nil)
  have hbuild : ∀ m ∈ ms, m.build = .ok m := by
    intro m hm
    rcases List.mem_pair.1 hm with rfl | rfl
    · rfl
    · rfl
  have hscript : script d ms = .ok _ := congrArg (Except.map _) (modelScripts_of_statements hgroups)
  exact ⟨hbuild, hscript, by decide +kernel⟩

end CommandLine

end ModelSql
