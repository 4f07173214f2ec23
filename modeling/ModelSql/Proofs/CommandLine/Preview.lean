/-
**The script that is shown, and those that are written.**

A request for scripts loads a project and a schema.  If it names a dialect, the script of that dialect is
shown; otherwise the scripts of all targets are made, and their files are dealt with.  The two ways find the
settings of a script on their own: the one looks for a target of the dialect, the other goes through the
targets.  Both lay the settings of the target over those of the schema and take the dialect from them, so
that the script that is shown is the one that the first target of the dialect is given.

Main definitions:

* `Loaded`, `ScriptRequest.Loads` — **what a request loads**;
* `deliver` — what is done with it.

Main results:

* `run_makeScripts_of_loads`, `loads_of_run` — a request loads, and then delivers;
* `Project.dialectFor_of_find?` — **the dialect that is shown is that of the first target**;
* `outputs_eq_ok_iff` — the scripts of the targets, one for each;
* `preview_eq_rendered` — **what is shown is what is written**.
-/

import Mathlib.Data.List.Forall2
import ModelSql.CommandLine
import ModelSql.Proofs.CommandLine.Writing

set_option relaxedAutoImplicit false
set_option autoImplicit false

namespace ModelSql.CommandLine

open World

variable {w w' v : World}

/-! ### Steps of a run -/

section

variable {ε α β : Type}

theorem run_bind_of_ok {x : ExceptT ε (StateM World) α} {f : α → ExceptT ε (StateM World) β} {a : α}
    (h : w.run x = (.ok a, v)) : w.run (x >>= f) = v.run (f a) := by
  rw [run_bind, h]

theorem run_settle (r : Except Failure α) (w : World) : w.run (settle r) = (r, w) := rfl

theorem run_settle_eq_ok {r : Except Failure α} {a : α} :
    w.run (settle r) = (.ok a, w') ↔ r = .ok a ∧ w' = w := by
  rw [run_settle, Prod.mk.injEq, eq_comm (a := w)]

theorem mapError_eq_ok_iff {δ : Type} {f : ε → δ} {x : Except ε α} {a : α} :
    x.mapError f = .ok a ↔ x = .ok a := by
  cases x with
  | error e => exact iff_of_false nofun nofun
  | ok b => rw [Except.mapError, Except.ok.injEq, Except.ok.injEq]

/-- Reading a file leaves everything as it was. -/
theorem run_readText_eq_ok {failure : FileError → Failure} {p : Path} {text : String} :
    w.run (request failure (Host.readText p)) = (.ok text, w') ↔
      w.files.readText p = .ok text ∧ w' = w := by
  have hread : w.run (request failure (Host.readText p)) =
      ((w.files.readText p).mapError failure, w) := run_request failure _ w
  rw [hread, Prod.mk.injEq, mapError_eq_ok_iff, eq_comm (a := w)]

/-- **Reading what the text of a file stands for** leaves everything as it was, too. -/
theorem run_readParsed_eq_ok {failure : FileError → Failure} {refuse : ε → Failure} {p : Path}
    {parse : String → Except ε α} {a : α} :
    w.run (request failure (Host.readText p) >>= fun text => settle ((parse text).mapError refuse)) =
        (.ok a, w') ↔
      (∃ text, w.files.readText p = .ok text ∧ parse text = .ok a) ∧ w' = w := by
  rw [run_bind_eq_ok]
  constructor
  · rintro ⟨text, v, hread, hsettle⟩
    obtain ⟨htext, rfl⟩ := run_readText_eq_ok.1 hread
    obtain ⟨hparse, rfl⟩ := run_settle_eq_ok.1 hsettle
    exact ⟨⟨text, htext, mapError_eq_ok_iff.1 hparse⟩, rfl⟩
  · rintro ⟨⟨text, htext, hparse⟩, rfl⟩
    exact ⟨text, w', run_readText_eq_ok.2 ⟨htext, rfl⟩,
      run_settle_eq_ok.2 ⟨mapError_eq_ok_iff.2 hparse, rfl⟩⟩

end

/-! ### What a request loads -/

/-- The directory that the paths of a project start from. -/
def ScriptRequest.directory (r : ScriptRequest) : Path := r.project.parent?.getD ⟨"."⟩

/-- The file of the schema: the one that the request names, or the one of the project. -/
def ScriptRequest.schemaFile (r : ScriptRequest) (p : Project) : Path :=
  r.schema.getD (r.directory.join p.schema)

/-- A project, a schema and its models. -/
structure Loaded where
  project : Project
  schema : Schema
  models : List Model

/-- The settings of the schema itself. -/
def Loaded.base (l : Loaded) : Settings := l.schema.dialect.getD Settings.empty

/-- **What a request loads**: a project and a schema from the texts of their files, and the models of the
schema. -/
structure ScriptRequest.Loads (r : ScriptRequest) (fs : FileSystem) (l : Loaded) : Prop where
  project : ∃ text, fs.readText r.project = .ok text ∧ Project.ofText text = .ok l.project
  schema : ∃ text, fs.readText (r.schemaFile l.project) = .ok text ∧
    Schema.ofText (schemaFormat (r.schemaFile l.project)) text = .ok l.schema
  models : l.schema.definitions = .ok l.models

/-- **What is done with it**: a script is shown, or the files of the targets are dealt with. -/
def deliver (r : ScriptRequest) (l : Loaded) : ExceptT Failure (StateM World) Unit :=
  match r.dialect with
  | some k => settle (script (l.project.dialectFor l.base k) l.models) >>= fun s =>
    ExceptT.lift (Host.print s)
  | none => settle (outputs r.directory l.base l.models l.project.targets) >>= fun os =>
    applyOutputs r.mode os

variable {r r' : ScriptRequest} {l : Loaded}

theorem run_loadProject_eq_ok {p : Path} {project : Project} :
    w.run (loadProject p) = (.ok project, w') ↔
      (∃ text, w.files.readText p = .ok text ∧ Project.ofText text = .ok project) ∧ w' = w :=
  run_readParsed_eq_ok

theorem run_loadSchema_eq_ok {p : Path} {schema : Schema} :
    w.run (loadSchema p) = (.ok schema, w') ↔
      (∃ text, w.files.readText p = .ok text ∧ Schema.ofText (schemaFormat p) text = .ok schema) ∧
        w' = w :=
  run_readParsed_eq_ok

/-- **A request that loads goes on to deliver.** -/
theorem run_makeScripts_of_loads (h : r.Loads w.files l) : w.run (makeScripts r) = w.run (deliver r l) := by
  have hproject := run_loadProject_eq_ok.2 ⟨h.project, rfl⟩
  have hschema := run_loadSchema_eq_ok.2 ⟨h.schema, rfl⟩
  have hmodels : w.run (settle (l.schema.definitions.mapError .refused)) = (.ok l.models, w) :=
    run_settle_eq_ok.2 ⟨mapError_eq_ok_iff.2 h.models, rfl⟩
  rw [makeScripts, run_bind_of_ok hproject]
  exact (run_bind_of_ok hschema).trans (run_bind_of_ok hmodels)

/-- **A request that succeeds has loaded.** -/
theorem loads_of_run (h : w.run (makeScripts r) = (.ok (), w')) : ∃ l, r.Loads w.files l := by
  rw [makeScripts, run_bind_eq_ok] at h
  obtain ⟨project, v, hproject, h⟩ := h
  obtain ⟨hproject, rfl⟩ := run_loadProject_eq_ok.1 hproject
  obtain ⟨schema, v', hschema, hrest⟩ := run_bind_eq_ok.1 h
  obtain ⟨hschema, rfl⟩ := run_loadSchema_eq_ok.1 hschema
  obtain ⟨models, v'', hmodels, -⟩ := run_bind_eq_ok.1 hrest
  obtain ⟨hmodels, -⟩ := run_settle_eq_ok.1 hmodels
  exact ⟨⟨project, schema, models⟩, hproject, hschema, mapError_eq_ok_iff.1 hmodels⟩

/-- Requests with one project and one schema load the same. -/
theorem ScriptRequest.Loads.congr {fs : FileSystem} (h : r.Loads fs l) (hproject : r'.project = r.project)
    (hschema : r'.schema = r.schema) : r'.Loads fs l := by
  have hdirectory : r'.directory = r.directory := by
    rw [ScriptRequest.directory, ScriptRequest.directory, hproject]
  have hfile : r'.schemaFile l.project = r.schemaFile l.project := by
    rw [ScriptRequest.schemaFile, ScriptRequest.schemaFile, hschema, hdirectory]
  exact ⟨hproject ▸ h.project, hfile ▸ h.schema, h.models⟩

/-! ### The settings of a script -/

section

variable {p : Project} {base : Settings} {k : DialectKind} {t : Target}

/-- **The dialect that is shown is that of the first target** of the database. -/
theorem Project.dialectFor_of_find? (h : p.targets.find? (·.dialect == k) = some t) :
    p.dialectFor base k = Project.dialectOf base t := by
  have hk : t.dialect = k := by simpa using List.find?_some h
  have hsettings : p.settingsFor base k = Project.settingsOf base t := by
    rw [Project.settingsFor, h, Option.bind_some]
    rfl
  rw [Project.dialectFor, hsettings, ← hk]
  rfl

/-- Without a target, it is the dialect of the schema, for that database. -/
theorem Project.dialectFor_of_find?_none (h : p.targets.find? (·.dialect == k) = none) :
    p.dialectFor base k = { base with kind := some k }.dialect k := by
  have hsettings : p.settingsFor base k = base := by
    rw [Project.settingsFor, h]
    rfl
  rw [Project.dialectFor, hsettings]

end

/-- **The scripts of the targets**, one for each. -/
theorem outputs_eq_ok_iff {directory : Path} {base : Settings} {ms : List Model} {ts : List Target}
    {os : List Output} : outputs directory base ms ts = .ok os ↔
      List.Forall₂ (fun t o => o.path = directory.join t.output ∧
        script (Project.dialectOf base t) ms = .ok o.text) ts os := by
  induction ts generalizing os with
  | nil =>
      rw [outputs, Except.ok.injEq, List.forall₂_nil_left_iff]
      exact eq_comm
  | cons t ts ih =>
      rw [outputs, List.forall₂_cons_left_iff]
      cases ht : script (Project.dialectOf base t) ms with
      | error e =>
          constructor
          · exact nofun
          · rintro ⟨o, os, ⟨-, ho⟩, -⟩
            cases ho
      | ok s =>
          constructor
          · intro h
            cases hrest : outputs directory base ms ts with
            | error e =>
                rw [hrest] at h
                cases h
            | ok rest =>
                rw [hrest] at h
                exact ⟨_, rest, ⟨rfl, rfl⟩, ih.1 hrest, (Except.ok.inj h).symm⟩
          · rintro ⟨⟨path, text⟩, rest, ⟨hpath, htext⟩, hrest, rfl⟩
            obtain rfl : path = directory.join t.output := hpath
            obtain rfl : s = text := Except.ok.inj htext
            simp only [ih.2 hrest]
            rfl

/-- The script of a target stands where the target does. -/
theorem output_of_target {directory : Path} {base : Settings} {ms : List Model} {before after : List Target}
    {t : Target} {os : List Output} {text : String}
    (hos : outputs directory base ms (before ++ t :: after) = .ok os)
    (htext : script (Project.dialectOf base t) ms = .ok text) :
    os[before.length]? = some ⟨directory.join t.output, text⟩ := by
  rw [outputs_eq_ok_iff] at hos
  induction before generalizing os with
  | nil =>
      obtain ⟨o, rest, ⟨hpath, ho⟩, -, rfl⟩ := List.forall₂_cons_left_iff.1 hos
      have heq : o = ⟨directory.join t.output, text⟩ := by
        obtain ⟨path, text'⟩ := o
        rw [Output.mk.injEq]
        exact ⟨hpath, Except.ok.inj (ho.symm.trans htext)⟩
      rw [heq]
      rfl
  | cons u before ih =>
      obtain ⟨o, rest, -, hrest, rfl⟩ := List.forall₂_cons_left_iff.1 hos
      exact ih hrest

/-! ### What is shown -/

theorem run_deliver_eq_ok {k : DialectKind} (hk : r.dialect = some k) :
    w.run (deliver r l) = (.ok (), w') ↔
      ∃ text, script (l.project.dialectFor l.base k) l.models = .ok text ∧
        w' = { w with printed := w.printed ++ text } := by
  rw [deliver, hk, run_bind_eq_ok]
  constructor
  · rintro ⟨text, v, hsettle, hprint⟩
    obtain ⟨hscript, rfl⟩ := run_settle_eq_ok.1 hsettle
    exact ⟨text, hscript, (Prod.mk.inj hprint).2.symm⟩
  · rintro ⟨text, hscript, rfl⟩
    exact ⟨text, w, run_settle_eq_ok.2 ⟨hscript, rfl⟩, rfl⟩

/-- **What is shown is what is written.**  Two runs name one project and one schema; the first names a
dialect as well, and succeeds.  Then it prints one script.  The second run renders the scripts of the
targets of the same project for the same models, and deals with them.  If it can render them, the script
that stands at the first target of the dialect is the one that was printed.  If there is no such target, it
is the script for the settings of the schema, with the dialect put in their place. -/
theorem preview_eq_rendered {preview plain : List String} {k : DialectKind}
    (hpreview : Command.ofArguments preview = .ok (.scripts r))
    (hplain : Command.ofArguments plain = .ok (.scripts r')) (hk : r.dialect = some k)
    (hnone : r'.dialect = none) (hproject : r'.project = r.project) (hschema : r'.schema = r.schema)
    (hrun : w.run (CommandLine.run preview) = (.ok (), w')) :
    ∃ l text, r.Loads w.files l ∧ w' = { w with printed := w.printed ++ text } ∧
      w.run (CommandLine.run plain) =
        w.run (settle (outputs r.directory l.base l.models l.project.targets) >>= applyOutputs r'.mode) ∧
      (∀ os before t after, outputs r.directory l.base l.models l.project.targets = .ok os →
        l.project.targets = before ++ t :: after → t.dialect = k → (∀ u ∈ before, u.dialect ≠ k) →
          os[before.length]? = some ⟨r.directory.join t.output, text⟩) ∧
      ((∀ t ∈ l.project.targets, t.dialect ≠ k) →
        script ({ l.base with kind := some k }.dialect k) l.models = .ok text) := by
  have hperform {as : List String} {q : ScriptRequest} (h : Command.ofArguments as = .ok (.scripts q)) :
      w.run (CommandLine.run as) = w.run (makeScripts q) := by
    rw [CommandLine.run, h]
    exact run_bind_of_ok (run_settle (.ok (Command.scripts q)) w)
  rw [hperform hpreview] at hrun
  obtain ⟨l, hloads⟩ := loads_of_run hrun
  rw [run_makeScripts_of_loads hloads, run_deliver_eq_ok hk] at hrun
  obtain ⟨text, hscript, hw⟩ := hrun
  have hdirectory : r'.directory = r.directory := by
    rw [ScriptRequest.directory, ScriptRequest.directory, hproject]
  refine ⟨l, text, hloads, hw, ?_, fun os before t after hos htargets ht hbefore => ?_, fun hother => ?_⟩
  · rw [hperform hplain, run_makeScripts_of_loads (hloads.congr hproject hschema), deliver, hnone,
      hdirectory]
  · have hfind : l.project.targets.find? (·.dialect == k) = some t := by
      rw [htargets, List.find?_append, List.find?_eq_none.2 fun u hu => by simpa using hbefore u hu]
      simp [ht]
    rw [Project.dialectFor_of_find? hfind] at hscript
    rw [htargets] at hos
    exact output_of_target hos hscript
  · have hfind : l.project.targets.find? (·.dialect == k) = none :=
      List.find?_eq_none.2 fun u hu => by simpa using hother u hu
    rw [Project.dialectFor_of_find?_none hfind] at hscript
    exact hscript

/-- The script of people whose columns are in snake case. -/
def snakeScript : String := lines
  ["-- polyorm DDL for SQLite",
    "",
    "CREATE TABLE \"person\" ",
    "(",
    "  \"first_name\" INTEGER NOT NULL",
    ");"]

/-- A target with such a script. -/
def snakeTarget : Target :=
  ⟨.sqlite, ⟨"snake.sql"⟩, some { Settings.empty with naming := some .snakeCase }⟩

/-- Another target of the same database. -/
def plainTarget : Target := ⟨.sqlite, ⟨"plain.sql"⟩, none⟩

/-- A project with the two targets, whose first script is up to date. -/
def snakeProject : World where
  files :=
    (((FileSystem.startingAt ["home"]).put ["home", "polyorm.toml"] (.text (lines
      ["schema = \"models.toml\"",
        "[[targets]]",
        "dialect = \"sqlite\"",
        "output = \"snake.sql\"",
        "settings = \x7b naming = \"snake_case\" \x7d",
        "[[targets]]",
        "dialect = \"sqlite\"",
        "output = \"plain.sql\""]))).put ["home", "models.toml"] (.text (lines
      ["[dialect]",
        "quote = \"always\"",
        "[[models]]",
        "name = \"Person\"",
        "[[models.fields]]",
        "name = \"FirstName\"",
        "type = \"int32\""]))).put ["home", "snake.sql"] (.text snakeScript)
  printed := ""

/-- The script that is shown for SQLite is that of the first target, as it stands in its file. -/
theorem preview_eq_rendered_snakeProject :
    ∃ w' os, snakeProject.run (CommandLine.run ["ddl", "--dialect", "sqlite"]) = (.ok (), w') ∧
      w'.printed = snakeScript ∧ os[0]? = some (Output.mk ⟨"snake.sql"⟩ snakeScript) ∧
      snakeProject.run (CommandLine.run ["ddl", "--dry-run"]) =
        snakeProject.run (applyOutputs .report os) ∧
      snakeProject.files.readText ⟨"snake.sql"⟩ = .ok snakeScript := by
  let preview : ScriptRequest := { dialect := some .sqlite }
  let plain : ScriptRequest := { dryRun := true }
  have hpreview : Command.ofArguments ["ddl", "--dialect", "sqlite"] = .ok (.scripts preview) := by
    decide +kernel
  have hplain : Command.ofArguments ["ddl", "--dry-run"] = .ok (.scripts plain) := by decide +kernel
  obtain ⟨hshown, hprinted⟩ :
      (snakeProject.run (CommandLine.run ["ddl", "--dialect", "sqlite"])).1 = .ok () ∧
        (snakeProject.run (CommandLine.run ["ddl", "--dialect", "sqlite"])).2.printed = snakeScript := by
    decide +kernel
  have hreported : (snakeProject.run (CommandLine.run ["ddl", "--dry-run"])).1 = .ok () := by
    decide +kernel
  obtain ⟨l, text, hloads, hw, hruns, hrendered, -⟩ :=
    preview_eq_rendered hpreview hplain rfl rfl rfl rfl (run_eq hshown)
  have htext : text = snakeScript := by
    have hempty : snakeProject.printed = "" := rfl
    rw [hw, hempty, String.empty_append] at hprinted
    exact hprinted
  -- the targets are those that the text of the project says
  have htargets : l.project.targets = [snakeTarget, plainTarget] := by
    obtain ⟨projectText, hread, hproject⟩ := hloads.project
    have hknown : ((snakeProject.files.readText preview.project).toOption.bind fun s =>
        (Project.ofText s).toOption.map Project.targets) = some [snakeTarget, plainTarget] := by
      decide +kernel
    rw [hread, Except.toOption, Option.bind_some, hproject] at hknown
    exact Option.some.inj hknown
  obtain ⟨os, v, hsettle, -⟩ := run_bind_eq_ok.1 (hruns.symm.trans (run_eq hreported))
  obtain ⟨hos, -⟩ := run_settle_eq_ok.1 hsettle
  have hpath : preview.directory.join snakeTarget.output = ⟨"snake.sql"⟩ := by decide +kernel
  have hfirst := hrendered os [] snakeTarget [plainTarget] hos htargets rfl
    fun u hu => absurd hu List.not_mem_nil
  rw [htext, hpath] at hfirst
  have hfile : snakeProject.files.readText ⟨"snake.sql"⟩ = .ok snakeScript := by decide +kernel
  have hdeals : snakeProject.run (CommandLine.run ["ddl", "--dry-run"]) =
      snakeProject.run (applyOutputs .report os) := by
    rw [hruns, hos]
    exact run_bind_of_ok (run_settle (.ok os) snakeProject)
  exact ⟨_, os, run_eq hshown, hprinted, hfirst, hdeals, hfile⟩

end ModelSql.CommandLine
