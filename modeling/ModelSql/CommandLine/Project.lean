/-
**Projects.**

A project file says which schema scripts are made from, and which scripts are made: for each target
a dialect, a file, and maybe settings that stand over those of the schema.

Main definitions:

* `Target`, `Project`, `Project.ofText` — **projects, and reading a project file**;
* `Project.settingsOf`, `Project.settingsFor` — the settings of a target, and those for a database;
* `starterProject`, `starterSchema` — the files that a new project starts with.
-/

import ModelSql.CommandLine.Arguments
import ModelSql.Document.Read
import ModelSql.Settings

set_option autoImplicit false

namespace ModelSql.CommandLine

/-- A script to make: its dialect, its file, and settings over those of the schema. -/
structure Target where
  dialect : DialectKind
  output : Path
  settings : Option Settings
  deriving DecidableEq, Repr

/-- The file of the schema, and the scripts to make. -/
structure Project where
  schema : Path
  targets : List Target
  deriving DecidableEq, Repr

/-! ### Reading -/

/-- Reads a path. -/
def decodePath : Decoder Path := fun f d => (Decode.text f d).map Path.mk

/-- Reads a target. -/
def Target.decode : Decoder Target := fun f d => do
  let r ← Decode.fields false ["dialect", "output", "settings"] f d
  some
    { dialect := ← r.required "dialect" (Decode.choice DialectKind.documentNames)
      output := ← r.required "output" decodePath
      settings := ← r.default "settings" none (Decode.optional Settings.decode) }

/-- Refuses a target whose settings do not go together, or are of another dialect. -/
def Target.checkSettings (t : Target) : Except ProjectError Unit :=
  match t.settings with
  | none => .ok ()
  | some s =>
    match s.validate with
    | .error e => .error (.settings e)
    | .ok () =>
      if s.kind.any (· != t.dialect) then .error (.otherKind t.output) else .ok ()

namespace Project

/-- Reads a project. -/
def decode : Decoder Project := fun f d => do
  let r ← Decode.fields false ["schema", "targets"] f d
  some
    { schema := ← r.required "schema" decodePath
      targets := ← r.default "targets" [] (Decode.listOf Target.decode) }

/-- Refuses a target that shares its file with one before it, or has bad settings. -/
def checkTargets (before : List Path) : List Target → Except ProjectError Unit
  | [] => .ok ()
  | t :: ts =>
    if before.any t.output.same then .error (.sharedOutput t.output)
    else
      match t.checkSettings with
      | .error e => .error e
      | .ok () => checkTargets (t.output :: before) ts

/-- Refuses a project without targets, or with bad ones. -/
def check (p : Project) : Except ProjectError Unit :=
  if p.targets.isEmpty then .error .noTargets else checkTargets [] p.targets

/-- **The project that the text of a file says.** -/
def ofText (s : String) : Except ProjectError Project :=
  match Document.read .toml decode s with
  | .error _ => .error .malformed
  | .ok p => p.check.map fun _ => p

/-! ### Settings -/

/-- The settings of a target over those of the schema. -/
def settingsOf (base : Settings) (t : Target) : Settings :=
  match t.settings with
  | some s => s.overlay base
  | none => base

/-- The dialect of a target. -/
def dialectOf (base : Settings) (t : Target) : Dialect :=
  { settingsOf base t with kind := some t.dialect }.dialect t.dialect

/-- The settings for a database: those of its first target over those of the schema, or the latter
alone. -/
def settingsFor (p : Project) (base : Settings) (k : DialectKind) : Settings :=
  match (p.targets.find? (·.dialect == k)).bind (·.settings) with
  | some s => s.overlay base
  | none => base

/-- The dialect of a database under the settings for it. -/
def dialectFor (p : Project) (base : Settings) (k : DialectKind) : Dialect :=
  { p.settingsFor base k with kind := some k }.dialect k

end Project

/-! ### New projects -/

/-- The project file of a new project. -/
def starterProject : String := lines
  ["schema = \"models.toml\"",
    "",
    "[[targets]]",
    "dialect = \"sqlite\"",
    "output = \"sql/sqlite.sql\"",
    "",
    "[[targets]]",
    "dialect = \"postgres\"",
    "output = \"sql/postgres.sql\"",
    "settings = \x7b naming = \"snake_case\" \x7d"]

/-- The schema of a new project. -/
def starterSchema : String := lines
  ["[[models]]",
    "name = \"Person\"",
    "",
    "[[models.fields]]",
    "name = \"Id\"",
    "type = \"int32\"",
    "auto_increment = true",
    "",
    "[[models.fields]]",
    "name = \"Name\"",
    "type = \"string\"",
    "length = 100",
    "nullable = false",
    "indexed = true"]

end ModelSql.CommandLine
