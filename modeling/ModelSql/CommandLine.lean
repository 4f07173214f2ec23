/-
**The program.**

A run of the program reads the arguments and does what they ask.  It is written for any machine that
answers the requests of `Host`.

Main definitions:

* `listDialects`, `startProject`, `makeScripts` — the commands;
* `run` — **a run of the program**.
-/

import ModelSql.CommandLine.Output
import ModelSql.CommandLine.Project
import ModelSql.CommandLine.Script
import ModelSql.Schema

set_option autoImplicit false

namespace ModelSql.CommandLine

/-- A line of the list of dialects: the name of a database, ten characters wide, and what it is
called. -/
def dialectLine (k : DialectKind) : String :=
  k.name ++ String.ofList (List.replicate (10 - k.name.length) ' ') ++ " " ++ k.rules.name ++ "\n"

/-- The list of dialects. -/
def listDialects : String := String.join (DialectKind.all.map dialectLine)

/-- The text of a file as a schema: JSON by the extension of its path, or else TOML. -/
def schemaFormat (p : Path) : DocumentFormat := if p.hasExtension "json" then .json else .toml

section

variable {m : Type → Type} [Monad m] [Host m]

/-- Starts a project: its file, and a schema next to it if there is none. -/
def startProject (project : Path) : ExceptT Failure m Unit := do
  if ← ExceptT.lift (Host.isPresent project) then throw (.present project)
  let schema := (project.directory?.getD ⟨""⟩).join ⟨"models.toml"⟩
  request (.unwritten project) (Host.writeText project starterProject)
  printLine ("wrote " ++ project.text)
  if ← ExceptT.lift (Host.isPresent schema) then return ()
  request (.unwritten schema) (Host.writeText schema starterSchema)
  printLine ("wrote " ++ schema.text)

/-- Reads a project file. -/
def loadProject (p : Path) : ExceptT Failure m Project := do
  let text ← request (.unreadableProject p) (Host.readText p)
  settle ((Project.ofText text).mapError (.badProject p))

/-- Reads a schema. -/
def loadSchema (p : Path) : ExceptT Failure m Schema := do
  let text ← request (fun e => .badSchema p (.unreadableSchema p.text e.message)) (Host.readText p)
  settle ((Schema.ofText (schemaFormat p) text).mapError (.badSchema p))

/-- The scripts of a project. -/
def outputs (directory : Path) (base : Settings) (ms : List Model) :
    List Target → Except Failure (List Output)
  | [] => .ok []
  | t :: ts =>
    match script (Project.dialectOf base t) ms with
    | .error e => .error e
    | .ok s => (outputs directory base ms ts).map (⟨directory.join t.output, s⟩ :: ·)

/-- What a request asks to do with files. -/
def ScriptRequest.mode (r : ScriptRequest) : OutputMode :=
  if r.check then .check else if r.dryRun then .report else .write

/-- Makes scripts: prints that of one dialect, or deals with the files of the project. -/
def makeScripts (r : ScriptRequest) : ExceptT Failure m Unit := do
  let project ← loadProject r.project
  let directory := r.project.parent?.getD ⟨"."⟩
  let schema ← loadSchema (r.schema.getD (directory.join project.schema))
  let models ← settle (schema.definitions.mapError .refused)
  let base := schema.dialect.getD Settings.empty
  match r.dialect with
  | some k =>
    let s ← settle (script (project.dialectFor base k) models)
    ExceptT.lift (Host.print s)
  | none =>
    let os ← settle (outputs directory base models project.targets)
    applyOutputs r.mode os

/-- Does what a command asks. -/
def Command.perform : Command → ExceptT Failure m Unit
  | .help topic => ExceptT.lift (Host.print topic.text)
  | .scripts r => makeScripts r
  | .start p => startProject p
  | .dialects => ExceptT.lift (Host.print listDialects)

/-- **A run of the program**, with the arguments after its name. -/
def run (arguments : List String) : ExceptT Failure m Unit := do
  let c ← settle (Command.ofArguments arguments)
  c.perform

end

end ModelSql.CommandLine
