/-
**Why a run of the program stops.**

Main definitions:

* `ProjectError` — what is wrong with a project file;
* `Failure`, `Failure.message` — **the reasons why a run stops**, and what the program says then.
-/

import ModelSql.Error
import ModelSql.Files.Host

set_option autoImplicit false

namespace ModelSql.CommandLine

/-- What is wrong with a project file. -/
inductive ProjectError
  | malformed
  | noTargets
  | sharedOutput (output : Path)
  | settings (e : Error)
  | otherKind (output : Path)
  deriving DecidableEq, Repr

/-- The words for it. -/
def ProjectError.message : ProjectError → String
  | malformed => (Error.malformed .toml).detail
  | noTargets => "at least one [[targets]] entry is required"
  | sharedOutput p => "output " ++ p.text ++ " is used by more than one target"
  | settings e => e.message
  | otherKind p => "target " ++ p.text ++ " sets a different settings.kind"

/-- The reasons why a run stops. -/
inductive Failure
  -- arguments
  | unknownCommand (name : String)
  | missingValue (option : String)
  | unknownArgument (command argument : String)
  | dryRunAndCheck
  | dialectWithoutTargets
  -- projects and schemas
  | present (path : Path)
  | unreadableProject (path : Path) (reason : FileError)
  | badProject (path : Path) (reason : ProjectError)
  | badSchema (path : Path) (reason : Error)
  | badModel (model : String) (reason : Error)
  | refused (reason : Error)
  -- files
  | outOfDate (paths : List Path)
  | notAFile (path : Path)
  | noDirectory (path : Path) (reason : FileError)
  | unwritten (path : Path) (reason : FileError)
  | unreplaced (path : Path) (reason : FileError)
  deriving DecidableEq, Repr

/-- **What the program says.** -/
def Failure.message : Failure → String
  | unknownCommand c => "unknown command: " ++ c
  | missingValue o => o ++ " requires a value"
  | unknownArgument c a => "unknown argument for `" ++ c ++ "`: " ++ a
  | dryRunAndCheck => "--dry-run and --check cannot be combined"
  | dialectWithoutTargets =>
    "--dialect prints to stdout; --dry-run and --check apply to targets only"
  | present p => p.text ++ " already exists"
  | unreadableProject p e => "failed to read config file " ++ p.text ++ ": " ++ e.message
  | badProject p e => "invalid config " ++ p.text ++ ": " ++ e.message
  | badSchema p e => p.text ++ ": " ++ e.message
  | badModel m e => m ++ ": " ++ e.message
  | refused e => e.message
  | outOfDate ps => "DDL scripts are out of date: " ++ Text.joinWith ", " (ps.map (·.text))
  | notAFile p => p.text ++ " is not a file path"
  | noDirectory p e => "failed to create directory " ++ p.text ++ ": " ++ e.message
  | unwritten p e => "failed to write " ++ p.text ++ ": " ++ e.message
  | unreplaced p e => "failed to replace " ++ p.text ++ ": " ++ e.message

end ModelSql.CommandLine
