/-
**The arguments of the program.**

The arguments after the command are words: an option with its value, which is the next argument or
follows an equals sign, or a plain argument.  The words are taken one by one, and a word that asks
for help ends the reading, whatever follows.

Main definitions:

* `Word`, `words` — arguments as words;
* `ScriptRequest`, `Command` — what a user asks for;
* `Command.ofArguments` — **the command that the arguments say**;
* `HelpTopic.text` — the help texts.
-/

import ModelSql.CommandLine.Failure
import ModelSql.Dialect.Kind

set_option autoImplicit false

namespace ModelSql.CommandLine

/-! ### Words -/

/-- What arguments are made of; an option is `unvalued` if the arguments end after it. -/
inductive Word
  | valued (option value : String)
  | unvalued (option : String)
  | plain (argument : String)
  deriving DecidableEq, Repr

/-- The words of some arguments, where the given options take values. -/
def words (options : List String) : List String → List Word
  | [] => []
  | a :: as =>
    if options.contains a then
      match as with
      | [] => [.unvalued a]
      | v :: rest => .valued a v :: words options rest
    else
      match options.find? fun o => Text.startsWith a (o ++ "=") with
      | some o => .valued o (Text.dropRepeated (o ++ "=") a) :: words options as
      | none => .plain a :: words options as

/-! ### Commands -/

/-- What the user may ask help about. -/
inductive HelpTopic
  | program | scripts | start
  deriving DecidableEq, Repr

/-- The file that describes a project, unless the user names another. -/
def defaultProject : Path := ⟨"polyorm.toml"⟩

/-- A request for scripts: the file of the project, the one dialect to print a script of, the file
of the schema if it is not the project's, and what to do instead of writing files. -/
structure ScriptRequest where
  project : Path := defaultProject
  dialect : Option DialectKind := none
  schema : Option Path := none
  dryRun : Bool := false
  check : Bool := false
  deriving DecidableEq, Repr

/-- What the user may ask for. -/
inductive Command
  | help (topic : HelpTopic)
  | scripts (request : ScriptRequest)
  | start (project : Path)
  | dialects
  deriving DecidableEq, Repr

/-- Whether an argument asks for help. -/
def asksHelp (a : String) : Bool := a == "-h" || a == "--help"

/-- The dialect of a name that the user gives. -/
def dialectOf (name : String) : Except Failure DialectKind :=
  (DialectKind.ofText name).mapError .refused

/-- Refuses requests that contradict themselves. -/
def ScriptRequest.checked (r : ScriptRequest) : Except Failure Command :=
  if r.dryRun && r.check then .error .dryRunAndCheck
  else if r.dialect.isSome && (r.dryRun || r.check) then .error .dialectWithoutTargets
  else .ok (.scripts r)

/-- The request for scripts that some words say, after `r`. -/
def readScripts (r : ScriptRequest) : List Word → Except Failure Command
  | [] => r.checked
  | .valued "--config" v :: ws => readScripts { r with project := ⟨v⟩ } ws
  | .valued "--schema" v :: ws => readScripts { r with schema := some ⟨v⟩ } ws
  | .valued _ v :: ws =>
    match dialectOf v with
    | .error e => .error e
    | .ok k => readScripts { r with dialect := some k } ws
  | .unvalued o :: _ => .error (.missingValue o)
  | .plain a :: ws =>
    if asksHelp a then .ok (.help .scripts)
    else if a = "--dry-run" then readScripts { r with dryRun := true } ws
    else if a = "--check" then readScripts { r with check := true } ws
    else .error (.unknownArgument "ddl" a)

/-- The request for a new project that some words say, after the file `p`. -/
def readStart (p : Path) : List Word → Except Failure Command
  | [] => .ok (.start p)
  | .valued _ v :: ws => readStart ⟨v⟩ ws
  | .unvalued o :: _ => .error (.missingValue o)
  | .plain a :: _ =>
    if asksHelp a then .ok (.help .start) else .error (.unknownArgument "init" a)

/-- **The command that the arguments say.** -/
def Command.ofArguments : List String → Except Failure Command
  | [] => .ok (.help .program)
  | a :: as =>
    if asksHelp a || a == "help" then .ok (.help .program)
    else if a = "ddl" then readScripts {} (words ["--config", "--dialect", "--schema"] as)
    else if a = "init" then readStart defaultProject (words ["--config"] as)
    else if a = "dialects" then .ok .dialects
    else .error (.unknownCommand a)

/-! ### Help -/

/-- Lines, each with its end. -/
def lines (ls : List String) : String := String.join (ls.map (· ++ "\n"))

/-- The help text about a topic. -/
def HelpTopic.text : HelpTopic → String
  | program => lines
    ["polyorm - DDL scripts from model schema files",
      "",
      "USAGE:",
      "  polyorm <COMMAND> [OPTIONS]",
      "",
      "COMMANDS:",
      "  ddl           Write CREATE scripts for every configured target",
      "  init          Write a starter polyorm.toml and schema file",
      "  dialects      List supported dialects",
      "",
      "Run `polyorm <command> --help` for more."]
  | scripts => lines
    ["USAGE:",
      "  polyorm ddl [OPTIONS]",
      "",
      "OPTIONS:",
      "  --config <FILE>       Config file path (default: polyorm.toml)",
      "  --schema <FILE>       Schema file (overrides `schema` from config)",
      "  --dialect <KIND>      Print one dialect's script to stdout",
      "  --dry-run             Print files that would change",
      "  --check               Exit non-zero if output would change",
      "  -h, --help            Print help"]
  | start => lines
    ["USAGE:",
      "  polyorm init [OPTIONS]",
      "",
      "OPTIONS:",
      "  --config <FILE>       Output config path (default: polyorm.toml)",
      "  -h, --help            Print help"]

end ModelSql.CommandLine
