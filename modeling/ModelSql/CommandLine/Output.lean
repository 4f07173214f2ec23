/-
**Writing scripts to files.**

Only the files whose text is not up to date are written, in the order of their paths.  A text is
put into a file next to the one it is for, which is then moved over it, so that a reader never meets
half a script.

Main definitions:

* `Output`, `Pending` — files to write, and those that are not up to date;
* `request`, `settle` — steps that a failure stops;
* `pending` — **which files are not up to date**;
* `replaceFile` — writing one file;
* `applyOutputs` — reporting, checking or writing them.
-/

import ModelSql.CommandLine.Failure

set_option autoImplicit false

namespace ModelSql.CommandLine

/-- A file and the text it is to have. -/
structure Output where
  path : Path
  text : String
  deriving DecidableEq, Repr

/-- What to do with the files that are not up to date. -/
inductive OutputMode
  | write | report | check
  deriving DecidableEq, Repr

/-- A file that is not up to date; `readable` if it has another text. -/
structure Pending where
  output : Output
  readable : Bool
  deriving DecidableEq, Repr

namespace Pending

/-- What is to be done with a file. -/
def verb (p : Pending) : String := if p.readable then "update" else "create"

/-- Whether a file comes before another or at the same place. -/
def le (p q : Pending) : Bool := (p.output.path.compare q.output.path).isLE

end Pending

/-- A file that does not have its text, given what reading it answers. -/
def Output.pending? (o : Output) : Except FileError String → Option Pending
  | .ok s => if s = o.text then none else some ⟨o, true⟩
  | .error _ => some ⟨o, false⟩

section

variable {m : Type → Type} [Monad m] [Host m]

/-- Stops with a failure if a request about a file is refused. -/
def request {α : Type} (failure : FileError → Failure) (r : m (Except FileError α)) :
    ExceptT Failure m α :=
  ExceptT.mk do
    match ← r with
    | .ok a => return .ok a
    | .error e => return .error (failure e)

/-- Stops with a failure that is known already. -/
def settle {α : Type} (r : Except Failure α) : ExceptT Failure m α := ExceptT.mk (pure r)

/-- Prints a line. -/
def printLine (s : String) : ExceptT Failure m Unit := ExceptT.lift (Host.print (s ++ "\n"))

/-- **Which files are not up to date**, in the order of the files. -/
def pendingOf : List Output → m (List Pending)
  | [] => return []
  | o :: os => do
    let state := o.pending? (← Host.readText o.path)
    return state.toList ++ (← pendingOf os)

/-- **Which files are not up to date**, in the order of their paths. -/
def pending (os : List Output) : m (List Pending) := do
  return (← pendingOf os).mergeSort Pending.le

/-- The path that the text of a file goes to first. -/
def stagedPath (directory : Path) (name : String) : Path :=
  directory.join ⟨"." ++ name ++ ".partial"⟩

/-- Gives a file its text. -/
def replaceFile (o : Output) : ExceptT Failure m Unit := do
  let directory := o.path.directory?.getD ⟨"."⟩
  request (.noDirectory directory) (Host.makeDirectories directory)
  match o.path.fileName? with
  | none => throw (.notAFile o.path)
  | some name =>
    let staged := stagedPath directory name
    request (.unwritten staged) (Host.writeText staged o.text)
    request (.unreplaced o.path) (Host.moveFile staged o.path)

/-- Writes the files, and reports each. -/
def writeAll : List Pending → ExceptT Failure m Unit
  | [] => return ()
  | p :: ps => do
    replaceFile p.output
    printLine (p.verb ++ "d " ++ p.output.path.text)
    writeAll ps

/-- Reports the files. -/
def reportAll : List Pending → ExceptT Failure m Unit
  | [] => return ()
  | p :: ps => do
    printLine ("would " ++ p.verb ++ " " ++ p.output.path.text)
    reportAll ps

/-- Deals with the files that are not up to date. -/
def applyOutputs (mode : OutputMode) (os : List Output) : ExceptT Failure m Unit := do
  let ps ← ExceptT.lift (pending os)
  match mode with
  | .write => writeAll ps
  | .report => reportAll ps
  | .check => if ps.isEmpty then return () else throw (.outOfDate (ps.map (·.output.path)))

end

end ModelSql.CommandLine
