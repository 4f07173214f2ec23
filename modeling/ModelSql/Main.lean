/-
**The program on a real machine.**

Main definitions:

* `main` — runs the program with the arguments of its call; a failure is said on the error stream.
-/

import ModelSql.CommandLine

set_option autoImplicit false

namespace ModelSql

/-- The number and the words that the machine has for an error; some of its calls negate the
number. -/
def machineError (e : IO.Error) : Nat × String :=
  match e with
  | .noFileOrDirectory _ code words | .resourceBusy code words | .alreadyExists _ code words
  | .inappropriateType _ code words | .invalidArgument _ code words
  | .permissionDenied _ code words | .otherError code words =>
    (if code.toInt32 < 0 then (-code.toInt32).toInt.toNat else code.toNat, words)
  | e => (0, toString e)

/-- The reason why the machine refuses a request. -/
def FileError.ofMachine (e : IO.Error) : FileError :=
  match machineError e with
  | (2, _) => .missing
  | (16, _) => .busy
  | (17, _) => .present
  | (20, _) => .notADirectory
  | (21, _) => .isADirectory
  | (36, _) => .nameTooLong
  | (0, words) => .other words
  | (n, words) => .other (words.capitalize ++ " (os error " ++ toString n ++ ")")

/-- An action about a file, with its refusal as an answer. -/
def answered {α : Type} (p : Path) (act : IO α) : IO (Except FileError α) := do
  if p.text.toList.contains '\x00' then return .error .zeroInName
  try return .ok (← act)
  catch e => return .error (.ofMachine e)

instance : Host IO where
  readText p := do
    match ← answered p (IO.FS.readBinFile p.text) with
    | .error e => return .error e
    | .ok bytes => return match String.fromUTF8? bytes with
      | some s => .ok s
      | none => .error .notUnicode
  isPresent p := return (← answered p (IO.FS.realPath p.text)).isOk
  writeText p s := answered p (IO.FS.writeFile p.text s)
  makeDirectories p := answered p (IO.FS.createDirAll p.text)
  moveFile p q := answered p (IO.FS.rename p.text q.text)
  print s := do
    (← IO.getStdout).putStr s
    (← IO.getStdout).flush

end ModelSql

/-- Runs the program with the arguments of its call. -/
def main (arguments : List String) : IO UInt32 := do
  match ← (ModelSql.CommandLine.run arguments : ExceptT ModelSql.CommandLine.Failure IO Unit) with
  | .ok () => return 0
  | .error e =>
    IO.eprintln e.message
    return 1
