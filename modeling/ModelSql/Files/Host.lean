/-
**Files and the terminal.**

What a program may ask of the machine it runs on, whatever carries it out: a real machine, or a
file system that is a value.

Main definitions:

* `FileError` — the reasons why a request about a file is refused;
* `Host` — **the requests**.
-/

import ModelSql.Files.Path

set_option autoImplicit false

namespace ModelSql

/-- The reasons why a request about a file is refused; `other` is any reason that has no name
here. -/
inductive FileError
  | missing
  | busy
  | present
  | notADirectory
  | isADirectory
  | nameTooLong
  | notUnicode
  | zeroInName
  | other (text : String)
  deriving DecidableEq, Repr

/-- The words for a reason. -/
def FileError.message : FileError → String
  | missing => "No such file or directory (os error 2)"
  | busy => "Device or resource busy (os error 16)"
  | present => "File exists (os error 17)"
  | notADirectory => "Not a directory (os error 20)"
  | isADirectory => "Is a directory (os error 21)"
  | nameTooLong => "File name too long (os error 36)"
  | notUnicode => "stream did not contain valid UTF-8"
  | zeroInName => "file name contained an unexpected NUL byte"
  | other text => text

/-- **The requests** that a program may make. -/
class Host (m : Type → Type) where
  /-- The text in a file. -/
  readText : Path → m (Except FileError String)
  /-- Whether there is a file or a directory. -/
  isPresent : Path → m Bool
  /-- Puts a text into a file that is there or not, in a directory that is there. -/
  writeText : Path → String → m (Except FileError Unit)
  /-- Makes a directory, and those it lies in, where they are not there. -/
  makeDirectories : Path → m (Except FileError Unit)
  /-- Gives a file another path, in place of a file that may be there. -/
  moveFile : Path → Path → m (Except FileError Unit)
  /-- Writes to the terminal. -/
  print : String → m Unit

end ModelSql
