/-
**A file system as a value.**

Files and directories lie at locations, lists of names from the root; a path leads to a location
step by step, and every step but the last must arrive at a directory.  The requests of a program are
functions from a file system to an answer and a file system, so that a run of the program is a
value.

Main definitions:

* `FileSystem` — the files and directories, and the directory that relative paths start from;
* `FileSystem.locate`, `FileSystem.slot` — **where a path leads**;
* `FileSystem.readText`, `FileSystem.writeText`, `FileSystem.makeDirectories`,
  `FileSystem.moveFile` — the requests;
* `World` — a file system and what was printed, with its instance of `Host`.
-/

import ModelSql.Files.Host

set_option autoImplicit false

namespace ModelSql

/-- What lies at a location: a file with a text, a file with bytes that are no text, a
directory. -/
inductive FileNode
  | text (s : String)
  | binary (bytes : List UInt8)
  | directory
  deriving DecidableEq, Repr

/-- The names from the root to a file or a directory. -/
abbrev Location := List String

/-- Files and directories by location, and the directory that relative paths start from. -/
structure FileSystem where
  nodes : List (Location × FileNode)
  start : Location

namespace FileSystem

/-! ### Locations -/

/-- What lies at a location; the root is a directory. -/
def get? (fs : FileSystem) : Location → Option FileNode
  | [] => some .directory
  | l => fs.nodes.lookup l

/-- Empties a location. -/
def remove (fs : FileSystem) (l : Location) : FileSystem :=
  { fs with nodes := fs.nodes.filter fun e => e.1 != l }

/-- Puts something at a location, in place of what lies there. -/
def put (fs : FileSystem) (l : Location) (n : FileNode) : FileSystem :=
  { fs with nodes := (fs.remove l).nodes ++ [(l, n)] }

/-- Makes directories of a location and of those it lies in, where nothing lies. -/
def addDirectory (fs : FileSystem) (l : Location) : FileSystem :=
  ((List.range (l.length + 1)).map l.take).foldl
    (fun fs l => if (fs.get? l).isSome then fs else fs.put l .directory) fs

/-- Only directories: the one that relative paths start from, and those it lies in. -/
def startingAt (l : Location) : FileSystem := addDirectory ⟨[], l⟩ l

/-! ### Where paths lead -/

/-- The most bytes in a name. -/
def nameLimit : Nat := 255

/-- One more than the most bytes in a path. -/
def pathLimit : Nat := 4096

/-- One step from the directory at a location. -/
def step (fs : FileSystem) (l : Location) (piece : String) :
    Except FileError (Location × FileNode) :=
  if piece = "." then .ok (l, .directory)
  else if piece = ".." then .ok (l.dropLast, .directory)
  else if nameLimit < piece.utf8ByteSize then .error .nameTooLong
  else
    match fs.get? (l ++ [piece]) with
    | some n => .ok (l ++ [piece], n)
    | none => .error .missing

/-- The steps from the directory at a location, every one to a directory. -/
def walk (fs : FileSystem) (l : Location) : List String → Except FileError Location
  | [] => .ok l
  | piece :: rest =>
    match fs.step l piece with
    | .ok (l, .directory) => fs.walk l rest
    | .ok _ => .error .notADirectory
    | .error e => .error e

/-- Refuses a path that no request takes. -/
def checkPath (p : Path) : Except FileError Unit :=
  if p.text.toList.contains '\x00' then .error .zeroInName
  else if p.text = "" then .error .missing
  else if pathLimit ≤ p.text.utf8ByteSize then .error .nameTooLong
  else .ok ()

/-- The steps of a path. -/
def steps (p : Path) : List String := p.pieces.filter (· != "")

/-- Where a path starts. -/
def origin (fs : FileSystem) (p : Path) : Location := if p.isAbsolute then [] else fs.start

/-- **Where a path leads**, and what lies there.  A path that ends with a separator leads to
directories only. -/
def locate (fs : FileSystem) (p : Path) : Except FileError (Location × FileNode) := do
  checkPath p
  let l ← fs.walk (fs.origin p) (steps p).dropLast
  match (steps p).getLast? with
  | none => .ok (l, .directory)
  | some piece =>
    let (l, n) ← fs.step l piece
    if Text.endsWith p.text "/" && n != .directory then .error .notADirectory else .ok (l, n)

/-- A place for a file or a directory, whether something lies there or not. -/
structure Slot where
  /-- The directory. -/
  directory : Location
  /-- The name there; none for a path whose last step is no name. -/
  name : Option String
  /-- Whether the path ends with a separator. -/
  closed : Bool

/-- **Where a path leads**, whether something lies there or not. -/
def slot (fs : FileSystem) (p : Path) : Except FileError Slot := do
  checkPath p
  let l ← fs.walk (fs.origin p) (steps p).dropLast
  let name := (steps p).getLast?.filter fun s => s != "." && s != ".."
  return ⟨l, name, Text.endsWith p.text "/"⟩

/-- The location of a name in a directory. -/
def entry (l : Location) (name : String) : Except FileError Location :=
  if nameLimit < name.utf8ByteSize then .error .nameTooLong else .ok (l ++ [name])

/-! ### Requests -/

/-- The text in a file. -/
def readText (fs : FileSystem) (p : Path) : Except FileError String := do
  match ← fs.locate p with
  | (_, .text s) => .ok s
  | (_, .binary _) => .error .notUnicode
  | (_, .directory) => .error .isADirectory

/-- Whether a path leads to something. -/
def isPresent (fs : FileSystem) (p : Path) : Bool := (fs.locate p).isOk

/-- Whether a path leads to a directory. -/
def isDirectory (fs : FileSystem) (p : Path) : Bool :=
  match fs.locate p with
  | .ok (_, .directory) => true
  | _ => false

/-- Puts a text into a file. -/
def writeText (fs : FileSystem) (p : Path) (s : String) : Except FileError FileSystem := do
  let slot ← fs.slot p
  match slot.name, slot.closed with
  | some name, false =>
    let l ← entry slot.directory name
    if fs.get? l = some .directory then .error .isADirectory else .ok (fs.put l (.text s))
  | _, _ => .error .isADirectory

/-- Makes one directory. -/
def makeDirectory (fs : FileSystem) (p : Path) : Except FileError FileSystem := do
  let slot ← fs.slot p
  match slot.name with
  | some name =>
    let l ← entry slot.directory name
    if (fs.get? l).isSome then .error .present else .ok (fs.put l .directory)
  | none => .error .present

/-- Makes a directory if the path does not lead to one. -/
def ensureDirectory (fs : FileSystem) (p : Path) : Except FileError FileSystem :=
  match fs.makeDirectory p with
  | .ok fs => .ok fs
  | .error e => if fs.isDirectory p then .ok fs else .error e

/-- Makes a directory, after those it lies in; `fuel` bounds how many these are.  The directories
made before a refusal stay. -/
def makeDirectoriesFrom : Nat → FileSystem → Path → Except FileError Unit × FileSystem
  | 0, fs, _ => (.error .missing, fs)
  | fuel + 1, fs, p =>
    if p.text = "" then (.ok (), fs)
    else
      match fs.ensureDirectory p with
      | .ok fs => (.ok (), fs)
      | .error .missing =>
        match p.parent? with
        | none => (.error .missing, fs)
        | some q =>
          match makeDirectoriesFrom fuel fs q with
          | (.error e, fs) => (.error e, fs)
          | (.ok (), fs) =>
            match fs.ensureDirectory p with
            | .ok fs => (.ok (), fs)
            | .error e => (.error e, fs)
      | .error e => (.error e, fs)

/-- Makes a directory, and those it lies in, where they are not there.  Every parent is a shorter
path, so there are no more of them than the path has characters. -/
def makeDirectories (fs : FileSystem) (p : Path) : Except FileError Unit × FileSystem :=
  makeDirectoriesFrom (p.text.length + 1) fs p

/-- Gives a file another path. -/
def moveFile (fs : FileSystem) (p q : Path) : Except FileError FileSystem := do
  let source ← fs.slot p
  let target ← fs.slot q
  match source.name, target.name with
  | some a, some b =>
    let old ← entry source.directory a
    match fs.get? old with
    | none => .error .missing
    | some .directory => .error .isADirectory
    | some file =>
      let new ← entry target.directory b
      if source.closed || target.closed then .error .notADirectory
      else if fs.get? new = some .directory then .error .isADirectory
      else .ok ((fs.remove old).put new file)
  | _, _ => .error .busy

end FileSystem

/-! ### Runs -/

/-- A file system, and what was printed. -/
structure World where
  files : FileSystem
  printed : String

namespace World

/-- The answer to a request that changes files: after a refusal they are as before. -/
def change (r : FileSystem → Except FileError FileSystem) : StateM World (Except FileError Unit) :=
  fun w =>
    match r w.files with
    | .ok fs => (.ok (), { w with files := fs })
    | .error e => (.error e, w)

instance : Host (StateM World) where
  readText p := fun w => (w.files.readText p, w)
  isPresent p := fun w => (w.files.isPresent p, w)
  writeText p s := change (·.writeText p s)
  makeDirectories p := fun w =>
    let r := w.files.makeDirectories p
    (r.1, { w with files := r.2 })
  moveFile p q := change (·.moveFile p q)
  print s := fun w => ((), { w with printed := w.printed ++ s })

end World

end ModelSql
