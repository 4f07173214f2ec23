/-
**Paths of files.**

A path is kept as it was written, for messages show it so; what it means is its list of components.
Repeated separators, a separator at the end, and a `.` anywhere but in front add no component, so
two paths that differ in these are the same path.

Main definitions:

* `Path`, `PathPart`, `Path.parts` — paths and their components;
* `Path.parent?`, `Path.fileName?`, `Path.hasExtension`, `Path.join` — taking apart, and putting
  together;
* `Path.same`, `Path.compare` — **equality and order of paths**, component by component.
-/

import ModelSql.Text.Basic

set_option autoImplicit false

namespace ModelSql

/-- A path, as it is written. -/
structure Path where
  text : String
  deriving DecidableEq, Repr

/-- The components of paths. -/
inductive PathPart
  | root
  | here
  | up
  | name (s : String)
  deriving DecidableEq, Repr

namespace PathPart

/-- The place of the form of a component in their order. -/
def rank : PathPart → Nat
  | root => 0
  | here => 1
  | up => 2
  | name _ => 3

/-- The order of components: by form, and names by their characters. -/
def compare : PathPart → PathPart → Ordering
  | name s, name t => Ord.compare s t
  | a, b => Ord.compare a.rank b.rank

end PathPart

namespace Path

/-! ### Components -/

/-- Whether a path starts at the root of the file system. -/
def isAbsolute (p : Path) : Bool := Text.startsWith p.text "/"

/-- What stands between the separators of a path. -/
def pieces (p : Path) : List String := Text.splitOnChar p.text '/'

/-- Whether a path starts with the component `.`. -/
def startsHere (p : Path) : Bool := p.pieces.head? == some "."

/-- The pieces after the root or the `.` in front. -/
def body (p : Path) : List String :=
  if p.isAbsolute || p.startsHere then p.pieces.drop 1 else p.pieces

/-- Whether a piece adds no component. -/
def isVoid (piece : String) : Bool := piece == "" || piece == "."

/-- The component of a piece. -/
def partOf (piece : String) : Option PathPart :=
  if isVoid piece then none else if piece = ".." then some .up else some (.name piece)

/-- **The components of a path.** -/
def parts (p : Path) : List PathPart :=
  (if p.isAbsolute then [.root] else if p.startsHere then [.here] else []) ++
    p.body.filterMap partOf

/-- Whether two paths have the same components. -/
def same (p q : Path) : Bool := p.parts == q.parts

/-- The order of lists of components: the first difference decides. -/
def compareParts : List PathPart → List PathPart → Ordering
  | [], [] => .eq
  | [], _ :: _ => .lt
  | _ :: _, [] => .gt
  | a :: as, b :: bs => (a.compare b).then (compareParts as bs)

/-- **The order of paths.** -/
def compare (p q : Path) : Ordering := compareParts p.parts q.parts

/-! ### Taking apart -/

/-- Pieces without those at the end that add no component. -/
def dropVoid (pieces : List String) : List String := (pieces.reverse.dropWhile isVoid).reverse

/-- The path that has the same front as `p` and the given pieces after it. -/
def withBody (p : Path) (pieces : List String) : Path :=
  if p.isAbsolute then ⟨"/" ++ Text.joinWith "/" pieces⟩
  else if p.startsHere then ⟨Text.joinWith "/" ("." :: pieces)⟩
  else ⟨Text.joinWith "/" pieces⟩

/-- The path without its last component; a path that is a root or empty has none. -/
def parent? (p : Path) : Option Path :=
  match dropVoid p.body with
  | [] => if p.startsHere && !p.isAbsolute then some ⟨""⟩ else none
  | piece :: rest => some (p.withBody (dropVoid (piece :: rest).dropLast))

/-- The parent of a path, if it is not the empty path. -/
def directory? (p : Path) : Option Path := p.parent?.filter fun q => q.text != ""

/-- The last component of a path, if it is a name. -/
def fileName? (p : Path) : Option String :=
  match p.parts.getLast? with
  | some (.name s) => some s
  | _ => none

/-- The characters of a file name after its last dot; a dot in front starts no extension. -/
def extensionOf (name : String) : Option String :=
  let back := name.toList.reverse
  match back.dropWhile (· != '.') with
  | _ :: _ :: _ => some (String.ofList (back.takeWhile (· != '.')).reverse)
  | _ => none

/-- Whether a path has a given extension, in any letter case. -/
def hasExtension (p : Path) (ext : String) : Bool :=
  match p.fileName?.bind extensionOf with
  | some e => Text.equalsIgnoringCase e ext
  | none => false

/-! ### Putting together -/

/-- A path seen from the directory `p`. -/
def join (p q : Path) : Path :=
  if q.isAbsolute then q
  else if p.text = "" || Text.endsWith p.text "/" then ⟨p.text ++ q.text⟩
  else ⟨p.text ++ "/" ++ q.text⟩

@[simp] theorem join_empty (q : Path) : join ⟨""⟩ q = q := by
  simp [join]

end Path

end ModelSql
