/-
**Reading TOML.**

A reader of one TOML document into a tree.  The text is read into statements first: entries, and
headers of tables and of arrays of tables.  The statements then build the tree, and one that defines
a name twice, or extends what is closed, is refused.

Main definitions:

* `Toml.readKey`, `Toml.readScalar`, `Toml.readValue` — the parts of a document;
* `Toml.Node`, `Toml.insert`, `Toml.openTable`, `Toml.openItem` — **building tables**;
* `Toml.read?` — **the tree of a document**.
-/

import ModelSql.Document.Toml.Scalar

set_option autoImplicit false

namespace ModelSql.Toml

/-- A step that reads something from the front of a text and leaves the rest. -/
abbrev Step (α : Type) := List Char → Option (α × List Char)

/-! ### Between the tokens -/

/-- Whether the character is a blank within a line. -/
def isSpace (c : Char) : Bool := c == ' ' || c == '\t'

/-- The text without the blanks it starts with. -/
def skip (cs : List Char) : List Char := cs.dropWhile isSpace

/-- Whether the character may stand in a comment or in a text. -/
def isPrintable (c : Char) : Bool := c == '\t' || (32 ≤ c.toNat && c.toNat != 127)

/-- The text after a line break. -/
def lineBreak? : List Char → Option (List Char)
  | '\n' :: rest => some rest
  | '\r' :: '\n' :: rest => some rest
  | _ => none

/-- The text after a comment, if there is one. -/
def skipComment : List Char → List Char
  | '#' :: rest => rest.dropWhile isPrintable
  | cs => cs

/-- The text without the blanks, comments and line breaks it starts with. -/
def skipLines : Nat → List Char → List Char
  | 0, cs => cs
  | fuel + 1, cs =>
    let rest := skipComment (skip cs)
    match lineBreak? rest with
    | some rest => skipLines fuel rest
    | none => rest

/-! ### Texts -/

/-- The number that some digits of base 16 spell. -/
def hexNumber (digits : List Char) : Option Nat :=
  (digits.mapM Text.hexValue?).map fun ds => ds.foldl (fun n d => 16 * n + d) 0

/-- The character of a number of base 16 with a given count of digits. -/
def readCode (count : Nat) : Step Char := fun cs =>
  let digits := cs.take count
  if digits.length = count then
    (hexNumber digits).bind fun n =>
      if n < 0xD800 ∨ (0xE000 ≤ n ∧ n < 0x110000) then some (Char.ofNat n, cs.drop count) else none
  else none

/-- The character that an escape stands for, read after the backslash. -/
def readEscape : Step Char
  | 'b' :: rest => some ('\x08', rest)
  | 't' :: rest => some ('\t', rest)
  | 'n' :: rest => some ('\n', rest)
  | 'f' :: rest => some ('\x0c', rest)
  | 'r' :: rest => some ('\r', rest)
  | 'e' :: rest => some ('\x1b', rest)
  | '"' :: rest => some ('"', rest)
  | '\\' :: rest => some ('\\', rest)
  | 'x' :: rest => readCode 2 rest
  | 'u' :: rest => readCode 4 rest
  | 'U' :: rest => readCode 8 rest
  | _ => none

/-- Reads a text on one line up to its closing quote; `escapes` where a backslash has a meaning. -/
def readLineText (quote : Char) (escapes : Bool) : Nat → List Char → Step String
  | 0, _, _ => none
  | fuel + 1, done, cs =>
    match cs with
    | [] => none
    | c :: rest =>
      if c = quote then some (String.ofList done.reverse, rest)
      else if c = '\\' ∧ escapes then
        (readEscape rest).bind fun r => readLineText quote escapes fuel (r.1 :: done) r.2
      else if isPrintable c then readLineText quote escapes fuel (c :: done) rest
      else none

/-- The text after all blanks and line breaks it starts with. -/
def skipBreaks : Nat → List Char → List Char
  | 0, cs => cs
  | fuel + 1, cs =>
    match lineBreak? (skip cs) with
    | some rest => skipBreaks fuel rest
    | none => skip cs

/-- Reads a text of several lines up to its three closing quotes; one or two quotes before them
belong to the text.  A backslash at the end of a line joins it with the next one. -/
def readLongText (quote : Char) (escapes : Bool) : Nat → List Char → Step String
  | 0, _, _ => none
  | fuel + 1, done, cs =>
    match cs with
    | [] => none
    | c :: rest =>
      if c = quote then
        let run := cs.takeWhile (· == quote)
        if run.length < 3 then readLongText quote escapes fuel (c :: done) rest
        else if run.length ≤ 5 then
          some (String.ofList (List.replicate (run.length - 3) quote ++ done).reverse,
            cs.drop run.length)
        else none
      else if c = '\\' ∧ escapes then
        match lineBreak? (skip rest) with
        | some after => readLongText quote escapes fuel done (skipBreaks after.length after)
        | none => (readEscape rest).bind fun r => readLongText quote escapes fuel (r.1 :: done) r.2
      else
        match lineBreak? cs with
        | some after =>
          let taken := cs.take (cs.length - after.length)
          readLongText quote escapes fuel (taken.reverse ++ done) after
        | none =>
          if isPrintable c then readLongText quote escapes fuel (c :: done) rest else none

/-- Reads a text of several lines after its opening quotes; a line break right there is dropped. -/
def readLong (quote : Char) (escapes : Bool) : Step String := fun cs =>
  let cs := (lineBreak? cs).getD cs
  readLongText quote escapes (cs.length + 1) [] cs

/-- Reads a text on one line after its opening quote. -/
def readShort (quote : Char) (escapes : Bool) : Step String := fun cs =>
  readLineText quote escapes (cs.length + 1) [] cs

/-! ### Keys -/

/-- Whether the character may stand in a key without quotes. -/
def isKeyPart (c : Char) : Bool := c.isAlphanum || c == '_' || c == '-'

/-- Reads one part of a key. -/
def readKeyPart : Step String := fun cs =>
  match cs with
  | '"' :: rest => readShort '"' true rest
  | '\'' :: rest => readShort '\'' false rest
  | cs =>
    let word := cs.takeWhile isKeyPart
    if word.isEmpty then none else some (String.ofList word, cs.drop word.length)

/-- Reads a key: parts with points between. -/
def readKeyFrom : Nat → Step (List String)
  | 0, _ => none
  | fuel + 1, cs =>
    (readKeyPart (skip cs)).bind fun r =>
      match skip r.2 with
      | '.' :: rest => (readKeyFrom fuel rest).map fun s => (r.1 :: s.1, s.2)
      | rest => some ([r.1], rest)

/-- Reads a key. -/
def readKey : Step (List String) := fun cs => readKeyFrom (cs.length + 1) cs

/-! ### Scalars -/

/-- Whether the character may stand in a scalar without quotes. -/
def isWordPart (c : Char) : Bool :=
  c.isAlphanum || c == '_' || c == '-' || c == '+' || c == '.' || c == ':'

/-- Reads a scalar without quotes: a word, or two words with one blank between them of which the
first is a date and the second starts with a digit. -/
def readScalar : Step Datum := fun cs =>
  let word := cs.takeWhile isWordPart
  let rest := cs.drop word.length
  match afterDate word, rest with
  | some [], ' ' :: c :: more =>
    if c.isDigit then
      let time := (c :: more).takeWhile isWordPart
      (scalar? (word ++ ' ' :: time)).map (·, (c :: more).drop time.length)
    else (scalar? word).map (·, rest)
  | _, _ => (scalar? word).map (·, rest)

/-! ### Tables -/

/-- How a table came about: as the parent of another one, by a key with points, or by a header. -/
inductive Origin
  | parent | dotted | header
  deriving DecidableEq, Repr

/-- What stands under a name while a document is read: a value, a table that may still grow, or an
array of tables, whose last one may grow. -/
inductive Node
  | value (d : Datum)
  | table (origin : Origin) (entries : List (String × Node))
  | tables (done : List (List (String × Node))) (last : List (String × Node))

/-- The entries of a table. -/
abbrev Entries := List (String × Node)

/-- Changes what stands under a name, or puts something there. -/
def change (key : String) (f : Option Node → Option Node) : Entries → Option Entries
  | [] => (f none).map fun n => [(key, n)]
  | e :: es =>
    if e.1 = key then (f (some e.2)).map fun n => (key, n) :: es
    else (change key f es).map (e :: ·)

/-- Puts a value under a new name. -/
def putNew (key : String) (d : Datum) : Entries → Option Entries :=
  change key fun
    | none => some (.value d)
    | some _ => none

/-- **Puts a value under a key.**  The parts of the key but the last name tables that such keys
made; `isOpen` says whether the table at hand takes the last part. -/
def insert (d : Datum) (isOpen : Bool) : List String → Entries → Option Entries
  | [], _ => none
  | [key], es => if isOpen then putNew key d es else none
  | key :: k :: keys, es =>
    change key (fun
      | none => (insert d true (k :: keys) []).map (.table .dotted)
      | some (.table origin inner) =>
        if origin = .header then none
        else (insert d (origin == .dotted) (k :: keys) inner).map (.table origin)
      | some (.tables done last) => (insert d false (k :: keys) last).map (.tables done)
      | some (.value _) => none) es

/-- Changes the table that a path of headers leads to. -/
def within (f : Entries → Option Entries) : List String → Entries → Option Entries
  | [], es => f es
  | key :: keys, es =>
    change key (fun
      | none => (within f keys []).map (.table .parent)
      | some (.table origin inner) => (within f keys inner).map (.table origin)
      | some (.tables done last) => (within f keys last).map (.tables done)
      | some (.value _) => none) es

/-- Opens a table by its header; only a table that is a parent so far may be there. -/
def openTable (key : String) : Entries → Option Entries :=
  change key fun
    | none => some (.table .header [])
    | some (.table .parent es) => some (.table .header es)
    | some _ => none

/-- Opens the next table of an array. -/
def openItem (key : String) : Entries → Option Entries :=
  change key fun
    | none => some (.tables [] [])
    | some (.tables done last) => some (.tables (done ++ [last]) [])
    | some _ => none

mutual

/-- The tree of a node. -/
def Node.datum : Node → Datum
  | .value d => d
  | .table _ es => .table (dataOf es)
  | .tables done last => .list (tablesOf done ++ [.table (dataOf last)])

/-- The trees of the entries of a table. -/
def dataOf : List (String × Node) → List (String × Datum)
  | [] => []
  | (k, n) :: es => (k, n.datum) :: dataOf es

/-- The trees of tables. -/
def tablesOf : List (List (String × Node)) → List Datum
  | [] => []
  | es :: rest => .table (dataOf es) :: tablesOf rest

end

/-! ### Values -/

/-- The number of brackets and braces that may be open at a time. -/
def maxDepth : Nat := 80

mutual

/-- Reads a value; `depth` is the number of brackets and braces that it may still open. -/
def readValue : Nat → Nat → Step Datum
  | 0, _, _ => none
  | fuel + 1, depth, cs =>
    match cs with
    | '"' :: '"' :: '"' :: rest => (readLong '"' true rest).map fun r => (.text r.1, r.2)
    | '"' :: rest => (readShort '"' true rest).map fun r => (.text r.1, r.2)
    | '\'' :: '\'' :: '\'' :: rest => (readLong '\'' false rest).map fun r => (.text r.1, r.2)
    | '\'' :: rest => (readShort '\'' false rest).map fun r => (.text r.1, r.2)
    | '[' :: rest =>
      if depth = 0 then none
      else (readItems fuel (depth - 1) rest).map fun r => (.list r.1, r.2)
    | '\x7b' :: rest =>
      if depth = 0 then none
      else (readEntries fuel (depth - 1) [] rest).map fun r => (.table (dataOf r.1), r.2)
    | cs => readScalar cs

/-- Reads the items of an array and its closing bracket. -/
def readItems : Nat → Nat → Step (List Datum)
  | 0, _, _ => none
  | fuel + 1, depth, cs =>
    match skipLines cs.length cs with
    | ']' :: rest => some ([], rest)
    | cs =>
      (readValue fuel depth cs).bind fun r =>
        match skipLines r.2.length r.2 with
        | ',' :: rest => (readItems fuel depth rest).map fun s => (r.1 :: s.1, s.2)
        | ']' :: rest => some ([r.1], rest)
        | _ => none

/-- Reads the entries of a table in braces and its closing brace.  Lines may end anywhere between
its keys, marks and values. -/
def readEntries : Nat → Nat → Entries → Step Entries
  | 0, _, _, _ => none
  | fuel + 1, depth, done, cs =>
    match skipLines cs.length cs with
    | '\x7d' :: rest => some (done, rest)
    | cs =>
      (readKey cs).bind fun k =>
        match skipLines k.2.length k.2 with
        | '=' :: rest =>
          (readValue fuel depth (skipLines rest.length rest)).bind fun r =>
            (insert r.1 true k.1 done).bind fun done =>
              match skipLines r.2.length r.2 with
              | ',' :: rest => readEntries fuel depth done rest
              | '\x7d' :: rest => some (done, rest)
              | _ => none
        | _ => none

end

/-! ### Documents -/

/-- A statement of a document. -/
inductive Statement
  | entry (key : List String) (d : Datum)
  | table (path : List String)
  | item (path : List String)

/-- Reads a statement. -/
def readStatement : Step Statement := fun cs =>
  match cs with
  | '[' :: '[' :: rest =>
    (readKey rest).bind fun k =>
      match k.2 with
      | ']' :: ']' :: rest => some (.item k.1, rest)
      | _ => none
  | '[' :: rest =>
    (readKey rest).bind fun k =>
      match k.2 with
      | ']' :: rest => some (.table k.1, rest)
      | _ => none
  | cs =>
    (readKey cs).bind fun k =>
      match k.2 with
      | '=' :: rest =>
        (readValue (2 * rest.length + 2) maxDepth (skip rest)).map fun r => (.entry k.1 r.1, r.2)
      | _ => none

/-- Reads the statements of a document, each on a line of its own. -/
def readStatements : Nat → List Char → Option (List Statement)
  | 0, _ => none
  | fuel + 1, cs =>
    match skipLines cs.length cs with
    | [] => some []
    | cs =>
      (readStatement cs).bind fun r =>
        match skipComment (skip r.2) with
        | [] => some [r.1]
        | rest =>
          (lineBreak? rest).bind fun rest =>
            (readStatements fuel rest).map (r.1 :: ·)

/-- Builds the tree: `path` is the table that entries belong to. -/
def build : List String → Entries → List Statement → Option Entries
  | _, es, [] => some es
  | path, es, .entry key d :: rest =>
    (within (insert d true key) path es).bind fun es => build path es rest
  | _, es, .table path :: rest =>
    (within (openTable (path.getLast?.getD "")) path.dropLast es).bind fun es =>
      build path es rest
  | _, es, .item path :: rest =>
    (within (openItem (path.getLast?.getD "")) path.dropLast es).bind fun es => build path es rest

/-- **The tree of a document**; a byte order mark in front is passed over. -/
def read? (s : String) : Option Datum :=
  let cs := match s.toList with
    | '\uFEFF' :: cs => cs
    | cs => cs
  (readStatements (cs.length + 1) cs).bind fun statements =>
    (build [] [] statements).map fun es => .table (dataOf es)

end ModelSql.Toml
