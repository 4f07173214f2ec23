/-
**Small operations on texts.**

Blanks, words, joining, searching, and comparison that ignores the case of ASCII letters.  Every
operation is a structural recursion on a list of characters (or of texts), so that a statement
about it is an induction on that list.

Main definitions:

* `Text.isBlank`, `Text.trimStart`, `Text.trimEnd`, `Text.trim`, `Text.words` — white space;
* `Text.joinWith` — texts joined by a separator;
* `Text.hasInfix`, `Text.dropRepeated`, `Text.splitOnChar` — searching and cutting;
* `Text.asciiLower`, `Text.equalsIgnoringCase`, `Text.isPlainName` — ASCII letters.
-/

set_option autoImplicit false

namespace ModelSql.Text

/-! ### White space -/

/-- Whether `c` has the Unicode property *white space*. -/
def isBlank (c : Char) : Bool :=
  let n := c.toNat
  (9 ≤ n && n ≤ 13) || n == 32 || n == 0x85 || n == 0xA0 || n == 0x1680 ||
  (0x2000 ≤ n && n ≤ 0x200A) || n == 0x2028 || n == 0x2029 || n == 0x202F || n == 0x205F ||
  n == 0x3000

/-- The characters from the first one that is no blank. -/
def dropBlanks (cs : List Char) : List Char := cs.dropWhile isBlank

/-- The characters up to the last one that is no blank. -/
def dropTrailingBlanks (cs : List Char) : List Char := (cs.reverse.dropWhile isBlank).reverse

/-- A text without its leading blanks. -/
def trimStart (s : String) : String := String.ofList (dropBlanks s.toList)

/-- A text without its trailing blanks. -/
def trimEnd (s : String) : String := String.ofList (dropTrailingBlanks s.toList)

/-- A text without its leading and trailing blanks. -/
def trim (s : String) : String := String.ofList (dropTrailingBlanks (dropBlanks s.toList))

/-- Whether a text is empty or holds blanks only. -/
def isAllBlank (s : String) : Bool := s.toList.all isBlank

/-- The maximal runs of characters that are no blanks; `word` is the run being read. -/
def wordsFrom (word : List Char) : List Char → List (List Char)
  | [] => if word.isEmpty then [] else [word]
  | c :: cs =>
    if isBlank c then
      if word.isEmpty then wordsFrom [] cs else word :: wordsFrom [] cs
    else wordsFrom (word ++ [c]) cs

/-- The words of a text: what stands between its blanks. -/
def words (s : String) : List String := (wordsFrom [] s.toList).map String.ofList

/-! ### Joining -/

/-- The texts in order, with `sep` between neighbours. -/
def joinWith (sep : String) : List String → String
  | [] => ""
  | [s] => s
  | s :: t :: rest => s ++ sep ++ joinWith sep (t :: rest)

@[simp] theorem joinWith_nil (sep : String) : joinWith sep [] = "" := rfl

@[simp] theorem joinWith_singleton (sep s : String) : joinWith sep [s] = s := rfl

@[simp] theorem joinWith_cons_cons (sep s t : String) (rest : List String) :
    joinWith sep (s :: t :: rest) = s ++ sep ++ joinWith sep (t :: rest) := rfl

/-! ### Searching and cutting -/

/-- Whether `needle` occurs in the list somewhere. -/
def hasInfix (needle : List Char) : List Char → Bool
  | [] => needle.isEmpty
  | c :: cs => needle.isPrefixOf (c :: cs) || hasInfix needle cs

/-- Whether the text `needle` occurs in the text `s`. -/
def contains (s needle : String) : Bool := hasInfix needle.toList s.toList

/-- Whether the text `s` starts with `head`. -/
def startsWith (s head : String) : Bool := head.toList.isPrefixOf s.toList

/-- Whether the text `s` ends with `tail`. -/
def endsWith (s tail : String) : Bool := tail.toList.isSuffixOf s.toList

/-- The list without the copies of `head` it starts with; at most `fuel` of them. -/
def dropCopies (head : List Char) : Nat → List Char → List Char
  | 0, cs => cs
  | fuel + 1, cs =>
    if head.isPrefixOf cs && !head.isEmpty then dropCopies head fuel (cs.drop head.length) else cs

/-- A text without all the copies of `head` it starts with. -/
def dropRepeated (head s : String) : String :=
  String.ofList (dropCopies head.toList s.length s.toList)

/-- The pieces of a list between the characters that `isCut` accepts; `piece` is being read. -/
def piecesFrom (isCut : Char → Bool) (piece : List Char) : List Char → List (List Char)
  | [] => [piece]
  | c :: cs =>
    if isCut c then piece :: piecesFrom isCut [] cs else piecesFrom isCut (piece ++ [c]) cs

/-- The pieces of a text between the occurrences of `cut`. -/
def splitOnChar (s : String) (cut : Char) : List String :=
  (piecesFrom (· == cut) [] s.toList).map String.ofList

/-! ### ASCII letters -/

/-- A text with its ASCII letters in lower case and all else as it is. -/
def asciiLower (s : String) : String := String.ofList (s.toList.map Char.toLower)

/-- Whether two texts are equal up to the case of ASCII letters. -/
def equalsIgnoringCase (s t : String) : Bool :=
  s.toList.map Char.toLower == t.toList.map Char.toLower

/-- Whether `c` may start a name that needs no quotes. -/
def isNameStart (c : Char) : Bool := c.isAlpha || c == '_'

/-- Whether `c` may follow in a name that needs no quotes. -/
def isNamePart (c : Char) : Bool := c.isAlphanum || c == '_'

/-- Whether the characters spell an ASCII identifier: a letter or underscore, then letters,
digits and underscores. -/
def isPlainName : List Char → Bool
  | [] => false
  | c :: cs => isNameStart c && cs.all isNamePart

/-! ### Numerals -/

/-- The digits of `n`, with zeros in front up to the width `w`. -/
def padNat (w n : Nat) : String :=
  let digits := Nat.toDigits 10 n
  String.ofList (List.replicate (w - digits.length) '0' ++ digits)

/-- The number that a list of ASCII digits spells, most significant first. -/
def natOfDigits (cs : List Char) : Nat := cs.foldl (fun n c => 10 * n + (c.toNat - 48)) 0

/-- The sixteen digits of base 16, in upper or in lower case. -/
def hexDigit (upperCase : Bool) (n : Nat) : Char :=
  if n < 10 then Char.ofNat (48 + n)
  else if upperCase then Char.ofNat (55 + n) else Char.ofNat (87 + n)

/-- The value of a digit of base 16 in either case. -/
def hexValue? (c : Char) : Option Nat :=
  if '0' ≤ c && c ≤ '9' then some (c.toNat - 48)
  else if 'a' ≤ c && c ≤ 'f' then some (c.toNat - 87)
  else if 'A' ≤ c && c ≤ 'F' then some (c.toNat - 55)
  else none

/-- The two digits of a byte in base 16. -/
def hexByte (upperCase : Bool) (b : UInt8) : List Char :=
  [hexDigit upperCase (b.toNat / 16), hexDigit upperCase (b.toNat % 16)]

/-- The bytes in base 16, two digits each. -/
def hex (upperCase : Bool) (bytes : List UInt8) : String :=
  String.ofList (bytes.flatMap (hexByte upperCase))

end ModelSql.Text
