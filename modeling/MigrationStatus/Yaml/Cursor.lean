/-!
Places in a YAML text, and the classes of characters that its rules speak of.

A text is read with every kind of line end written as a line feed, apart from the line and paragraph
separators of Unicode, which end lines too and keep their own form.
-/

namespace MigrationStatus.Yaml

/-- Whether a text may hold the character at all. -/
def isAllowed (c : Char) : Bool :=
  let n := c.toNat
  n == 0x09 || n == 0x0A || n == 0x0D || (0x20 ≤ n && n ≤ 0x7E) || n == 0x85 ||
    (0xA0 ≤ n && n ≤ 0xFFFD) || 0x10000 ≤ n

/-- The text with its line ends written as line feeds. -/
def unified : List Char → List Char
  | '\r' :: '\n' :: rest => '\n' :: unified rest
  | '\r' :: rest => '\n' :: unified rest
  | '\u0085' :: rest => '\n' :: unified rest
  | c :: rest => c :: unified rest
  | [] => []

def isBreak (c : Char) : Bool := c == '\n' || c == '\u2028' || c == '\u2029'

def isBlank (c : Char) : Bool := c == ' ' || c == '\t'

/-- Whether a word ends before this character, or before the end of the text. -/
def endsWord (next : Option Char) : Bool := next.all fun c => isBlank c || isBreak c

/-- Whether the character can stand in names of anchors, handles and directives. -/
def isWord (c : Char) : Bool := c.isAlphanum || c == '_' || c == '-'

/-- Whether one of the two marks of a document stands at the start of the text. -/
def isDocumentMark (text : List Char) : Bool :=
  (text.take 3 == ['-', '-', '-'] || text.take 3 == ['.', '.', '.']) && endsWord text[3]?

/-- A place in a text. -/
structure Mark where
  line : Nat
  /-- The characters in front of it on its line. -/
  column : Nat
  /-- The bytes that these take in UTF-8. -/
  width : Nat
  deriving Repr

namespace Mark

def start : Mark := ⟨0, 0, 0⟩

/-- The place behind a character of the line. -/
def past (mark : Mark) (c : Char) : Mark :=
  { mark with column := mark.column + 1, width := mark.width + c.utf8Size }

/-- The place behind several characters of the line. -/
def pastAll (mark : Mark) (text : List Char) : Mark := text.foldl past mark

/-- The start of the next line. -/
def newLine (mark : Mark) : Mark := ⟨mark.line + 1, 0, 0⟩

end Mark

/-- What is left of a text, and the place where it begins. -/
structure Cursor extends Mark where
  rest : List Char
  deriving Repr

namespace Cursor

/-- The character that is read next. -/
def next? (cursor : Cursor) : Option Char := cursor.rest.head?

/-- Whether this character is read next. -/
def isAt (cursor : Cursor) (c : Char) : Bool := cursor.next? == some c

/-- Passes over characters of one line. -/
def skip (cursor : Cursor) (count : Nat) : Cursor :=
  ⟨cursor.pastAll (cursor.rest.take count), cursor.rest.drop count⟩

/-- The characters up to the first that is not of a class. -/
def taken (cursor : Cursor) (accepted : Char → Bool) : List Char :=
  cursor.rest.takeWhile accepted

/-- Passes over the characters up to the first that is not of a class. -/
def skipWhile (cursor : Cursor) (accepted : Char → Bool) : Cursor :=
  cursor.skip (cursor.taken accepted).length

/-- Passes over the end of a line. -/
def skipBreak (cursor : Cursor) : Cursor :=
  ⟨cursor.newLine, cursor.rest.drop 1⟩

/-- Passes over the mark of a byte order, which may stand at the start of every line. It takes a
column of its own. -/
def skipOrderMark (cursor : Cursor) : Cursor :=
  if cursor.column == 0 && cursor.isAt '\ufeff' then cursor.skip 1 else cursor

/-- Passes over a comment, if one begins here. -/
def skipComment (cursor : Cursor) : Cursor :=
  if cursor.isAt '#' then cursor.skipWhile fun c => !isBreak c else cursor

/-- Passes over blanks and a comment up to the end of the line and over that; nothing else may
stand there. -/
def skipLine? (cursor : Cursor) : Option Cursor :=
  let ending := (cursor.skipWhile isBlank).skipComment
  match ending.next? with
  | none => some ending
  | some c => if isBreak c then some ending.skipBreak else none

end Cursor

end MigrationStatus.Yaml
