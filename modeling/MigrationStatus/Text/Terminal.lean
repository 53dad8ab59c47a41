/-!
Characters that a terminal takes for commands.

Such a character can be written out as an escape, so that it is seen, or left out together with the
command that it begins. A command begins with the escape character; what follows it says how long
the command is. A lone blank of whatever kind is shown even within a command.
-/

namespace MigrationStatus.Text.Terminal

/-! ### Writing commands out -/

/-- The digit of a value below sixteen. -/
def hexDigit (n : Nat) : Char := (Nat.digitChar n)

/-- Characters that are written as an escape of two digits. -/
def escapedControls : List Char := ['\x07', '\x08', '\x0c', '\x1b', '\x7f']

/-- A character as it stands in the log. -/
def written (c : Char) : List Char :=
  let n := c.toNat
  if escapedControls.contains c then ['\\', 'x', hexDigit (n / 16), hexDigit (n % 16)]
  else if 0x80 ≤ n && n ≤ 0x9F then
    ['\\', 'u', '\x7b', hexDigit (n / 16), hexDigit (n % 16), '\x7d']
  else [c]

/-- The text with everything written out that a terminal could take for a command. -/
def writtenOut (text : String) : String := String.ofList (text.toList.flatMap written)

/-! ### Leaving commands out -/

/-- Where in a command the text is. -/
inductive Place where
  /-- In no command. -/
  | outside
  /-- Right behind the escape character. -/
  | started
  /-- Behind marks that one more character closes. -/
  | marked
  /-- In a list of numbers that a letter closes. -/
  | numbers
  /-- In a command of the operating system, which the bell closes. -/
  | system
  /-- In a longer text that is meant for the terminal alone. -/
  | string
  deriving DecidableEq, Repr

def isIn (low high : Nat) (c : Char) : Bool := low ≤ c.toNat && c.toNat ≤ high

def isAscii (c : Char) : Bool := c.toNat < 0x80

/-- Whether a character is seen outside of commands. -/
def isSeen (c : Char) : Bool := isIn 0x20 0x7E c || !isAscii c

/-- Blanks that are no spaces. -/
def isControlBlank (c : Char) : Bool := ['\t', '\n', '\x0c', '\r'].contains c

/-- The place behind the character that follows the escape character. -/
def Place.behindStart (c : Char) : Place :=
  if isIn 0x20 0x2F c then .marked
  else if c == '[' then .numbers
  else if c == ']' then .system
  else if ['P', 'X', '^', '_'].contains c then .string
  else if isIn 0x30 0x7E c then .outside
  else .started

/-- The place behind one more character. -/
def Place.next (place : Place) (c : Char) : Place :=
  if c == '\x18' || c == '\x1a' then .outside
  else if c == '\x1b' then .started
  else
    match place with
    | outside => .outside
    | started => .behindStart c
    | marked => if isIn 0x30 0x7E c then .outside else .marked
    | numbers => if isIn 0x40 0x7E c then .outside else .numbers
    | system => if c == '\x07' then .outside else .system
    | string => if (String.utf8EncodeChar c).contains 0x9C && !isAscii c then .outside else .string

/-- Whether a character is seen at a place. -/
def Place.shows (place : Place) (c : Char) : Bool :=
  match place with
  | outside => isSeen c || isControlBlank c
  | started | marked | numbers => isControlBlank c
  | system | string => false

/-- What is seen of a text. Once something has been seen, all is up to the next character that is
not, and only from there on is a command that was not closed taken up again. -/
def seenFrom (place : Place) (shown : Bool) : List Char → List Char
  | [] => []
  | c :: rest =>
    if shown && (isSeen c || isControlBlank c) then
      c :: seenFrom (if isAscii c then place else .outside) true rest
    else if place.shows c then c :: seenFrom (place.next c) true rest
    else seenFrom (place.next c) false rest

/-- The text without commands. -/
def seen (text : String) : String := String.ofList (seenFrom .outside false text.toList)

end MigrationStatus.Text.Terminal
