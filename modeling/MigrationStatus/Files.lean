/-!
What can be found under a path, and what can go wrong when it is read.
-/

namespace MigrationStatus.Files

/-- One entry of a folder. -/
structure Item where
  name : ByteArray
  /-- The bytes of a regular file; nothing for whatever else the entry is. -/
  content : Option ByteArray

/-- What stands under a path. -/
inductive Entry where
  | file (content : ByteArray)
  | folder (items : List Item)

/-- Why something cannot be read. -/
inductive ReadError where
  | notAFolder
  | isAFolder
  | notText
  deriving DecidableEq, Repr

/-- The wording of the operating system, with its number of the error where it has one. -/
def ReadError.message : ReadError → String
  | .notAFolder => "Not a directory (os error 20)"
  | .isAFolder => "Is a directory (os error 21)"
  | .notText => "stream did not contain valid UTF-8"

/-- The text that bytes encode in UTF-8. -/
def text (content : ByteArray) : Except ReadError String :=
  match String.fromUTF8? content with
  | some text => .ok text
  | none => .error .notText

namespace Entry

/-- The entry read as text. -/
def text : Entry → Except ReadError String
  | file content => Files.text content
  | folder _ => .error .isAFolder

/-- The entry listed as a folder. -/
def items : Entry → Except ReadError (List Item)
  | file _ => .error .notAFolder
  | folder items => .ok items

end Entry

end MigrationStatus.Files
