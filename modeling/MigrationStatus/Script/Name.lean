import MigrationStatus.Text.Cut
import MigrationStatus.Version.Text
/-!
The file names of migration scripts: `V`, a version that begins with a digit, two underscores, a
description of at least one character, and `.sql`.

The first pair of underscores ends the version. Every underscore after it stands for a space of the
description.
-/

namespace MigrationStatus.Script

/-- What the name of a script says. -/
structure Name where
  version : Version
  description : String
  deriving DecidableEq

namespace Name

/-- The letter in front of the version. -/
def opening : List Char := ['V']

/-- What stands between the version and the description. -/
def separator : List Char := ['_', '_']

def ending : List Char := ['.', 's', 'q', 'l']

/-- The version and the description as they are written, cut out of the name. -/
def pieces? (name : List Char) : Option (List Char × List Char) := do
  let rest ← Text.after? opening name
  let body ← Text.before? ending rest
  Text.cut? separator body

/-- Whether the text begins with an ASCII digit. -/
def startsWithDigit (text : List Char) : Bool := text.head?.any Char.isDigit

/-- The version written in a name. -/
def version? (written : List Char) : Option Version :=
  if startsWithDigit written then (Version.ofChars written).toOption else none

/-- What a file name says, if it is the name of a script. -/
def ofChars? (name : List Char) : Option Name := do
  let (written, words) ← pieces? name
  guard !words.isEmpty
  let version ← version? written
  return { version, description := String.ofList (Text.replace '_' ' ' words) }

def parse? (name : String) : Option Name := ofChars? name.toList

end Name

end MigrationStatus.Script
