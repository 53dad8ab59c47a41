import MigrationStatus.Text.Blank
import MigrationStatus.Text.Cut
import MigrationStatus.Version
/-!
Reading a version from text.

White space around the text does not matter, nor does one letter `V` or `v` in front of the numbers.
Numbers are separated by single points or underscores, and each is a run of ASCII digits, with or
without a plus sign, of at most 64 bits. The word `latest`, in any mixture of cases, is the upper
bound.
-/

namespace MigrationStatus.Version

/-- Why a text is no version; each case carries the whole text as it was given. -/
inductive ParseError where
  /-- Nothing but white space and a leading letter. -/
  | missing (text : String)
  /-- The first piece between separators that is no number. -/
  | notANumber (text piece : String)
  deriving DecidableEq, Repr

def ParseError.message : ParseError → String
  | .missing text => s!"Invalid migration version '{text}': version is empty"
  | .notANumber text piece =>
    s!"Invalid migration version '{text}': '{piece}' is not a non-negative integer"

/-- The number that a run of decimal digits stands for. -/
def digitsValue (digits : List Char) : Nat :=
  digits.foldl (fun value c => 10 * value + (c.toNat - '0'.toNat)) 0

/-- The digits of a piece: all of it, or all but a plus sign at its start. -/
def unsigned : List Char → List Char
  | '+' :: digits => digits
  | digits => digits

/-- The number written as a piece. -/
def number? (piece : List Char) : Option UInt64 :=
  let digits := unsigned piece
  if digits.isEmpty || !digits.all Char.isDigit then none
  else if h : digitsValue digits < UInt64.size then some (UInt64.ofNatLT (digitsValue digits) h)
  else none

/-- The numbers of the pieces, or the first piece that is none. -/
def numbers (pieces : List (List Char)) : Except (List Char) (List UInt64) :=
  pieces.mapM fun piece => (number? piece).elim (.error piece) .ok

/-- The text without one leading letter `V` or `v`. -/
def withoutLetter : List Char → List Char
  | 'V' :: rest => rest
  | 'v' :: rest => rest
  | text => text

/-- The version that a text stands for. -/
def ofChars (text : List Char) : Except ParseError Version :=
  let body := Text.trim text
  if Text.sameIgnoringCase body "latest".toList then .ok .latest
  else
    let written := withoutLetter body
    if written.isEmpty then .error (.missing (String.ofList text))
    else
      let dotted := Text.replace '_' '.' written
      match numbers (dotted.splitOn '.') with
      | .ok found => .ok (.numbered (.ofList found) (String.ofList dotted))
      | .error piece => .error (.notANumber (String.ofList text) (String.ofList piece))

/-- The version that a string stands for. -/
def parse (text : String) : Except ParseError Version := ofChars text.toList

end MigrationStatus.Version
