/-!
Bytes that should be the UTF-8 encoding of a text: where they first fail to be, and the text that is
read from them when every failing piece is replaced.

A piece fails as a whole: it is as long as the bytes from its first on could still begin a
character.
-/

namespace MigrationStatus.Text.Utf8

/-- The first place at which bytes are not UTF-8. -/
structure Fault where
  /-- The number of bytes before it. -/
  index : Nat
  /-- The length of the failing piece; nothing where the bytes end within a character. -/
  length : Option Nat
  deriving DecidableEq, Repr

def Fault.message (fault : Fault) : String :=
  match fault.length with
  | some length => s!"invalid utf-8 sequence of {length} bytes from index {fault.index}"
  | none => s!"incomplete utf-8 byte sequence from index {fault.index}"

/-- The bytes that continue a character. -/
def continuation : UInt8 × UInt8 := (0x80, 0xBF)

/-- The ranges in which the bytes behind a first byte have to lie; nothing for a byte that begins no
character. No character is written longer than needed, and none is a surrogate. -/
def ranges? (first : UInt8) : Option (List (UInt8 × UInt8)) :=
  if first < 0x80 then some []
  else if 0xC2 ≤ first && first ≤ 0xDF then some [continuation]
  else if first = 0xE0 then some [(0xA0, 0xBF), continuation]
  else if first = 0xED then some [(0x80, 0x9F), continuation]
  else if 0xE1 ≤ first && first ≤ 0xEF then some [continuation, continuation]
  else if first = 0xF0 then some [(0x90, 0xBF), continuation, continuation]
  else if 0xF1 ≤ first && first ≤ 0xF3 then some [continuation, continuation, continuation]
  else if first = 0xF4 then some [(0x80, 0x8F), continuation, continuation]
  else none

/-- How many bytes lie in their ranges, up to the first that does not. -/
def matching : (ranges : List (UInt8 × UInt8)) → (bytes : List UInt8) → Nat
  | (low, high) :: ranges, byte :: bytes =>
    if low ≤ byte && byte ≤ high then matching ranges bytes + 1 else 0
  | _, _ => 0

/-- What bytes begin with. -/
inductive Piece where
  /-- A character with so many bytes behind the first. -/
  | character (tail : Nat)
  /-- A failing piece with so many bytes behind the first. -/
  | failing (tail : Nat)
  /-- The beginning of a character, of which the rest is missing. -/
  | unfinished
  deriving DecidableEq, Repr

/-- What begins with a byte that other bytes follow. -/
def Piece.of (first : UInt8) (rest : List UInt8) : Piece :=
  match ranges? first with
  | none => .failing 0
  | some ranges =>
    let tail := matching ranges rest
    if tail = ranges.length then .character tail
    else if tail = rest.length then .unfinished
    else .failing tail

/-- The first fault behind bytes of a number. -/
def faultFrom (index : Nat) (bytes : List UInt8) : Option Fault :=
  match bytes with
  | [] => none
  | first :: rest =>
    match Piece.of first rest with
    | .character tail => faultFrom (index + 1 + tail) (rest.drop tail)
    | .failing tail => some { index, length := some (tail + 1) }
    | .unfinished => some { index, length := none }
termination_by bytes.length
decreasing_by simp only [List.length_cons, List.length_drop]; omega

/-- The first fault of bytes, if they are no UTF-8. -/
def fault? (bytes : List UInt8) : Option Fault := faultFrom 0 bytes

/-- What stands for a failing piece. -/
def replacement : Char := '\ufffd'

/-- The character that its bytes encode. -/
def decoded (bytes : List UInt8) : List Char :=
  ((String.fromUTF8? bytes.toByteArray).map String.toList).getD [replacement]

/-- The text that bytes encode, with a replacement for every failing piece. -/
def decodeLossy (bytes : List UInt8) : List Char :=
  match bytes with
  | [] => []
  | first :: rest =>
    match Piece.of first rest with
    | .character tail => decoded (first :: rest.take tail) ++ decodeLossy (rest.drop tail)
    | .failing tail => replacement :: decodeLossy (rest.drop tail)
    | .unfinished => [replacement]
termination_by bytes.length
decreasing_by all_goals simp only [List.length_cons, List.length_drop]; omega

end MigrationStatus.Text.Utf8
