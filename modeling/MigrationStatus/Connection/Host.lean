import MigrationStatus.Text.Cut
import MigrationStatus.Text.HostForm
import MigrationStatus.Text.Percent
import MigrationStatus.Text.Punycode
import MigrationStatus.Text.Quoted
import MigrationStatus.Text.Utf8
/-!
Hosts: the names and numbers under which computers are found.

What may be written for a host depends on the scheme of its address. The schemes of the web read it
as a name or as an address of one of the two internet protocols; every other scheme takes it as it
stands, unless it is in brackets.
-/

namespace MigrationStatus.Connection

/-- Why a text is no host. -/
inductive HostError where
  | empty
  | character
  | name
  | ipv4
  | ipv6
  deriving DecidableEq, Repr

def HostError.message : HostError → String
  | .empty => "empty host"
  | .character => "invalid domain character"
  | .name => "invalid international domain name"
  | .ipv4 => "invalid IPv4 address"
  | .ipv6 => "invalid IPv6 address"

namespace Host

/-! ### Addresses of the internet protocols -/

/-- Whether the text is one group of an IPv6 address: one to four hexadecimal digits. -/
def isGroup (text : List Char) : Bool :=
  0 < text.length && text.length ≤ 4 && text.all Text.isHex

/-- Whether the text is one number of an IPv4 address: 0 to 255, without a zero in front. -/
def isByte (text : List Char) : Bool :=
  0 < text.length && text.length ≤ 3 && text.all Char.isDigit &&
    (text.length == 1 || text.head? != some '0') && Text.valueIn 10 text < 256

/-- Whether the text is an IPv4 address in its strict form: four numbers between points. -/
def isIPv4 (text : List Char) : Bool :=
  let bytes := text.splitOn '.'
  bytes.length == 4 && bytes.all isByte

/-- How many groups the pieces between colons fill, the last of which may be an IPv4 address. -/
def groups? (text : List Char) : Option Nat :=
  if text.isEmpty then some 0
  else
    let pieces := text.splitOn ':'
    if pieces.all isGroup then some pieces.length
    else if pieces.dropLast.all isGroup && isIPv4 (pieces.getLast?.getD []) then
      some (pieces.length + 1)
    else none

/-- Whether the text is an IPv6 address: eight groups, or fewer around one pair of colons. -/
def isIPv6 (text : List Char) : Bool :=
  match Text.cut? [':', ':'] text with
  | none => groups? text == some 8
  | some (front, back) =>
    match groups? front, groups? back with
    | some left, some right => left + right < 8 && !front.contains '.'
    | _, _ => false

/-- The base in which a number is written, and its digits: hexadecimal behind `0x`, octal behind a
zero, and decimal otherwise. -/
def inBase (text : List Char) : Nat × List Char :=
  match text with
  | '0' :: 'x' :: digits | '0' :: 'X' :: digits => (16, digits)
  | '0' :: c :: digits => (8, c :: digits)
  | digits => (10, digits)

/-- Whether the character is a digit in a base. -/
def isDigitIn (base : Nat) (c : Char) : Bool := Text.isHex c && Text.hexValue c < base

/-- The number that a text writes in the loose form of IPv4 addresses. -/
def looseNumber? (text : List Char) : Option Nat :=
  let (base, digits) := inBase text
  if text.isEmpty || !digits.all (isDigitIn base) then none else some (Text.valueIn base digits)

/-- The pieces between the points of a name; one point may stand at its end. -/
def labels (name : List Char) : List (List Char) :=
  let pieces := name.splitOn '.'
  if pieces.getLast? == some [] then pieces.dropLast else pieces

/-- Whether a name is meant as an IPv4 address, because its last piece is a number. -/
def endsInNumber (name : List Char) : Bool :=
  (labels name).getLast?.any fun last =>
    (!last.isEmpty && last.all Char.isDigit) || (looseNumber? last).isSome

/-- Whether a name is an IPv4 address in its loose form: up to four numbers, the last of which fills
all the bytes that the others leave. -/
def isLooseIPv4 (name : List Char) : Bool :=
  match (labels name).mapM looseNumber? with
  | none => false
  | some numbers =>
    numbers.length ≤ 4 && numbers.dropLast.all (· < 256) &&
      numbers.getLast?.getD 0 < Nat.pow 256 (5 - numbers.length)

/-! ### Names -/

/-- Whether a name may not hold the ASCII character. -/
def isBarred (c : Char) : Bool :=
  c.toNat ≤ 0x20 || c.toNat == 0x7F || "#/:<>?@[\\]^|%".toList.contains c

/-- What a character of a name counts for; nothing for a character that names may not hold. -/
def form? (c : Char) : Option (List Char) :=
  if c.toNat < 0x80 then some [c.toLower]
  else if Text.HostForm.isDropped c then some []
  else if Text.HostForm.isRefused c then none
  else some [(Text.HostForm.plain? c).getD c]

/-- Characters that join their neighbours, and are no part of a name on their own. -/
def isJoiner (c : Char) : Bool := c == '\u200c' || c == '\u200d'

/-- Whether a character counts for itself. -/
def isPlain (c : Char) : Bool := form? c == some [c] && !Text.HostForm.isMapped c

/-- Whether the text is one piece of a name. A piece in Punycode has to write characters beyond
ASCII, each of which counts for itself. -/
def isLabel (text : List Char) : Bool :=
  let name? :=
    match Text.after? "xn--".toList text with
    | none => some text
    | some written =>
      (Text.Punycode.decode? written).filter fun name =>
        name.any (0x80 ≤ ·.toNat) && name.all isPlain
  name?.any fun name =>
    !name.any isJoiner && !name.head?.any fun c => 0x80 ≤ c.toNat && Text.isHidden c

/-- The name that a text writes, in which percent signs may stand for bytes. -/
def name? (text : List Char) : Option (List Char) := do
  let bytes := Text.percentDecoded text
  guard (Text.Utf8.fault? bytes).isNone
  let forms ← (Text.Utf8.decodeLossy bytes).mapM form?
  let name := forms.flatten
  guard (!name.any isBarred && (name.splitOn '.').all isLabel)
  return name

/-! ### Hosts -/

/-- A host in brackets, which has to be an IPv6 address. -/
def bracketed (host : List Char) : Except HostError (List Char) :=
  match Text.before? [']'] (host.drop 1) with
  | some inner => if isIPv6 inner then .ok host else .error .ipv6
  | none => .error .ipv6

/-- The host that a text writes for the schemes of the web. -/
def named (host : List Char) : Except HostError (List Char) :=
  if host.head? = some '[' then bracketed host
  else
    match name? host with
    | none => .error .name
    | some name =>
      if name.isEmpty then .error .empty
      else if endsInNumber name && !isLooseIPv4 name then .error .ipv4
      else .ok name

/-- Characters that no host may hold. -/
def forbidden : List Char :=
  ['\x00', '\t', '\n', '\r', ' ', '#', '/', ':', '<', '>', '?', '@', '[', '\\', ']', '^', '|']

/-- The host that a text writes for any other scheme. -/
def verbatim (host : List Char) : Except HostError (List Char) :=
  if host.head? = some '[' then bracketed host
  else if host.any forbidden.contains then .error .character
  else .ok host

end Host

end MigrationStatus.Connection
