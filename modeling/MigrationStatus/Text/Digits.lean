/-!
Numbers written in decimal and hexadecimal digits, and characters by their numbers.

A decimal number is read digit by digit and has to stay below a limit; the first digit that takes it
there, or the first character that is no digit, decides what is wrong with the text.
-/

namespace MigrationStatus.Text

/-! ### Hexadecimal digits -/

def isHex (c : Char) : Bool :=
  c.isDigit || ('a' ≤ c && c ≤ 'f') || ('A' ≤ c && c ≤ 'F')

/-- The value of a hexadecimal digit. -/
def hexValue (c : Char) : Nat :=
  if c.isDigit then c.toNat - '0'.toNat else c.toLower.toNat - 'a'.toNat + 10

/-- The number that digits stand for in a base. -/
def valueIn (base : Nat) (digits : List Char) : Nat :=
  digits.foldl (fun n c => base * n + hexValue c) 0

/-- The number that hexadecimal digits stand for, if all are digits. -/
def hexNumber? (digits : List Char) : Option Nat :=
  if digits.all isHex then some (valueIn 16 digits) else none

/-- The character with a number. -/
def character? (n : Nat) : Option Char := if h : n.isValidChar then some (.ofNatAux n h) else none

/-! ### Decimal numbers -/

/-- Why a text is no number. -/
inductive NumberFault where
  | empty
  | strange
  | tooLarge
  deriving DecidableEq, Repr

def NumberFault.message : NumberFault → String
  | .empty => "cannot parse integer from empty string"
  | .strange => "invalid digit found in string"
  | .tooLarge => "number too large to fit in target type"

/-- Reads a number on that has come to a value and has to stay below the limit. -/
def numberFrom (limit value : Nat) : List Char → Except NumberFault Nat
  | [] => .ok value
  | c :: rest =>
    if !c.isDigit then .error .strange
    else if limit ≤ 10 * value + hexValue c then .error .tooLarge
    else numberFrom limit (10 * value + hexValue c) rest

/-- Reads a number below a limit. One plus sign may stand in front of it. -/
def number (limit : Nat) (text : List Char) : Except NumberFault Nat :=
  match text with
  | [] => .error .empty
  | ['+'] => .error .strange
  | '+' :: digits => numberFrom limit 0 digits
  | digits => numberFrom limit 0 digits

theorem lt_of_numberFrom {limit value n : Nat} {text : List Char} (h : value < limit)
    (hn : numberFrom limit value text = .ok n) : n < limit := by
  induction text generalizing value with
  | nil => simpa [numberFrom] using (Except.ok.inj hn) ▸ h
  | cons c rest ih =>
    rw [numberFrom] at hn
    split at hn
    · cases hn
    · split at hn
      · cases hn
      · next hlt => exact ih (Nat.lt_of_not_le hlt) hn

/-- A number that was read is below the limit. -/
theorem lt_of_number {limit n : Nat} {text : List Char} (h : 0 < limit)
    (hn : number limit text = .ok n) : n < limit := by
  unfold number at hn
  split at hn
  · cases hn
  · cases hn
  · exact lt_of_numberFrom h hn
  · exact lt_of_numberFrom h hn

end MigrationStatus.Text
