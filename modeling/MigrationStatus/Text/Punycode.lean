import MigrationStatus.Text.Digits
/-!
Reading names that are written in ASCII although they hold other characters (Punycode).

The ASCII characters of the name come first, with a hyphen behind them. What follows are numbers,
one for each other character: it says how far to go on from the place of the one before, where all
places for one character come before those for the next. The digits of a number grow in value by
factors that adapt to the numbers already read.
-/

namespace MigrationStatus.Text.Punycode

/-- The number of digits, letters before decimal digits. -/
def base : Nat := 36

/-- The value of a digit. -/
def digit? (c : Char) : Option Nat :=
  if c.isAlpha then some (c.toLower.toNat - 'a'.toNat)
  else if c.isDigit then some (c.toNat - '0'.toNat + 26)
  else none

/-- The least value with which the digit at a place does not end its number; places are counted in
steps of the base. -/
def threshold (place bias : Nat) : Nat :=
  if place ≤ bias then 1 else min 26 (place - bias)

/-- Reads a number. The result is what it adds up to from `value` on, and what follows it. -/
def number? (bias : Nat) : (place weight value : Nat) → List Char → Option (Nat × List Char)
  | _, _, _, [] => none
  | place, weight, value, c :: rest => do
    let digit ← digit? c
    let next := value + digit * weight
    if digit < threshold place bias then return (next, rest)
    else number? bias (place + base) (weight * (base - threshold place bias)) next rest

theorem length_lt_of_number? {bias place weight value : Nat} {text rest : List Char} {n : Nat}
    (h : number? bias place weight value text = some (n, rest)) : rest.length < text.length := by
  induction text generalizing place weight value with
  | nil => simp [number?] at h
  | cons c text ih =>
    simp only [number?, Option.bind_eq_bind, Option.bind_eq_some_iff] at h
    obtain ⟨digit, _, h⟩ := h
    split at h
    · cases h
      simp
    · exact Nat.lt_succ_of_lt (ih h)

/-- Divides until the value is small, and counts the steps of the base. -/
def reduced (value steps : Nat) : Nat × Nat :=
  if value ≤ 455 then (value, steps) else reduced (value / 35) (steps + base)
termination_by value
decreasing_by omega

/-- The bias behind a number, with so many characters read so far. -/
def adapted (delta characters : Nat) (first : Bool) : Nat :=
  let damped := if first then delta / 700 else delta / 2
  let (value, steps) := reduced (damped + damped / characters) 0
  steps + base * value / (value + 38)

/-- Reads the numbers on. `code` is the number of the last character, `place` the place behind it,
and `found` the name so far. -/
def readFrom? (bias code place : Nat) (found text : List Char) : Option (List Char) :=
  if text.isEmpty then some found
  else
    match _h : number? bias base 1 place text with
    | none => none
    | some (value, rest) =>
      let size := found.length + 1
      match character? (code + value / size) with
      | none => none
      | some c =>
        readFrom? (adapted (value - place) size (place == 0)) c.toNat (value % size + 1)
          (found.insertIdx (value % size) c) rest
termination_by text.length
decreasing_by exact length_lt_of_number? (by assumption)

/-- The name that a text writes. -/
def decode? (text : List Char) : Option (List Char) :=
  let written := (text.reverse.takeWhile (· != '-')).reverse
  let plain := (text.take (text.length - written.length)).dropLast
  if plain.isEmpty then readFrom? 72 0x80 0 [] text else readFrom? 72 0x80 0 plain written

end MigrationStatus.Text.Punycode
