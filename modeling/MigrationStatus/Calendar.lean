/-!
Instants of universal time, and the two ways in which they are written.

An instant counts seconds from the start of 1970. Its nanoseconds reach beyond one second in a leap
second, which is then written as second 60. The civil date of a day is found in the Gregorian
calendar carried on without end in both directions, in which 400 years are 146097 days.
-/

namespace MigrationStatus

/-- A point in time. -/
structure Instant where
  /-- Whole seconds since 1970-01-01 00:00:00. -/
  seconds : Int
  /-- Below 2·10⁹; from 10⁹ on the instant lies in a leap second. -/
  nanos : Nat
  deriving DecidableEq, Repr, Inhabited

/-- A time span, in whole milliseconds. -/
structure Duration where
  millis : Nat
  deriving DecidableEq, Repr, Inhabited

/-- A day of the Gregorian calendar. -/
structure CivilDate where
  year : Int
  month : Nat
  day : Nat
  deriving DecidableEq, Repr

/-- The civil date of the day that lies `days` days after 1970-01-01.

Years are counted from the first of March, so that a leap day ends its year. -/
def CivilDate.ofDays (days : Int) : CivilDate :=
  let shifted := days + 719468
  let era := shifted / 146097
  let dayOfEra := (shifted % 146097).toNat
  let yearOfEra := (dayOfEra - dayOfEra / 1460 + dayOfEra / 36524 - dayOfEra / 146096) / 365
  let dayOfYear := dayOfEra - (365 * yearOfEra + yearOfEra / 4 - yearOfEra / 100)
  let marchMonth := (5 * dayOfYear + 2) / 153
  let day := dayOfYear - (153 * marchMonth + 2) / 5 + 1
  let month := if marchMonth < 10 then marchMonth + 3 else marchMonth - 9
  { year := era * 400 + yearOfEra + (if month ≤ 2 then 1 else 0), month, day }

/-- The digits of a number, with zeros in front up to the width. -/
def padded (width n : Nat) : String :=
  let digits := Nat.toDigits 10 n
  String.ofList (List.replicate (width - digits.length) '0' ++ digits)

/-- A year: four digits, with a sign and as many digits as it takes outside of 0 to 9999. -/
def CivilDate.yearText (date : CivilDate) : String :=
  if 0 ≤ date.year ∧ date.year ≤ 9999 then padded 4 date.year.toNat
  else (if date.year < 0 then "-" else "+") ++ padded 4 date.year.natAbs

namespace Instant

/-- The first instant of 2024. -/
def startOf2024 : Instant := ⟨1704067200, 0⟩

def date (instant : Instant) : CivilDate := .ofDays (instant.seconds / 86400)

/-- Seconds since midnight, the leap second not counted. -/
def secondOfDay (instant : Instant) : Nat := (instant.seconds % 86400).toNat

def dateText (instant : Instant) : String :=
  let date := instant.date
  s!"{date.yearText}-{padded 2 date.month}-{padded 2 date.day}"

def clockText (instant : Instant) : String :=
  let second := instant.secondOfDay
  let leap := instant.nanos / 1000000000
  s!"{padded 2 (second / 3600)}:{padded 2 (second / 60 % 60)}:{padded 2 (second % 60 + leap)}"

/-- The fraction of the second: nothing, or as many groups of three digits as it takes. -/
def fractionText (instant : Instant) : String :=
  let nanos := instant.nanos % 1000000000
  if nanos = 0 then ""
  else if nanos % 1000000 = 0 then "." ++ padded 3 (nanos / 1000000)
  else if nanos % 1000 = 0 then "." ++ padded 6 (nanos / 1000)
  else "." ++ padded 9 nanos

/-- The instant as RFC 3339 writes it, with the offset of universal time. -/
def rfc3339 (instant : Instant) : String :=
  s!"{instant.dateText}T{instant.clockText}{instant.fractionText}+00:00"

/-- The instant to the second, as it stands in a table. -/
def tableText (instant : Instant) : String :=
  s!"{instant.dateText} {instant.clockText}"

end Instant

end MigrationStatus
