import Mathlib
import MigrationStatus.Calendar
/-!
# How long a time is in a table

A time is written with two digits for each of its parts but the year, which takes as many as it has.
Seconds of 64 bits reach no year of more than 17 digits, so no such time comes near the width up to
which a cell can be filled.
-/

namespace MigrationStatus

theorem length_padded (width n : Nat) :
    (padded width n).length = max width (Nat.toDigits 10 n).length := by
  simp only [padded, String.length_ofList, List.length_append, List.length_replicate]
  omega

theorem length_padded_le {width bound n : Nat} (hwidth : width ≤ bound) (hbound : 0 < bound)
    (hn : n < 10 ^ bound) : (padded width n).length ≤ bound := by
  rw [length_padded]
  exact Nat.max_le.mpr ⟨hwidth, (Nat.length_toDigits_le_iff (by decide) hbound).mpr hn⟩

namespace CivilDate

theorem natAbs_year_ofDays_lt {days : Int} (h : days.natAbs ≤ 2 ^ 63) :
    (ofDays days).year.natAbs < 10 ^ 17 := by
  simp only [ofDays]
  split <;> omega

theorem month_ofDays_lt (days : Int) : (ofDays days).month < 10 ^ 2 := by
  simp only [ofDays]
  split <;> omega

theorem day_ofDays_lt (days : Int) : (ofDays days).day < 10 ^ 2 := by
  simp only [ofDays]
  omega

theorem length_yearText_le {date : CivilDate} (h : date.year.natAbs < 10 ^ 17) :
    date.yearText.length ≤ 18 := by
  have hdigits {n : Nat} (hn : n < 10 ^ 17) : (padded 4 n).length ≤ 17 :=
    length_padded_le (by decide) (by decide) hn
  rw [yearText]
  split
  · have hyear := hdigits (show date.year.toNat < 10 ^ 17 by omega)
    omega
  · have hyear := hdigits h
    have hsign : (if date.year < 0 then "-" else "+").length = 1 := by split <;> rfl
    rw [String.length_append, hsign]
    omega

end CivilDate

namespace Instant

/-- The seconds of the instant are a number of 64 bits, and its nanoseconds lie in a second or in
the leap second behind it. -/
structure Bounded (instant : Instant) : Prop where
  seconds : instant.seconds.natAbs ≤ 2 ^ 63
  nanos : instant.nanos < 2000000000

theorem secondOfDay_lt (instant : Instant) : instant.secondOfDay < 86400 := by
  rw [secondOfDay]
  omega

theorem length_dateText_le {instant : Instant} (h : instant.Bounded) :
    instant.dateText.length ≤ 24 := by
  have htwo {n : Nat} (hn : n < 10 ^ 2) : (padded 2 n).length ≤ 2 :=
    length_padded_le (Nat.le_refl 2) (by decide) hn
  have hdays : (instant.seconds / 86400).natAbs ≤ 2 ^ 63 := by
    have hseconds := h.seconds
    omega
  have hyear : instant.date.yearText.length ≤ 18 :=
    CivilDate.length_yearText_le (CivilDate.natAbs_year_ofDays_lt hdays)
  have hmonth : (padded 2 instant.date.month).length ≤ 2 := htwo (CivilDate.month_ofDays_lt _)
  have hday : (padded 2 instant.date.day).length ≤ 2 := htwo (CivilDate.day_ofDays_lt _)
  have hdash : "-".length = 1 := rfl
  simp only [dateText, toString, String.length_append]
  omega

theorem length_clockText_le {instant : Instant} (h : instant.Bounded) :
    instant.clockText.length ≤ 8 := by
  have htwo {n : Nat} (hn : n < 10 ^ 2) : (padded 2 n).length ≤ 2 :=
    length_padded_le (Nat.le_refl 2) (by decide) hn
  have hday := instant.secondOfDay_lt
  have hnanos := h.nanos
  have hhour := htwo (show instant.secondOfDay / 3600 < 10 ^ 2 by omega)
  have hminute := htwo (show instant.secondOfDay / 60 % 60 < 10 ^ 2 by omega)
  have hsecond :=
    htwo (show instant.secondOfDay % 60 + instant.nanos / 1000000000 < 10 ^ 2 by omega)
  have hcolon : ":".length = 1 := rfl
  simp only [clockText, toString, String.length_append]
  omega

theorem length_tableText_le {instant : Instant} (h : instant.Bounded) :
    instant.tableText.length ≤ 33 := by
  have hdate := length_dateText_le h
  have hclock := length_clockText_le h
  have hblank : " ".length = 1 := rfl
  simp only [tableText, toString, String.length_append]
  omega

end Instant

end MigrationStatus
