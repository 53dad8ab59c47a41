import MigrationStatus.Proofs.FirstView
/-!
# Which versions can be stored

A ledger stores a version as the text that it is shown as. A version that was read from a text is
read back from that, and so is one that was put together from numbers, since the decimal digits of a
number stand for it and hold no point. Only where there is no number at all is nothing left to be
read: such a version counts as numbered and is shown as the empty text. A start takes it, and the
ledger it begins cannot be read from then on.
-/

namespace MigrationStatus

namespace Version

variable {version : Version} {digits : List Char} {found : List UInt64}

/-! ### Numbers in decimal digits -/

theorem unsigned_eq_self (h : ∀ c ∈ digits, c.isDigit = true) : unsigned digits = digits := by
  unfold unsigned
  split
  · exact absurd (h '+' List.mem_cons_self) (by decide)
  · rfl

theorem number?_toDigits (n : UInt64) : number? (Nat.toDigits 10 n.toNat) = some n := by
  have hdigits : ∀ c ∈ Nat.toDigits 10 n.toNat, c.isDigit = true :=
    fun c hc => Nat.isDigit_of_mem_toDigits (by decide) (by decide) hc
  have hvalue : digitsValue (Nat.toDigits 10 n.toNat) = n.toNat := by
    rw [digitsValue_eq_ofDigitChars, Nat.ofDigitChars_toDigits (by decide) (by decide)]
  simp only [number?, unsigned_eq_self hdigits, hvalue, List.all_eq_true.mpr hdigits,
    List.isEmpty_eq_false_iff.mpr Nat.toDigits_ne_nil, n.toNat_lt_size]
  simp

theorem splitOn_dotted (h : found ≠ []) :
    (dotted found).splitOn '.' = found.map fun n => Nat.toDigits 10 n.toNat := by
  refine List.splitOn_intercalate '.' (fun piece hpiece hpoint => ?_) (by simpa using h)
  obtain ⟨n, -, rfl⟩ := List.mem_map.mp hpiece
  exact absurd (Nat.isDigit_of_mem_toDigits (by decide) (by decide) hpoint) (by decide)

theorem numbers_dotted (h : found ≠ []) : numbers ((dotted found).splitOn '.') = .ok found := by
  rw [splitOn_dotted h, numbers, mapM_eq_ok_iff, List.map_map]
  refine List.map_congr_left fun n _ => ?_
  rw [Function.comp_apply, number?_toDigits]
  rfl

theorem parse_display_ofParts (h : found ≠ []) :
    parse (ofParts found).display = .ok (ofParts found) := by
  have hread := numbers_dotted h
  have hne : dotted found ≠ [] := by
    intro hempty
    rw [hempty, List.splitOn_nil] at hread
    cases hread
  rw [ofParts, display, parse, String.toList_ofList, ofChars_of_numbers hne hread]

theorem parse_display_ofParts_nil : parse (ofParts []).display = .error (.missing "") := by
  decide

/-! ### Reading back what is stored -/

/-- The versions that come about: read from a text, or put together from numbers. -/
inductive Made : Version → Prop
  | read {text : String} {version : Version} (h : parse text = .ok version) : Made version
  | ofParts (found : List UInt64) : Made (ofParts found)

theorem ne_ofParts_nil_of_parse_display (h : parse version.display = .ok version) :
    version ≠ ofParts [] := by
  rintro rfl
  cases parse_display_ofParts_nil.symm.trans h

/-- **Which versions are read back from what they are shown as.** All of them that are numbered,
number by number and letter by letter, but for the one without any number. -/
theorem parse_display_of_made (hmade : Made version) (hnumbered : version.isNumbered = true) :
    parse version.display =
      if version = ofParts [] then .error (.missing "") else .ok version := by
  cases hmade with
  | read h =>
    have hread := parse_display h hnumbered
    rw [if_neg (ne_ofParts_nil_of_parse_display hread), hread]
  | ofParts found =>
    by_cases hnone : found = []
    · rw [if_pos (congrArg _ hnone), hnone, parse_display_ofParts_nil]
    · have hread := parse_display_ofParts hnone
      rw [if_neg (ne_ofParts_nil_of_parse_display hread), hread]

/-- Written with the letter, plus signs, zeros on both sides and the largest number there is. -/
theorem parse_display_of_largest :
    let version := numbered (.ofList [0, 18446744073709551615]) "+00.18446744073709551615.0"
    parse " V+00_18446744073709551615.0 " = .ok version ∧ version.isNumbered = true ∧
      version ≠ ofParts [] ∧ parse version.display = .ok version := by
  intro version
  have hread : parse " V+00_18446744073709551615.0 " = .ok version := by decide
  have hne : version ≠ ofParts [] := by decide
  refine ⟨hread, rfl, hne, ?_⟩
  rw [parse_display_of_made (.read hread) rfl, if_neg hne]

end Version

namespace Ledger

open Migration

variable {table : Table} {world : World} {version : Version} {description : String}
  {stamp : Stamp}

/-! ### A marker that cannot be read -/

theorem toRecord_marker_of_unreadable {fault : Version.ParseError}
    (hversion : Version.parse version.display = .error fault) (stamp : Stamp) :
    (Row.marker stamp version description).toRecord = .error (.version stamp.rank fault) := by
  simp only [Row.toRecord, Row.marker, hversion]
  rfl

/-- A ledger whose marker cannot be read is read by no request. -/
theorem exists_failure_of_unreadable {fault : Version.ParseError}
    (hversion : Version.parse version.display = .error fault)
    (hrows : world.server.rows = [Row.marker stamp version description])
    (failure? : Statement → Option String) :
    ∃ failure, (Step.outcome table world ⟨failure?, .read⟩).result = .error failure := by
  have hends := Status.ends_part .ledger (reads_applied (met world failure?) table)
  cases hreading : reading (met world failure?).server table with
  | error failure =>
    rw [hreading] at hends
    exact ⟨_, hends.gives⟩
  | ok found =>
    have hstored : (met world failure?).server.table.getD [] =
        [Row.marker stamp version description] := hrows
    have hrecords := records_of_reading_eq_ok hreading
    rw [hstored, ranked_eq_mergeSort, List.mergeSort_singleton, records, List.mapM_cons,
      toRecord_marker_of_unreadable hversion] at hrecords
    cases hrecords

/-- The version without numbers is numbered, so a start takes it. It is shown as nothing, and
whatever is asked afterwards and whatever fails, the ledger is not read again. -/
theorem unreadable_of_start_without_numbers :
    let world : World := .ofServer (.ofTable none)
    let table : Table := ⟨"public", "schema_version"⟩
    let start : Step := ⟨fun _ => none, .start (.ofParts []) "start"⟩
    Version.Made (.ofParts []) ∧ (Version.ofParts []).isNumbered = true ∧
      Version.parse (Version.ofParts []).display = .error (.missing "") ∧
      (Step.outcome table world start).result = .ok () ∧
      ∀ (further : List Step) (failure? : Statement → Option String), ∃ failure,
        (Step.outcome table (reached table (start.after table world) further)
          ⟨failure?, .read⟩).result = .error failure := by
  intro world table start
  have hready : Ready (met world start.failure?).server table (.ofParts []) "start" :=
    ready_of_no_failures rfl checked_sample rfl "start"
  have hunreadable := Version.parse_display_ofParts_nil
  refine ⟨.ofParts [], rfl, hunreadable, (ends_request_start hready).gives,
    fun further failure? => ?_⟩
  exact exists_failure_of_unreadable hunreadable (rows_reached_of_start hready further) failure?

end Ledger

end MigrationStatus
