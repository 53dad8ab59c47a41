import Mathlib
import MigrationStatus.Ledger.Row
import MigrationStatus.Proofs.Rollout
import MigrationStatus.Proofs.VersionText
/-!
# Which rows stand for migrations

A row is converted exactly if three of its texts and numbers are well formed: its version, its kind
and its time. Each condition is stated here by what the row holds, apart from how it is read, and
`Represents` says field by field what a row comes to. The texts of versions are those that the
command line takes as well, so the word for the upper bound is among them: a row that holds it is
converted, to a migration at no position of its own, and as the last row it leaves nothing pending.
-/

namespace MigrationStatus

namespace Text

variable {left right : List Char}

/-! ### The case of letters -/

theorem toUpper_eq_toUpper_iff {left right : Char} :
    left.toUpper = right.toUpper ↔ left.toLower = right.toLower := by
  constructor
  · intro h
    rw [← left.toLower_toUpper_eq_toLower, h, Char.toLower_toUpper_eq_toLower]
  · intro h
    rw [← left.toUpper_toLower_eq_toUpper, h, Char.toUpper_toLower_eq_toUpper]

theorem map_toUpper_eq_iff :
    left.map Char.toUpper = right.map Char.toUpper ↔ sameIgnoringCase left right = true := by
  rw [sameIgnoringCase, beq_iff_eq]
  induction left generalizing right with
  | nil => simp
  | cons c rest ih => cases right <;> simp [toUpper_eq_toUpper_iff, ih]

end Text

namespace Migration.Kind

variable {text : String} {kind : Kind}

/-! ### Kinds -/

/-- The text is the word for the kind, whatever the case of its letters and the white space around
it. -/
def IsNamed (kind : Kind) (text : String) : Prop :=
  Text.sameIgnoringCase (Text.trim text.toList) kind.code.toList = true

instance (kind : Kind) (text : String) : Decidable (kind.IsNamed text) :=
  inferInstanceAs (Decidable (_ = true))

theorem word_eq_code_iff :
    String.ofList ((Text.trim text.toList).map Char.toUpper) = kind.code ↔ kind.IsNamed text := by
  have hcapitals : kind.code.toList.map Char.toUpper = kind.code.toList := by
    cases kind <;> decide
  rw [IsNamed, ← Text.map_toUpper_eq_iff, hcapitals, ← String.toList_inj, String.toList_ofList]

theorem parse_eq_ok_iff : parse text = .ok kind ↔ kind.IsNamed text := by
  rw [← word_eq_code_iff]
  dsimp only [parse]
  split
  · next hsql => cases kind <;> simp [hsql, code]
  · next hsql =>
    split
    · next hinit => cases kind <;> simp [hinit, code]
    · next hinit => cases kind <;> simp [hsql, hinit]

end Migration.Kind

namespace Version

variable {text : String} {version : Version} {piece : List Char} {pieces : List (List Char)}

/-! ### Texts of versions -/

/-- The piece is a number of 64 bits in decimal digits, with or without a plus sign in front. -/
structure IsNumber (piece : List Char) : Prop where
  written : unsigned piece ≠ []
  digits : ∀ c ∈ unsigned piece, c.isDigit = true
  size : digitsValue (unsigned piece) < UInt64.size

/-- What stands in the text between white space and behind a letter, with points for underscores. -/
def dottedBody (text : String) : List Char :=
  Text.replace '_' '.' (withoutLetter (Text.trim text.toList))

/-- The text writes numbers with single points between them, and so a position of its own. -/
def IsNumberText (text : String) : Prop :=
  ∀ piece ∈ (dottedBody text).splitOn '.', IsNumber piece

/-- The text is the word for the upper bound, whatever the case of its letters and the white space
around it. -/
def IsLatestText (text : String) : Prop :=
  Text.sameIgnoringCase (Text.trim text.toList) "latest".toList = true

instance (text : String) : Decidable (IsLatestText text) :=
  inferInstanceAs (Decidable (_ = true))

theorem exists_number?_iff : (∃ n, number? piece = some n) ↔ IsNumber piece := by
  constructor
  · rintro ⟨n, hn⟩
    dsimp only [number?] at hn
    split at hn
    · cases hn
    · next hdigits =>
      rw [Bool.or_eq_true, not_or, Bool.not_eq_true', Bool.not_eq_false, List.isEmpty_iff,
        List.all_eq_true] at hdigits
      split at hn
      · next hsize => exact ⟨hdigits.1, hdigits.2, hsize⟩
      · cases hn
  · rintro ⟨hwritten, hdigits, hsize⟩
    simp only [number?, List.isEmpty_eq_false_iff.mpr hwritten, List.all_eq_true.mpr hdigits, hsize]
    exact ⟨_, rfl⟩

theorem exists_numbers_iff :
    (∃ found, numbers pieces = .ok found) ↔ ∀ piece ∈ pieces, IsNumber piece := by
  induction pieces with
  | nil => exact iff_of_true ⟨[], rfl⟩ (by simp)
  | cons piece rest ih =>
    rw [List.forall_mem_cons, ← ih, ← exists_number?_iff, numbers, List.mapM_cons]
    cases hnumber : number? piece with
    | none => simp [bind, Except.bind]
    | some n =>
      change (∃ found, (numbers rest >>= fun others => pure (n :: others)) = .ok found) ↔ _
      cases numbers rest <;> simp [bind, Except.bind, pure, Except.pure]

theorem parse_of_isLatestText (h : IsLatestText text) : parse text = .ok .latest := by
  rw [parse, ofChars]
  exact if_pos h

theorem parse_eq_ok_iff_of_not_latest (h : ¬ IsLatestText text) :
    parse text = .ok version ↔ ∃ found, numbers ((dottedBody text).splitOn '.') = .ok found ∧
      numbered (.ofList found) (String.ofList (dottedBody text)) = version := by
  dsimp only [parse, ofChars]
  rw [if_neg (show ¬ Text.sameIgnoringCase _ _ = true from h)]
  split
  · next hempty =>
    have hbody : dottedBody text = [] := by
      rw [dottedBody, List.isEmpty_iff.mp hempty]
      rfl
    rw [hbody]
    exact iff_of_false (by simp) (by rintro ⟨found, hfound, -⟩; cases hfound)
  · change _ ↔ ∃ found, numbers ((Text.replace '_' '.' _).splitOn '.') = .ok found ∧ _
    split
    · next found hfound => simp [hfound, dottedBody]
    · next piece hpiece => simp [hpiece]

/-- The word for the upper bound begins with a letter that no number holds. -/
theorem not_isNumberText_of_isLatestText (h : IsLatestText text) : ¬ IsNumberText text := by
  intro hnumbers
  obtain ⟨found, hfound⟩ := exists_numbers_iff.mpr hnumbers
  have hnumeral := isNumeral_of_numbers hfound
  have hword : "latest".toList.map Char.toLower = 'l' :: "atest".toList := by decide
  rw [IsLatestText, Text.sameIgnoringCase, beq_iff_eq, hword] at h
  obtain ⟨first, rest, hbody, hfirst, -⟩ := List.map_eq_cons_iff.mp h
  have hletter : withoutLetter (first :: rest) = first :: rest := by
    unfold withoutLetter
    split
    · next heq => exact absurd hfirst (by rw [(List.cons.inj heq).1]; decide)
    · next heq => exact absurd hfirst (by rw [(List.cons.inj heq).1]; decide)
    · rfl
  have hplain : first ≠ '_' := by
    rintro rfl
    exact absurd hfirst (by decide)
  refine toLower_ne_of_isNumeral (hnumeral first ?_) hfirst
  simp [dottedBody, hbody, hletter, Text.replace, hplain]

theorem exists_parse_iff :
    (∃ version, parse text = .ok version) ↔ IsNumberText text ∨ IsLatestText text := by
  by_cases hlatest : IsLatestText text
  · exact iff_of_true ⟨.latest, parse_of_isLatestText hlatest⟩ (.inr hlatest)
  · rw [or_iff_left hlatest, IsNumberText, ← exists_numbers_iff]
    simp only [parse_eq_ok_iff_of_not_latest hlatest]
    constructor
    · rintro ⟨_, found, hfound, -⟩
      exact ⟨found, hfound⟩
    · rintro ⟨found, hfound⟩
      exact ⟨_, found, hfound, rfl⟩

/-- A text that is read writes numbers exactly if what it is read as has a position of its own. -/
theorem isNumbered_iff_of_parse (h : parse text = .ok version) :
    version.isNumbered = true ↔ IsNumberText text := by
  by_cases hlatest : IsLatestText text
  · cases (parse_of_isLatestText hlatest).symm.trans h
    exact iff_of_false Bool.false_ne_true (not_isNumberText_of_isLatestText hlatest)
  · obtain ⟨found, hfound, rfl⟩ := (parse_eq_ok_iff_of_not_latest hlatest).mp h
    exact iff_of_true rfl (exists_numbers_iff.mp ⟨found, hfound⟩)

end Version

namespace Migration.Reconcile

open Timeline

variable {available applied : List Record} {row : Record} {target : Version}

/-! ### The upper bound as the last row -/

theorem pending_merge_of_latest (havailable : Distinct available) (happlied : Recorded applied)
    (hlast : applied.getLast? = some row) (hlatest : row.version = .latest) :
    pending (merge available applied target) = [] := by
  rw [List.eq_nil_iff_forall_not_mem]
  intro record hrecord
  obtain ⟨-, hentry, hstate⟩ := (mem_pending_merge_iff havailable happlied).mp hrecord
  obtain ⟨hnone, -, -, hbelow⟩ := entryAt?_eq_pending happlied hentry hstate
  have hother := find?_eq_none_iff.mp hnone row (List.mem_of_getLast? hlast)
  rcases Version.lt_or_same_or_gt record.version row.version with hlt | hsame | hgt
  · exact hbelow ⟨row, hlast, hlt⟩
  · cases hother.symm.trans hsame
  · exact hgt.not_ge (hlatest ▸ Version.le_latest record.version)

end Migration.Reconcile

namespace Ledger

open Migration

variable {row : Row} {record : Record}

/-! ### Rows -/

/-- The record is the migration that the row was written for, field by field. -/
structure Represents (row : Row) (record : Record) : Prop where
  version : Version.parse row.version = .ok record.version
  kind : record.kind.IsNamed row.kind
  description : record.description = row.description
  script : record.script = row.script
  checksum : record.checksum = row.checksum
  installedOn : record.installedOn = some row.installedOn
  duration : ∃ duration, record.duration = some duration ∧
    (duration.millis : Int) = row.executionTime.toInt
  state : record.state = if row.success then .success else .failed

theorem state_ran (success : Bool) :
    State.ran (!success) = if success then .success else .failed := by
  cases success <;> rfl

/-- A row whose version, kind and time are well formed is converted, its other fields as they
are. -/
theorem toRecord_of_wellFormed {version : Version} {kind : Kind}
    (hversion : Version.parse row.version = .ok version) (hkind : kind.IsNamed row.kind)
    (htime : 0 ≤ row.executionTime) :
    row.toRecord = .ok {
      version, kind
      description := row.description
      script := row.script
      checksum := row.checksum
      installedOn := some row.installedOn
      duration := some ⟨row.executionTime.toInt.toNat⟩
      state := if row.success then .success else .failed } := by
  have hnonneg : ¬ row.executionTime < 0 := Int32.not_lt.mpr htime
  rw [Row.toRecord, hversion, Kind.parse_eq_ok_iff.mpr hkind, ← state_ran]
  simp only [Except.mapError, bind, Except.bind, hnonneg]
  rfl

theorem wellFormed_of_toRecord_eq_ok (h : row.toRecord = .ok record) :
    (∃ version, Version.parse row.version = .ok version) ∧ (∃ kind : Kind, kind.IsNamed row.kind) ∧
      0 ≤ row.executionTime := by
  unfold Row.toRecord at h
  cases hversion : Version.parse row.version with
  | error fault => simp [hversion, Except.mapError, bind, Except.bind] at h
  | ok version =>
    cases hkind : Kind.parse row.kind with
    | error unknown => simp [hversion, hkind, Except.mapError, bind, Except.bind] at h
    | ok kind =>
      simp only [hversion, hkind, Except.mapError, bind, Except.bind] at h
      split at h
      · cases h
      · next htime =>
        exact ⟨⟨version, rfl⟩, ⟨kind, Kind.parse_eq_ok_iff.mp hkind⟩, Int32.not_lt.mp htime⟩

/-- What a row is converted to is told by its fields. -/
theorem toRecord_eq_ok_iff : row.toRecord = .ok record ↔ Represents row record := by
  constructor
  · intro h
    obtain ⟨⟨version, hversion⟩, ⟨kind, hkind⟩, htime⟩ := wellFormed_of_toRecord_eq_ok h
    rw [toRecord_of_wellFormed hversion hkind htime] at h
    cases h
    exact {
      version := hversion
      kind := hkind
      description := rfl
      script := rfl
      checksum := rfl
      installedOn := rfl
      duration := ⟨_, rfl, Int.toNat_of_nonneg (Int32.le_iff_toInt_le.mp htime)⟩
      state := rfl }
  · intro h
    obtain ⟨version, description, kind, script, checksum, installedOn, duration, state⟩ := record
    obtain ⟨hversion, hkind, rfl, rfl, rfl, rfl, ⟨⟨millis⟩, rfl, hmillis⟩, rfl⟩ := h
    have htime : 0 ≤ row.executionTime := by
      rw [Int32.le_iff_toInt_le, ← hmillis]
      exact Int.natCast_nonneg millis
    rw [toRecord_of_wellFormed hversion hkind htime, ← hmillis]
    rfl

theorem exists_toRecord_iff_wellFormed :
    (∃ record, row.toRecord = .ok record) ↔
      (Version.IsNumberText row.version ∨ Version.IsLatestText row.version) ∧
        (∃ kind : Kind, kind.IsNamed row.kind) ∧ 0 ≤ row.executionTime := by
  rw [← Version.exists_parse_iff]
  constructor
  · rintro ⟨record, hrecord⟩
    exact wellFormed_of_toRecord_eq_ok hrecord
  · rintro ⟨⟨version, hversion⟩, ⟨kind, hkind⟩, htime⟩
    exact ⟨_, toRecord_of_wellFormed hversion hkind htime⟩

/-- **Which rows are converted, and what they come to.** The version has a position of its own
unless the row holds the word for the upper bound. -/
theorem conversion_of_row (row : Row) :
    ((∃ record, row.toRecord = .ok record) ↔
      (Version.IsNumberText row.version ∨ Version.IsLatestText row.version) ∧
        (∃ kind : Kind, kind.IsNamed row.kind) ∧ 0 ≤ row.executionTime) ∧
    (∀ record, row.toRecord = .ok record ↔ Represents row record) ∧
    ∀ record, Represents row record →
      (record.version.isNumbered = true ↔ Version.IsNumberText row.version) :=
  ⟨exists_toRecord_iff_wellFormed, fun _ => toRecord_eq_ok_iff,
    fun _ h => Version.isNumbered_iff_of_parse h.version⟩

/-- A failed row, with its texts written loosely. -/
theorem conversion_of_loose_row :
    let row : Row := ⟨3, " V1_0 ", "step", " init ", "s.sql", some "abc", .startOf2024, 250, false⟩
    let record : Record := ⟨.numbered (.ofList [1]) "1.0", "step", .init, "s.sql", some "abc",
      some .startOf2024, some ⟨250⟩, .failed⟩
    Represents row record ∧ row.toRecord = .ok record ∧ Version.IsNumberText row.version := by
  intro row record
  have hversion : Version.parse row.version = .ok record.version := by decide
  have hrepresents : Represents row record :=
    ⟨hversion, by decide, rfl, rfl, rfl, rfl, ⟨_, rfl, by decide⟩, rfl⟩
  obtain ⟨-, hrecord, hnumbered⟩ := conversion_of_row row
  exact ⟨hrepresents, (hrecord record).mpr hrepresents, (hnumbered record hrepresents).mp rfl⟩

/-- The word for the upper bound is no version that a ledger could store, and yet its row is
converted. While it is the last row nothing is pending, whatever is at hand. -/
theorem pending_nil_of_stored_latest :
    let row : Row := ⟨1, "latest", "step", "SQL", "", none, .startOf2024, 7, true⟩
    ¬ Version.IsNumberText row.version ∧
      ∃ record, row.toRecord = .ok record ∧ record.version.isNumbered = false ∧
        ∀ (available : List Record) (target : Version), Distinct available →
          Timeline.pending (Reconcile.merge available [record] target) = [] := by
  intro row
  let record : Record :=
    ⟨.latest, "step", .sql, "", none, some .startOf2024, some ⟨7⟩, .success⟩
  have hlatest : Version.parse row.version = .ok .latest := by decide
  have hrecorded : Reconcile.Recorded [record] := ⟨by decide, by decide⟩
  refine ⟨Version.not_isNumberText_of_isLatestText (by decide), record, ?_, rfl,
    fun available target havailable => ?_⟩
  · exact toRecord_eq_ok_iff.mpr ⟨hlatest, by decide, rfl, rfl, rfl, rfl, ⟨_, rfl, by decide⟩, rfl⟩
  · exact Reconcile.pending_merge_of_latest havailable hrecorded rfl rfl

end Ledger

end MigrationStatus
