import MigrationStatus.Proofs.Executions
import MigrationStatus.Proofs.JsonText
import MigrationStatus.Proofs.LedgerRows
import MigrationStatus.Report
/-!
# What the summary promises to scripts

The summary holds two figures beside its list of migrations, and each is found on a way of its own.
They are told here by the list alone (`Consistent`), so a script may go by either. What an entry
tells of a run is traced back to the stored row (`Tells`): it is there exactly if the state says so,
and the duration is the stored number, which fits into the type it is shown in.
-/

namespace MigrationStatus.Report

open Migration Reconcile
open Ledger (Row records Represents)

variable {available applied : List Record} {rows : List Row} {row : Row} {record : Record}
  {target : Version}

/-! ### The figures and the list -/

/-- The figures of the summary are those of its list. -/
structure Consistent (summary : Summary) : Prop where
  pending : summary.pendingCount = (summary.migrations.filter (·.state = .pending)).length
  current_none_iff : summary.currentVersion = none ↔
    ∀ entry ∈ summary.migrations, entry.state.isApplied = false
  current_some_iff : ∀ shown, summary.currentVersion = some shown ↔
    ∃ earlier entry later, summary.migrations = earlier ++ entry :: later ∧
      entry.version = shown ∧ entry.state.isApplied = true ∧
      ∀ other ∈ later, other.state.isApplied = false

theorem currentVersion_ofTimeline (timeline : Timeline) :
    (Summary.ofTimeline timeline).currentVersion =
      ((Summary.ofTimeline timeline).migrations.reverse.find? (·.state.isApplied)).map
        (·.version) := by
  simp only [Summary.ofTimeline, ← List.map_reverse, List.find?_map, Option.map_map]
  rfl

theorem consistent_ofTimeline (timeline : Timeline) : Consistent (Summary.ofTimeline timeline) where
  pending := by
    simp only [Summary.ofTimeline, Timeline.pending, List.filter_map, List.length_map]
    rfl
  current_none_iff := by
    rw [currentVersion_ofTimeline, Option.map_eq_none_iff, List.find?_eq_none]
    simp
  current_some_iff shown := by
    rw [currentVersion_ofTimeline, Option.map_eq_some_iff]
    simp only [List.find?_eq_some_iff_append]
    constructor
    · rintro ⟨entry, ⟨hstate, later, earlier, hsplit, hlater⟩, rfl⟩
      refine ⟨earlier.reverse, entry, later.reverse, ?_, rfl, hstate, ?_⟩
      · simpa using congrArg List.reverse hsplit
      · simpa using hlater
    · rintro ⟨earlier, entry, later, hsplit, rfl, hstate, hlater⟩
      refine ⟨entry, ⟨hstate, later.reverse, earlier.reverse, ?_, ?_⟩, rfl⟩
      · simp [hsplit]
      · simpa using hlater

/-! ### Entries and rows -/

/-- The entry tells the record, and the row whose run it was. -/
structure Tells (rows : List Row) (record : Record) (entry : Entry) : Prop where
  version : entry.version = record.version.display
  description : entry.description = record.description
  kind : entry.kind = record.kind
  state : entry.state = record.state
  installedOn_isSome_iff : entry.installedOn.isSome = true ↔ entry.state.isApplied = true
  executionMillis_isSome_iff : entry.executionMillis.isSome = true ↔ entry.state.isApplied = true
  exists_row : entry.state.isApplied = true →
    ∃ row ∈ rows, Version.parse row.version = .ok record.version
  run_of_row : entry.state.isApplied = true → ∀ row ∈ rows, ∀ version,
    Version.parse row.version = .ok version → version.same record.version = true →
      entry.installedOn = some row.installedOn.rfc3339 ∧
      entry.executionMillis.map (fun millis => (millis.toNat : Int)) =
        some row.executionTime.toInt

/-- The stored number has 31 bits and no sign, so all of it is shown. -/
theorem run_of_represents (h : Represents row record) :
    (Entry.ofRecord record).installedOn = some row.installedOn.rfc3339 ∧
      (Entry.ofRecord record).executionMillis.map (fun millis => (millis.toNat : Int)) =
        some row.executionTime.toInt := by
  obtain ⟨duration, hduration, hmillis⟩ := h.duration
  have hsmall : duration.millis < 2 ^ 64 := by
    have hbound := row.executionTime.toInt_lt
    omega
  have hshown : ((UInt64.ofNat duration.millis).toNat : Int) = row.executionTime.toInt := by
    rw [UInt64.toNat_ofNat_of_lt' hsmall, hmillis]
  simp only [Entry.ofRecord, h.installedOn, hduration, Option.map_some, hshown, and_self]

theorem complete_of_represents (h : Represents row record) : record.Complete where
  state := by
    rw [h.state]
    cases row.success <;> rfl
  installedOn := by rw [h.installedOn, Option.isSome_some]
  duration := by
    obtain ⟨duration, hduration, -⟩ := h.duration
    rw [hduration, Option.isSome_some]

theorem tells_of_mem_merge (hrecords : records rows = .ok applied) (happlied : Distinct applied)
    (h : record ∈ merge available applied target) : Tells rows record (Entry.ofRecord record) := by
  have hcomplete : ∀ source ∈ applied, source.Complete := by
    intro source hsource
    obtain ⟨row, -, hrow⟩ := Ledger.exists_of_mem_records hrecords hsource
    exact complete_of_represents (Ledger.toRecord_eq_ok_iff.mp hrow)
  have htraced := traced_of_mem_merge h
  refine {
    version := rfl
    description := rfl
    kind := rfl
    state := rfl
    installedOn_isSome_iff := ?_
    executionMillis_isSome_iff := ?_
    exists_row := fun hstate => ?_
    run_of_row := fun hstate row hrow version hversion hsame => ?_ }
  · simpa [Entry.ofRecord] using installedOn_isSome_iff hcomplete htraced
  · simpa [Entry.ofRecord] using duration_isSome_iff hcomplete htraced
  · obtain ⟨source, hmem, hposition, -, -⟩ := exists_row_of_traced htraced hstate
    obtain ⟨row, hrow, hconverted⟩ := Ledger.exists_of_mem_records hrecords hmem
    exact ⟨row, hrow, hposition ▸ (Ledger.toRecord_eq_ok_iff.mp hconverted).version⟩
  · obtain ⟨source, hmem, hposition, hinstalled, hduration⟩ := exists_row_of_traced htraced hstate
    obtain ⟨other, hother, hconverted⟩ := Ledger.exists_of_mem_rows hrecords hrow
    have hrepresents := Ledger.toRecord_eq_ok_iff.mp hconverted
    obtain rfl := Except.ok.inj (hversion.symm.trans hrepresents.version)
    -- The rows stand apart, so the one whose run is shown is the one that was asked about.
    have hfirst := Timeline.find?_of_mem happlied hother (Version.same_self _)
    have hsecond := Timeline.find?_of_mem happlied hmem (hposition ▸ hsame)
    obtain rfl := Option.some.inj (hfirst.symm.trans hsecond)
    have htold := run_of_represents hrepresents
    simpa [Entry.ofRecord, hinstalled, hduration] using htold

/-! ### The view as it is read -/

/-- The object holds the entry: each fact under its name, and `null` for what there is none of. -/
structure Entry.ShownAs (entry : Entry) (json : Json) : Prop where
  names : json.names =
    ["version", "description", "type", "state", "installed_on", "execution_time_ms"]
  version : json.textAt? "version" = some entry.version
  description : json.textAt? "description" = some entry.description
  kind : ∀ kind : Kind, json.textAt? "type" = some kind.code ↔ entry.kind = kind
  state : ∀ state : State, json.textAt? "state" = some state.code ↔ entry.state = state
  pending : json.textAt? "state" = some "PENDING" ↔ entry.state = .pending
  installedOn : ∀ time, json.textAt? "installed_on" = some time ↔ entry.installedOn = some time
  installedOn_null : json.at? "installed_on" = some .null ↔ entry.installedOn = none
  executionMillis : ∀ n, json.numberAt? "execution_time_ms" = some n ↔
    ∃ millis, entry.executionMillis = some millis ∧ millis.toNat = n
  executionMillis_null : json.at? "execution_time_ms" = some .null ↔ entry.executionMillis = none

/-- The object holds the summary. -/
structure Summary.ShownAs (summary : Summary) (json : Json) : Prop where
  names : json.names = ["current_version", "pending_count", "migrations"]
  currentVersion : ∀ shown,
    json.textAt? "current_version" = some shown ↔ summary.currentVersion = some shown
  currentVersion_null : json.at? "current_version" = some .null ↔ summary.currentVersion = none
  pendingCount : json.numberAt? "pending_count" = some summary.pendingCount
  migrations : ∃ items, json.listAt? "migrations" = some items ∧
    List.Forall₂ Entry.ShownAs summary.migrations items

theorem Entry.shownAs_toJson (entry : Entry) : entry.ShownAs entry.toJson where
  names := rfl
  version := rfl
  description := rfl
  kind kind := by
    rw [← Kind.code_inj]
    exact Option.some_inj
  state state := by
    rw [← State.code_inj]
    exact Option.some_inj
  pending := by
    rw [← State.code_inj]
    exact Option.some_inj
  installedOn time := Json.textAt?_eq_some_iff.trans Json.some_optional_text_iff
  installedOn_null := Json.some_optional_null_iff (by simp)
  executionMillis n := by
    rw [Json.numberAt?_eq_some_iff]
    cases h : entry.executionMillis <;> simp [toJson, Json.at?, List.lookup, Json.optional, h]
  executionMillis_null := Json.some_optional_null_iff (by simp)

theorem Summary.shownAs_toJson (summary : Summary) : summary.ShownAs summary.toJson where
  names := rfl
  currentVersion shown := Json.textAt?_eq_some_iff.trans Json.some_optional_text_iff
  currentVersion_null := Json.some_optional_null_iff (by simp)
  pendingCount := rfl
  migrations := by
    refine ⟨_, rfl, ?_⟩
    rw [List.forall₂_map_right_iff, List.forall₂_same]
    exact fun entry _ => entry.shownAs_toJson

/-- **What scripts may rely on.** -/
theorem summary_of_merge (hrecords : records rows = .ok applied) (happlied : Distinct applied)
    (available : List Record) (target : Version) :
    let timeline := merge available applied target
    let summary := Summary.ofTimeline timeline
    (∀ colors, ∃ printed json, overview .json colors timeline = some printed ∧
      Json.read? printed = some json ∧ summary.ShownAs json) ∧
      timeline.Ascending ∧ List.Forall₂ (Tells rows) timeline summary.migrations ∧
      Consistent summary := by
  intro timeline summary
  have hentries : List.Forall₂ (Tells rows) timeline (timeline.map Entry.ofRecord) := by
    rw [List.forall₂_map_right_iff, List.forall₂_same]
    exact fun record hrecord => tells_of_mem_merge hrecords happlied hrecord
  exact ⟨fun colors => ⟨_, _, rfl, Json.read?_pretty summary.toJson 0, summary.shownAs_toJson⟩,
    ascending_merge available applied target, hentries, consistent_ofTimeline timeline⟩

/-- Version 1 failed, version 2.0 was run and is at hand no more, and version 3 is still to come. -/
theorem summary_of_two_rows :
    let rows := [Ledger.storedRow 1 "v2_0" true, Ledger.storedRow 2 "1" false]
    let applied := [sampleRow .sql [2, 0] true, sampleRow .sql [1] false]
    let timeline := merge [sampleFile [1], sampleFile [3]] applied .latest
    let summary := Summary.ofTimeline timeline
    let first : Entry :=
      ⟨"1", "step", .sql, .failed, some "2024-01-01T00:00:00+00:00", some 7⟩
    let second : Entry :=
      ⟨"2.0", "step", .sql, .missingSuccess, some "2024-01-01T00:00:00+00:00", some 7⟩
    let third : Entry := ⟨"3", "step", .sql, .pending, none, none⟩
    records rows = .ok applied ∧ Distinct applied ∧
      summary.migrations = [first, second, third] ∧
      summary.currentVersion = some "2.0" ∧ summary.pendingCount = 1 ∧
      ∃ printed json, overview .json true timeline = some printed ∧
        Json.read? printed = some json ∧ json.textAt? "current_version" = some "2.0" ∧
        json.numberAt? "pending_count" = some 1 := by
  intro rows applied timeline summary first second third
  have hrecords : records rows = .ok applied := rfl
  have happlied : Distinct applied := by decide
  have hentries : summary.migrations = [first, second, third] := by decide +kernel
  obtain ⟨hprinted, -, -, hpending, -, hcurrent⟩ :=
    summary_of_merge hrecords happlied [sampleFile [1], sampleFile [3]] .latest
  have hversion : summary.currentVersion = some "2.0" :=
    (hcurrent "2.0").mpr ⟨[first], second, [third], hentries, rfl, rfl, by decide⟩
  have hcount : summary.pendingCount = 1 := by
    rw [hpending, hentries]
    rfl
  obtain ⟨printed, json, hoverview, hread, hshown⟩ := hprinted true
  exact ⟨hrecords, happlied, hentries, hversion, hcount, printed, json, hoverview, hread,
    (hshown.currentVersion "2.0").mpr hversion, hcount ▸ hshown.pendingCount⟩

end MigrationStatus.Report
