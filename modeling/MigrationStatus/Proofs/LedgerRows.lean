import MigrationStatus.Migration.Overview
import MigrationStatus.Proofs.RowConversion
import MigrationStatus.Proofs.Run
/-!
# What the table promises of the rows that are read from it

The table keeps the texts of versions apart, and the merge goes by their positions. These are not
the same: a version can be written in several ways, and the table takes one row for each. The rows
that are read stand at different positions exactly if no two of their texts are spellings of one
version; then each of them has an entry of its own in every merge.
-/

namespace MigrationStatus.Ledger

open Migration Reconcile

/-- The contents that the definition of the table admits. -/
structure Admitted (rows : List Row) : Prop where
  rank : rows.Pairwise fun earlier later => earlier.rank ≠ later.rank
  version : rows.Pairwise fun earlier later => earlier.version ≠ later.version

variable {world : World} {table : Table} {rows : List Row} {found : List Record} {row : Row}
  {record : Record}

/-! ### Reading the rows -/

theorem ranked_eq_mergeSort (rows : List Row) :
    Server.ranked rows = rows.mergeSort fun earlier later => earlier.rank ≤ later.rank := rfl

@[simp] theorem ranked_nil : Server.ranked [] = [] := by
  rw [ranked_eq_mergeSort, List.mergeSort_nil]

/-- The rows that are read are those of the table, and none where there is no table. -/
theorem records_of_run_applied
    (h : (Program.run world (applied table).run).result = .ok found) :
    records (Server.ranked (world.server.table.getD [])) = .ok found := by
  obtain ⟨written, -, h⟩ := Program.exists_of_run_bind_eq_ok h
  obtain ⟨isThere, hthere, h⟩ := Program.exists_of_run_bind_eq_ok h
  obtain ⟨hanswer, hworld⟩ := run_send_eq_ok hthere
  obtain rfl : world.server.table.isSome = isThere := hanswer
  rw [tableExists, hworld] at h
  change (Program.run world _).result = _ at h
  cases htable : world.server.table with
  | none =>
    rw [htable] at h
    cases h
    simp [records, pure, Except.pure]
  | some rows =>
    rw [htable] at h
    obtain ⟨answer, hrows, h⟩ := Program.exists_of_run_bind_eq_ok h
    obtain ⟨hanswer, -⟩ := run_send_eq_ok hrows
    obtain rfl : Server.ranked (world.server.table.getD []) = answer := hanswer
    rw [htable] at h
    obtain ⟨-, -, h⟩ := Program.exists_of_run_bind_eq_ok h
    change (records (Server.ranked rows)).mapError Failure.row = .ok found at h
    cases hrecords : records (Server.ranked rows) with
    | error fault =>
      rw [hrecords] at h
      cases h
    | ok read =>
      rw [hrecords] at h
      cases h
      exact hrecords

/-- A row that stands for a migration stands for one at its own version, whose run is finished. -/
theorem of_toRecord_eq_ok (h : row.toRecord = .ok record) :
    Version.parse row.version = .ok record.version ∧
      (record.state = .success ∨ record.state = .failed) := by
  have hrepresents := toRecord_eq_ok_iff.mp h
  refine ⟨hrepresents.version, ?_⟩
  rw [hrepresents.state]
  cases row.success
  · exact Or.inr rfl
  · exact Or.inl rfl

theorem exists_of_mem_records (h : records rows = .ok found) (hrecord : record ∈ found) :
    ∃ row ∈ rows, row.toRecord = .ok record := by
  rw [records, mapM_eq_ok_iff] at h
  have hmem : .ok record ∈ rows.map Row.toRecord := h ▸ List.mem_map_of_mem hrecord
  exact List.mem_map.mp hmem

theorem exists_of_mem_rows (h : records rows = .ok found) (hrow : row ∈ rows) :
    ∃ record ∈ found, row.toRecord = .ok record := by
  rw [records, mapM_eq_ok_iff] at h
  have hmem : row.toRecord ∈ found.map .ok := h ▸ List.mem_map_of_mem hrow
  obtain ⟨record, hfound, hrecord⟩ := List.mem_map.mp hmem
  exact ⟨record, hfound, hrecord.symm⟩

/-! ### Positions and texts -/

/-- The records that rows stand for lie apart exactly if the texts of the rows do. -/
theorem distinct_records_iff (h : records rows = .ok found) :
    Distinct found ↔ rows.Pairwise fun earlier later =>
      Version.spelling earlier.version ≠ Version.spelling later.version := by
  -- Both sides are read off the list of conversions, which the rows and the records share.
  have hshared := h
  rw [records, mapM_eq_ok_iff] at hshared
  let apart (left right : Except RowError Record) : Prop :=
    ∀ earlier later, left = .ok earlier → right = .ok later →
      earlier.version.same later.version = false
  have hfound : Distinct found ↔ (found.map Except.ok).Pairwise apart := by
    rw [List.pairwise_map]
    simp [apart, Distinct]
  have hrows : (rows.map Row.toRecord).Pairwise apart ↔ rows.Pairwise fun earlier later =>
      Version.spelling earlier.version ≠ Version.spelling later.version := by
    rw [List.pairwise_map]
    refine List.Pairwise.iff_of_mem fun {left right} hleft hright => ?_
    obtain ⟨earlier, -, hearlier⟩ := exists_of_mem_rows h hleft
    obtain ⟨later, -, hlater⟩ := exists_of_mem_rows h hright
    have hsame := Version.same_iff_spelling_eq (of_toRecord_eq_ok hearlier).1
      (of_toRecord_eq_ok hlater).1
    simp [apart, hearlier, hlater, ← hsame]
  rw [hfound, ← hshared, hrows]

theorem recorded_of_records (h : records rows = .ok found) (hdistinct : Distinct found) :
    Reconcile.Recorded found := by
  refine ⟨hdistinct, fun record hrecord => ?_⟩
  obtain ⟨row, -, hrow⟩ := exists_of_mem_records h hrecord
  exact (of_toRecord_eq_ok hrow).2

/-- An entry that shows the record: only its state may be another one, and below the marker its
execution is left out. -/
def Shows (record entry : Record) : Prop :=
  entry = record.withoutExecution .preInit ∨ ∃ state, entry = record.reclassified state

theorem shows_rowEntry (available applied : List Record) (record : Record) :
    Shows record (Reconcile.rowEntry available applied record) := by
  unfold Reconcile.rowEntry
  split
  · exact Or.inl rfl
  · unfold Reconcile.settled
    split
    · exact Or.inr ⟨record.state, rfl⟩
    · exact Or.inr ⟨_, rfl⟩

/-! ### Tables with given rows -/

/-- A row that a run of seven milliseconds has left behind. -/
def storedRow (rank : Int32) (version : String) (success : Bool) : Row :=
  ⟨rank, version, "step", "SQL", "", none, .startOf2024, 7, success⟩

/-- Nothing but a server without faults whose table holds the rows. -/
def storing (rows : List Row) : World := .ofServer (.ofTable (some rows))

theorem checked_sample : Table.checked ⟨"public", "schema_version"⟩ =
    .ok "\"public\".\"schema_version\"" := by
  have hschema : isIdentifier "public".toList = true := by decide +kernel
  have hname : isIdentifier "schema_version".toList = true := by decide +kernel
  rw [Table.checked, hschema, hname]
  rfl

theorem result_run_applied_storing (rows : List Row) :
    (Program.run (storing rows) (applied ⟨"public", "schema_version"⟩).run).result =
      (records (Server.ranked rows)).mapError Failure.row := by
  have hadmitted : (Program.run (storing rows)
      (admitted ⟨"public", "schema_version"⟩).run).result =
        .ok "\"public\".\"schema_version\"" := by
    rw [admitted, checked_sample]
    rfl
  rw [applied, Program.result_run_bind_of_ok hadmitted]
  rfl

theorem records_respelled :
    records (Server.ranked [storedRow 1 "1" false, storedRow 2 "1.0" true]) =
      .ok [sampleRow .sql [1] false, sampleRow .sql [1, 0] true] := by
  rw [ranked_eq_mergeSort, List.mergeSort_of_pairwise (by decide)]
  rfl

theorem records_apart :
    records (Server.ranked [storedRow 2 "1" false, storedRow 1 "v2_0" true]) =
      .ok [sampleRow .sql [2, 0] true, sampleRow .sql [1] false] := by
  have hranked : Server.ranked [storedRow 2 "1" false, storedRow 1 "v2_0" true] =
      [storedRow 1 "v2_0" true, storedRow 2 "1" false] := by
    simp [ranked_eq_mergeSort, List.mergeSort, List.MergeSort.Internal.splitInTwo, storedRow]
  rw [hranked]
  rfl

/-! ### The promise and its limit -/

/-- **When the ledger keeps what the merge needs.** Rows that were read stand at different positions
exactly if no two texts in the table are spellings of one version. In that case every row has an
entry that shows it, whatever is at hand and however far the merge goes; in every other case a merge
has fewer entries than there are rows. -/
theorem distinct_applied_iff_spelling
    (h : (Program.run world (applied table).run).result = .ok found) :
    (Distinct found ↔ (world.server.table.getD []).Pairwise fun earlier later =>
      Version.spelling earlier.version ≠ Version.spelling later.version) ∧
    (Distinct found ↔ (Reconcile.merge [] found .latest).length = found.length) ∧
    (Distinct found → ∀ (available : List Record) (target : Version),
      Timeline.Ascending available → ∀ record ∈ found, record.version ≤ target →
        ∃ entry ∈ Reconcile.merge available found target, Shows record entry) := by
  have hrecords := records_of_run_applied h
  refine ⟨?_, (length_merge_nil_eq_iff found).symm, ?_⟩
  · rw [distinct_records_iff hrecords]
    exact (List.mergeSort_perm _ _).pairwise_iff Ne.symm
  · intro hdistinct available target havailable record hrecord hle
    have hrecorded := recorded_of_records hrecords hdistinct
    refine ⟨Reconcile.rowEntry available found record, ?_, shows_rowEntry available found record⟩
    rw [Reconcile.mem_merge_iff havailable.distinct hrecorded, Reconcile.version_rowEntry]
    refine ⟨hle, ?_⟩
    simp [Reconcile.entryAt?, Timeline.find?_of_mem hdistinct hrecord (Version.same_self _)]

/-- A table in which version 1 comes after version 2. -/
theorem distinct_applied_of_two_rows :
    let rows := [storedRow 2 "1" false, storedRow 1 "v2_0" true]
    let found := [sampleRow .sql [2, 0] true, sampleRow .sql [1] false]
    (Program.run (storing rows) (applied ⟨"public", "schema_version"⟩).run).result = .ok found ∧
      (Distinct found ↔ rows.Pairwise fun earlier later =>
        Version.spelling earlier.version ≠ Version.spelling later.version) ∧
      (Distinct found ↔ (Reconcile.merge [] found .latest).length = found.length) ∧
      (Distinct found → ∀ (available : List Record) (target : Version),
        Timeline.Ascending available → ∀ record ∈ found, record.version ≤ target →
          ∃ entry ∈ Reconcile.merge available found target, Shows record entry) := by
  intro rows found
  have hrun : (Program.run (storing rows) (applied ⟨"public", "schema_version"⟩).run).result =
      .ok found := by
    rw [result_run_applied_storing, records_apart]
    rfl
  exact ⟨hrun, distinct_applied_iff_spelling hrun⟩

/-- Version 1 failed and was then written once more as `1.0`. The table takes both rows, they are
read without complaint, and the failed one has no entry that would show it. -/
theorem applied_not_distinct_of_respelling :
    Admitted [storedRow 1 "1" false, storedRow 2 "1.0" true] ∧
      ∃ found, (Program.run (storing [storedRow 1 "1" false, storedRow 2 "1.0" true])
          (applied ⟨"public", "schema_version"⟩).run).result = .ok found ∧
        ¬ Distinct found ∧ (∃ record ∈ found, record.state = .failed) ∧
        Timeline.anomalies (Reconcile.merge [] found .latest) = [] := by
  refine ⟨⟨by decide, by decide⟩, [sampleRow .sql [1] false, sampleRow .sql [1, 0] true],
    ?_, by decide, by decide, by decide⟩
  rw [result_run_applied_storing, records_respelled]
  rfl

end MigrationStatus.Ledger
