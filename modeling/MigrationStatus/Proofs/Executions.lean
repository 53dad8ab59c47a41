import MigrationStatus.Proofs.AnyLists
/-!
# When a run is shown

A timestamp in the merged list means that the migration was run. The files may carry whatever they
like: the first pass strips them of it, the rows bring their time and their duration in, and the two
passes that take a state back take both of these with it. So every entry is either one that was not
run and tells of no run, or it tells of a run what a row of its version does (`Traced`). If the rows
are complete, an entry shows a time exactly if its state says that it was run, and a duration
exactly then too; and if no row tells one without the other, no entry does.
-/

namespace MigrationStatus.Migration

/-- The record is one of a migration that was run, with everything that is known of a run. -/
structure Record.Complete (record : Record) : Prop where
  state : record.state.isApplied = true
  installedOn : record.installedOn.isSome = true
  duration : record.duration.isSome = true

/-- The time and the duration of the run are known both or not at all. -/
def Record.Paired (record : Record) : Prop := record.installedOn.isSome = record.duration.isSome

namespace Reconcile

open Timeline

variable {available applied : List Record} {row record entry : Record} {state : State}
  {horizon target : Version}

/-- The record tells of no run, and its state is none of one; or it tells of a run what a row of its
version does. -/
inductive Traced (applied : List Record) (record : Record) : Prop where
  | waiting (hstate : record.state.isApplied = false) (hinstalled : record.installedOn = none)
    (hduration : record.duration = none)
  | ran {row : Record} (hrow : row ∈ applied) (hversion : row.version = record.version)
    (hstate : row.state.isApplied = true → record.state.isApplied = true)
    (hinstalled : record.installedOn = row.installedOn) (hduration : record.duration = row.duration)

/-! ### What each pass leaves behind -/

theorem traced_withoutExecution (hstate : state.isApplied = false) (applied : List Record)
    (record : Record) : Traced applied (record.withoutExecution state) :=
  .waiting hstate rfl rfl

theorem traced_reclassified (hrow : row ∈ applied)
    (hstate : row.state.isApplied = true → state.isApplied = true) :
    Traced applied (row.reclassified state) :=
  .ran hrow rfl hstate rfl rfl

theorem traced_finished (h : Traced applied record) : Traced applied (finished applied record) := by
  unfold finished
  split
  · exact traced_withoutExecution rfl applied record
  · split
    · exact traced_withoutExecution rfl applied record
    · exact h

theorem traced_of_enteredAt? {version : Version}
    (h : enteredAt? available applied version = some record) : Traced applied record := by
  unfold enteredAt? at h
  split at h
  · next row hlast =>
    have hrow := mem_of_lastAt?_eq_some hlast
    cases h
    split
    · exact traced_reclassified hrow id
    · exact traced_reclassified hrow fun hstate => isApplied_unavailableState hstate _
  · obtain ⟨file, -, rfl⟩ := Option.map_eq_some_iff.mp h
    exact traced_withoutExecution rfl applied file

theorem traced_of_mem_merge (h : entry ∈ merge available applied target) :
    Traced applied entry := by
  obtain ⟨record, hrecord, rfl⟩ := exists_of_mem_merge h
  exact traced_finished (traced_of_enteredAt? hrecord)

/-! ### What an entry tells of a run -/

theorem installedOn_isSome_iff (happlied : ∀ row ∈ applied, row.Complete)
    (h : Traced applied record) :
    record.installedOn.isSome = true ↔ record.state.isApplied = true := by
  cases h with
  | waiting hstate hinstalled hduration => simp [hstate, hinstalled]
  | ran hrow hversion hstate hinstalled hduration =>
    have hcomplete := happlied _ hrow
    rw [hinstalled]
    exact iff_of_true hcomplete.installedOn (hstate hcomplete.state)

theorem duration_isSome_iff (happlied : ∀ row ∈ applied, row.Complete)
    (h : Traced applied record) :
    record.duration.isSome = true ↔ record.state.isApplied = true := by
  cases h with
  | waiting hstate hinstalled hduration => simp [hstate, hduration]
  | ran hrow hversion hstate hinstalled hduration =>
    have hcomplete := happlied _ hrow
    rw [hduration]
    exact iff_of_true hcomplete.duration (hstate hcomplete.state)

theorem exists_row_of_traced (h : Traced applied record) (hran : record.state.isApplied = true) :
    ∃ row ∈ applied, row.version = record.version ∧ record.installedOn = row.installedOn ∧
      record.duration = row.duration := by
  cases h with
  | waiting hstate hinstalled hduration =>
    rw [hstate] at hran
    cases hran
  | ran hrow hversion hstate hinstalled hduration =>
    exact ⟨_, hrow, hversion, hinstalled, hduration⟩

/-- No entry tells one of time and duration without the other, unless a row does. -/
theorem paired_of_mem_merge (happlied : ∀ row ∈ applied, row.Paired)
    (h : entry ∈ merge available applied target) : entry.Paired := by
  unfold Record.Paired
  cases traced_of_mem_merge h with
  | waiting hstate hinstalled hduration => rw [hinstalled, hduration]; rfl
  | ran hrow hversion hstate hinstalled hduration =>
    rw [hinstalled, hduration]
    exact happlied _ hrow

/-- What the files carry of a state or a run does not enter the merge. -/
theorem merge_map_withoutExecution (available applied : List Record) (target : Version)
    (state : State) :
    merge (available.map (·.withoutExecution state)) applied target =
      merge available applied target := by
  have hhorizon : Reconcile.horizon (available.map (·.withoutExecution state)) =
      Reconcile.horizon available := by
    simp [Reconcile.horizon, Function.comp_def]
  have hseeded : seeded (available.map (·.withoutExecution state)) = seeded available := by
    rw [seeded, seeded, List.map_map]
    rfl
  simp only [merge, classified, baselined, entered, hhorizon, hseeded]

/-- **An entry shows a run exactly if it was run.** Whatever the files carry, an entry of the merge
has a time exactly if its state is one of a migration that was run, and a duration exactly if it is,
and both are then those of a row of its version. -/
theorem execution_iff_applied
    (happlied : ∀ row ∈ applied, row.state.isApplied = true ∧ row.installedOn.isSome = true ∧
      row.duration.isSome = true) (available : List Record) (target : Version) :
    (∀ entry ∈ merge available applied target,
      (entry.installedOn.isSome = true ↔ entry.state.isApplied = true) ∧
      (entry.duration.isSome = true ↔ entry.state.isApplied = true) ∧
      (entry.state.isApplied = true → ∃ row ∈ applied, row.version = entry.version ∧
        entry.installedOn = row.installedOn ∧ entry.duration = row.duration)) ∧
    ∀ state, merge (available.map (·.withoutExecution state)) applied target =
      merge available applied target := by
  have hcomplete : ∀ row ∈ applied, row.Complete := fun row hrow =>
    ⟨(happlied row hrow).1, (happlied row hrow).2.1, (happlied row hrow).2.2⟩
  refine ⟨fun entry hentry => ?_, merge_map_withoutExecution available applied target⟩
  have htraced := traced_of_mem_merge hentry
  exact ⟨installedOn_isSome_iff hcomplete htraced, duration_isSome_iff hcomplete htraced,
    exists_row_of_traced htraced⟩

/-- Files that claim to have been run, one of them with a time alone and one with a duration alone,
beside rows of which two are one version and one lies below the marker. -/
theorem execution_iff_applied_of_claiming_files :
    let available := [sampleRow .sql [1] false, { sampleRow .sql [4] true with duration := none },
      { sampleRow .sql [6] true with installedOn := none }]
    let applied := [sampleRow .init [2] true, sampleRow .sql [5] false, sampleRow .sql [1, 0] true,
      (sampleRow .sql [5, 0] true).reclassified .missingFailed]
    (∀ row ∈ applied, row.state.isApplied = true ∧ row.installedOn.isSome = true ∧
      row.duration.isSome = true) ∧
    ∀ entry ∈ merge available applied .latest,
      (entry.installedOn.isSome = true ↔ entry.state.isApplied = true) ∧
      (entry.duration.isSome = true ↔ entry.state.isApplied = true) ∧
      (entry.state.isApplied = true → ∃ row ∈ applied, row.version = entry.version ∧
        entry.installedOn = row.installedOn ∧ entry.duration = row.duration) := by
  intro available applied
  have happlied : ∀ row ∈ applied, row.state.isApplied = true ∧ row.installedOn.isSome = true ∧
      row.duration.isSome = true := by decide
  exact ⟨happlied, (execution_iff_applied happlied available .latest).1⟩

end Reconcile

end MigrationStatus.Migration
