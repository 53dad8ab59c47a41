import MigrationStatus.Migration.Overview
import MigrationStatus.Proofs.Entry
/-!
# Running what is pending

Whoever runs the pending migrations in order adds one row after another to the ledger, and each row
moves the boundary below which files count as passed over. The first pending version lies above that
boundary and has no pending version below it, so the boundary moves past nothing that still waits:
a step replaces the entry of its own version and leaves every other entry alone. What is pending
afterwards is the rest of what was pending before, and so a whole run follows by induction.
-/

namespace MigrationStatus.Migration.Reconcile

open Timeline

/-- Puts the record in the place of the entry at its position. -/
def replacing (record entry : Record) : Record :=
  if entry.version.same record.version then record else entry

/-- The rows left behind by running the first of the waiting migrations, one after another. -/
inductive Rollout : List Record → List Record → Prop
  | done (waiting : List Record) : Rollout waiting []
  | ran {next row : Record} {waiting rows : List Record}
      (hsame : row.version.same next.version = true) (hkind : row.kind = .sql)
      (hfinished : row.state = .success ∨ row.state = .failed) (hrest : Rollout waiting rows) :
      Rollout (next :: waiting) (row :: rows)

variable {available applied waiting rows : List Record} {record next row file : Record}
  {version target : Version} {timeline : Timeline}

/-! ### What waits -/

theorem waitingState_eq_pending_iff :
    waitingState applied version = .pending ↔
      ¬ BelowMarker applied version ∧ ¬ BelowLast applied version := by
  unfold waitingState
  split
  · simp_all
  · split <;> simp_all

theorem state_rowEntry_ne_pending (hrow : row.state = .success ∨ row.state = .failed)
    (available applied : List Record) : (rowEntry available applied row).state ≠ .pending := by
  unfold rowEntry
  split
  · simp
  · exact state_settled_ne_pending hrow available

/-- A version waits if it is at hand, was not run, and lies below neither boundary. -/
theorem entryAt?_eq_pending (happlied : Recorded applied)
    (h : entryAt? available applied version = some record) (hstate : record.state = .pending) :
    find? version applied = none ∧ (∃ file, find? version available = some file) ∧
      ¬ BelowMarker applied version ∧ ¬ BelowLast applied version := by
  unfold entryAt? at h
  split at h
  · next row hrow =>
    cases h
    exact absurd hstate (state_rowEntry_ne_pending
      (happlied.finished row (mem_of_find?_eq_some hrow)) available applied)
  · next hnone =>
    obtain ⟨file, hfile, rfl⟩ := Option.map_eq_some_iff.mp h
    exact ⟨hnone, ⟨file, hfile⟩, waitingState_eq_pending_iff.mp hstate⟩

theorem entryAt?_of_waiting (hrow : find? version applied = none)
    (hfile : find? version available = some file) (hmarker : ¬ BelowMarker applied version)
    (hlast : ¬ BelowLast applied version) :
    entryAt? available applied version = some (file.withoutExecution .pending) := by
  rw [entryAt?, hrow, hfile, Option.map_some, waitingState_eq_pending_iff.mpr ⟨hmarker, hlast⟩]

theorem mem_pending_merge_iff (havailable : Distinct available) (happlied : Recorded applied) :
    record ∈ pending (merge available applied target) ↔
      record.version ≤ target ∧ entryAt? available applied record.version = some record ∧
        record.state = .pending := by
  rw [pending, List.mem_filter, mem_merge_iff havailable happlied, beq_iff_eq, and_assoc]

/-! ### The boundaries after one more row -/

theorem belowMarker_append_singleton (hkind : row.kind = .sql) :
    BelowMarker (applied ++ [row]) version ↔ BelowMarker applied version := by
  cases applied with
  | nil => simp [BelowMarker, Record.isInit, hkind]
  | cons first rest => simp [BelowMarker]

theorem belowLast_append_singleton :
    BelowLast (applied ++ [row]) version ↔ version < row.version := by
  simp [BelowLast]

theorem find?_append_of_not_same (hother : version.same row.version = false) :
    find? version (applied ++ [row]) = find? version applied := by
  simp [find?_append_singleton, hother]

theorem rowEntry_append_singleton (hkind : row.kind = .sql) (available : List Record)
    (old : Record) :
    rowEntry available (applied ++ [row]) old = rowEntry available applied old := by
  simp only [rowEntry, belowMarker_append_singleton hkind]

theorem recorded_append_singleton (happlied : Recorded applied)
    (hnew : find? row.version applied = none)
    (hfinished : row.state = .success ∨ row.state = .failed) : Recorded (applied ++ [row]) := by
  refine ⟨distinct_append_singleton.mpr ⟨happlied.distinct, hnew⟩, fun other hother => ?_⟩
  rcases List.mem_append.mp hother with hmem | hmem
  · exact happlied.finished other hmem
  · rwa [List.mem_singleton.mp hmem]

/-! ### Replacing an entry -/

theorem same_replacing (row record : Record) :
    (replacing row record).version.same record.version = true := by
  unfold replacing
  split
  · next h => exact Version.same_symm h
  · exact Version.same_self _

theorem pending_map_replacing (hstate : row.state ≠ .pending) (timeline : Timeline) :
    pending (timeline.map (replacing row)) =
      (pending timeline).filter fun entry => !entry.version.same row.version := by
  unfold pending
  induction timeline with
  | nil => rfl
  | cons entry rest ih =>
    rw [List.map_cons, List.filter_cons, List.filter_cons, ih]
    by_cases hentry : entry.version.same row.version = true
    · have hreplaced : replacing row entry = row := if_pos hentry
      by_cases hpending : entry.state = .pending <;> simp [hreplaced, hstate, hpending, hentry]
    · have hkept : replacing row entry = entry := if_neg hentry
      by_cases hpending : entry.state = .pending <;> simp [hkept, hpending, hentry]

theorem mem_map_replacing (h : record ∈ timeline.map (replacing row)) :
    record ∈ timeline ∨ record = row := by
  obtain ⟨entry, hentry, rfl⟩ := List.mem_map.mp h
  unfold replacing
  split
  · exact Or.inr rfl
  · exact Or.inl hentry

/-- The timeline with the rows in the place of the entries at their positions. -/
def replacedBy (timeline : Timeline) (rows : List Record) : Timeline :=
  rows.foldl (fun timeline row => timeline.map (replacing row)) timeline

/-! ### One step of a run -/

section Step

variable (havailable : Ascending available) (happlied : Recorded applied)
  (hwaiting : pending (merge available applied target) = next :: waiting)
  (hsame : row.version.same next.version = true)

include hwaiting

theorem ascending_waiting : Ascending (next :: waiting) := by
  rw [← hwaiting]
  exact List.Pairwise.filter _ (ascending_merge available applied target)

include havailable happlied

theorem next_spec :
    next.version ≤ target ∧ find? next.version applied = none ∧
      (∃ file, find? next.version available = some file) ∧
      ¬ BelowMarker applied next.version ∧ ¬ BelowLast applied next.version := by
  have hnext : next ∈ pending (merge available applied target) := by simp [hwaiting]
  obtain ⟨hle, hentry, hstate⟩ :=
    (mem_pending_merge_iff havailable.distinct happlied).mp hnext
  exact ⟨hle, entryAt?_eq_pending happlied hentry hstate⟩

/-- No version waits below the first one that does. -/
theorem next_le_of_waiting (hle : version ≤ target) (hrow : find? version applied = none)
    (hfile : find? version available = some file) (hmarker : ¬ BelowMarker applied version)
    (hlast : ¬ BelowLast applied version) : next.version ≤ version := by
  have hsame := same_of_find?_eq_some hfile
  have hentry := entryAt?_of_waiting hrow hfile hmarker hlast
  have hmem : file.withoutExecution .pending ∈ next :: waiting := by
    rw [← hwaiting, mem_pending_merge_iff havailable.distinct happlied]
    refine ⟨(Version.le_congr_left hsame).mp hle, ?_, rfl⟩
    rwa [entryAt?_congr hsame] at hentry
  have hfirst := (List.pairwise_cons.mp (ascending_waiting hwaiting)).1
  refine le_trans ?_ (Version.same_iff_le_and_le.mp hsame).2
  rcases List.mem_cons.mp hmem with heq | hlater
  · exact (congrArg Record.version heq).symm.le
  · exact (hfirst _ hlater).le

include hsame

/-- Where nothing was run yet, the boundary of the new row is not another one. -/
theorem belowLast_append_of_next (hle : version ≤ target) (hrow : find? version applied = none)
    (hfile : find? version available = some file) (hmarker : ¬ BelowMarker applied version) :
    BelowLast (applied ++ [row]) version ↔ BelowLast applied version := by
  obtain ⟨-, -, -, -, hnext⟩ := next_spec havailable happlied hwaiting
  rw [belowLast_append_singleton, Version.lt_congr_right hsame]
  constructor
  · intro hlt
    by_contra hlast
    exact hlt.not_ge (next_le_of_waiting havailable happlied hwaiting hle hrow hfile hmarker hlast)
  · rintro ⟨last, hlast, hlt⟩
    have hge : last.version ≤ next.version :=
      Version.not_lt_iff_le.mp fun hgt => hnext ⟨last, hlast, hgt⟩
    exact hlt.trans_le hge

theorem waitingState_append_of_next (hkind : row.kind = .sql) (hle : version ≤ target)
    (hrow : find? version applied = none) (hfile : find? version available = some file) :
    waitingState (applied ++ [row]) version = waitingState applied version := by
  simp only [waitingState, belowMarker_append_singleton hkind]
  split
  · rfl
  · next hmarker =>
    simp only [belowLast_append_of_next havailable happlied hwaiting hsame hle hrow hfile hmarker]

theorem rowEntry_append_of_next (hkind : row.kind = .sql) :
    rowEntry available (applied ++ [row]) row = row := by
  obtain ⟨-, -, ⟨file, hfile⟩, hmarker, -⟩ := next_spec havailable happlied hwaiting
  have hcontains : contains row.version available = true := by
    rw [contains_eq_isSome, find?_congr hsame, hfile]
    rfl
  rw [rowEntry, if_neg, settled, if_pos hcontains]
  rwa [belowMarker_append_singleton hkind, belowMarker_congr hsame]

theorem entryAt?_append_of_same (hkind : row.kind = .sql)
    (hversion : version.same row.version = true) :
    entryAt? available (applied ++ [row]) version =
      (entryAt? available applied version).map (replacing row) := by
  obtain ⟨-, hnew, ⟨file, hfile⟩, hmarker, hlast⟩ := next_spec havailable happlied hwaiting
  have hnext := Version.same_trans hversion hsame
  rw [← find?_congr hnext] at hnew hfile
  rw [← belowMarker_congr hnext] at hmarker
  rw [← belowLast_congr hnext] at hlast
  have hfound : file.version.same row.version = true :=
    Version.same_trans (Version.same_symm (same_of_find?_eq_some hfile)) hversion
  rw [entryAt?_of_waiting hnew hfile hmarker hlast, entryAt?, find?_append_singleton, hnew]
  simp [hversion, replacing, hfound,
    rowEntry_append_of_next havailable happlied hwaiting hsame hkind]

theorem entryAt?_append_of_not_same (hkind : row.kind = .sql) (hle : version ≤ target)
    (hversion : version.same row.version = false) :
    entryAt? available (applied ++ [row]) version =
      (entryAt? available applied version).map (replacing row) := by
  have hother {record : Record} (hrecord : version.same record.version = true) :
      replacing row record = record := by
    rw [Version.same_congr_left hrecord] at hversion
    exact if_neg (by simp [hversion])
  rw [entryAt?, entryAt?, find?_append_of_not_same hversion]
  cases hrow : find? version applied with
  | some old =>
    have hold : version.same (rowEntry available applied old).version = true := by
      simpa using same_of_find?_eq_some hrow
    simp [rowEntry_append_singleton hkind, hother hold]
  | none =>
    rw [Option.map_map]
    refine Option.map_congr fun file hfile => ?_
    have hold : version.same (file.withoutExecution (waitingState applied version)).version =
        true := by
      simpa using same_of_find?_eq_some hfile
    rw [Function.comp_apply, hother hold, waitingState_append_of_next havailable happlied hwaiting
      hsame hkind hle hrow hfile]

/-- **One step, one version at a time.** -/
theorem entryAt?_append_of_next (hkind : row.kind = .sql) (hle : version ≤ target) :
    entryAt? available (applied ++ [row]) version =
      (entryAt? available applied version).map (replacing row) := by
  cases hversion : version.same row.version with
  | true => exact entryAt?_append_of_same havailable happlied hwaiting hsame hkind hversion
  | false => exact entryAt?_append_of_not_same havailable happlied hwaiting hsame hkind hle hversion

theorem recorded_append_of_next (hfinished : row.state = .success ∨ row.state = .failed) :
    Recorded (applied ++ [row]) := by
  obtain ⟨-, hnew, -, -, -⟩ := next_spec havailable happlied hwaiting
  exact recorded_append_singleton happlied ((find?_congr hsame applied).trans hnew) hfinished

theorem merge_append_of_next (hkind : row.kind = .sql)
    (hfinished : row.state = .success ∨ row.state = .failed) :
    merge available (applied ++ [row]) target =
      (merge available applied target).map (replacing row) := by
  have hrecorded := recorded_append_of_next havailable happlied hwaiting hsame hfinished
  refine ext (ascending_merge _ _ _)
    (ascending_map (same_replacing row) (ascending_merge _ _ _)) fun version => ?_
  rw [find?_map (same_replacing row), find?_merge havailable.distinct hrecorded,
    find?_merge havailable.distinct happlied]
  by_cases hle : version ≤ target
  · rw [if_pos hle, if_pos hle,
      entryAt?_append_of_next havailable happlied hwaiting hsame hkind hle]
  · simp [hle]

theorem pending_append_of_next (hkind : row.kind = .sql)
    (hfinished : row.state = .success ∨ row.state = .failed) :
    pending (merge available (applied ++ [row]) target) = waiting := by
  have hstate : row.state ≠ .pending := by
    rcases hfinished with h | h <;> simp [h]
  obtain ⟨hfirst, -⟩ := List.pairwise_cons.mp (ascending_waiting hwaiting)
  rw [merge_append_of_next havailable happlied hwaiting hsame hkind hfinished,
    pending_map_replacing hstate, hwaiting, List.filter_cons,
    if_neg (by simp [Version.same_symm hsame]), List.filter_eq_self]
  intro entry hentry
  rw [Version.same_congr_right hsame, Version.not_same_of_gt (hfirst entry hentry)]
  rfl

end Step

/-! ### A whole run -/

theorem finished_of_mem_rollout (hrun : Rollout waiting rows) (hrow : row ∈ rows) :
    row.state = .success ∨ row.state = .failed := by
  induction hrun with
  | done waiting => simp at hrow
  | ran hsame hkind hfinished hrest ih =>
    rcases List.mem_cons.mp hrow with rfl | hlater
    · exact hfinished
    · exact ih hlater

theorem mem_replacedBy (h : record ∈ replacedBy timeline rows) :
    record ∈ timeline ∨ record ∈ rows := by
  induction rows generalizing timeline with
  | nil => exact Or.inl h
  | cons row rows ih =>
    rcases ih h with hkept | hlater
    · rcases mem_map_replacing hkept with hold | rfl
      · exact Or.inl hold
      · exact Or.inr (List.mem_cons_self ..)
    · exact Or.inr (List.mem_cons_of_mem row hlater)

/-- Each step leaves the next one in the place of the first, so the rows replace one entry each and
what waits grows shorter from the front. -/
theorem merge_append_eq_replacedBy (havailable : Ascending available) (happlied : Recorded applied)
    (hrun : Rollout (pending (merge available applied target)) rows) :
    merge available (applied ++ rows) target = replacedBy (merge available applied target) rows ∧
      pending (merge available (applied ++ rows) target) =
        (pending (merge available applied target)).drop rows.length := by
  generalize hwaiting : pending (merge available applied target) = waiting at hrun
  induction hrun generalizing applied with
  | done waiting => simp [replacedBy, hwaiting]
  | @ran next row waiting rows hsame hkind hfinished hrest ih =>
    have hstep := merge_append_of_next havailable happlied hwaiting hsame hkind hfinished
    have hpending := pending_append_of_next havailable happlied hwaiting hsame hkind hfinished
    have hrecorded := recorded_append_of_next havailable happlied hwaiting hsame hfinished
    obtain ⟨hmerge, hrest⟩ := ih hrecorded hpending
    rw [List.append_assoc, List.singleton_append] at hmerge hrest
    rw [hmerge, hstep]
    refine ⟨rfl, ?_⟩
    rw [← hstep, ← hmerge, hrest, List.length_cons, List.drop_succ_cons]

/-- **Running what is pending, in order, changes nothing else.** After any number of steps the merge
is the one before with the new rows in the place of the entries that were run; exactly the later
ones are still pending, and every record is either a new row, as it was written, or was there
before. -/
theorem merge_append_of_rollout (havailable : Ascending available) (happlied : Recorded applied)
    (hrun : Rollout (pending (merge available applied target)) rows) :
    merge available (applied ++ rows) target = replacedBy (merge available applied target) rows ∧
      pending (merge available (applied ++ rows) target) =
        (pending (merge available applied target)).drop rows.length ∧
      ∀ record ∈ merge available (applied ++ rows) target,
        record ∈ merge available applied target ∨
          record ∈ rows ∧ (record.state = .success ∨ record.state = .failed) := by
  obtain ⟨hmerge, hpending⟩ := merge_append_eq_replacedBy havailable happlied hrun
  refine ⟨hmerge, hpending, fun record hrecord => ?_⟩
  rw [hmerge] at hrecord
  exact (mem_replacedBy hrecord).imp_right fun hrow => ⟨hrow, finished_of_mem_rollout hrun hrow⟩

/-- Files for 1 to 4 beside a ledger that holds 2 alone: 1 is ignored, and 3 and 4 are run, one of
them without success and the other under another spelling. -/
theorem merge_append_of_rollout_of_two :
    let available := [sampleFile [1], sampleFile [2], sampleFile [3], sampleFile [4]]
    let applied := [sampleRow .sql [2] true]
    let rows := [sampleRow .sql [3] false, sampleRow .sql [4, 0] true]
    Ascending available ∧ Recorded applied ∧
      Rollout (pending (merge available applied .latest)) rows ∧
      merge available (applied ++ rows) .latest =
        replacedBy (merge available applied .latest) rows ∧
      pending (merge available (applied ++ rows) .latest) =
        (pending (merge available applied .latest)).drop rows.length ∧
      ∀ record ∈ merge available (applied ++ rows) .latest,
        record ∈ merge available applied .latest ∨
          record ∈ rows ∧ (record.state = .success ∨ record.state = .failed) := by
  intro available applied rows
  have havailable : Ascending available := by decide
  have happlied : Recorded applied := ⟨by decide, by decide⟩
  have hpending : pending (merge available applied .latest) = [sampleFile [3], sampleFile [4]] := by
    decide
  have hrun : Rollout (pending (merge available applied .latest)) rows := by
    rw [hpending]
    exact .ran (by decide) rfl (by decide) (.ran (by decide) rfl (by decide) (.done []))
  exact ⟨havailable, happlied, hrun, merge_append_of_rollout havailable happlied hrun⟩

end MigrationStatus.Migration.Reconcile
