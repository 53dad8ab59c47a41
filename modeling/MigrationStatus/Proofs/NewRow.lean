import MigrationStatus.Proofs.Rollout
import MigrationStatus.Proofs.Standing
/-!
# One more row

A row that is added to the ledger shows at its own position, and it moves the boundary below which
files count as passed over. The boundary can move either way: after a row of a high version more
files are ignored, and after an old version that was run late some of them are pending again. It
decides about nothing but files that no row and no marker have decided about, so every other entry
stays as it was.

A row of which nothing is at hand is missing or of the future, with one exception. The horizon of no
files at all is the lower bound of all versions, and a row written at that very bound lies neither
below it nor above: it keeps the state in which it ran.
-/

namespace MigrationStatus.Migration.Reconcile

open Timeline

/-- The version is at hand, was not run and does not lie below the marker: how it stands is decided
by the last row alone. -/
structure Awaiting (available applied : List Record) (version : Version) : Prop where
  atHand : contains version available = true
  notRun : contains version applied = false
  tracked : ¬ BelowMarker applied version

/-- How a row shows at its own position. -/
def arriving (available applied : List Record) (row : Record) : Record :=
  if BelowMarker applied row.version then row.withoutExecution .preInit
  else if contains row.version available then row
  else stranded available row

variable {available applied : List Record} {row file entry : Record} {version target : Version}

theorem rowEntry_eq_arriving (available applied : List Record) (row : Record) :
    rowEntry available applied row = arriving available applied row := by
  unfold rowEntry arriving
  split
  · rfl
  · cases hfile : contains row.version available with
    | true => simp [settled, hfile]
    | false => simp [settled_of_not_at_hand hfile]

/-! ### The entries after one more row

A plain migration is no marker, so the baseline stays where it was even if this is the first row.
-/

section Append

variable (hkind : row.kind = .sql)

include hkind

theorem waitingState_append_singleton (version : Version) :
    waitingState (applied ++ [row]) version =
      if BelowMarker applied version then .preInit
      else if version < row.version then .ignored
      else .pending := by
  simp only [waitingState, belowMarker_append_singleton hkind, belowLast_append_singleton]

theorem entryAt?_append_self (hnew : find? row.version applied = none) :
    entryAt? available (applied ++ [row]) row.version = some (arriving available applied row) := by
  rw [entryAt?, find?_append_singleton, hnew, ← rowEntry_eq_arriving,
    ← rowEntry_append_singleton hkind]
  simp

theorem entryAt?_append_of_awaiting (hother : version.same row.version = false)
    (hawaiting : Awaiting available applied version) :
    entryAt? available (applied ++ [row]) version =
      (find? version available).map
        (·.withoutExecution (if version < row.version then .ignored else .pending)) := by
  have hnone := contains_eq_false_iff.mp hawaiting.notRun
  rw [entryAt?, find?_append_of_not_same hother, hnone, waitingState_append_singleton hkind,
    if_neg hawaiting.tracked]

theorem entryAt?_append_of_not_awaiting (hother : version.same row.version = false)
    (hawaiting : ¬ Awaiting available applied version) :
    entryAt? available (applied ++ [row]) version = entryAt? available applied version := by
  rw [entryAt?, entryAt?, find?_append_of_not_same hother]
  cases hrow : find? version applied with
  | some old => simp only [rowEntry_append_singleton hkind]
  | none =>
    cases hfile : find? version available with
    | none => rfl
    | some file =>
      have hmarker : BelowMarker applied version := by
        by_contra hmarker
        have hcontains : contains version available = true := by simp [contains_eq_isSome, hfile]
        exact hawaiting ⟨hcontains, contains_eq_false_iff.mpr hrow, hmarker⟩
      rw [waitingState_append_singleton hkind, waitingState, if_pos hmarker, if_pos hmarker]

end Append

/-! ### The effect on the merge -/

section Effect

variable (havailable : Ascending available) (happlied : Recorded applied)

include havailable happlied

theorem find?_merge_of_awaiting (hfile : file ∈ available)
    (hawaiting : Awaiting available applied file.version) (hle : file.version ≤ target) :
    find? file.version (merge available applied target) =
      some (file.withoutExecution
        (if BelowLast applied file.version then .ignored else .pending)) := by
  rw [find?_merge havailable.distinct happlied, if_pos hle,
    entryAt?_of_mem_available havailable.distinct hfile hawaiting.notRun, waitingState,
    if_neg hawaiting.tracked]

/-- What predates tracking does not wait for the last row. -/
theorem not_awaiting_of_preInit (hentry : entry ∈ merge available applied target)
    (hstate : entry.state = .preInit) : ¬ Awaiting available applied entry.version := by
  intro hawaiting
  obtain ⟨-, hfound⟩ := (mem_merge_iff havailable.distinct happlied).mp hentry
  rw [entryAt?, contains_eq_false_iff.mp hawaiting.notRun] at hfound
  obtain ⟨file, -, hrecord⟩ := Option.map_eq_some_iff.mp hfound
  have hwaiting : waitingState applied entry.version = .preInit :=
    (congrArg Record.state hrecord).trans hstate
  rw [waitingState, if_neg hawaiting.tracked] at hwaiting
  split at hwaiting <;> cases hwaiting

variable (hkind : row.kind = .sql) (hrecorded : Recorded (applied ++ [row]))

include hkind hrecorded

theorem find?_merge_append_of_not_awaiting (hother : version.same row.version = false)
    (hawaiting : ¬ Awaiting available applied version) :
    find? version (merge available (applied ++ [row]) target) =
      find? version (merge available applied target) := by
  rw [find?_merge havailable.distinct hrecorded, find?_merge havailable.distinct happlied,
    entryAt?_append_of_not_awaiting hkind hother hawaiting]

omit happlied in
theorem find?_merge_append_of_awaiting (hfile : file ∈ available)
    (hother : file.version.same row.version = false)
    (hawaiting : Awaiting available applied file.version) (hle : file.version ≤ target) :
    find? file.version (merge available (applied ++ [row]) target) =
      some (file.withoutExecution
        (if file.version < row.version then .ignored else .pending)) := by
  rw [find?_merge havailable.distinct hrecorded, if_pos hle,
    entryAt?_append_of_awaiting hkind hother hawaiting,
    find?_of_mem havailable.distinct hfile (Version.same_self _), Option.map_some]

theorem find?_merge_append_of_run (hrun : contains version applied = true) :
    find? version (merge available (applied ++ [row]) target) =
      find? version (merge available applied target) := by
  have hother : version.same row.version = false := by
    obtain ⟨old, hold, hsame⟩ := List.any_eq_true.mp hrun
    rw [Version.same_congr_left hsame]
    exact (List.pairwise_append.mp hrecorded.distinct).2.2 old hold row (by simp)
  apply find?_merge_append_of_not_awaiting havailable happlied hkind hrecorded hother
  intro hawaiting
  cases hawaiting.notRun.symm.trans hrun

theorem mem_merge_append_iff_of_preInit (hstate : entry.state = .preInit)
    (hother : entry.version.same row.version = false) :
    entry ∈ merge available (applied ++ [row]) target ↔
      entry ∈ merge available applied target := by
  by_cases hawaiting : Awaiting available applied entry.version
  · have happended : Awaiting available (applied ++ [row]) entry.version := {
      atHand := hawaiting.atHand
      notRun := by simpa [contains, hother] using hawaiting.notRun
      tracked := mt (belowMarker_append_singleton hkind).mp hawaiting.tracked }
    apply iff_of_false
    · intro hafter
      exact not_awaiting_of_preInit havailable hrecorded hafter hstate happended
    · intro hbefore
      exact not_awaiting_of_preInit havailable happlied hbefore hstate hawaiting
  · rw [mem_iff_find?_eq_some (ascending_merge _ _ _),
      mem_iff_find?_eq_some (ascending_merge _ _ _),
      find?_merge_append_of_not_awaiting havailable happlied hkind hrecorded hother hawaiting]

end Effect

/-- **The effect of one more row.** Away from its own position only files that wait for the last row
change: they are ignored below the new row and pending above it, whatever they were before. What was
run and what predates tracking stays as it was. At its own position the row shows by the marker, by
what is at hand, and by how it lies to the newest file. -/
theorem effect_of_row (havailable : Ascending available) (happlied : Recorded applied)
    (hkind : row.kind = .sql) (hfinished : row.state = .success ∨ row.state = .failed)
    (hnew : contains row.version applied = false) (target : Version) :
    (∀ version, version.same row.version = false → ¬ Awaiting available applied version →
      find? version (merge available (applied ++ [row]) target) =
        find? version (merge available applied target)) ∧
    (∀ file ∈ available, Awaiting available applied file.version →
      file.version.same row.version = false → file.version ≤ target →
        find? file.version (merge available applied target) =
          some (file.withoutExecution
            (if BelowLast applied file.version then .ignored else .pending)) ∧
        find? file.version (merge available (applied ++ [row]) target) =
          some (file.withoutExecution
            (if file.version < row.version then .ignored else .pending))) ∧
    (∀ version, contains version applied = true →
      find? version (merge available (applied ++ [row]) target) =
        find? version (merge available applied target)) ∧
    (∀ entry, entry.state = .preInit → entry.version.same row.version = false →
      (entry ∈ merge available (applied ++ [row]) target ↔
        entry ∈ merge available applied target)) ∧
    find? row.version (merge available (applied ++ [row]) target) =
      if row.version ≤ target then some (arriving available applied row) else none := by
  have hnone := contains_eq_false_iff.mp hnew
  have hrecorded : Recorded (applied ++ [row]) :=
    recorded_append_singleton happlied hnone hfinished
  refine ⟨?_, ?_, ?_, ?_, ?_⟩
  · intro version hother hawaiting
    exact find?_merge_append_of_not_awaiting havailable happlied hkind hrecorded hother hawaiting
  · intro file hfile hawaiting hother hle
    exact ⟨find?_merge_of_awaiting havailable happlied hfile hawaiting hle,
      find?_merge_append_of_awaiting havailable hkind hrecorded hfile hother hawaiting hle⟩
  · intro version hrun
    exact find?_merge_append_of_run havailable happlied hkind hrecorded hrun
  · intro entry hstate hother
    exact mem_merge_append_iff_of_preInit havailable happlied hkind hrecorded hstate hother
  · rw [find?_merge havailable.distinct hrecorded, entryAt?_append_self hkind hnone]

/-- Version 3 is run late, after 6, and fails. The file of 4, which had been passed over, is pending
again. -/
theorem effect_of_late_row :
    let available := [sampleFile [1], sampleFile [2], sampleFile [4]]
    let applied := [sampleRow .init [2] true, sampleRow .sql [6] true]
    let row := sampleRow .sql [3] false
    Ascending available ∧ Recorded applied ∧ row.kind = .sql ∧
      (row.state = .success ∨ row.state = .failed) ∧ contains row.version applied = false ∧
      Awaiting available applied (.ofParts [4]) ∧
      find? (.ofParts [4]) (merge available applied .latest) =
        some ((sampleFile [4]).withoutExecution .ignored) ∧
      find? (.ofParts [4]) (merge available (applied ++ [row]) .latest) =
        some ((sampleFile [4]).withoutExecution .pending) ∧
      find? (.ofParts [3]) (merge available (applied ++ [row]) .latest) =
        some (row.reclassified .missingFailed) := by
  intro available applied row
  have havailable : Ascending available := by decide
  have happlied : Recorded applied := ⟨by decide, by decide⟩
  have hfinished : row.state = .success ∨ row.state = .failed := by decide
  have hnew : contains row.version applied = false := by decide
  have hawaiting : Awaiting available applied (.ofParts [4]) :=
    ⟨by decide, by decide, by decide⟩
  obtain ⟨-, hboundary, -, -, hself⟩ :=
    effect_of_row havailable happlied rfl hfinished hnew .latest
  obtain ⟨hbefore, hafter⟩ :=
    hboundary (sampleFile [4]) (by simp [available]) hawaiting (by decide) (by decide)
  exact ⟨havailable, happlied, rfl, hfinished, hnew, hawaiting, hbefore, hafter, hself⟩

/-- With nothing at hand, a row at the lower bound of all versions is neither missing nor of the
future. A row below the marker takes the place of the entry that its file had there. -/
theorem exceptions_of_new_row :
    let lowest : Record := .applied .empty "step" .sql .startOf2024 ⟨7⟩ true
    let file := sampleFile [1]
    let predating := sampleRow .sql [1] true
    let applied := [sampleRow .init [2] true]
    (Recorded [] ∧ contains lowest.version [] = false ∧ ¬ BelowMarker [] lowest.version ∧
      merge [] ([] ++ [lowest]) .latest = [lowest] ∧
      lowest.state ≠ .missing lowest.state.isFailed ∧
      lowest.state ≠ .future lowest.state.isFailed) ∧
    Recorded applied ∧ contains predating.version applied = false ∧
      file.withoutExecution .preInit ∈ merge [file] applied .latest ∧
      file.withoutExecution .preInit ∉ merge [file] (applied ++ [predating]) .latest := by
  intro lowest file predating applied
  have hempty : Recorded [] := ⟨by decide, by decide⟩
  have hmarker : Recorded applied := ⟨by decide, by decide⟩
  exact ⟨⟨hempty, by decide, by decide, by decide, by decide, by decide⟩, hmarker, by decide,
    by decide, by decide⟩

end MigrationStatus.Migration.Reconcile
