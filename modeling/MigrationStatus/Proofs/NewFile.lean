import MigrationStatus.Proofs.Standing
/-!
# One more file

A file that is added shows at its own position: a version that was run is no longer missing or of
the future, and one that was not run appears and waits. Beyond that the file counts only if it is
the newest one. It then moves the horizon, and what was run between the old horizon and the new one
was of the future and is missing now, although nothing has happened to it.

The marker takes precedence over all of this: what was run below it predates tracking, with a file
or without one.
-/

namespace MigrationStatus.Migration.Reconcile

open Timeline

/-- The version was run, is not at hand and does not lie below the marker, and the file is the first
one above it. -/
structure Overtaken (available applied : List Record) (file : Record) (version : Version) :
    Prop where
  run : contains version applied = true
  notAtHand : contains version available = false
  tracked : ¬ BelowMarker applied version
  above : ∀ newest, available.getLast? = some newest → newest.version < version
  below : version < file.version

variable {available applied : List Record} {row file : Record}
  {version target left right : Version}

theorem Overtaken.congr (h : left.same right = true)
    (hleft : Overtaken available applied file left) : Overtaken available applied file right where
  run := by
    rw [← contains_congr h]
    exact hleft.run
  notAtHand := by
    rw [← contains_congr h]
    exact hleft.notAtHand
  tracked := fun hmarker => hleft.tracked ((belowMarker_congr h).mpr hmarker)
  above := fun newest hnewest => (Version.lt_congr_right h).mp (hleft.above newest hnewest)
  below := (Version.lt_congr_left h).mp hleft.below

/-! ### Rows of which nothing is at hand

Where the file goes decides what becomes of them. Below the newest file it changes nothing; above
it, the rows between the two are overtaken.
-/

theorem stranded_of_above
    (habove : ∀ newest, available.getLast? = some newest → newest.version < row.version) :
    stranded available row =
      if row.version = .empty then row else row.reclassified (.future row.state.isFailed) := by
  unfold stranded
  split
  · next newest hnewest =>
    have hgt := habove newest hnewest
    have hbound : row.version ≠ .empty := fun h => Version.not_lt_empty _ (h ▸ hgt)
    rw [if_neg hgt.not_gt, if_neg hbound]
  · rfl

theorem stranded_insert_of_overtaken (havailable : Ascending available)
    (hovertaken : Overtaken available applied file row.version) :
    stranded (Timeline.insert file available) row =
      row.reclassified (.missing row.state.isFailed) := by
  have hlast : (Timeline.insert file available).getLast? = some file :=
    getLast?_insert_of_gt havailable fun newest hnewest =>
      (hovertaken.above newest hnewest).trans hovertaken.below
  simp [stranded, hlast, hovertaken.below]

theorem stranded_insert_of_not_overtaken (havailable : Ascending available)
    (hnew : contains file.version available = false)
    (hfile : contains row.version available = false)
    (hother : row.version.same file.version = false)
    (hgap : (∀ newest, available.getLast? = some newest → newest.version < row.version) →
      ¬ row.version < file.version) :
    stranded (Timeline.insert file available) row = stranded available row := by
  by_cases hlower : ∃ newest, available.getLast? = some newest ∧ file.version < newest.version
  · obtain ⟨newest, hnewest, hlt⟩ := hlower
    rw [stranded, stranded, getLast?_insert_of_lt hnewest hlt, hnewest]
  · have hupper (newest : Record) (hnewest : available.getLast? = some newest) :
        newest.version < file.version := by
      rcases lt_or_gt_of_getLast? hnew hnewest with hlt | hgt
      · exact absurd ⟨newest, hnewest, hlt⟩ hlower
      · exact hgt
    have hlast := getLast?_insert_of_gt havailable hupper
    rcases Version.lt_or_same_or_gt row.version file.version with hlt | hsame | hgt
    · -- The row lies below the new file, so it must lie below the newest one before it.
      obtain ⟨newest, hnewest, hnot⟩ : ∃ newest, available.getLast? = some newest ∧
          ¬ newest.version < row.version := by
        by_contra hnone
        push Not at hnone
        exact hgap hnone hlt
      have hbelow : row.version < newest.version :=
        (lt_or_gt_of_getLast? hfile hnewest).resolve_right hnot
      simp [stranded, hlast, hnewest, hlt, hbelow]
    · simp [hother] at hsame
    · have hbound : row.version ≠ .empty := fun h => Version.not_lt_empty _ (h ▸ hgt)
      rw [stranded_of_above fun newest hnewest => (hupper newest hnewest).trans hgt, if_neg hbound]
      simp [stranded, hlast, hgt.not_gt]

/-! ### The entries after one more file -/

section Insert

variable (havailable : Ascending available)

include havailable

theorem contains_insert (file : Record) (version : Version) :
    contains version (Timeline.insert file available) =
      (version.same file.version || contains version available) := by
  rw [contains_eq_isSome, contains_eq_isSome, find?_insert havailable]
  by_cases hsame : version.same file.version = true <;> simp [hsame]

theorem rowEntry_insert_of_not_overtaken (hnew : contains file.version available = false)
    (hrow : row ∈ applied) (hother : row.version.same file.version = false)
    (hovertaken : ¬ Overtaken available applied file row.version) :
    rowEntry (Timeline.insert file available) applied row = rowEntry available applied row := by
  unfold rowEntry
  split
  · rfl
  · next hmarker =>
    have hcontains : contains row.version (Timeline.insert file available) =
        contains row.version available := by
      rw [contains_insert havailable, hother, Bool.false_or]
    cases hfile : contains row.version available with
    | true => simp [settled, hcontains, hfile]
    | false =>
      rw [settled_of_not_at_hand (hcontains.trans hfile), settled_of_not_at_hand hfile]
      refine stranded_insert_of_not_overtaken havailable hnew hfile hother fun habove hbelow => ?_
      have hrun : contains row.version applied = true :=
        List.any_eq_true.mpr ⟨row, hrow, Version.same_self _⟩
      exact hovertaken ⟨hrun, hfile, hmarker, habove, hbelow⟩

theorem entryAt?_insert_of_not_overtaken (hnew : contains file.version available = false)
    (hother : version.same file.version = false)
    (hovertaken : ¬ Overtaken available applied file version) :
    entryAt? (Timeline.insert file available) applied version =
      entryAt? available applied version := by
  rw [entryAt?, entryAt?, find?_insert havailable, if_neg (by simp [hother])]
  cases hrow : find? version applied with
  | none => rfl
  | some row =>
    have hsame := same_of_find?_eq_some hrow
    dsimp only
    rw [rowEntry_insert_of_not_overtaken havailable hnew (mem_of_find?_eq_some hrow)
      ((Version.same_congr_left hsame _).symm.trans hother)
      fun h => hovertaken (h.congr (Version.same_symm hsame))]

theorem find?_merge_insert_of_not_overtaken (happlied : Recorded applied)
    (hnew : contains file.version available = false) (hother : version.same file.version = false)
    (hovertaken : ¬ Overtaken available applied file version) :
    find? version (merge (Timeline.insert file available) applied target) =
      find? version (merge available applied target) := by
  rw [find?_merge (ascending_insert havailable file).distinct happlied,
    find?_merge havailable.distinct happlied,
    entryAt?_insert_of_not_overtaken havailable hnew hother hovertaken]

end Insert

/-! ### Rows with a file and rows without one -/

theorem find?_merge_of_at_hand (havailable : Ascending available) (happlied : Recorded applied)
    (hrow : row ∈ applied) (hfile : contains row.version available = true)
    (hle : row.version ≤ target) :
    find? row.version (merge available applied target) =
      some (if BelowMarker applied row.version then row.withoutExecution .preInit else row) := by
  rw [find?_merge havailable.distinct happlied, if_pos hle,
    entryAt?_of_mem_applied happlied.distinct hrow, rowEntry, settled, if_pos hfile]

theorem find?_merge_of_not_at_hand (havailable : Ascending available) (happlied : Recorded applied)
    (hrow : row ∈ applied) (hfile : contains row.version available = false)
    (hle : row.version ≤ target) :
    find? row.version (merge available applied target) =
      some (if BelowMarker applied row.version then row.withoutExecution .preInit
        else stranded available row) := by
  rw [find?_merge havailable.distinct happlied, if_pos hle,
    entryAt?_of_mem_applied happlied.distinct hrow, rowEntry, settled_of_not_at_hand hfile]

/-- **The effect of one more file.** Away from its own position only rows that it overtakes change:
they were of the future and are missing now. At its own position a row gets its recorded state,
unless it predates tracking, and without a row the file itself appears. -/
theorem effect_of_file (havailable : Ascending available) (happlied : Recorded applied)
    (hnew : contains file.version available = false) (target : Version) :
    (∀ version, version.same file.version = false → ¬ Overtaken available applied file version →
      find? version (merge (Timeline.insert file available) applied target) =
        find? version (merge available applied target)) ∧
    (∀ row ∈ applied, Overtaken available applied file row.version → row.version ≤ target →
      find? row.version (merge available applied target) =
        some (if row.version = .empty then row
          else row.reclassified (.future row.state.isFailed)) ∧
      find? row.version (merge (Timeline.insert file available) applied target) =
        some (row.reclassified (.missing row.state.isFailed))) ∧
    (∀ row ∈ applied, row.version.same file.version = true → row.version ≤ target →
      find? row.version (merge available applied target) =
        some (if BelowMarker applied row.version then row.withoutExecution .preInit
          else stranded available row) ∧
      find? row.version (merge (Timeline.insert file available) applied target) =
        some (if BelowMarker applied row.version then row.withoutExecution .preInit else row)) ∧
    (contains file.version applied = false → file.version ≤ target →
      find? file.version (merge available applied target) = none ∧
      find? file.version (merge (Timeline.insert file available) applied target) =
        some (file.withoutExecution
          (if BelowMarker applied file.version then .preInit
            else if BelowLast applied file.version then .ignored
            else .pending))) := by
  have hinserted : Ascending (Timeline.insert file available) := ascending_insert havailable file
  refine ⟨?_, ?_, ?_, ?_⟩
  · intro version hother hovertaken
    exact find?_merge_insert_of_not_overtaken havailable happlied hnew hother hovertaken
  · intro row hrow hovertaken hle
    have hfile : contains row.version (Timeline.insert file available) = false := by
      rw [contains_insert havailable, Version.not_same_of_lt hovertaken.below,
        hovertaken.notAtHand, Bool.or_false]
    rw [find?_merge_of_not_at_hand havailable happlied hrow hovertaken.notAtHand hle,
      find?_merge_of_not_at_hand hinserted happlied hrow hfile hle, if_neg hovertaken.tracked,
      if_neg hovertaken.tracked, stranded_of_above hovertaken.above,
      stranded_insert_of_overtaken havailable hovertaken]
    exact ⟨rfl, rfl⟩
  · intro row hrow hsame hle
    have hbefore : contains row.version available = false := by
      rw [contains_congr hsame, hnew]
    have hafter : contains row.version (Timeline.insert file available) = true := by
      rw [contains_insert havailable, hsame, Bool.true_or]
    exact ⟨find?_merge_of_not_at_hand havailable happlied hrow hbefore hle,
      find?_merge_of_at_hand hinserted happlied hrow hafter hle⟩
  · intro hrow hle
    rw [find?_merge havailable.distinct happlied, find?_merge hinserted.distinct happlied,
      if_pos hle, if_pos hle, entryAt?, entryAt?, contains_eq_false_iff.mp hrow,
      contains_eq_false_iff.mp hnew, find?_insert havailable, if_pos (Version.same_self _)]
    exact ⟨rfl, rfl⟩

/-- With a file for 5, the failed run of 3 is missing and no longer of the future. The file itself
is pending. -/
theorem effect_of_newest_file :
    let available := [sampleFile [1]]
    let applied := [sampleRow .init [1] true, sampleRow .sql [3] false]
    Ascending available ∧ Recorded applied ∧ contains (.ofParts [5]) available = false ∧
      Overtaken available applied (sampleFile [5]) (.ofParts [3]) ∧
      find? (.ofParts [3]) (merge available applied .latest) =
        some ((sampleRow .sql [3] false).reclassified .futureFailed) ∧
      find? (.ofParts [3]) (merge (Timeline.insert (sampleFile [5]) available) applied .latest) =
        some ((sampleRow .sql [3] false).reclassified .missingFailed) ∧
      find? (.ofParts [5]) (merge (Timeline.insert (sampleFile [5]) available) applied .latest) =
        some (sampleFile [5]) := by
  intro available applied
  have havailable : Ascending available := by decide
  have happlied : Recorded applied := ⟨by decide, by decide⟩
  have hnew : contains (sampleFile [5]).version available = false := by decide
  have habove (newest : Record) (hnewest : available.getLast? = some newest) :
      newest.version < .ofParts [3] := by
    cases hnewest
    decide
  have hovertaken : Overtaken available applied (sampleFile [5]) (.ofParts [3]) :=
    ⟨by decide, by decide, by decide, habove, by decide⟩
  obtain ⟨-, hrows, -, hself⟩ := effect_of_file havailable happlied hnew .latest
  obtain ⟨hbefore, hafter⟩ :=
    hrows (sampleRow .sql [3] false) (by simp [applied]) hovertaken (by decide)
  exact ⟨havailable, happlied, hnew, hovertaken, hbefore, hafter,
    (hself (by decide) (by decide)).2⟩

/-- A row below the marker gets no recorded state from its file, and a row at the lower bound of all
versions is not of the future without any file. -/
theorem exceptions_of_new_file :
    let available := [sampleFile [3]]
    let predating := sampleRow .sql [1] true
    let applied := [sampleRow .init [2] true, predating]
    let lowest : Record := .applied .empty "step" .sql .startOf2024 ⟨7⟩ true
    (Ascending available ∧ Recorded applied ∧ contains predating.version available = false ∧
      predating.version.same (sampleFile [1]).version = true ∧
      ∃ entry, entry.state = .preInit ∧
        find? predating.version (merge available applied .latest) = some entry ∧
        find? predating.version
          (merge (Timeline.insert (sampleFile [1]) available) applied .latest) = some entry) ∧
    Recorded [lowest] ∧ Overtaken [] [lowest] (sampleFile [1]) lowest.version ∧
      merge [] [lowest] .latest = [lowest] ∧ lowest.state ≠ .future lowest.state.isFailed := by
  intro available predating applied lowest
  have hpredating : Recorded applied := ⟨by decide, by decide⟩
  have hlowest : Recorded [lowest] := ⟨by decide, by decide⟩
  have hovertaken : Overtaken [] [lowest] (sampleFile [1]) lowest.version :=
    ⟨by decide, by decide, by decide, by simp, by decide⟩
  refine ⟨⟨by decide, hpredating, by decide, by decide, ?_⟩, hlowest, hovertaken, by decide,
    by decide⟩
  exact ⟨predating.withoutExecution .preInit, rfl, by decide, by decide⟩

end MigrationStatus.Migration.Reconcile
