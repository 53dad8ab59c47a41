import MigrationStatus.Proofs.Entry
/-!
# The rules of the merge

`Standing` states the rules by which a record of the merged list comes about, each rule as one
constructor and in terms of the two lists that were read: which file and which row there are for the
version, whether the ledger opens with a marker above it, and how it lies to the last row and to the
newest file. The merge is then the ascending list of all records that stand by one of the rules and
lie within the target.
-/

namespace MigrationStatus.Migration.Reconcile

open Timeline

variable (available applied : List Record)

/-- The record stands in the merged list by one of the rules. -/
inductive Standing : Record → Prop
  | predatingRow {row : Record} (hrow : row ∈ applied)
      (hmarker : BelowMarker applied row.version) : Standing (row.withoutExecution .preInit)
  | predatingFile {file : Record} (hfile : file ∈ available)
      (hrow : contains file.version applied = false)
      (hmarker : BelowMarker applied file.version) : Standing (file.withoutExecution .preInit)
  | ran {row : Record} (hrow : row ∈ applied) (hmarker : ¬ BelowMarker applied row.version)
      (hfile : contains row.version available = true) : Standing row
  | missing {row newest : Record} (hrow : row ∈ applied)
      (hmarker : ¬ BelowMarker applied row.version)
      (hfile : contains row.version available = false)
      (hnewest : available.getLast? = some newest) (hlt : row.version < newest.version) :
      Standing (row.reclassified (.missing row.state.isFailed))
  -- Without any file there is no newest one, and every row is of the future.
  | future {row : Record} (hrow : row ∈ applied) (hmarker : ¬ BelowMarker applied row.version)
      (hfile : contains row.version available = false)
      (hnewest : ∀ newest, available.getLast? = some newest → newest.version < row.version) :
      Standing (row.reclassified (.future row.state.isFailed))
  | ignored {file : Record} (hfile : file ∈ available)
      (hrow : contains file.version applied = false)
      (hmarker : ¬ BelowMarker applied file.version) (hlast : BelowLast applied file.version) :
      Standing (file.withoutExecution .ignored)
  | pending {file : Record} (hfile : file ∈ available)
      (hrow : contains file.version applied = false)
      (hmarker : ¬ BelowMarker applied file.version) (hlast : ¬ BelowLast applied file.version) :
      Standing (file.withoutExecution .pending)

variable {available applied} {row file record : Record} {version : Version}

/-! ### The entry of a version stands by a rule -/

theorem unavailableState_of_lt {newest : Record} (hnewest : available.getLast? = some newest)
    (hlt : row.version < newest.version) :
    unavailableState (horizon available) row = .missing row.state.isFailed := by
  have hcompare : compare row.version (horizon available) = .lt := by
    rw [horizon, hnewest]
    exact Version.lt_iff_compare.mp hlt
  simp [unavailableState, hcompare]

theorem unavailableState_of_gt (hbound : row.version ≠ .empty)
    (hnewest : ∀ newest, available.getLast? = some newest → newest.version < row.version) :
    unavailableState (horizon available) row = .future row.state.isFailed := by
  have hlt : horizon available < row.version := by
    cases hlast : available.getLast? with
    | none => simpa [horizon, hlast] using Version.empty_lt hbound
    | some newest => simpa [horizon, hlast] using hnewest newest hlast
  simp [unavailableState, Std.OrientedCmp.gt_of_lt hlt]

/-- A version that none of the records has does not stand at the position of the last one. -/
theorem lt_or_gt_of_getLast? {records : List Record} {last : Record}
    (hnew : contains version records = false) (hlast : records.getLast? = some last) :
    version < last.version ∨ last.version < version := by
  rcases Version.lt_or_same_or_gt version last.version with hlt | hsame | hgt
  · exact .inl hlt
  · have hcontains : contains version records = true :=
      List.any_eq_true.mpr ⟨last, List.mem_of_getLast? hlast, hsame⟩
    cases hnew.symm.trans hcontains
  · exact .inr hgt

/-- A row of which nothing is at hand: missing below the newest file, and of the future above it.
Without any file every row is of the future, except that one at the lower bound of all versions lies
above nothing and keeps its state. -/
def stranded (available : List Record) (row : Record) : Record :=
  match available.getLast? with
  | some newest =>
    if row.version < newest.version then row.reclassified (.missing row.state.isFailed)
    else row.reclassified (.future row.state.isFailed)
  | none =>
    if row.version = .empty then row else row.reclassified (.future row.state.isFailed)

theorem settled_of_not_at_hand (hfile : contains row.version available = false) :
    settled available row = stranded available row := by
  rw [settled, if_neg (by simp [hfile]), stranded]
  cases hnewest : available.getLast? with
  | none =>
    by_cases hbound : row.version = .empty
    · have hkept : unavailableState (horizon available) row = row.state := by
        rw [unavailableState, horizon, hnewest, hbound]
        rfl
      dsimp only
      rw [hkept, if_pos hbound]
      rfl
    · rw [unavailableState_of_gt hbound (by simp [hnewest])]
      simp [hbound]
  | some newest =>
    rcases lt_or_gt_of_getLast? hfile hnewest with hlt | hgt
    · rw [unavailableState_of_lt hnewest hlt]
      simp [hlt]
    · have hbound : row.version ≠ .empty := fun h => Version.not_lt_empty _ (h ▸ hgt)
      rw [unavailableState_of_gt hbound (by simp [hnewest, hgt])]
      simp [hgt.not_gt]

theorem standing_settled (hbound : row.version ≠ .empty) (hrow : row ∈ applied)
    (hmarker : ¬ BelowMarker applied row.version) :
    Standing available applied (settled available row) := by
  unfold settled
  split
  · next hfile => exact .ran hrow hmarker hfile
  · next hfile =>
    rw [Bool.not_eq_true] at hfile
    by_cases hlower : ∃ newest, available.getLast? = some newest ∧ row.version < newest.version
    · obtain ⟨newest, hnewest, hlt⟩ := hlower
      rw [unavailableState_of_lt hnewest hlt]
      exact .missing hrow hmarker hfile hnewest hlt
    · have hupper : ∀ newest, available.getLast? = some newest →
          newest.version < row.version := by
        intro newest hnewest
        rcases lt_or_gt_of_getLast? hfile hnewest with hlt | hgt
        · exact absurd ⟨newest, hnewest, hlt⟩ hlower
        · exact hgt
      rw [unavailableState_of_gt hbound hupper]
      exact .future hrow hmarker hfile hupper

theorem contains_eq_false_iff {records : List Record} :
    contains version records = false ↔ find? version records = none := by
  rw [contains_eq_isSome, Option.isSome_eq_false_iff, Option.isNone_iff_eq_none]

theorem standing_of_entryAt? (hbound : ∀ row ∈ applied, row.version ≠ .empty)
    (h : entryAt? available applied version = some record) :
    Standing available applied record := by
  unfold entryAt? at h
  split at h
  · next row hfind =>
    cases h
    have hrow := mem_of_find?_eq_some hfind
    unfold rowEntry
    split
    · next hmarker => exact .predatingRow hrow hmarker
    · next hmarker => exact standing_settled (hbound row hrow) hrow hmarker
  · next hnone =>
    obtain ⟨file, hfind, rfl⟩ := Option.map_eq_some_iff.mp h
    have hfile := mem_of_find?_eq_some hfind
    have hsame := same_of_find?_eq_some hfind
    have hrow : contains file.version applied = false := by
      rw [contains_eq_false_iff, ← find?_congr hsame applied]
      exact hnone
    rw [waitingState_congr hsame]
    unfold waitingState
    split
    · next hmarker => exact .predatingFile hfile hrow hmarker
    · next hmarker =>
      split
      · next hlast => exact .ignored hfile hrow hmarker hlast
      · next hlast => exact .pending hfile hrow hmarker hlast

/-! ### What stands by a rule is the entry of its version -/

theorem entryAt?_of_mem_applied (happlied : Distinct applied) (hrow : row ∈ applied) :
    entryAt? available applied row.version = some (rowEntry available applied row) := by
  simp [entryAt?, find?_of_mem happlied hrow (Version.same_self _)]

theorem entryAt?_of_mem_available (havailable : Distinct available) (hfile : file ∈ available)
    (hrow : contains file.version applied = false) :
    entryAt? available applied file.version =
      some (file.withoutExecution (waitingState applied file.version)) := by
  rw [contains_eq_false_iff] at hrow
  simp [entryAt?, hrow, find?_of_mem havailable hfile (Version.same_self _)]

theorem entryAt?_of_standing (havailable : Distinct available) (happlied : Distinct applied)
    (hbound : ∀ row ∈ applied, row.version ≠ .empty) (h : Standing available applied record) :
    entryAt? available applied record.version = some record := by
  cases h with
  | predatingRow hrow hmarker =>
    simp [entryAt?_of_mem_applied happlied hrow, rowEntry, hmarker]
  | predatingFile hfile hrow hmarker =>
    simp [entryAt?_of_mem_available havailable hfile hrow, waitingState, hmarker]
  | ran hrow hmarker hfile =>
    simp [entryAt?_of_mem_applied happlied hrow, rowEntry, hmarker, settled, hfile]
  | missing hrow hmarker hfile hnewest hlt =>
    simp [entryAt?_of_mem_applied happlied hrow, rowEntry, hmarker, settled, hfile,
      unavailableState_of_lt hnewest hlt]
  | future hrow hmarker hfile hnewest =>
    simp [entryAt?_of_mem_applied happlied hrow, rowEntry, hmarker, settled, hfile,
      unavailableState_of_gt (hbound _ hrow) hnewest]
  | ignored hfile hrow hmarker hlast =>
    simp [entryAt?_of_mem_available havailable hfile hrow, waitingState, hmarker, hlast]
  | pending hfile hrow hmarker hlast =>
    simp [entryAt?_of_mem_available havailable hfile hrow, waitingState, hmarker, hlast]

theorem isSome_entryAt? (available applied : List Record) (version : Version) :
    (entryAt? available applied version).isSome =
      (contains version available || contains version applied) := by
  rw [entryAt?, contains_eq_isSome, contains_eq_isSome]
  cases find? version applied <;> simp

/-- **The merge by its rules.** The merged list ascends, its records are those that stand by a rule
and lie within the target, and it has one for each version within the target that either list
has. -/
theorem merge_eq_standing (havailable : Ascending available) (happlied : Recorded applied)
    (hbound : ∀ row ∈ applied, row.version ≠ .empty) (target : Version) :
    Ascending (merge available applied target) ∧
      (∀ record, record ∈ merge available applied target ↔
        record.version ≤ target ∧ Standing available applied record) ∧
      ∀ version, contains version (merge available applied target) = true ↔
        version ≤ target ∧
          (contains version available = true ∨ contains version applied = true) := by
  refine ⟨ascending_merge available applied target, fun record => ?_, fun version => ?_⟩
  · rw [mem_merge_iff havailable.distinct happlied]
    exact and_congr_right fun _ => ⟨standing_of_entryAt? hbound,
      entryAt?_of_standing havailable.distinct happlied.distinct hbound⟩
  · rw [contains_eq_isSome, find?_merge havailable.distinct happlied]
    by_cases hle : version ≤ target
    · rw [if_pos hle, isSome_entryAt?, Bool.or_eq_true]
      exact (and_iff_right hle).symm
    · simp [hle]

/-- Files for 1, 2 and 4 beside a ledger that opened at 2, then ran 3 without success, and 5: five
of the seven rules at once. -/
theorem merge_eq_standing_mixed :
    let available := [sampleFile [1], sampleFile [2], sampleFile [4]]
    let applied := [sampleRow .init [2] true, sampleRow .sql [3] false, sampleRow .sql [5] true]
    Ascending available ∧ Recorded applied ∧ (∀ row ∈ applied, row.version ≠ .empty) ∧
      Ascending (merge available applied .latest) ∧
      (∀ record, record ∈ merge available applied .latest ↔
        record.version ≤ .latest ∧ Standing available applied record) ∧
      ∀ version, contains version (merge available applied .latest) = true ↔
        version ≤ .latest ∧
          (contains version available = true ∨ contains version applied = true) := by
  have havailable : Ascending [sampleFile [1], sampleFile [2], sampleFile [4]] := by decide
  have happlied : Recorded
      [sampleRow .init [2] true, sampleRow .sql [3] false, sampleRow .sql [5] true] :=
    ⟨by decide, by decide⟩
  have hbound : ∀ row ∈ [sampleRow .init [2] true, sampleRow .sql [3] false,
      sampleRow .sql [5] true], row.version ≠ .empty := by decide
  exact ⟨havailable, happlied, hbound, merge_eq_standing havailable happlied hbound .latest⟩

end MigrationStatus.Migration.Reconcile
