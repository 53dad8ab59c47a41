import MigrationStatus.Migration.Reconcile
import MigrationStatus.Proofs.TimelineLookup
/-!
# The entry of one version

The four passes of the merge override each other, and they go by two orders: the first three read
the versions in ascending order, the last one the order in which the rows were written. Seen one
version at a time they collapse. `entryAt?` says what becomes of a version from the file and the row
that exist for it, the marker that opens the ledger, the last row and the newest file, and
`find?_merge` says that this is what the merge shows.
-/

namespace MigrationStatus.Migration.Reconcile

open Timeline

/-- What a ledger promises of its rows: no version was run twice, and every run came to its end. -/
structure Recorded (applied : List Record) : Prop where
  distinct : Distinct applied
  finished : ∀ row ∈ applied, row.state = .success ∨ row.state = .failed

def BelowMarker (applied : List Record) (version : Version) : Prop :=
  ∃ marker, applied.head? = some marker ∧ marker.isInit = true ∧ version < marker.version

def BelowLast (applied : List Record) (version : Version) : Prop :=
  ∃ last, applied.getLast? = some last ∧ version < last.version

section Rules

variable (available applied : List Record)

theorem belowMarker_iff_baseline? (version : Version) :
    BelowMarker applied version ↔ ∃ baseline, baseline? applied = some baseline ∧
      version < baseline := by
  simp [BelowMarker, baseline?, Option.filter_eq_some_iff, and_assoc]

theorem belowLast_iff_lastApplied? (version : Version) :
    BelowLast applied version ↔ ∃ last, lastApplied? applied = some last ∧ version < last := by
  simp [BelowLast, lastApplied?]

instance (version : Version) : Decidable (BelowMarker applied version) :=
  decidable_of_iff ((baseline? applied).any (version < ·) = true) (by
    rw [belowMarker_iff_baseline?, Option.any_eq_true]
    simp)

instance (version : Version) : Decidable (BelowLast applied version) :=
  decidable_of_iff ((lastApplied? applied).any (version < ·) = true) (by
    rw [belowLast_iff_lastApplied?, Option.any_eq_true]
    simp)

/-- A row as the second pass leaves it. -/
def settled (row : Record) : Record :=
  if contains row.version available then row
  else row.reclassified (unavailableState (horizon available) row)

def rowEntry (row : Record) : Record :=
  if BelowMarker applied row.version then row.withoutExecution .preInit else settled available row

/-- The state of a version that is at hand and was not run. -/
def waitingState (version : Version) : State :=
  if BelowMarker applied version then .preInit
  else if BelowLast applied version then .ignored
  else .pending

/-- What becomes of a version: the row counts before the file. -/
def entryAt? (version : Version) : Option Record :=
  match find? version applied with
  | some row => some (rowEntry available applied row)
  | none => (find? version available).map (·.withoutExecution (waitingState applied version))

end Rules

variable {available applied : List Record} {row record : Record} {version left right : Version}

/-! ### Entries do not see how a version is written -/

theorem belowMarker_congr (h : left.same right = true) :
    BelowMarker applied left ↔ BelowMarker applied right := by
  simp only [BelowMarker, Version.lt_congr_left h]

theorem belowLast_congr (h : left.same right = true) :
    BelowLast applied left ↔ BelowLast applied right := by
  simp only [BelowLast, Version.lt_congr_left h]

theorem waitingState_congr (h : left.same right = true) :
    waitingState applied left = waitingState applied right := by
  simp only [waitingState, belowMarker_congr h, belowLast_congr h]

theorem entryAt?_congr (h : left.same right = true) :
    entryAt? available applied left = entryAt? available applied right := by
  rw [entryAt?, entryAt?, find?_congr h applied, find?_congr h available, waitingState_congr h]

@[simp]
theorem version_settled (available : List Record) (row : Record) :
    (settled available row).version = row.version := by
  unfold settled
  split <;> rfl

@[simp]
theorem withoutExecution_settled (available : List Record) (row : Record) (state : State) :
    (settled available row).withoutExecution state = row.withoutExecution state := by
  unfold settled
  split <;> rfl

@[simp]
theorem version_rowEntry (available applied : List Record) (row : Record) :
    (rowEntry available applied row).version = row.version := by
  unfold rowEntry
  split <;> simp

/-! ### The second pass

Rows enter one after another, and an entering row looks at the timeline as the rows before it have
left it. As no earlier row has its version, what it finds there is a file or nothing.
-/

theorem find?_append_singleton (records : List Record) (record : Record) (version : Version) :
    find? version (records ++ [record]) =
      (find? version records).or (if version.same record.version then some record else none) := by
  simp [find?, List.find?_append, List.find?_cons]
  split <;> simp_all

theorem distinct_append_singleton :
    Distinct (applied ++ [row]) ↔ Distinct applied ∧ find? row.version applied = none := by
  rw [Distinct, List.pairwise_append, find?_eq_none_iff]
  simp only [List.pairwise_singleton, List.mem_singleton, forall_eq, true_and]
  exact and_congr_right fun _ => forall₂_congr fun record _ => by rw [Version.same_comm]

theorem entered_append_singleton (available applied : List Record) (row : Record) :
    entered available (applied ++ [row]) =
      enter (horizon available) (entered available applied) row := by
  simp [entered]

@[simp]
theorem version_entering (horizon : Version) (timeline : Timeline) (row : Record) :
    (entering horizon timeline row).version = row.version := by
  unfold entering
  split <;> rfl

theorem ascending_entered (available applied : List Record) :
    Ascending (entered available applied) := by
  induction applied using List.reverseRecOn with
  | nil => exact ascending_ofList _
  | append_singleton applied row ih =>
    rw [entered_append_singleton]
    exact ascending_insert ih _

theorem find?_seeded (available : List Record) (version : Version) :
    find? version (seeded available) =
      (find? version available.reverse).map (·.withoutExecution .pending) := by
  rw [seeded, find?_ofList, ← List.map_reverse, find?_map (by simp)]

theorem find?_entered (havailable : Distinct available) (happlied : Distinct applied)
    (version : Version) :
    find? version (entered available applied) =
      match find? version applied with
      | some row => some (settled available row)
      | none => (find? version available).map (·.withoutExecution .pending) := by
  induction applied using List.reverseRecOn generalizing version with
  | nil =>
    rw [← find?_reverse havailable]
    exact find?_seeded available version
  | append_singleton applied row ih =>
    obtain ⟨hdistinct, hnew⟩ := distinct_append_singleton.mp happlied
    have hcontains : contains row.version (entered available applied) =
        contains row.version available := by
      rw [contains_eq_isSome, contains_eq_isSome, ih hdistinct, hnew]
      simp
    have hentering : entering (horizon available) (entered available applied) row =
        settled available row := by
      rw [entering, settled, hcontains]
    rw [entered_append_singleton, enter, find?_insert (ascending_entered available applied),
      version_entering, hentering, find?_append_singleton]
    by_cases hsame : version.same row.version = true
    · rw [find?_congr hsame applied, hnew]
      simp [hsame]
    · simp [hsame, ih hdistinct]

/-! ### The third and the fourth pass -/

/-- The walk that marks what predates tracking ends early, and over a timeline in order it still
reaches every record below the baseline. -/
theorem markPreInit_eq_map {timeline : Timeline} (h : Ascending timeline) (baseline : Version) :
    markPreInit baseline timeline = timeline.map fun record =>
      if record.version < baseline then record.withoutExecution .preInit else record := by
  induction timeline with
  | nil => rfl
  | cons record rest ih =>
    obtain ⟨hlater, hrest⟩ := List.pairwise_cons.mp h
    rw [markPreInit, List.map_cons]
    by_cases hreached : baseline ≤ record.version
    · have hkept : ∀ later ∈ rest, ¬ later.version < baseline := fun later hmem =>
        Version.not_lt_iff_le.mpr (hreached.trans (hlater later hmem).le)
      have hsame : rest.map (fun later =>
          if later.version < baseline then later.withoutExecution .preInit else later) = rest := by
        rw [List.map_congr_left fun later hmem => if_neg (hkept later hmem), List.map_id']
      rw [if_pos hreached, if_neg (Version.not_lt_iff_le.mpr hreached), hsame]
    · have hbelow : record.version < baseline :=
        not_not.mp (mt Version.not_lt_iff_le.mp hreached)
      rw [if_neg hreached, if_pos hbelow, ih hrest]

theorem baselined_eq_map (available applied : List Record) :
    baselined available applied = (entered available applied).map fun record =>
      if BelowMarker applied record.version then record.withoutExecution .preInit else record := by
  simp only [belowMarker_iff_baseline?, baselined]
  cases baseline? applied with
  | none => simp
  | some baseline => simp [markPreInit_eq_map (ascending_entered available applied)]

theorem classified_eq_map (available applied : List Record) :
    classified available applied = (baselined available applied).map fun record =>
      if BelowLast applied record.version ∧ record.state = .pending then
        record.withoutExecution .ignored
      else record := by
  simp only [belowLast_iff_lastApplied?, classified, markIgnored, isPassedOver]
  cases lastApplied? applied <;> simp

theorem state_settled_ne_pending (hrow : row.state = .success ∨ row.state = .failed)
    (available : List Record) : (settled available row).state ≠ .pending := by
  unfold settled
  split
  · rcases hrow with h | h <;> simp [h]
  · rw [Record.state_reclassified]
    unfold unavailableState
    split
    · cases row.state.isFailed <;> simp [State.missing]
    · cases row.state.isFailed <;> simp [State.future]
    · rcases hrow with h | h <;> simp [h]

theorem isApplied_unavailableState (hrow : row.state.isApplied = true) (horizon : Version) :
    (unavailableState horizon row).isApplied = true := by
  unfold unavailableState
  split
  · exact State.isApplied_missing _
  · exact State.isApplied_future _
  · exact hrow

theorem ascending_classified (available applied : List Record) :
    Ascending (classified available applied) := by
  rw [classified_eq_map, baselined_eq_map]
  refine ascending_map (fun record => ?_) (ascending_map (fun record => ?_)
    (ascending_entered available applied))
  · split <;> simp
  · split <;> simp

theorem find?_classified (havailable : Distinct available) (happlied : Recorded applied)
    (version : Version) :
    find? version (classified available applied) = entryAt? available applied version := by
  rw [classified_eq_map, baselined_eq_map, find?_map (fun record => by split <;> simp),
    find?_map (fun record => by split <;> simp),
    find?_entered havailable happlied.distinct, entryAt?]
  cases hrow : find? version applied with
  | some row =>
    have hstate := state_settled_ne_pending
      (happlied.finished row (mem_of_find?_eq_some hrow)) available
    by_cases hmarker : BelowMarker applied row.version <;>
      simp [rowEntry, hmarker, hstate]
  | none =>
    cases hfile : find? version available with
    | none => rfl
    | some file =>
      rw [Option.map_some, waitingState_congr (same_of_find?_eq_some hfile)]
      by_cases hmarker : BelowMarker applied file.version <;>
        by_cases hlast : BelowLast applied file.version <;>
          simp [waitingState, hmarker, hlast, Record.withoutExecution]

theorem ascending_merge (available applied : List Record) (target : Version) :
    Ascending (merge available applied target) :=
  ascending_upTo (ascending_classified available applied) target

/-- **The merge, one version at a time.** -/
theorem find?_merge (havailable : Distinct available) (happlied : Recorded applied)
    (target version : Version) :
    find? version (merge available applied target) =
      if version ≤ target then entryAt? available applied version else none := by
  rw [merge, find?_upTo, find?_classified havailable happlied]

theorem mem_merge_iff (havailable : Distinct available) (happlied : Recorded applied)
    {target : Version} :
    record ∈ merge available applied target ↔
      record.version ≤ target ∧ entryAt? available applied record.version = some record := by
  rw [mem_iff_find?_eq_some (ascending_merge available applied target),
    find?_merge havailable happlied]
  simp

/-! ### Rows that lose their entry

Of two rows at one position the later one takes the place of the other. With nothing at hand the
entries can be counted against the rows.
-/

theorem isSome_find?_entered_nil (applied : List Record) (version : Version) :
    (find? version (entered [] applied)).isSome = (find? version applied).isSome := by
  induction applied using List.reverseRecOn with
  | nil => rfl
  | append_singleton applied row ih =>
    rw [entered_append_singleton, enter, find?_insert (ascending_entered [] applied),
      version_entering, find?_append_singleton]
    by_cases hsame : version.same row.version = true <;> simp [hsame, ih]

theorem length_entered_append_singleton (applied : List Record) (row : Record) :
    (entered [] (applied ++ [row])).length =
      if find? row.version applied = none then (entered [] applied).length + 1
      else (entered [] applied).length := by
  rw [entered_append_singleton, enter, length_insert (ascending_entered [] applied),
    version_entering, contains_eq_isSome, isSome_find?_entered_nil]
  cases find? row.version applied <;> simp

theorem length_entered_nil_le (applied : List Record) :
    (entered [] applied).length ≤ applied.length := by
  induction applied using List.reverseRecOn with
  | nil => exact Nat.le_refl 0
  | append_singleton applied row ih =>
    rw [length_entered_append_singleton, List.length_append, List.length_singleton]
    split <;> omega

theorem length_entered_nil_eq_iff (applied : List Record) :
    (entered [] applied).length = applied.length ↔ Distinct applied := by
  induction applied using List.reverseRecOn with
  | nil => exact iff_of_true rfl List.Pairwise.nil
  | append_singleton applied row ih =>
    have hle := length_entered_nil_le applied
    rw [length_entered_append_singleton, distinct_append_singleton, ← ih, List.length_append,
      List.length_singleton]
    split
    · next hnew => simp [hnew]
    · next hold =>
      refine iff_of_false ?_ fun h => hold h.2
      omega

/-- Where nothing is at hand, there are as many entries as rows exactly if no row takes the place of
another one. -/
theorem length_merge_nil_eq_iff (applied : List Record) :
    (merge [] applied .latest).length = applied.length ↔ Distinct applied := by
  have hall : ∀ record ∈ classified [] applied, decide (record.version ≤ .latest) = true :=
    fun record _ => decide_eq_true (Version.le_latest record.version)
  rw [← length_entered_nil_eq_iff, merge, upTo, List.filter_eq_self.mpr hall,
    classified_eq_map, baselined_eq_map, List.length_map, List.length_map]

/-! ### Sample records -/

def sampleFile (numbers : List UInt64) : Record :=
  .available (.ofParts numbers) "step" "step.sql" none

def sampleRow (kind : Kind) (numbers : List UInt64) (success : Bool) : Record :=
  .applied (.ofParts numbers) "step" kind .startOf2024 ⟨7⟩ success

end MigrationStatus.Migration.Reconcile
