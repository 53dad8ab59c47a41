import MigrationStatus.Proofs.Entry
/-!
# The merge of any lists

The rules of the merge are stated for lists in order and without duplicates. The merge itself takes
whatever it is given: files in disorder, one version in several spellings, bounds in the place of
versions, rows in states that no row has. What it makes of a version is still told by the two lists
alone. The last record at the position counts, a row before a file, and the only trace of earlier
rows is that they keep the last one from being called missing or of the future.
-/

namespace MigrationStatus.Migration

namespace Timeline

/-- The last of the records at the position of the version. -/
def lastAt? (version : Version) (records : List Record) : Option Record :=
  find? version records.reverse

variable {records : List Record} {record : Record} {version : Version}

theorem mem_of_lastAt?_eq_some (h : lastAt? version records = some record) : record ∈ records :=
  List.mem_reverse.mp (mem_of_find?_eq_some h)

theorem isSome_lastAt? (version : Version) (records : List Record) :
    (lastAt? version records).isSome = contains version records := by
  rw [lastAt?, ← contains_eq_isSome, contains, contains, List.any_reverse]

theorem lastAt?_append_singleton (records : List Record) (record : Record) (version : Version) :
    lastAt? version (records ++ [record]) =
      if version.same record.version then some record else lastAt? version records := by
  rw [lastAt?, List.reverse_append, List.reverse_singleton, List.singleton_append, find?_cons,
    lastAt?]

end Timeline

/-- The record tells of the same migration as the source, however it stands. -/
structure Record.Retells (record source : Record) : Prop where
  version : record.version = source.version
  description : record.description = source.description
  kind : record.kind = source.kind
  script : record.script = source.script
  checksum : record.checksum = source.checksum

namespace Reconcile

open Timeline

variable (available applied : List Record)

/-- The last row at the position of the version finds it taken, by a file or by an earlier row. -/
def Taken (version : Version) : Prop :=
  contains version available = true ∨ 2 ≤ applied.countP fun row => version.same row.version

instance (version : Version) : Decidable (Taken available applied version) :=
  inferInstanceAs (Decidable (_ ∨ _))

/-- What the second pass makes of a version. -/
def enteredAt? (version : Version) : Option Record :=
  match lastAt? version applied with
  | some row =>
    some (if Taken available applied version then row
      else row.reclassified (unavailableState (horizon available) row))
  | none => (lastAt? version available).map (·.withoutExecution .pending)

/-- What the third and the fourth pass make of a record. -/
def finished (record : Record) : Record :=
  if BelowMarker applied record.version then record.withoutExecution .preInit
  else if BelowLast applied record.version ∧ record.state = .pending then
    record.withoutExecution .ignored
  else record

variable {available applied} {row record entry source : Record}
  {version target lower higher : Version}

/-! ### The second pass -/

theorem isSome_enteredAt? (available applied : List Record) (version : Version) :
    (enteredAt? available applied version).isSome =
      (contains version available || contains version applied) := by
  rw [enteredAt?, ← isSome_lastAt? version available, ← isSome_lastAt? version applied]
  cases lastAt? version applied <;> simp

theorem taken_append_singleton (hsame : version.same row.version = true) :
    Taken available (applied ++ [row]) version ↔
      contains version available = true ∨ contains version applied = true := by
  have hcount : (applied ++ [row]).countP (fun other => version.same other.version) =
      applied.countP (fun other => version.same other.version) + 1 := by
    simp [List.countP_append, hsame]
  have hearlier : 1 ≤ applied.countP (fun other => version.same other.version) ↔
      contains version applied = true := by
    rw [contains, List.any_eq_true]
    exact List.countP_pos_iff
  rw [Taken, hcount, ← hearlier]
  exact or_congr_right (by omega)

theorem taken_append_of_not_same (hother : version.same row.version = false) :
    Taken available (applied ++ [row]) version ↔ Taken available applied version := by
  simp [Taken, List.countP_append, hother]

theorem enteredAt?_append_of_not_same (hother : version.same row.version = false) :
    enteredAt? available (applied ++ [row]) version = enteredAt? available applied version := by
  simp only [enteredAt?, lastAt?_append_singleton, hother, taken_append_of_not_same hother,
    Bool.false_eq_true, if_false]

/-- **The second pass of any lists.** Each row looks at the timeline as those before it have left
it, and finds its position taken if there is a file for it or an earlier row. -/
theorem find?_entered_eq_enteredAt? (available applied : List Record) (version : Version) :
    find? version (entered available applied) = enteredAt? available applied version := by
  induction applied using List.reverseRecOn generalizing version with
  | nil => exact find?_seeded available version
  | append_singleton applied row ih =>
    rw [entered_append_singleton, enter, find?_insert (ascending_entered available applied),
      version_entering]
    cases hsame : version.same row.version with
    | false => simp [enteredAt?_append_of_not_same hsame, ih]
    | true =>
      have htaken : contains row.version (entered available applied) = true ↔
          Taken available (applied ++ [row]) version := by
        rw [taken_append_singleton hsame, ← contains_congr hsame, contains_eq_isSome, ih,
          isSome_enteredAt?, Bool.or_eq_true]
      rw [enteredAt?, lastAt?_append_singleton, hsame, entering]
      simp only [if_true, htaken]

/-! ### The passes together -/

theorem classified_eq_map_finished (available applied : List Record) :
    classified available applied = (entered available applied).map (finished applied) := by
  rw [classified_eq_map, baselined_eq_map, List.map_map]
  refine List.map_congr_left fun record _ => ?_
  by_cases hmarker : BelowMarker applied record.version <;> simp [finished, hmarker]

theorem same_finished (applied : List Record) (record : Record) :
    (finished applied record).version.same record.version = true := by
  unfold finished
  split
  · exact Version.same_self _
  · split <;> exact Version.same_self _

/-- **The merge of any lists, one version at a time.** -/
theorem find?_merge_eq_enteredAt? (available applied : List Record) (target version : Version) :
    find? version (merge available applied target) =
      if version ≤ target then (enteredAt? available applied version).map (finished applied)
      else none := by
  rw [merge, find?_upTo, classified_eq_map_finished, find?_map (same_finished applied),
    find?_entered_eq_enteredAt?]

theorem exists_of_mem_merge (h : entry ∈ merge available applied target) :
    ∃ record, enteredAt? available applied entry.version = some record ∧
      entry = finished applied record := by
  rw [mem_iff_find?_eq_some (ascending_merge _ _ _), find?_merge_eq_enteredAt?] at h
  split at h
  · obtain ⟨record, hrecord, hentry⟩ := Option.map_eq_some_iff.mp h
    exact ⟨record, hrecord, hentry.symm⟩
  · cases h

/-! ### What an entry tells -/

theorem retells_finished (h : record.Retells source) (applied : List Record) :
    (finished applied record).Retells source := by
  obtain ⟨hversion, hdescription, hkind, hscript, hchecksum⟩ := h
  unfold finished
  split
  · exact ⟨hversion, hdescription, hkind, hscript, hchecksum⟩
  · split <;> exact ⟨hversion, hdescription, hkind, hscript, hchecksum⟩

theorem exists_source_of_enteredAt? (h : enteredAt? available applied version = some record) :
    ∃ source, (lastAt? version applied).or (lastAt? version available) = some source ∧
      record.Retells source := by
  unfold enteredAt? at h
  cases hrow : lastAt? version applied with
  | some row =>
    simp only [hrow, Option.some.injEq] at h
    refine ⟨row, rfl, ?_⟩
    subst h
    split <;> exact ⟨rfl, rfl, rfl, rfl, rfl⟩
  | none =>
    simp only [hrow] at h
    obtain ⟨file, hfile, rfl⟩ := Option.map_eq_some_iff.mp h
    exact ⟨file, hfile, rfl, rfl, rfl, rfl, rfl⟩

/-- **The merge is well formed whatever it is given.** It ascends, it has one entry for each version
of either list within the target, and each entry tells of the last row at its position or, without a
row, of the last file. A nearer target cuts the list short and changes nothing in what is left. -/
theorem merge_of_any_lists (available applied : List Record) (hle : lower ≤ higher) :
    Ascending (merge available applied higher) ∧
    (∀ version, contains version (merge available applied higher) = true ↔
      version ≤ higher ∧
        (contains version available = true ∨ contains version applied = true)) ∧
    (∀ entry ∈ merge available applied higher, ∃ source,
      (lastAt? entry.version applied).or (lastAt? entry.version available) = some source ∧
        entry.Retells source) ∧
    merge available applied lower =
      (merge available applied higher).filter fun entry => entry.version ≤ lower := by
  refine ⟨ascending_merge available applied higher, fun version => ?_, fun entry hentry => ?_, ?_⟩
  · rw [contains_eq_isSome, find?_merge_eq_enteredAt?]
    by_cases hversion : version ≤ higher
    · simp [hversion, isSome_enteredAt?]
    · simp [hversion]
  · obtain ⟨record, hrecord, rfl⟩ := exists_of_mem_merge hentry
    obtain ⟨source, hsource, hretells⟩ := exists_source_of_enteredAt? hrecord
    exact ⟨source, hsource, retells_finished hretells applied⟩
  · rw [merge, merge, upTo, upTo, List.filter_filter]
    refine List.filter_congr fun entry _ => ?_
    rw [← Bool.decide_and]
    exact decide_eq_decide.mpr ⟨fun h => ⟨h, h.trans hle⟩, And.left⟩

/-- Files in disorder, with one version in two spellings and a bound among them, beside a row that
is still pending and a marker that does not come first. -/
theorem merge_of_untidy_lists :
    let again := { sampleFile [2, 0] with description := "again" }
    let available := [sampleFile [2], sampleFile [1], again, .available .latest "step" "" none]
    let applied := [(sampleRow .sql [3] true).reclassified .pending, sampleRow .init [1, 0] false]
    Version.ofParts [2] ≤ .latest ∧ Ascending (merge available applied .latest) ∧
      contains (.ofParts [2]) (merge available applied .latest) = true ∧
      lastAt? again.version applied = none ∧ lastAt? again.version available = some again ∧
      (∀ entry ∈ merge available applied .latest, entry.version = again.version →
        entry.Retells again) ∧
      merge available applied (.ofParts [2]) =
        (merge available applied .latest).filter fun entry => entry.version ≤ .ofParts [2] := by
  intro again available applied
  have hle : Version.ofParts [2] ≤ .latest := Version.le_latest _
  have hrow : lastAt? again.version applied = none := by decide
  have hfile : lastAt? again.version available = some again := by decide
  obtain ⟨hascending, hversions, hsources, hcut⟩ := merge_of_any_lists available applied hle
  refine ⟨hle, hascending, (hversions _).mpr ⟨hle, .inl (by decide)⟩, hrow, hfile,
    fun entry hentry hversion => ?_, hcut⟩
  obtain ⟨source, hsource, hretells⟩ := hsources entry hentry
  rw [hversion, hrow, hfile] at hsource
  cases hsource
  exact hretells

end Reconcile

end MigrationStatus.Migration
