import Mathlib.Data.List.Forall2
import MigrationStatus.Proofs.Entry
/-!
# What the merge does not depend on

The passes go through the files and the rows in the order in which they come, and a file and a row
of one version may spell it differently. Little of this is left in the result. Of the order of the
rows only the first and the last one count, of the order of the files only the position of the last
one, and of a file that was run only that it is there.
-/

namespace MigrationStatus.Migration.Reconcile

open Timeline

variable {available files applied rows : List Record} {file substitute row : Record}
  {version left right : Version}

/-! ### Files in the place of others -/

/-- The record can stand in the place of the file: it is the same one, or else the file was run and
the record stands at its position, whatever else it says. -/
def Substitute (applied : List Record) (file substitute : Record) : Prop :=
  substitute = file ∨
    contains file.version applied = true ∧ substitute.version.same file.version = true

instance (applied : List Record) (file substitute : Record) :
    Decidable (Substitute applied file substitute) :=
  inferInstanceAs (Decidable (_ ∨ _))

theorem Substitute.same (h : Substitute applied file substitute) :
    file.version.same substitute.version = true := by
  obtain rfl | ⟨-, hsame⟩ := h
  · exact Version.same_self _
  · exact Version.same_symm hsame

theorem contains_of_substituted (h : List.Forall₂ (Substitute applied) available files)
    (version : Version) : contains version available = contains version files := by
  induction h with
  | nil => rfl
  | cons hfirst hrest ih =>
    simp only [contains, List.any_cons] at ih ⊢
    rw [ih, Version.same_congr_right hfirst.same]

theorem distinct_of_substituted (h : List.Forall₂ (Substitute applied) available files)
    (hdistinct : Distinct available) : Distinct files := by
  induction h with
  | nil => exact List.Pairwise.nil
  | @cons file substitute available files hfirst hrest ih =>
    obtain ⟨hapart, hdistinct⟩ := List.pairwise_cons.mp hdistinct
    refine List.pairwise_cons.mpr ⟨?_, ih hdistinct⟩
    have habsent : contains substitute.version files = false := by
      rw [← contains_of_substituted hrest, contains, List.any_eq_false]
      intro later hlater
      rw [← Version.same_congr_left hfirst.same, hapart later hlater]
      exact Bool.false_ne_true
    simpa [contains] using habsent

/-- Where no row stands, no file was replaced. -/
theorem find?_of_substituted (h : List.Forall₂ (Substitute applied) available files)
    (hrow : find? version applied = none) :
    find? version available = find? version files := by
  induction h with
  | nil => rfl
  | @cons file substitute available files hfirst hrest ih =>
    rw [find?_cons, find?_cons, ih]
    obtain rfl | ⟨hrun, hsame⟩ := hfirst
    · rfl
    -- A file that was replaced stands at the position of a row, and so not at this one.
    · have hfile : version.same file.version = false := by
        rw [Bool.eq_false_iff]
        intro hfile
        rw [contains_eq_isSome, ← find?_congr hfile, hrow] at hrun
        cases hrun
      simp [Version.same_congr_right hsame, hfile]

/-! ### Rearranging what is merged -/

/-- The files in another order, some of those that were run replaced by others at their positions.
The last one stays at its position. -/
structure Rearranged (applied available files : List Record) : Prop where
  substituted : ∃ permuted, available.Perm permuted ∧
    List.Forall₂ (Substitute applied) permuted files
  newest : Option.Rel (fun earlier later => earlier.version.same later.version = true)
    available.getLast? files.getLast?

/-- The rows in another order. The first and the last one stay at their places. -/
structure Reordered (applied rows : List Record) : Prop where
  perm : applied.Perm rows
  first : applied.head? = rows.head?
  last : applied.getLast? = rows.getLast?

theorem Rearranged.distinct (h : Rearranged applied available files)
    (hdistinct : Distinct available) : Distinct files := by
  obtain ⟨permuted, hperm, hsubstituted⟩ := h.substituted
  exact distinct_of_substituted hsubstituted (distinct_of_perm hdistinct hperm)

theorem Rearranged.contains_eq (h : Rearranged applied available files) (version : Version) :
    contains version available = contains version files := by
  obtain ⟨permuted, hperm, hsubstituted⟩ := h.substituted
  rw [← contains_of_substituted hsubstituted, contains, contains, hperm.any_eq]

theorem Rearranged.find?_eq (h : Rearranged applied available files)
    (hdistinct : Distinct available) (hrow : find? version applied = none) :
    find? version available = find? version files := by
  obtain ⟨permuted, hperm, hsubstituted⟩ := h.substituted
  rw [find?_of_perm hdistinct hperm, find?_of_substituted hsubstituted hrow]

theorem Rearranged.same_horizon (h : Rearranged applied available files) :
    (horizon available).same (horizon files) = true := by
  obtain ⟨-, hnewest⟩ := h
  unfold horizon
  generalize available.getLast? = earlier, files.getLast? = later at hnewest
  cases hnewest with
  | none => exact Version.same_self _
  | some hsame => exact hsame

theorem Reordered.recorded (h : Reordered applied rows) (happlied : Recorded applied) :
    Recorded rows :=
  ⟨distinct_of_perm happlied.distinct h.perm,
    fun row hrow => happlied.finished row (h.perm.mem_iff.mpr hrow)⟩

/-! ### The entries stay as they are -/

theorem unavailableState_congr (h : left.same right = true) (row : Record) :
    unavailableState left row = unavailableState right row := by
  rw [unavailableState, unavailableState,
    Std.TransCmp.congr_right (Version.same_iff_compare.mp h)]

theorem belowMarker_of_reordered (h : Reordered applied rows) (version : Version) :
    BelowMarker applied version ↔ BelowMarker rows version := by
  rw [BelowMarker, BelowMarker, h.first]

theorem belowLast_of_reordered (h : Reordered applied rows) (version : Version) :
    BelowLast applied version ↔ BelowLast rows version := by
  rw [BelowLast, BelowLast, h.last]

theorem rowEntry_of_rearranged (hfiles : Rearranged applied available files)
    (hrows : Reordered applied rows) (row : Record) :
    rowEntry available applied row = rowEntry files rows row := by
  simp only [rowEntry, settled, belowMarker_of_reordered hrows, hfiles.contains_eq,
    unavailableState_congr hfiles.same_horizon]

theorem waitingState_of_reordered (h : Reordered applied rows) (version : Version) :
    waitingState applied version = waitingState rows version := by
  simp only [waitingState, belowMarker_of_reordered h, belowLast_of_reordered h]

theorem entryAt?_of_rearranged (havailable : Distinct available) (happlied : Distinct applied)
    (hfiles : Rearranged applied available files) (hrows : Reordered applied rows)
    (version : Version) : entryAt? available applied version = entryAt? files rows version := by
  rw [entryAt?, entryAt?, ← find?_of_perm happlied hrows.perm]
  cases hrow : find? version applied with
  | some row => simp only [rowEntry_of_rearranged hfiles hrows]
  | none => simp only [hfiles.find?_eq havailable hrow, waitingState_of_reordered hrows]

/-- **What the merge does not depend on.** The order of the rows between the first and the last one,
the order of the files as long as the last one stays at its position, and everything in a file that
was run: none of it changes a record of the merge, or a text in it. -/
theorem merge_of_rearranged (havailable : Distinct available) (happlied : Recorded applied)
    (hfiles : Rearranged applied available files) (hrows : Reordered applied rows)
    (target : Version) : merge available applied target = merge files rows target := by
  refine ext (ascending_merge _ _ _) (ascending_merge _ _ _) fun version => ?_
  rw [find?_merge havailable happlied,
    find?_merge (hfiles.distinct havailable) (hrows.recorded happlied),
    entryAt?_of_rearranged havailable happlied.distinct hfiles hrows]

/-- The two rows in the middle change places, and so do the first two files, of which the one that
was run is spelled differently and is no plain migration any more. -/
theorem merge_of_rearranged_of_swapped :
    let available := [sampleFile [1], sampleFile [3], sampleFile [5]]
    let files := [sampleRow .init [3, 0] false, sampleFile [1], sampleFile [5]]
    let applied := [sampleRow .init [2] true, sampleRow .sql [6] false, sampleRow .sql [3] true,
      sampleRow .sql [4] true]
    let rows := [sampleRow .init [2] true, sampleRow .sql [3] true, sampleRow .sql [6] false,
      sampleRow .sql [4] true]
    Distinct available ∧ Recorded applied ∧ Rearranged applied available files ∧
      Reordered applied rows ∧ merge available applied .latest = merge files rows .latest := by
  intro available files applied rows
  have havailable : Distinct available := by decide
  have happlied : Recorded applied := ⟨by decide, by decide⟩
  have hfiles : Rearranged applied available files := by
    refine ⟨⟨[sampleFile [3], sampleFile [1], sampleFile [5]], .swap .., ?_⟩, .some (by decide)⟩
    exact .cons (by decide) (.cons (by decide) (.cons (by decide) .nil))
  have hrows : Reordered applied rows := ⟨.cons _ (.swap ..), rfl, rfl⟩
  exact ⟨havailable, happlied, hfiles, hrows,
    merge_of_rearranged havailable happlied hfiles hrows .latest⟩

/-- The last row does count: what lies below it is ignored. -/
example :
    let available := [sampleFile [1], sampleFile [2], sampleFile [3]]
    let first := sampleRow .sql [1] true
    let second := sampleRow .sql [3] true
    merge available [first, second] .latest ≠ merge available [second, first] .latest := by
  decide

end MigrationStatus.Migration.Reconcile
