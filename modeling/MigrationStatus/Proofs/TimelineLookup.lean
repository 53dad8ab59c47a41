import Mathlib.Data.List.Induction
import Mathlib.Data.List.Pairwise
import MigrationStatus.Migration.Timeline
import MigrationStatus.Proofs.VersionOrder
/-!
# A timeline is what `find?` sees of it

An ascending timeline is determined by the record that `find?` gives at each version, and each
operation on timelines has one equation that says what `find?` gives afterwards. With these two, an
equality of timelines becomes a question about one version at a time, in which neither the order of
the passes nor the spelling of versions plays a part any longer.
-/

namespace MigrationStatus.Migration

/-- No two of the records stand at the same position. -/
def Distinct (records : List Record) : Prop :=
  records.Pairwise fun earlier later => earlier.version.same later.version = false

instance (records : List Record) : Decidable (Distinct records) :=
  inferInstanceAs (Decidable (List.Pairwise _ _))

theorem distinct_of_perm {records other : List Record} (h : Distinct records)
    (hperm : records.Perm other) : Distinct other :=
  (hperm.pairwise_iff fun hne => (Version.same_comm _ _).trans hne).mp h

namespace Timeline

variable {records other : List Record} {timeline left right : Timeline} {record first : Record}
  {version target : Version}

theorem Ascending.distinct (h : Ascending timeline) : Distinct timeline :=
  List.Pairwise.imp Version.not_same_of_lt h

/-! ### Finding a record -/

@[simp]
theorem find?_nil (version : Version) : find? version [] = none := rfl

theorem find?_cons (version : Version) (first : Record) (rest : Timeline) :
    find? version (first :: rest) =
      if version.same first.version then some first else find? version rest := by
  unfold find?
  rw [List.find?_cons]
  split <;> simp_all

theorem find?_congr {other : Version} (h : version.same other = true) (timeline : Timeline) :
    find? version timeline = find? other timeline := by
  unfold find?
  congr 1
  funext record
  exact Version.same_congr_left h record.version

theorem mem_of_find?_eq_some (h : find? version timeline = some record) : record ∈ timeline :=
  List.mem_of_find?_eq_some h

theorem same_of_find?_eq_some (h : find? version timeline = some record) :
    version.same record.version = true :=
  List.find?_some (p := fun record : Record => version.same record.version) h

theorem find?_eq_none_iff :
    find? version timeline = none ↔ ∀ record ∈ timeline, version.same record.version = false := by
  simp [find?, List.find?_eq_none]

theorem find?_of_mem (h : Distinct records) (hrecord : record ∈ records)
    (hsame : version.same record.version = true) : find? version records = some record := by
  induction records with
  | nil => simp at hrecord
  | cons first rest ih =>
    obtain ⟨hfirst, hrest⟩ := List.pairwise_cons.mp h
    rw [find?_cons]
    rcases List.mem_cons.mp hrecord with rfl | hmem
    · rw [if_pos hsame]
    · have hne : version.same first.version = false := by
        rw [Version.same_congr_left hsame, Version.same_comm]
        exact hfirst record hmem
      rw [if_neg (by simp [hne]), ih hrest hmem]

/-- Where no two records share a position, finding is membership. -/
theorem find?_eq_some_iff (h : Distinct records) :
    find? version records = some record ↔
      record ∈ records ∧ version.same record.version = true :=
  ⟨fun hfind => ⟨mem_of_find?_eq_some hfind, same_of_find?_eq_some hfind⟩,
    fun ⟨hmem, hsame⟩ => find?_of_mem h hmem hsame⟩

/-- Nor does it matter in which order they come. -/
theorem find?_of_perm (h : Distinct records) (hperm : records.Perm other) (version : Version) :
    find? version records = find? version other := by
  apply Option.ext
  intro record
  rw [find?_eq_some_iff h, find?_eq_some_iff (distinct_of_perm h hperm), hperm.mem_iff]

theorem find?_reverse (h : Distinct records) (version : Version) :
    find? version records.reverse = find? version records :=
  (find?_of_perm h records.reverse_perm.symm version).symm

theorem contains_eq_isSome (version : Version) (timeline : Timeline) :
    contains version timeline = (find? version timeline).isSome := by
  rw [contains, find?, Bool.eq_iff_iff, List.any_eq_true, List.find?_isSome]

theorem contains_congr {other : Version} (h : version.same other = true) (timeline : Timeline) :
    contains version timeline = contains other timeline := by
  rw [contains_eq_isSome, contains_eq_isSome, find?_congr h]

/-! ### What `find?` sees of each operation -/

theorem find?_eq_none_of_lt (h : Ascending timeline)
    (hlt : ∀ first ∈ timeline.head?, version < first.version) : find? version timeline = none := by
  rw [find?_eq_none_iff]
  intro record hrecord
  cases timeline with
  | nil => simp at hrecord
  | cons first rest =>
    have hfirst : version < first.version := hlt first rfl
    rcases List.mem_cons.mp hrecord with rfl | hmem
    · exact Version.not_same_of_lt hfirst
    · exact Version.not_same_of_lt (hfirst.trans ((List.pairwise_cons.mp h).1 record hmem))

theorem mem_insert (h : record ∈ insert first timeline) : record = first ∨ record ∈ timeline := by
  induction timeline with
  | nil => simpa [insert] using h
  | cons next rest ih =>
    rw [insert] at h
    split at h
    · simpa using h
    · rcases List.mem_cons.mp h with rfl | hmem
      · exact Or.inl rfl
      · exact Or.inr (List.mem_cons_of_mem next hmem)
    · rcases List.mem_cons.mp h with rfl | hmem
      · exact Or.inr (List.mem_cons_self ..)
      · exact (ih hmem).imp_right (List.mem_cons_of_mem next)

theorem ascending_insert (h : Ascending timeline) (record : Record) :
    Ascending (insert record timeline) := by
  induction timeline with
  | nil => exact List.pairwise_singleton ..
  | cons first rest ih =>
    obtain ⟨hfirst, hrest⟩ := List.pairwise_cons.mp h
    rw [insert]
    split
    · next hlt =>
      refine List.pairwise_cons.mpr ⟨fun later hlater => ?_, h⟩
      rcases List.mem_cons.mp hlater with rfl | hmem
      · exact hlt
      · exact lt_trans (Version.lt_iff_compare.mpr hlt) (hfirst later hmem)
    · next heq =>
      refine List.pairwise_cons.mpr ⟨fun later hlater => ?_, hrest⟩
      exact (Version.lt_congr_left (Version.same_iff_compare.mpr heq)).mpr (hfirst later hlater)
    · next hgt =>
      refine List.pairwise_cons.mpr ⟨fun later hlater => ?_, ih hrest⟩
      rcases mem_insert hlater with rfl | hmem
      · exact Version.lt_iff_compare.mpr (Std.OrientedCmp.gt_iff_lt.mp hgt)
      · exact hfirst later hmem

/-- An insertion is seen at its own position and nowhere else. -/
theorem find?_insert (h : Ascending timeline) (record : Record) (version : Version) :
    find? version (insert record timeline) =
      if version.same record.version then some record else find? version timeline := by
  induction timeline with
  | nil => rw [insert, find?_cons]
  | cons first rest ih =>
    rw [insert]
    split
    · rw [find?_cons]
    · next heq =>
      have hsame := Version.same_congr_right (Version.same_iff_compare.mpr heq) version
      rw [find?_cons, find?_cons, ← hsame]
      split <;> rfl
    · next hgt =>
      have hlt : first.version < record.version := Std.OrientedCmp.gt_iff_lt.mp hgt
      rw [find?_cons, find?_cons, ih (List.pairwise_cons.mp h).2]
      split
      · next hfirst =>
        have hne : version.same record.version = false := by
          rw [Version.same_congr_left hfirst]
          exact Version.not_same_of_lt hlt
        rw [if_neg (by simp [hne])]
      · rfl

/-- An insertion makes the timeline longer unless it replaces a record. -/
theorem length_insert (h : Ascending timeline) (record : Record) :
    (insert record timeline).length =
      if contains record.version timeline then timeline.length else timeline.length + 1 := by
  rw [contains_eq_isSome]
  induction timeline with
  | nil => rfl
  | cons first rest ih =>
    rw [insert]
    split
    · next hlt =>
      have habsent : find? record.version (first :: rest) = none :=
        find?_eq_none_of_lt h fun _ hfirst => Option.some.inj hfirst ▸ hlt
      simp [habsent]
    · next heq =>
      rw [find?_cons, if_pos (Version.same_iff_compare.mpr heq)]
      rfl
    · next hgt =>
      have hne : record.version.same first.version = false :=
        Version.not_same_of_gt (Std.OrientedCmp.gt_iff_lt.mp hgt)
      have hrest : find? record.version (first :: rest) = find? record.version rest := by
        rw [find?_cons, if_neg (by simp [hne])]
      rw [List.length_cons, ih (List.pairwise_cons.mp h).2, hrest]
      split <;> rfl

/-! An insertion is the last record of the timeline, or leaves the last one where it is. -/

theorem version_le_of_getLast? {newest : Record} (h : Ascending timeline)
    (hrecord : record ∈ timeline) (hnewest : timeline.getLast? = some newest) :
    record.version ≤ newest.version := by
  obtain ⟨front, rfl⟩ := List.getLast?_eq_some_iff.mp hnewest
  rcases List.mem_append.mp hrecord with hfront | hlast
  · exact ((List.pairwise_append.mp h).2.2 record hfront newest (by simp)).le
  · rw [List.mem_singleton.mp hlast]

theorem insert_of_forall_lt (h : ∀ earlier ∈ timeline, earlier.version < record.version) :
    insert record timeline = timeline ++ [record] := by
  induction timeline with
  | nil => rfl
  | cons first rest ih =>
    have hgt : compare record.version first.version = .gt :=
      Std.OrientedCmp.gt_of_lt (h first (List.mem_cons_self ..))
    rw [insert, hgt]
    dsimp only
    rw [ih fun earlier hearlier => h earlier (List.mem_cons_of_mem first hearlier),
      List.cons_append]

theorem getLast?_insert_of_gt (h : Ascending timeline)
    (hgt : ∀ newest, timeline.getLast? = some newest → newest.version < record.version) :
    (insert record timeline).getLast? = some record := by
  rw [insert_of_forall_lt, List.getLast?_concat]
  intro earlier hearlier
  obtain ⟨newest, hnewest⟩ : ∃ newest, timeline.getLast? = some newest :=
    Option.isSome_iff_exists.mp (by simpa using List.ne_nil_of_mem hearlier)
  exact (version_le_of_getLast? h hearlier hnewest).trans_lt (hgt newest hnewest)

theorem getLast?_insert_of_lt {newest : Record} (hnewest : timeline.getLast? = some newest)
    (hlt : record.version < newest.version) :
    (insert record timeline).getLast? = some newest := by
  induction timeline with
  | nil => simp at hnewest
  | cons first rest ih =>
    rw [insert]
    split
    · rwa [List.getLast?_cons_cons]
    · next heq =>
      cases rest with
      | nil =>
        cases Option.some.inj hnewest
        cases heq.symm.trans (Version.lt_iff_compare.mp hlt)
      | cons next others => rwa [List.getLast?_cons_cons] at hnewest ⊢
    · next hgt =>
      cases rest with
      | nil =>
        cases Option.some.inj hnewest
        cases hgt.symm.trans (Version.lt_iff_compare.mp hlt)
      | cons next others =>
        rw [List.getLast?_cons_cons] at hnewest
        rw [List.getLast?_cons, ih hnewest, Option.getD_some]

theorem ofList_append_singleton (records : List Record) (record : Record) :
    ofList (records ++ [record]) = insert record (ofList records) := by
  simp [ofList]

theorem ascending_ofList (records : List Record) : Ascending (ofList records) := by
  induction records using List.reverseRecOn with
  | nil => exact List.Pairwise.nil
  | append_singleton records record ih =>
    rw [ofList_append_singleton]
    exact ascending_insert ih record

/-- A timeline made of records shows the last of them at each position. -/
theorem find?_ofList (records : List Record) (version : Version) :
    find? version (ofList records) = find? version records.reverse := by
  induction records using List.reverseRecOn with
  | nil => rfl
  | append_singleton records record ih =>
    rw [ofList_append_singleton, find?_insert (ascending_ofList records), List.reverse_append,
      List.reverse_singleton, List.singleton_append, find?_cons, ih]

/-! A change may write a version in another way, but not move it. -/

section Map

variable {change : Record → Record}
  (hchange : ∀ record, (change record).version.same record.version = true)

include hchange

theorem ascending_map (h : Ascending timeline) : Ascending (timeline.map change) := by
  refine List.pairwise_map.mpr (h.imp fun {earlier later} hlt => ?_)
  rw [Version.lt_congr_left (hchange earlier), Version.lt_congr_right (hchange later)]
  exact hlt

theorem find?_map (version : Version) (timeline : Timeline) :
    find? version (timeline.map change) = (find? version timeline).map change := by
  induction timeline with
  | nil => rfl
  | cons first rest ih =>
    rw [List.map_cons, find?_cons, find?_cons, Version.same_congr_right (hchange first), ih]
    split <;> rfl

end Map

theorem ascending_upTo (h : Ascending timeline) (target : Version) :
    Ascending (timeline.upTo target) :=
  List.Pairwise.filter _ h

theorem find?_upTo (target version : Version) (timeline : Timeline) :
    find? version (upTo target timeline) =
      if version ≤ target then find? version timeline else none := by
  induction timeline with
  | nil => simp [upTo]
  | cons first rest ih =>
    have hhead : version.same first.version = true →
        (first.version ≤ target ↔ version ≤ target) :=
      fun hsame => (Version.le_congr_left hsame).symm
    unfold upTo at ih ⊢
    rw [List.filter_cons]
    by_cases hsame : version.same first.version = true
    · by_cases hle : version ≤ target <;>
        simp [find?_cons, hsame, hhead hsame, hle, ih]
    · by_cases hle : first.version ≤ target <;>
        simp [find?_cons, hsame, hle, ih]

/-! ### A timeline is determined by what is found in it -/

theorem mem_iff_find?_eq_some (h : Ascending timeline) :
    record ∈ timeline ↔ find? record.version timeline = some record := by
  rw [find?_eq_some_iff h.distinct]
  simp

theorem ext (hleft : Ascending left) (hright : Ascending right)
    (h : ∀ version, find? version left = find? version right) : left = right := by
  refine List.Perm.eq_of_pairwise (fun earlier later _ _ hlt hgt => ?_) hleft hright ?_
  · exact absurd hgt hlt.not_gt
  · have hnodup : ∀ {timeline : Timeline}, Ascending timeline → timeline.Nodup := fun hascending =>
      List.Pairwise.imp (fun hlt heq => (heq ▸ hlt).ne rfl) hascending
    refine (List.perm_ext_iff_of_nodup (hnodup hleft) (hnodup hright)).mpr fun record => ?_
    rw [mem_iff_find?_eq_some hleft, mem_iff_find?_eq_some hright, h]

end Timeline

end MigrationStatus.Migration
