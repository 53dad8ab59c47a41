import MigrationStatus.Proofs.VersionGrammar
/-!
# Versions are ordered by their numbers

Versions are compared by lists without zeros at the end, the shorter first where one runs out. This
is the comparison of the numbers place by place, as if zeros without end followed either list: where
one list has run out, the next number of the other is compared with zero, and since the other does
not end in zeros, it is not zero for good. Order, equality and what a hash sees are all read off
that.
-/

namespace MigrationStatus.Version

/-- The number at a place, where zeros without end follow the numbers. -/
def numberAt (numbers : List UInt64) (place : Nat) : Nat := (numbers.getD place 0).toNat

/-- At the first place where the lists differ, the left one has the smaller number. -/
def Precedes (left right : List UInt64) : Prop :=
  ∃ place, (∀ earlier < place, numberAt left earlier = numberAt right earlier) ∧
    numberAt left place < numberAt right place

/-- The version was read from a text that writes these numbers, or put together from them. -/
inductive MadeOf : Version → List UInt64 → Prop
  | read {text : String} {written : List Char} {found : List UInt64} {version : Version}
    (hwrites : Writes text written found) (h : parse text = .ok version) : MadeOf version found
  | ofParts (found : List UInt64) : MadeOf (ofParts found) found

variable {left right version : Version} {first second found : List UInt64}

/-! ### Place by place -/

theorem numberAt_zero (numbers : List UInt64) : numberAt numbers 0 = (numbers.headD 0).toNat := by
  cases numbers <;> rfl

theorem numberAt_succ (numbers : List UInt64) (place : Nat) :
    numberAt numbers (place + 1) = numberAt numbers.tail place := by
  cases numbers <;> rfl

theorem precedes_iff_head_tail :
    Precedes first second ↔ numberAt first 0 < numberAt second 0 ∨
      numberAt first 0 = numberAt second 0 ∧ Precedes first.tail second.tail := by
  constructor
  · rintro ⟨place, hequal, hless⟩
    cases place with
    | zero => exact .inl hless
    | succ place =>
      refine .inr ⟨hequal 0 (Nat.zero_lt_succ place), place, fun earlier hlt => ?_, ?_⟩
      · rw [← numberAt_succ, ← numberAt_succ]
        exact hequal (earlier + 1) (Nat.succ_lt_succ hlt)
      · rwa [← numberAt_succ, ← numberAt_succ]
  · rintro (hless | ⟨hhead, place, hequal, hless⟩)
    · exact ⟨0, fun earlier hlt => absurd hlt (Nat.not_lt_zero earlier), hless⟩
    · refine ⟨place + 1, fun earlier hlt => ?_, ?_⟩
      · cases earlier with
        | zero => exact hhead
        | succ earlier =>
          rw [numberAt_succ, numberAt_succ]
          exact hequal earlier (Nat.lt_of_succ_lt_succ hlt)
      · rwa [numberAt_succ, numberAt_succ]

theorem forall_numberAt_iff_head_tail :
    (∀ place, numberAt first place = numberAt second place) ↔
      numberAt first 0 = numberAt second 0 ∧
        ∀ place, numberAt first.tail place = numberAt second.tail place := by
  constructor
  · intro h
    refine ⟨h 0, fun place => ?_⟩
    rw [← numberAt_succ, ← numberAt_succ]
    exact h (place + 1)
  · rintro ⟨hhead, htail⟩ place
    cases place with
    | zero => exact hhead
    | succ place =>
      rw [numberAt_succ, numberAt_succ]
      exact htail place

/-! ### Lists without zeros at the end -/

theorem trimZeros_headD_cons_tail (numbers : List UInt64) :
    trimZeros (numbers.headD 0 :: numbers.tail) = trimZeros numbers := by
  cases numbers <;> rfl

theorem trimZeros_cons_of_kept {a : UInt64} (h : ¬ (a = 0 ∧ trimZeros found = [])) :
    trimZeros (a :: found) = a :: trimZeros found := by
  rw [trimZeros]
  split
  · next hrest =>
    rw [if_neg fun ha => h ⟨ha, hrest⟩, hrest]
  · rfl

theorem trimZeros_cons_of_dropped {a : UInt64} (h : a = 0 ∧ trimZeros found = []) :
    trimZeros (a :: found) = [] := by
  rw [trimZeros, h.2]
  exact if_pos h.1

/-- Nothing left of the left list means a zero at each of its places. What is left of the right one
does not end in zeros, so one of its numbers is greater. -/
theorem compare_nil_trimZeros_cons (b : UInt64) (second : List UInt64) :
    compare [] (trimZeros (b :: second)) = (compare 0 b).then (compare [] (trimZeros second)) := by
  by_cases hdropped : b = 0 ∧ trimZeros second = []
  · rw [trimZeros_cons_of_dropped hdropped, hdropped.1, hdropped.2]
    rfl
  · rw [trimZeros_cons_of_kept hdropped, List.compare_nil_cons]
    symm
    rw [Ordering.then_eq_lt]
    by_cases hzero : b = 0
    · refine .inr ⟨hzero ▸ Std.ReflOrd.compare_self, ?_⟩
      cases hrest : trimZeros second with
      | nil => exact absurd ⟨hzero, hrest⟩ hdropped
      | cons next others => exact List.compare_nil_cons
    · left
      rw [Std.compare_eq_lt, UInt64.lt_iff_toNat_lt]
      exact Nat.pos_of_ne_zero fun hvalue => hzero (UInt64.toNat_inj.mp hvalue)

/-- One place more in front decides first, whether or not anything is left behind it. -/
theorem compare_trimZeros_cons (a b : UInt64) (first second : List UInt64) :
    compare (trimZeros (a :: first)) (trimZeros (b :: second)) =
      (compare a b).then (compare (trimZeros first) (trimZeros second)) := by
  by_cases hleft : a = 0 ∧ trimZeros first = []
  · rw [trimZeros_cons_of_dropped hleft, hleft.1, hleft.2]
    exact compare_nil_trimZeros_cons b second
  · by_cases hright : b = 0 ∧ trimZeros second = []
    · rw [trimZeros_cons_of_dropped hright, hright.1, hright.2, Std.OrientedOrd.eq_swap,
        compare_nil_trimZeros_cons, Ordering.swap_then, ← Std.OrientedOrd.eq_swap,
        ← Std.OrientedOrd.eq_swap]
    · rw [trimZeros_cons_of_kept hleft, trimZeros_cons_of_kept hright, List.compare_cons_cons]

theorem compare_trimZeros_eq (first second : List UInt64) :
    compare (trimZeros first) (trimZeros second) =
      (compare (first.headD 0) (second.headD 0)).then
        (compare (trimZeros first.tail) (trimZeros second.tail)) := by
  rw [← trimZeros_headD_cons_tail first, ← trimZeros_headD_cons_tail second,
    compare_trimZeros_cons]

/-- The comparison of trimmed lists, by places. The induction is on how many places are left of the
longer list, since either may run out first. -/
theorem compare_trimZeros_iff {length : Nat} (hfirst : first.length ≤ length)
    (hsecond : second.length ≤ length) :
    (compare (trimZeros first) (trimZeros second) = .lt ↔ Precedes first second) ∧
      (compare (trimZeros first) (trimZeros second) = .eq ↔
        ∀ place, numberAt first place = numberAt second place) := by
  induction length generalizing first second with
  | zero =>
    rw [List.eq_nil_of_length_eq_zero (Nat.le_zero.mp hfirst),
      List.eq_nil_of_length_eq_zero (Nat.le_zero.mp hsecond)]
    refine ⟨iff_of_false nofun ?_, iff_of_true rfl fun place => rfl⟩
    rintro ⟨place, -, hless⟩
    exact Nat.lt_irrefl _ hless
  | succ length ih =>
    have hlength (numbers : List UInt64) (h : numbers.length ≤ length + 1) :
        numbers.tail.length ≤ length := by
      rw [List.length_tail]
      omega
    obtain ⟨hlt, heq⟩ := ih (hlength first hfirst) (hlength second hsecond)
    rw [compare_trimZeros_eq, Ordering.then_eq_lt, Ordering.then_eq_eq, hlt, heq,
      Std.compare_eq_lt, Std.compare_eq_iff_eq, UInt64.lt_iff_toNat_lt, ← UInt64.toNat_inj,
      ← numberAt_zero, ← numberAt_zero]
    exact ⟨precedes_iff_head_tail.symm, forall_numberAt_iff_head_tail.symm⟩

theorem compare_trimZeros_eq_lt_iff :
    compare (trimZeros first) (trimZeros second) = .lt ↔ Precedes first second :=
  (compare_trimZeros_iff (Nat.le_max_left ..) (Nat.le_max_right ..)).1

theorem compare_trimZeros_eq_eq_iff :
    compare (trimZeros first) (trimZeros second) = .eq ↔
      ∀ place, numberAt first place = numberAt second place :=
  (compare_trimZeros_iff (Nat.le_max_left ..) (Nat.le_max_right ..)).2

/-! ### Versions -/

theorem MadeOf.eq_numbered (h : MadeOf version found) :
    ∃ text, version = numbered (.ofList found) text := by
  cases h with
  | read hwrites h => exact ⟨_, Except.ok.inj (h.symm.trans hwrites.parse_eq)⟩
  | ofParts => exact ⟨_, rfl⟩

theorem MadeOf.compare_eq (hleft : MadeOf left first) (hright : MadeOf right second) :
    compare left right = compare (trimZeros first) (trimZeros second) := by
  obtain ⟨text, rfl⟩ := hleft.eq_numbered
  obtain ⟨other, rfl⟩ := hright.eq_numbered
  rfl

theorem exists_madeOf (hmade : Made version) (hnumbered : version.isNumbered = true) :
    ∃ found, MadeOf version found := by
  cases hmade with
  | @read text version h =>
    by_cases hlatest : IsLatestText text
    · cases (parse_of_isLatestText hlatest).symm.trans h
      cases hnumbered
    · obtain ⟨written, found, hwrites⟩ := exists_writes_of_parse hlatest h
      exact ⟨found, .read hwrites h⟩
  | ofParts found => exact ⟨found, .ofParts found⟩

theorem compare_eq_gt_iff : compare left right = .gt ↔ compare right left = .lt := by
  rw [Std.OrientedOrd.eq_swap (a := right), Ordering.swap_eq_lt]

theorem compare_bounds (h : version.isNumbered = true) :
    compare empty version = .lt ∧ compare version latest = .lt := by
  cases version with
  | numbered parts text => exact ⟨rfl, rfl⟩
  | empty => cases h
  | latest => cases h

theorem compare_eq_eq_iff_hashKey :
    compare left right = .eq ↔ left.hashKey = right.hashKey := by
  rw [compare_eq_compareLex, compareLex_eq_eq, hashKey, hashKey, Prod.mk.injEq]
  exact and_congr Std.LawfulEqOrd.compare_eq_iff_eq Std.LawfulEqOrd.compare_eq_iff_eq

/-- **The order of versions is the order of their numbers.** -/
theorem compare_by_numbers :
    (∀ version, Made version → version.isNumbered = true → ∃ found, MadeOf version found) ∧
    (∀ left right first second, MadeOf left first → MadeOf right second →
      (compare left right = .lt ↔ Precedes first second) ∧
      (compare left right = .eq ↔ ∀ place, numberAt first place = numberAt second place) ∧
      (compare left right = .gt ↔ Precedes second first)) ∧
    (∀ version : Version, version.isNumbered = true →
      compare empty version = .lt ∧ compare version latest = .lt) ∧
    compare empty latest = .lt ∧
    (∀ left right : Version, compare right left = (compare left right).swap ∧
      (left ≤ right ∨ right ≤ left) ∧ (left ≤ right → right ≤ left → left.same right = true)) ∧
    (∀ left middle right : Version, left ≤ middle → middle ≤ right → left ≤ right) ∧
    ∀ left right : Version, (left.same right = true ↔ compare left right = .eq) ∧
      (compare left right = .eq ↔ left.hashKey = right.hashKey) := by
  refine ⟨fun version => exists_madeOf, ?_, fun version => compare_bounds, rfl, ?_, ?_, ?_⟩
  · intro left right first second hleft hright
    refine ⟨?_, ?_, ?_⟩
    · rw [hleft.compare_eq hright, compare_trimZeros_eq_lt_iff]
    · rw [hleft.compare_eq hright, compare_trimZeros_eq_eq_iff]
    · rw [compare_eq_gt_iff, hright.compare_eq hleft, compare_trimZeros_eq_lt_iff]
  · intro left right
    refine ⟨Std.OrientedOrd.eq_swap, Std.Total.total left right, ?_⟩
    intro hle hge
    exact same_iff_le_and_le.mpr ⟨hle, hge⟩
  · intro left middle right hleft hright
    exact hleft.trans hright
  · intro left right
    exact ⟨same_iff_compare, compare_eq_eq_iff_hashKey⟩

end MigrationStatus.Version
