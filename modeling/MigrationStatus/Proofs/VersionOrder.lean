import Mathlib.Order.Basic
import MigrationStatus.Version
/-!
# Versions are totally preordered

Two versions can stand at one position without being equal, as `1` and `1.0` do, so `≤` is no
partial order. It is a preorder in which any two versions compare, `same` is its equivalence, and
`<` does not see how a version is written. Everything built on the order of versions, the timeline
first of all, needs no more than that.
-/

namespace MigrationStatus.Version

/-- Versions compare by their kind, and those of one kind by their numbers. -/
theorem compare_eq_compareLex :
    (compare : Version → Version → Ordering) =
      compareLex (compareOn rank) (compareOn fun version => version.parts?.getD []) := by
  funext left right
  cases left <;> cases right <;> rfl

instance : Std.TransOrd Version := by
  unfold Std.TransOrd
  rw [compare_eq_compareLex]
  infer_instance

variable {left right version bound : Version}

theorem lt_iff_compare : left < right ↔ compare left right = .lt := Iff.rfl

theorem le_iff_compare : left ≤ right ↔ (compare left right).isLE = true := Iff.rfl

theorem same_iff_compare : left.same right = true ↔ compare left right = .eq := by
  simp [same]

instance : Preorder Version where
  le := (· ≤ ·)
  lt := (· < ·)
  le_refl version := Std.ReflOrd.isLE_rfl (a := version)
  le_trans _ _ _ := Std.TransOrd.isLE_trans
  lt_iff_le_not_ge left right := by
    rw [le_iff_compare, le_iff_compare, lt_iff_compare, Std.OrientedOrd.eq_swap (a := right)]
    cases compare left right <;> simp

instance : Std.Total (α := Version) (· ≤ ·) where
  total left right := by
    rw [le_iff_compare, le_iff_compare, Std.OrientedOrd.eq_swap (a := right)]
    cases compare left right <;> simp

theorem not_lt_iff_le : ¬ left < right ↔ right ≤ left := by
  rw [lt_iff_compare, le_iff_compare, Std.OrientedOrd.eq_swap (a := right)]
  cases compare left right <;> simp

/-! ### Standing at the same position -/

theorem same_iff_le_and_le : left.same right = true ↔ left ≤ right ∧ right ≤ left := by
  rw [same_iff_compare, le_iff_compare, le_iff_compare, Std.OrientedOrd.eq_swap (a := right)]
  cases compare left right <;> simp

theorem lt_or_same_or_gt (left right : Version) :
    left < right ∨ left.same right = true ∨ right < left := by
  by_cases hlt : left < right
  · exact Or.inl hlt
  by_cases hgt : right < left
  · exact Or.inr (Or.inr hgt)
  exact Or.inr (Or.inl (same_iff_le_and_le.mpr ⟨not_lt_iff_le.mp hgt, not_lt_iff_le.mp hlt⟩))

@[simp]
theorem same_self (version : Version) : version.same version = true :=
  same_iff_le_and_le.mpr ⟨le_rfl, le_rfl⟩

theorem same_symm (h : left.same right = true) : right.same left = true :=
  same_iff_le_and_le.mpr (same_iff_le_and_le.mp h).symm

theorem same_comm (left right : Version) : left.same right = right.same left :=
  Bool.eq_iff_iff.mpr ⟨same_symm, same_symm⟩

theorem same_trans (hleft : left.same version = true) (hright : version.same right = true) :
    left.same right = true := by
  rw [same_iff_le_and_le] at *
  exact ⟨hleft.1.trans hright.1, hright.2.trans hleft.2⟩

theorem same_congr_left (h : left.same right = true) (version : Version) :
    left.same version = right.same version :=
  Bool.eq_iff_iff.mpr ⟨same_trans (same_symm h), same_trans h⟩

theorem same_congr_right (h : left.same right = true) (version : Version) :
    version.same left = version.same right := by
  rw [same_comm version, same_comm version, same_congr_left h]

theorem lt_congr_left (h : left.same right = true) : left < bound ↔ right < bound :=
  ⟨(same_iff_le_and_le.mp h).2.trans_lt, (same_iff_le_and_le.mp h).1.trans_lt⟩

theorem lt_congr_right (h : left.same right = true) : bound < left ↔ bound < right :=
  ⟨fun hlt => hlt.trans_le (same_iff_le_and_le.mp h).1,
    fun hlt => hlt.trans_le (same_iff_le_and_le.mp h).2⟩

theorem le_congr_left (h : left.same right = true) : left ≤ bound ↔ right ≤ bound := by
  rw [← not_lt_iff_le, ← not_lt_iff_le, lt_congr_right h]

theorem not_same_of_lt (h : left < right) : left.same right = false := by
  rw [Bool.eq_false_iff, ne_eq, same_iff_le_and_le, not_and]
  exact fun _ hle => h.not_ge hle

theorem not_same_of_gt (h : right < left) : left.same right = false :=
  (same_comm left right).trans (not_same_of_lt h)

theorem lt_of_le_of_not_same (hle : left ≤ right) (h : left.same right = false) : left < right := by
  rcases lt_or_same_or_gt left right with hlt | hsame | hgt
  · exact hlt
  · exact absurd hsame (Bool.eq_false_iff.mp h)
  · exact absurd hle hgt.not_ge

/-! ### The two bounds -/

theorem empty_lt (h : version ≠ .empty) : .empty < version := by
  cases version with
  | empty => exact absurd rfl h
  | numbered parts text => exact lt_iff_compare.mpr rfl
  | latest => exact lt_iff_compare.mpr rfl

theorem not_lt_empty (version : Version) : ¬ version < .empty := by
  cases version <;> exact not_lt_iff_le.mpr (le_iff_compare.mpr rfl)

theorem le_latest (version : Version) : version ≤ .latest := by
  cases version <;> exact le_iff_compare.mpr rfl

end MigrationStatus.Version
