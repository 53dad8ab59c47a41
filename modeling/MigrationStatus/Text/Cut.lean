/-!
Cutting a text at the first place where a separator stands.

`cut? separator text` is the pair of what stands before and after the first occurrence. The main
statement says just that: a text is cut into two parts exactly if it consists of them with the
separator in between, and the separator does not stand any further in front.
-/

namespace MigrationStatus.Text

/-- The text after `start`, if it begins with it. -/
def after? : (start text : List Char) → Option (List Char)
  | [], text => some text
  | _ :: _, [] => none
  | s :: start, c :: text => if s = c then after? start text else none

theorem after?_eq_some_iff {start text rest : List Char} :
    after? start text = some rest ↔ text = start ++ rest := by
  induction start generalizing text with
  | nil => simp [after?, eq_comm]
  | cons s start ih =>
    cases text with
    | nil => simp [after?]
    | cons c text =>
      by_cases h : s = c
      · simp [after?, h, ih]
      · simp [after?, h, Ne.symm h]

/-- The parts of the text before and after the first occurrence of the separator. -/
def cut? (separator : List Char) : List Char → Option (List Char × List Char)
  | [] => if separator.isEmpty then some ([], []) else none
  | c :: text =>
    match after? separator (c :: text) with
    | some rest => some ([], rest)
    | none => (cut? separator text).map fun (front, rest) => (c :: front, rest)

variable {separator piece text front rest : List Char} {c : Char}

/-- Between `front` and `rest` the separator stands for the first time. -/
def IsFirst (separator front rest : List Char) : Prop :=
  ∀ before behind, front ++ separator ++ rest = before ++ separator ++ behind →
    front.length ≤ before.length

theorem isFirst_nil : IsFirst separator [] rest := fun _ _ _ => Nat.zero_le _

theorem isFirst_cons_iff :
    IsFirst separator (c :: front) rest ↔
      after? separator (c :: (front ++ separator ++ rest)) = none ∧
        IsFirst separator front rest := by
  constructor
  · intro h
    constructor
    · rw [Option.eq_none_iff_forall_ne_some]
      intro behind hbehind
      have hlength := h [] behind (after?_eq_some_iff.mp hbehind)
      exact absurd hlength (Nat.not_succ_le_zero _)
    · intro before behind heq
      exact Nat.le_of_succ_le_succ (h (c :: before) behind (congrArg (c :: ·) heq))
  · rintro ⟨hnone, h⟩ before behind heq
    cases before with
    | nil =>
      have hsome : after? separator (c :: (front ++ separator ++ rest)) = some behind :=
        after?_eq_some_iff.mpr heq
      cases hnone.symm.trans hsome
    | cons b before =>
      obtain ⟨-, htail⟩ := List.cons.inj heq
      exact Nat.succ_le_succ (h before behind htail)

/-- The separator stands nowhere in front if it cannot begin at any character there. -/
theorem isFirst_of_forall (h : ∀ before c behind, front = before ++ c :: behind →
    after? separator (c :: (behind ++ separator ++ rest)) = none) :
    IsFirst separator front rest := by
  induction front with
  | nil => exact isFirst_nil
  | cons c front ih =>
    refine isFirst_cons_iff.mpr ⟨h [] c front rfl, ih fun before d behind heq => ?_⟩
    exact h (c :: before) d behind (congrArg (c :: ·) heq)

/-- Where a text is cut. -/
theorem cut?_eq_some_iff :
    cut? separator text = some (front, rest) ↔
      text = front ++ separator ++ rest ∧ IsFirst separator front rest := by
  induction text generalizing front with
  | nil =>
    cases separator with
    | nil => simp +contextual [cut?, isFirst_nil, eq_comm]
    | cons s separator => simp [cut?]
  | cons c text ih =>
    rw [cut?]
    cases hafter : after? separator (c :: text) with
    | some behind =>
      have hwhole := after?_eq_some_iff.mp hafter
      simp only [Option.some.injEq, Prod.mk.injEq]
      constructor
      · rintro ⟨rfl, rfl⟩
        exact ⟨hwhole, isFirst_nil⟩
      · rintro ⟨htext, hfirst⟩
        have hlength := hfirst [] behind (htext.symm.trans hwhole)
        obtain rfl := List.eq_nil_of_length_eq_zero (Nat.le_zero.mp hlength)
        exact ⟨rfl, List.append_cancel_left (hwhole.symm.trans htext)⟩
    | none =>
      simp only [Option.map_eq_some_iff, Prod.exists, Prod.mk.injEq]
      constructor
      · rintro ⟨front, rest, hcut, rfl, rfl⟩
        obtain ⟨rfl, hfirst⟩ := ih.mp hcut
        exact ⟨rfl, isFirst_cons_iff.mpr ⟨hafter, hfirst⟩⟩
      · rintro ⟨htext, hfirst⟩
        cases front with
        | nil => cases hafter.symm.trans (after?_eq_some_iff.mpr htext)
        | cons b front =>
          obtain ⟨rfl, rfl⟩ := List.cons.inj htext
          obtain ⟨-, hfirst⟩ := isFirst_cons_iff.mp hfirst
          exact ⟨front, rest, ih.mpr ⟨rfl, hfirst⟩, rfl, rfl⟩

/-- What stands further behind does not matter. -/
theorem isFirst_append_iff (more : List Char) :
    IsFirst separator front (rest ++ more) ↔ IsFirst separator front rest := by
  constructor
  · intro h before behind heq
    apply h before (behind ++ more)
    rw [← List.append_assoc, heq, List.append_assoc]
  · intro h before behind heq
    refine Nat.le_of_not_lt fun hlt => ?_
    have hwhole : before ++ separator <+: front ++ separator ++ rest ++ more :=
      ⟨behind, heq.symm.trans (List.append_assoc ..).symm⟩
    have hlength : (before ++ separator).length ≤ (front ++ separator ++ rest).length := by
      simp only [List.length_append]
      omega
    obtain ⟨behind, heq⟩ :=
      List.prefix_of_prefix_length_le hwhole (List.prefix_append ..) hlength
    exact Nat.not_lt.mpr (h before behind heq.symm) hlt

/-- Whether the piece occurs in the text. -/
def holds (piece text : List Char) : Bool := (cut? piece text).isSome

theorem holds_eq_false_iff :
    holds piece text = false ↔ ∀ front rest, text ≠ front ++ piece ++ rest := by
  rw [holds, Option.isSome_eq_false_iff, Option.isNone_iff_eq_none]
  induction text with
  | nil =>
    cases piece with
    | nil => simp [cut?]
    | cons p piece => simp [cut?]
  | cons c text ih =>
    rw [cut?]
    cases hafter : after? piece (c :: text) with
    | some rest =>
      have hwhole := after?_eq_some_iff.mp hafter
      exact iff_of_false nofun fun h => h [] rest hwhole
    | none =>
      simp only [Option.map_eq_none_iff, ih]
      constructor
      · intro h front rest heq
        cases front with
        | nil => cases hafter.symm.trans (after?_eq_some_iff.mpr heq)
        | cons b front => exact h front rest (List.cons.inj heq).2
      · intro h front rest heq
        exact h (c :: front) rest (congrArg (c :: ·) heq)

/-- The text before `ending`, if it closes with it. -/
def before? (ending text : List Char) : Option (List Char) :=
  (after? ending.reverse text.reverse).map List.reverse

theorem before?_eq_some_iff {ending text front : List Char} :
    before? ending text = some front ↔ text = front ++ ending := by
  rw [before?, Option.map_eq_some_iff]
  constructor
  · rintro ⟨rest, hrest, rfl⟩
    have := congrArg List.reverse (after?_eq_some_iff.mp hrest)
    simpa using this
  · rintro rfl
    exact ⟨front.reverse, after?_eq_some_iff.mpr (by simp), by simp⟩

/-- A character of joined texts stands in the separator or in one of the texts. -/
theorem mem_of_mem_intercalate {pieces : List (List Char)}
    (h : c ∈ separator.intercalate pieces) : c ∈ separator ∨ ∃ piece ∈ pieces, c ∈ piece := by
  induction pieces with
  | nil => simp at h
  | cons first rest ih =>
    cases rest with
    | nil => exact .inr ⟨first, by simp, by simpa using h⟩
    | cons second others =>
      rw [List.intercalate_cons_cons, List.mem_append, List.mem_append] at h
      rcases h with (hfirst | hseparator) | hrest
      · exact .inr ⟨first, List.mem_cons_self, hfirst⟩
      · exact .inl hseparator
      · refine (ih hrest).imp_right fun ⟨piece, hpiece, hc⟩ => ?_
        exact ⟨piece, List.mem_cons_of_mem first hpiece, hc⟩

/-- The text with every `old` character written as `new`. -/
def replace (old new : Char) (text : List Char) : List Char :=
  text.map fun c => if c = old then new else c

/-- Equality of two texts when ASCII letters of either case count as one. -/
def sameIgnoringCase (left right : List Char) : Bool :=
  left.map Char.toLower == right.map Char.toLower

/-- Every line of a text, without its line end: a line feed or the pair of carriage return and
line feed. A last line end opens no further line. -/
def lines (text : List Char) : List (List Char) :=
  let pieces := text.splitOn '\n'
  let kept := if pieces.getLast? = some [] then pieces.dropLast else pieces
  kept.map fun line => (before? ['\r'] line).getD line

end MigrationStatus.Text
