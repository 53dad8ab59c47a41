import Mathlib.Data.List.DropRight
import Mathlib.Data.List.Forall2
import Mathlib.Tactic.IntervalCases
import MigrationStatus.Proofs.VersionOrder
import MigrationStatus.Version.Text
/-!
# When two texts stand for one version

`spelling` strips a version text of all that its position does not depend on: white space around it,
the letter in front, the choice between point and underscore, plus signs and zeros in front of a
number, and numbers at the end that are zero. Of texts that are versions, two stand at the same
position exactly if they agree in what is left. The heart of it is that a run of digits without
zeros in front is the decimal form of its value, so that what is left of a number determines it.
-/

namespace MigrationStatus

/-! ### Reading one item after another -/

/-- Reading a list succeeds exactly if reading each of its items does. -/
theorem mapM_eq_ok_iff {ε α β : Type} {read : α → Except ε β} {items : List α} {values : List β} :
    items.mapM read = .ok values ↔ items.map read = values.map .ok := by
  induction items generalizing values with
  | nil => simp [pure, Except.pure, eq_comm]
  | cons item rest ih =>
    rw [List.mapM_cons, List.map_cons]
    cases hitem : read item with
    | error fault => cases values <;> simp [bind, Except.bind]
    | ok value =>
      cases hrest : rest.mapM read with
      | error fault =>
        cases values with
        | nil => simp [bind, Except.bind]
        | cons first others => simp [bind, Except.bind, ← ih, hrest]
      | ok others =>
        cases values with
        | nil => simp [bind, Except.bind, pure, Except.pure]
        | cons first last => simp [bind, Except.bind, pure, Except.pure, ← ih, hrest]

theorem mapM_eq_ok_iff_forall₂ {ε α β : Type} {read : α → Except ε β} {items : List α}
    {values : List β} :
    items.mapM read = .ok values ↔
      List.Forall₂ (fun item value => read item = .ok value) items values := by
  rw [mapM_eq_ok_iff, ← List.forall₂_eq_eq_eq, List.forall₂_map_left_iff,
    List.forall₂_map_right_iff]

namespace Version

/-! ### The digits that carry the value of a number -/

/-- The decimal form of a number, with nothing for zero. -/
def significantDigits (n : UInt64) : List Char :=
  if n = 0 then [] else Nat.toDigits 10 n.toNat

theorem digitsValue_eq_ofDigitChars (digits : List Char) :
    digitsValue digits = Nat.ofDigitChars 10 digits 0 :=
  Nat.ofDigitChars_eq_foldl.symm

theorem digitChar_of_isDigit {c : Char} (h : c.isDigit = true) :
    (c.toNat - '0'.toNat).digitChar = c ∧ c.toNat - '0'.toNat < 10 := by
  obtain ⟨hlow, hhigh⟩ : '0'.toNat ≤ c.toNat ∧ c.toNat ≤ '9'.toNat := by
    simpa [Char.isDigit, Char.le_def, UInt32.le_iff_toNat_le] using h
  have hlt : c.toNat - '0'.toNat < 10 := by
    change c.toNat ≤ 57 at hhigh
    change c.toNat - 48 < 10
    omega
  refine ⟨?_, hlt⟩
  generalize hn : c.toNat - '0'.toNat = n at hlt
  have hc : c.toNat = n + 48 := by
    change 48 ≤ c.toNat at hlow
    change c.toNat - 48 = n at hn
    omega
  apply Char.toNat_inj.mp
  rw [hc]
  interval_cases n <;> rfl

/-- Digits behind a number that is not zero are kept as they are. -/
theorem toDigits_ofDigitChars {digits : List Char} (hdigits : ∀ c ∈ digits, c.isDigit = true)
    {value : Nat} (hvalue : 0 < value) :
    Nat.toDigits 10 (Nat.ofDigitChars 10 digits value) = Nat.toDigits 10 value ++ digits := by
  induction digits generalizing value with
  | nil => simp
  | cons c rest ih =>
    obtain ⟨hchar, hlt⟩ := digitChar_of_isDigit (hdigits c (List.mem_cons_self ..))
    have hrest : ∀ d ∈ rest, d.isDigit = true := fun d hd => hdigits d (List.mem_cons_of_mem c hd)
    rw [Nat.ofDigitChars_cons, ih hrest (by omega),
      ← Nat.toDigits_append_toDigits (by decide) hvalue hlt, Nat.toDigits_of_lt_base hlt, hchar,
      List.append_assoc, List.singleton_append]

theorem dropWhile_eq_toDigits {digits : List Char} (hdigits : ∀ c ∈ digits, c.isDigit = true) :
    digits.dropWhile (· == '0') =
      if digitsValue digits = 0 then [] else Nat.toDigits 10 (digitsValue digits) := by
  rw [digitsValue_eq_ofDigitChars]
  induction digits with
  | nil => simp
  | cons c rest ih =>
    obtain ⟨hchar, hlt⟩ := digitChar_of_isDigit (hdigits c (List.mem_cons_self ..))
    have hrest : ∀ d ∈ rest, d.isDigit = true := fun d hd => hdigits d (List.mem_cons_of_mem c hd)
    rw [Nat.ofDigitChars_cons, Nat.mul_zero, Nat.zero_add, List.dropWhile_cons]
    by_cases hzero : c = '0'
    · subst hzero
      simpa using ih hrest
    · have hpos : 0 < c.toNat - '0'.toNat := by
        refine Nat.pos_of_ne_zero fun hvalue => hzero ?_
        rw [← hchar, hvalue]
        rfl
      have hne : Nat.ofDigitChars 10 rest (c.toNat - '0'.toNat) ≠ 0 := by
        rw [Nat.ofDigitChars_eq_ofDigitChars_zero]
        have := Nat.mul_pos (Nat.pow_pos (n := rest.length) (show 0 < 10 by decide)) hpos
        omega
      rw [if_neg (by simpa using hzero), if_neg hne, toDigits_ofDigitChars hrest hpos,
        Nat.toDigits_of_lt_base hlt, hchar, List.singleton_append]

/-! ### Numbers -/

/-- A number as it is written, without a plus sign and zeros in front. -/
def significant (piece : List Char) : List Char := (unsigned piece).dropWhile (· == '0')

theorem significant_of_number? {piece : List Char} {n : UInt64} (h : number? piece = some n) :
    significant piece = significantDigits n := by
  dsimp only [number?] at h
  split at h
  · cases h
  · next hdigits =>
    rw [Bool.or_eq_true, not_or, Bool.not_eq_true', Bool.not_eq_false, List.all_eq_true] at hdigits
    split at h
    · next hsize =>
      cases h
      have hvalue : (UInt64.ofNatLT (digitsValue (unsigned piece)) hsize).toNat =
          digitsValue (unsigned piece) := UInt64.toNat_ofNatLT
      have hzero : UInt64.ofNatLT (digitsValue (unsigned piece)) hsize = 0 ↔
          digitsValue (unsigned piece) = 0 := by
        rw [← UInt64.toNat_inj, hvalue]
        rfl
      simp only [significant, dropWhile_eq_toDigits hdigits.2, significantDigits, hvalue, hzero]
    · cases h

theorem significantDigits_eq_nil_iff {n : UInt64} : significantDigits n = [] ↔ n = 0 := by
  unfold significantDigits
  split
  · simp_all
  · simp_all [Nat.toDigits_ne_nil]

theorem significantDigits_injective : Function.Injective significantDigits := by
  intro left right h
  by_cases hleft : left = 0
  · subst hleft
    exact (significantDigits_eq_nil_iff.mp h.symm).symm
  · have hright : right ≠ 0 := fun hzero =>
      hleft (significantDigits_eq_nil_iff.mp (h.trans (significantDigits_eq_nil_iff.mpr hzero)))
    rw [significantDigits, significantDigits, if_neg hleft, if_neg hright] at h
    have hvalue := congrArg (Nat.ofDigitChars 10 · 0) h
    exact UInt64.toNat_inj.mp (by simpa using hvalue)

/-! ### Lists of numbers -/

theorem trimZeros_append_zero (numbers : List UInt64) :
    trimZeros (numbers ++ [0]) = trimZeros numbers := by
  induction numbers with
  | nil => rfl
  | cons number rest ih => rw [List.cons_append, trimZeros, trimZeros, ih]

theorem trimZeros_eq_rdropWhile (numbers : List UInt64) :
    trimZeros numbers = numbers.rdropWhile (· == 0) := by
  induction numbers using List.reverseRecOn with
  | nil => rfl
  | append_singleton numbers number ih =>
    by_cases hzero : number = 0
    · subst hzero
      rw [trimZeros_append_zero, List.rdropWhile_concat_pos _ _ _ (by simp), ih]
    · rw [trimZeros_eq_self (by simpa using hzero),
        List.rdropWhile_concat_neg _ _ _ (by simpa using hzero)]

theorem rdropWhile_map_significantDigits (numbers : List UInt64) :
    (numbers.map significantDigits).rdropWhile List.isEmpty =
      (trimZeros numbers).map significantDigits := by
  have hempty : List.isEmpty ∘ significantDigits = (· == 0) := by
    funext number
    rw [Function.comp_apply, Bool.eq_iff_iff, List.isEmpty_iff, significantDigits_eq_nil_iff,
      beq_iff_eq]
  rw [trimZeros_eq_rdropWhile, List.rdropWhile, ← List.map_reverse, List.dropWhile_map,
    ← List.map_reverse, hempty, List.rdropWhile]

theorem map_significant_of_numbers {pieces : List (List Char)} {found : List UInt64}
    (h : numbers pieces = .ok found) :
    pieces.map significant = found.map significantDigits := by
  rw [numbers, mapM_eq_ok_iff] at h
  induction pieces generalizing found with
  | nil => simp_all
  | cons piece rest ih =>
    cases found with
    | nil => cases h
    | cons n others =>
      obtain ⟨hpiece, hrest⟩ := List.cons.inj h
      cases hnumber : number? piece with
      | none => simp [hnumber] at hpiece
      | some number =>
        obtain rfl : number = n := by simpa [hnumber] using hpiece
        rw [List.map_cons, List.map_cons, ih hrest, significant_of_number? hnumber]

/-! ### Texts -/

/-- A version text without all that its position does not depend on. The word for the upper bound
keeps nothing. -/
def spelling (text : String) : Option (List (List Char)) :=
  let body := Text.trim text.toList
  if Text.sameIgnoringCase body "latest".toList then none
  else
    let pieces := (Text.replace '_' '.' (withoutLetter body)).splitOn '.'
    some ((pieces.map significant).rdropWhile List.isEmpty)

/-- What is left of a version text are the numbers of its version. -/
theorem spelling_of_parse {text : String} {version : Version} (h : parse text = .ok version) :
    version ≠ .empty ∧ spelling text = version.parts?.map (·.map significantDigits) := by
  dsimp only [parse, ofChars] at h
  dsimp only [spelling]
  split at h
  · next hlatest =>
    cases h
    rw [if_pos hlatest]
    exact ⟨Version.noConfusion, rfl⟩
  · next hlatest =>
    rw [if_neg hlatest]
    split at h
    · cases h
    · split at h
      · next found hfound =>
        cases h
        refine ⟨Version.noConfusion, ?_⟩
        rw [map_significant_of_numbers hfound, rdropWhile_map_significantDigits]
        rfl
      · cases h

theorem same_iff_parts?_eq {left right : Version} (hleft : left ≠ .empty)
    (hright : right ≠ .empty) :
    left.same right = true ↔ left.parts? = right.parts? := by
  rw [same_iff_compare]
  cases left with
  | empty => exact absurd rfl hleft
  | numbered parts text =>
    cases right with
    | empty => exact absurd rfl hright
    | numbered others written =>
      have hcompare : compare (numbered parts text) (numbered others written) =
        compare parts.toList others.toList := rfl
      rw [hcompare, Std.LawfulEqOrd.compare_eq_iff_eq]
      simp [parts?]
    | latest =>
      have hcompare : compare (numbered parts text) latest = .lt := rfl
      simp [parts?, hcompare]
  | latest =>
    cases right with
    | empty => exact absurd rfl hright
    | numbered others text =>
      have hcompare : compare latest (numbered others text) = .gt := rfl
      simp [parts?, hcompare]
    | latest => simp [parts?, Std.ReflOrd.compare_self]

/-- **Two spellings of one version.** Texts that are versions stand at the same position exactly if
nothing distinguishes them but spelling. -/
theorem same_iff_spelling_eq {left right : String} {first second : Version}
    (hleft : parse left = .ok first) (hright : parse right = .ok second) :
    first.same second = true ↔ spelling left = spelling right := by
  obtain ⟨hfirst, hleft⟩ := spelling_of_parse hleft
  obtain ⟨hsecond, hright⟩ := spelling_of_parse hright
  rw [same_iff_parts?_eq hfirst hsecond, hleft, hright]
  exact (Option.map_injective (List.map_injective_iff.mpr significantDigits_injective)).eq_iff.symm

end Version

end MigrationStatus
