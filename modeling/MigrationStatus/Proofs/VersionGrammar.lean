import MigrationStatus.Proofs.RowConversion
import MigrationStatus.Proofs.StoredVersion
/-!
# The grammar of version texts

A version text is, up to white space around it, one optional letter and then parts with single
separators between them, each part a run of digits with or without a plus sign in front. The grammar
is written here as rules that build texts and know nothing of trimming, replacing and splitting; the
reader takes exactly the texts that the rules build, besides the word for the upper bound. What a
text stands for is decided by the numbers of its parts alone, and of those by all but the zeros at
the end.
-/

namespace MigrationStatus.Version

/-! ### Rules -/

/-- What stands between two parts. -/
inductive Separator where
  | point
  | underscore
  deriving DecidableEq, Repr

def Separator.char : Separator → Char
  | point => '.'
  | underscore => '_'

/-- A run of one or more decimal digits, with the number it stands for. -/
inductive Numeral : List Char → Nat → Prop
  | digit {d : Nat} (h : d < 10) : Numeral [d.digitChar] d
  | push {digits : List Char} {n d : Nat} (hdigits : Numeral digits n) (h : d < 10) :
    Numeral (digits ++ [d.digitChar]) (10 * n + d)

/-- A part of a version text. That its number is one of 64 bits bounds the numeral. -/
inductive Part : List Char → UInt64 → Prop
  | plain {digits : List Char} {n : UInt64} (h : Numeral digits n.toNat) : Part digits n
  | signed {digits : List Char} {n : UInt64} (h : Numeral digits n.toNat) : Part ('+' :: digits) n

/-- One or more parts with single separators between them. -/
inductive Series : List Char → List UInt64 → Prop
  | one {part : List Char} {n : UInt64} (hpart : Part part n) : Series part [n]
  | more {part rest : List Char} {n : UInt64} {others : List UInt64} (hpart : Part part n)
    (separator : Separator) (hrest : Series rest others) :
    Series (part ++ separator.char :: rest) (n :: others)

/-- The text writes these numbers, as `written`, behind at most one letter. -/
structure Writes (text : String) (written : List Char) (found : List UInt64) : Prop where
  letter : ∃ letter ∈ [[], ['V'], ['v']], Text.trim text.toList = letter ++ written
  series : Series written found

/-- The lists agree once each has enough zeros at its end. -/
def AgreeUpToZeros (left right : List UInt64) : Prop :=
  ∃ more others, left ++ List.replicate more 0 = right ++ List.replicate others 0

variable {c : Char} {d n : Nat} {number : UInt64} {digits part piece written : List Char}
  {found others : List UInt64} {text : String} {version : Version}

/-! ### Digits -/

theorem digitChar_toNat (h : d < 10) : d.digitChar.toNat - '0'.toNat = d := by
  rw [Nat.toNat_digitChar_of_lt_ten h]
  exact Nat.add_sub_cancel_left _ _

theorem isDigit_digitChar_of_lt (h : d < 10) : d.digitChar.isDigit = true := by
  rw [Nat.isDigit_digitChar]
  exact decide_eq_true h

theorem digitsValue_append_singleton (digits : List Char) (c : Char) :
    digitsValue (digits ++ [c]) = 10 * digitsValue digits + (c.toNat - '0'.toNat) := by
  rw [digitsValue, List.foldl_append]
  rfl

theorem Numeral.ne_nil (h : Numeral digits n) : digits ≠ [] := by
  cases h with
  | digit h => exact List.cons_ne_nil _ _
  | push hdigits h => simp

theorem Numeral.isDigit (h : Numeral digits n) : ∀ c ∈ digits, c.isDigit = true := by
  induction h with
  | digit h =>
    intro c hc
    rw [List.mem_singleton.mp hc]
    exact isDigit_digitChar_of_lt h
  | push hdigits h ih =>
    intro c hc
    rcases List.mem_append.mp hc with hc | hc
    · exact ih c hc
    · rw [List.mem_singleton.mp hc]
      exact isDigit_digitChar_of_lt h

theorem Numeral.digitsValue_eq (h : Numeral digits n) : digitsValue digits = n := by
  induction h with
  | digit h =>
    rw [← List.nil_append [Nat.digitChar _], digitsValue_append_singleton, digitChar_toNat h]
    exact Nat.zero_add _
  | push hdigits h ih => rw [digitsValue_append_singleton, ih, digitChar_toNat h]

theorem numeral_digitsValue (hne : digits ≠ []) (hdigits : ∀ c ∈ digits, c.isDigit = true) :
    Numeral digits (digitsValue digits) := by
  induction digits using List.reverseRecOn with
  | nil => exact absurd rfl hne
  | append_singleton front last ih =>
    obtain ⟨hchar, hlt⟩ := digitChar_of_isDigit (hdigits last (by simp))
    rw [digitsValue_append_singleton]
    by_cases hfront : front = []
    · subst hfront
      have hnumeral := Numeral.digit hlt
      rw [hchar] at hnumeral
      simpa [digitsValue] using hnumeral
    · have hrest := ih hfront fun c hc => hdigits c (List.mem_append_left _ hc)
      have hnumeral := hrest.push hlt
      rwa [hchar] at hnumeral

/-! ### Parts -/

theorem eq_unsigned_or_eq_cons (piece : List Char) :
    piece = unsigned piece ∨ piece = '+' :: unsigned piece := by
  unfold unsigned
  split
  · exact .inr rfl
  · exact .inl rfl

theorem number?_of_digitsValue (hne : unsigned piece ≠ [])
    (hdigits : ∀ c ∈ unsigned piece, c.isDigit = true)
    (hvalue : digitsValue (unsigned piece) = number.toNat) : number? piece = some number := by
  have hsize : number.toNat < UInt64.size := number.toNat_lt_size
  simp only [number?, hvalue, List.isEmpty_eq_false_iff.mpr hne, List.all_eq_true.mpr hdigits,
    hsize]
  simp

/-- A piece is read as a number exactly if it is a part with that number. -/
theorem number?_eq_some_iff : number? piece = some number ↔ Part piece number := by
  constructor
  · intro h
    obtain ⟨hne, hdigits, hsize⟩ := exists_number?_iff.mp ⟨number, h⟩
    have hvalue : (UInt64.ofNatLT (digitsValue (unsigned piece)) hsize).toNat =
        digitsValue (unsigned piece) := UInt64.toNat_ofNatLT
    have hread := h.symm.trans (number?_of_digitsValue hne hdigits hvalue.symm)
    have hnumeral : Numeral (unsigned piece) number.toNat := by
      rw [Option.some.inj hread, hvalue]
      exact numeral_digitsValue hne hdigits
    rcases eq_unsigned_or_eq_cons piece with heq | heq
    · rw [heq]
      exact .plain hnumeral
    · rw [heq]
      exact .signed hnumeral
  · intro h
    cases h with
    | plain hnumeral =>
      have hself := unsigned_eq_self hnumeral.isDigit
      apply number?_of_digitsValue
      · exact hself.symm ▸ hnumeral.ne_nil
      · exact hself.symm ▸ hnumeral.isDigit
      · exact hself.symm ▸ hnumeral.digitsValue_eq
    | signed hnumeral =>
      exact number?_of_digitsValue hnumeral.ne_nil hnumeral.isDigit hnumeral.digitsValue_eq

theorem Part.isNumeral (h : Part part number) : ∀ c ∈ part, isNumeral c = true :=
  isNumeral_of_number? (number?_eq_some_iff.mpr h)

theorem Part.point_not_mem (h : Part part number) : '.' ∉ part := by
  intro hpoint
  cases h with
  | plain hnumeral => exact absurd (hnumeral.isDigit '.' hpoint) (by decide)
  | signed hnumeral =>
    rcases List.mem_cons.mp hpoint with heq | hpoint
    · exact absurd heq (by decide)
    · exact absurd (hnumeral.isDigit '.' hpoint) (by decide)

theorem numbers_eq_ok_iff {pieces : List (List Char)} :
    numbers pieces = .ok found ↔ List.Forall₂ Part pieces found := by
  rw [numbers, mapM_eq_ok_iff_forall₂]
  apply iff_of_eq
  congr 1
  funext piece n
  rw [← number?_eq_some_iff]
  cases number? piece <;> simp

/-! ### Series -/

theorem replace_append_separator (front rest : List Char) (separator : Separator) :
    Text.replace '_' '.' (front ++ separator.char :: rest) =
      Text.replace '_' '.' front ++ '.' :: Text.replace '_' '.' rest := by
  cases separator <;> simp [Text.replace, Separator.char]

/-- With points for underscores, the pieces between the points are the parts. -/
theorem Series.forall₂_part (h : Series written found) :
    List.Forall₂ Part ((Text.replace '_' '.' written).splitOn '.') found := by
  induction h with
  | one hpart =>
    rw [replace_eq_self hpart.isNumeral, List.splitOn_eq_singleton hpart.point_not_mem]
    exact .cons hpart .nil
  | more hpart separator hrest ih =>
    rw [replace_append_separator, replace_eq_self hpart.isNumeral,
      List.splitOn_append_cons_self_of_not_mem hpart.point_not_mem]
    exact .cons hpart ih

theorem eq_of_replace_eq_part (hpart : Part part number)
    (h : Text.replace '_' '.' written = part) : written = part := by
  have hplain : '_' ∉ written := by
    intro hunderscore
    have hpoint : '.' ∈ Text.replace '_' '.' written :=
      List.mem_map.mpr ⟨'_', hunderscore, rfl⟩
    exact hpart.point_not_mem (h ▸ hpoint)
  rw [← h]
  refine ((List.map_congr_left fun c hc => if_neg ?_).trans (List.map_id written)).symm
  rintro rfl
  exact hplain hc

theorem exists_separator_of_replaced (h : (if c = '_' then '.' else c) = '.') :
    ∃ separator : Separator, separator.char = c := by
  split at h
  · next hunderscore => exact ⟨.underscore, hunderscore.symm⟩
  · exact ⟨.point, h.symm⟩

/-- The parts are put together again piece by piece, each separator as it was before. -/
theorem series_of_forall₂ {pieces : List (List Char)} (hparts : List.Forall₂ Part pieces found)
    (hne : pieces ≠ []) (h : Text.replace '_' '.' written = ['.'].intercalate pieces) :
    Series written found := by
  induction hparts generalizing written with
  | nil => exact absurd rfl hne
  | @cons part n pieces others hpart hrest ih =>
    cases pieces with
    | nil =>
      cases hrest
      have hwhole : written = part := eq_of_replace_eq_part hpart (by simpa using h)
      rw [hwhole]
      exact .one hpart
    | cons next further =>
      rw [List.intercalate_cons_cons, List.append_assoc] at h
      obtain ⟨front, behind, rfl, hfront, hbehind⟩ := List.map_eq_append_iff.mp h
      obtain ⟨c, rest, rfl, hc, hrest⟩ := List.map_eq_cons_iff.mp hbehind
      obtain ⟨separator, rfl⟩ := exists_separator_of_replaced hc
      rw [eq_of_replace_eq_part hpart hfront]
      exact .more hpart separator (ih (List.cons_ne_nil _ _) hrest)

theorem series_iff_numbers :
    Series written found ↔ numbers ((Text.replace '_' '.' written).splitOn '.') = .ok found := by
  rw [numbers_eq_ok_iff]
  constructor
  · exact Series.forall₂_part
  · intro hparts
    exact series_of_forall₂ hparts (List.splitOn_ne_nil _ _) (List.intercalate_splitOn ..).symm

/-! ### Texts -/

theorem exists_letter (body : List Char) :
    ∃ letter ∈ [[], ['V'], ['v']], body = letter ++ withoutLetter body := by
  unfold withoutLetter
  split
  · exact ⟨['V'], by simp, rfl⟩
  · exact ⟨['v'], by simp, rfl⟩
  · exact ⟨[], by simp, rfl⟩

theorem Series.isNumeral_or_underscore (h : Series written found) :
    ∀ c ∈ written, isNumeral c = true ∨ c = '_' := by
  intro c hc
  have hreplaced := isNumeral_of_numbers (series_iff_numbers.mp h) _ (List.mem_map_of_mem hc)
  by_cases hunderscore : c = '_'
  · exact .inr hunderscore
  · rw [if_neg hunderscore] at hreplaced
    exact .inl hreplaced

/-- A series begins with no letter, so none is taken from it. -/
theorem withoutLetter_of_series (h : Series written found) {letter : List Char}
    (hletter : letter ∈ [[], ['V'], ['v']]) : withoutLetter (letter ++ written) = written := by
  have hplain := h.isNumeral_or_underscore
  simp only [List.mem_cons, List.not_mem_nil, or_false] at hletter
  rcases hletter with rfl | rfl | rfl
  · rw [List.nil_append]
    unfold withoutLetter
    split
    · exact absurd (hplain 'V' List.mem_cons_self) (by decide)
    · exact absurd (hplain 'v' List.mem_cons_self) (by decide)
    · rfl
  · rfl
  · rfl

theorem Writes.dottedBody_eq (h : Writes text written found) :
    dottedBody text = Text.replace '_' '.' written := by
  obtain ⟨letter, hletter, hbody⟩ := h.letter
  rw [dottedBody, hbody, withoutLetter_of_series h.series hletter]

theorem Writes.numbers_eq (h : Writes text written found) :
    numbers ((dottedBody text).splitOn '.') = .ok found := by
  rw [h.dottedBody_eq]
  exact series_iff_numbers.mp h.series

theorem Writes.not_isLatestText (h : Writes text written found) : ¬ IsLatestText text := by
  intro hlatest
  exact not_isNumberText_of_isLatestText hlatest (exists_numbers_iff.mp ⟨found, h.numbers_eq⟩)

/-- What a text that writes numbers is read as. -/
theorem Writes.parse_eq (h : Writes text written found) :
    parse text =
      .ok (numbered (.ofList found) (String.ofList (Text.replace '_' '.' written))) := by
  rw [parse_eq_ok_iff_of_not_latest h.not_isLatestText]
  exact ⟨found, h.numbers_eq, by rw [h.dottedBody_eq]⟩

theorem exists_writes_of_parse (hlatest : ¬ IsLatestText text) (h : parse text = .ok version) :
    ∃ written found, Writes text written found := by
  obtain ⟨found, hfound, -⟩ := (parse_eq_ok_iff_of_not_latest hlatest).mp h
  exact ⟨withoutLetter (Text.trim text.toList), found, exists_letter _,
    series_iff_numbers.mpr hfound⟩

theorem parse_eq_latest_iff : parse text = .ok .latest ↔ IsLatestText text := by
  constructor
  · intro h
    by_contra hlatest
    obtain ⟨found, -, hversion⟩ := (parse_eq_ok_iff_of_not_latest hlatest).mp h
    cases hversion
  · exact parse_of_isLatestText

/-! ### Zeros at the end -/

theorem trimZeros_append_replicate (numbers : List UInt64) (count : Nat) :
    trimZeros (numbers ++ List.replicate count 0) = trimZeros numbers := by
  induction count with
  | zero => rw [List.replicate_zero, List.append_nil]
  | succ count ih => rw [List.replicate_succ', ← List.append_assoc, trimZeros_append_zero, ih]

theorem exists_eq_trimZeros_append (numbers : List UInt64) :
    ∃ count, numbers = trimZeros numbers ++ List.replicate count 0 := by
  induction numbers using List.reverseRecOn with
  | nil => exact ⟨0, rfl⟩
  | append_singleton front last ih =>
    by_cases hzero : last = 0
    · obtain ⟨count, hcount⟩ := ih
      refine ⟨count + 1, ?_⟩
      rw [hzero, trimZeros_append_zero, List.replicate_succ', ← List.append_assoc, ← hcount]
    · refine ⟨0, ?_⟩
      rw [trimZeros_eq_self (by simpa using hzero), List.replicate_zero, List.append_nil]

theorem agreeUpToZeros_iff : AgreeUpToZeros found others ↔ trimZeros found = trimZeros others := by
  constructor
  · rintro ⟨more, fewer, h⟩
    have htrimmed := congrArg trimZeros h
    rwa [trimZeros_append_replicate, trimZeros_append_replicate] at htrimmed
  · intro h
    obtain ⟨fewer, hfound⟩ := exists_eq_trimZeros_append found
    obtain ⟨more, hothers⟩ := exists_eq_trimZeros_append others
    refine ⟨more, fewer, ?_⟩
    calc found ++ List.replicate more 0
        = trimZeros found ++ List.replicate (fewer + more) 0 := by
          rw [List.replicate_add, ← List.append_assoc, ← hfound]
      _ = trimZeros others ++ List.replicate (more + fewer) 0 := by rw [h, Nat.add_comm]
      _ = others ++ List.replicate fewer 0 := by
          rw [List.replicate_add, ← List.append_assoc, ← hothers]

theorem same_numbered_iff {left right : Parts} {text other : String} :
    (numbered left text).same (numbered right other) = true ↔ left = right := by
  rw [same_iff_parts?_eq Version.noConfusion Version.noConfusion, Parts.ext_iff]
  exact Option.some_inj

/-- **The grammar of version texts.** -/
theorem parse_by_grammar (text : String) :
    (parse text = .ok .latest ↔ IsLatestText text) ∧
    (¬ IsLatestText text →
      ((∃ version, parse text = .ok version) ↔ ∃ written found, Writes text written found)) ∧
    (∀ written found, Writes text written found → ∃ version, parse text = .ok version ∧
      version.isNumbered = true ∧ version.same (ofParts found) = true ∧
      version.display.toList = Text.replace '_' '.' written) ∧
    parse text ≠ .ok .empty ∧
    ∀ other written found otherWritten others, Writes text written found →
      Writes other otherWritten others → ∃ first second, parse text = .ok first ∧
        parse other = .ok second ∧ (first.same second = true ↔ AgreeUpToZeros found others) := by
  refine ⟨parse_eq_latest_iff, ?_, ?_, ?_, ?_⟩
  · intro hlatest
    constructor
    · rintro ⟨version, h⟩
      exact exists_writes_of_parse hlatest h
    · rintro ⟨written, found, h⟩
      exact ⟨_, h.parse_eq⟩
  · intro written found h
    exact ⟨_, h.parse_eq, rfl, same_numbered_iff.mpr rfl, String.toList_ofList⟩
  · intro h
    exact (spelling_of_parse h).1 rfl
  · intro other written found otherWritten others h hother
    refine ⟨_, _, h.parse_eq, hother.parse_eq, ?_⟩
    rw [same_numbered_iff, agreeUpToZeros_iff, Parts.ext_iff]
    rfl

end MigrationStatus.Version
