import MigrationStatus.Proofs.Spelling
/-!
# A version is read back from the text it is shown as

What a numbered version is shown as consists of digits, plus signs and points, and none of these
matters to anything that reading does in front of the numbers. So the text is read as the very
version it was shown for, number by number and letter by letter.
-/

namespace MigrationStatus.Version

variable {c : Char} {n : UInt64} {piece text : List Char} {found : List UInt64}

/-- The characters of a version with points between its numbers. -/
def isNumeral (c : Char) : Bool := c.isDigit || c == '+' || c == '.'

/-- Of what holds for each of the twelve characters. -/
theorem of_isNumeral (property : Char → Prop) (h : isNumeral c = true)
    (hdigit : ∀ n < 10, property n.digitChar) (hplus : property '+') (hpoint : property '.') :
    property c := by
  rw [isNumeral, Bool.or_eq_true, Bool.or_eq_true, beq_iff_eq, beq_iff_eq] at h
  rcases h with (h | rfl) | rfl
  · obtain ⟨hchar, hlt⟩ := digitChar_of_isDigit h
    exact hchar ▸ hdigit _ hlt
  · exact hplus
  · exact hpoint

theorem isBlank_of_isNumeral (h : isNumeral c = true) : Text.isBlank c = false :=
  of_isNumeral (Text.isBlank · = false) h (by decide) (by decide) (by decide)

theorem toLower_ne_of_isNumeral (h : isNumeral c = true) : c.toLower ≠ 'l' :=
  of_isNumeral (·.toLower ≠ 'l') h (by decide) (by decide) (by decide)

/-! ### The characters of numbers -/

theorem isNumeral_of_number? (h : number? piece = some n) : ∀ c ∈ piece, isNumeral c = true := by
  have hdigits : ∀ c ∈ unsigned piece, c.isDigit = true := by
    dsimp only [number?] at h
    split at h
    · cases h
    · next hall =>
      rw [Bool.or_eq_true, not_or, Bool.not_eq_true', Bool.not_eq_false, List.all_eq_true] at hall
      exact hall.2
  intro c hc
  have hcases : c = '+' ∨ c ∈ unsigned piece := by
    unfold unsigned
    split
    · exact List.mem_cons.mp hc
    · exact .inr hc
  rcases hcases with rfl | hmem
  · decide
  · simp [isNumeral, hdigits c hmem]

theorem isNumeral_of_numbers (h : numbers (text.splitOn '.') = .ok found) :
    ∀ c ∈ text, isNumeral c = true := by
  intro c hc
  have hjoined : c ∈ ['.'].intercalate (text.splitOn '.') := by
    rwa [List.intercalate_splitOn]
  rcases Text.mem_of_mem_intercalate hjoined with hseparator | ⟨piece, hpiece, hmem⟩
  · rw [List.mem_singleton.mp hseparator]
    decide
  · rw [numbers, mapM_eq_ok_iff] at h
    have hread : (number? piece).elim (Except.error piece) Except.ok ∈ found.map .ok := by
      rw [← h]
      exact List.mem_map_of_mem hpiece
    obtain ⟨n, -, hn⟩ := List.mem_map.mp hread
    cases hnumber : number? piece with
    | none => simp [hnumber] at hn
    | some number => exact isNumeral_of_number? hnumber c hmem

/-! ### Reading what is shown -/

theorem trim_eq_self (h : ∀ c ∈ text, isNumeral c = true) : Text.trim text = text :=
  Text.trim_eq_self fun c hc => isBlank_of_isNumeral (h c hc)

theorem withoutLetter_eq_self (h : ∀ c ∈ text, isNumeral c = true) :
    withoutLetter text = text := by
  unfold withoutLetter
  split
  · exact absurd (h 'V' List.mem_cons_self) (by decide)
  · exact absurd (h 'v' List.mem_cons_self) (by decide)
  · rfl

theorem replace_eq_self (h : ∀ c ∈ text, isNumeral c = true) :
    Text.replace '_' '.' text = text := by
  refine (List.map_congr_left fun c hc => if_neg ?_).trans (List.map_id text)
  rintro rfl
  exact absurd (h '_' hc) (by decide)

theorem not_latest (h : ∀ c ∈ text, isNumeral c = true) :
    Text.sameIgnoringCase text "latest".toList = false := by
  rw [Bool.eq_false_iff]
  intro hsame
  cases text with
  | nil => cases hsame
  | cons first rest =>
    have hfirst : first.toLower = 'l' := (List.cons.inj (beq_iff_eq.mp hsame)).1
    exact toLower_ne_of_isNumeral (h first List.mem_cons_self) hfirst

theorem ofChars_of_numbers (hne : text ≠ []) (h : numbers (text.splitOn '.') = .ok found) :
    ofChars text = .ok (.numbered (.ofList found) (String.ofList text)) := by
  have hnumeral := isNumeral_of_numbers h
  simp only [ofChars, trim_eq_self hnumeral, not_latest hnumeral, withoutLetter_eq_self hnumeral,
    replace_eq_self hnumeral, h, List.isEmpty_eq_false_iff.mpr hne]
  rfl

/-- **A version is read back as it was shown.** -/
theorem parse_display {text : String} {version : Version} (h : parse text = .ok version)
    (hnumbered : version.isNumbered = true) : parse version.display = .ok version := by
  dsimp only [parse, ofChars] at h
  split at h
  · cases h
    cases hnumbered
  · split at h
    · cases h
    · next hne =>
      split at h
      · next found hfound =>
        cases h
        rw [display, parse, String.toList_ofList]
        refine ofChars_of_numbers ?_ hfound
        simpa [Text.replace] using hne
      · cases h

end MigrationStatus.Version
