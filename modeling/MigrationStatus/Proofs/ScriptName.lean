import MigrationStatus.Proofs.VersionGrammar
import MigrationStatus.Script.Name
/-!
# The file names of scripts

A name is cut at the first pair of underscores behind its first letter, and a single underscore can
stand on either side of that pair: in front of it between two numbers, behind it for a space. What a
name says is told here by its pieces, and a name that is put together from numbers and a description
says just these again, since in a series of numbers an underscore is never followed by another one.
-/

namespace MigrationStatus

namespace Text

variable {c : Char}

/-! ### Texts with nothing to trim in front -/

theorem exists_trim_cons (h : isBlank c = false) (rest : List Char) :
    ∃ others, trim (c :: rest) = c :: others := by
  have hstart : (c :: rest).dropWhile isBlank = c :: rest := by
    rw [List.dropWhile_cons, h]
    rfl
  rw [trim, hstart, trimEnd, List.reverse_cons, List.dropWhile_append]
  split
  · rw [List.dropWhile_cons, h]
    exact ⟨[], rfl⟩
  · exact ⟨_, List.reverse_concat ..⟩

end Text

namespace Version

variable {written front rest : List Char} {found : List UInt64} {first n : UInt64} {c : Char}
  {version : Version}

/-! ### Series of numbers -/

theorem Series.begins (h : Series written found) :
    ∃ c others, written = c :: others ∧ isNumeral c = true := by
  have hbegins {part : List Char} {number : UInt64} (hpart : Part part number) :
      ∃ c others, part = c :: others ∧ isNumeral c = true := by
    cases part with
    | nil =>
      cases hpart with
      | plain hnumeral => exact absurd rfl hnumeral.ne_nil
    | cons c others => exact ⟨c, others, rfl, hpart.isNumeral c List.mem_cons_self⟩
  cases h with
  | one hpart => exact hbegins hpart
  | more hpart separator hrest =>
    obtain ⟨c, others, rfl, hc⟩ := hbegins hpart
    exact ⟨c, _, rfl, hc⟩

theorem Part.underscore_not_mem {part : List Char} (h : Part part n) : '_' ∉ part := by
  intro hunderscore
  exact absurd (h.isNumeral '_' hunderscore) (by decide)

/-- An underscore in a series is followed by a number. -/
theorem Series.behind_underscore (h : Series written found) (heq : written = front ++ '_' :: rest) :
    ∃ c others, rest = c :: others ∧ isNumeral c = true := by
  induction h generalizing front with
  | one hpart =>
    exact absurd (heq ▸ List.mem_append_right front List.mem_cons_self) hpart.underscore_not_mem
  | @more part behind n others hpart separator hbehind ih =>
    rcases List.append_eq_append_iff.mp heq with ⟨middle, rfl, hmiddle⟩ | ⟨middle, rfl, hmiddle⟩
    · cases middle with
      | nil =>
        obtain ⟨-, rfl⟩ := List.cons.inj hmiddle
        exact hbehind.begins
      | cons c middle =>
        obtain ⟨-, hmiddle⟩ := List.cons.inj hmiddle
        exact ih hmiddle
    · cases middle with
      | nil =>
        obtain ⟨-, rfl⟩ := List.cons.inj hmiddle
        exact hbehind.begins
      | cons c middle =>
        obtain ⟨rfl, -⟩ := List.cons.inj hmiddle
        exact absurd (List.mem_append_right front List.mem_cons_self) hpart.underscore_not_mem

/-- So the pair of underscores behind a series is the first one. -/
theorem Series.isFirst (h : Series written found) (rest : List Char) :
    Text.IsFirst ['_', '_'] written rest := by
  apply Text.isFirst_of_forall
  intro before c behind heq
  rw [Option.eq_none_iff_forall_ne_some]
  intro more hmore
  obtain ⟨rfl, htail⟩ := List.cons.inj (Text.after?_eq_some_iff.mp hmore)
  obtain ⟨d, others, rfl, hd⟩ := h.behind_underscore heq
  obtain ⟨rfl, -⟩ := List.cons.inj htail
  exact absurd hd (by decide)

theorem Series.writes (h : Series written found) :
    Writes (String.ofList written) written found := by
  refine ⟨⟨[], List.mem_cons_self, ?_⟩, h⟩
  rw [String.toList_ofList]
  apply Text.trim_eq_self
  intro c hc
  rcases h.isNumeral_or_underscore c hc with hnumeral | rfl
  · exact isBlank_of_isNumeral hnumeral
  · decide

/-- The numbers in decimal digits, with the given separators between them. -/
def joined (first : UInt64) : List (Separator × UInt64) → List Char
  | [] => Nat.toDigits 10 first.toNat
  | (separator, next) :: rest =>
    Nat.toDigits 10 first.toNat ++ separator.char :: joined next rest

theorem part_toDigits (n : UInt64) : Part (Nat.toDigits 10 n.toNat) n :=
  number?_eq_some_iff.mp (number?_toDigits n)

theorem series_joined (first : UInt64) (rest : List (Separator × UInt64)) :
    Series (joined first rest) (first :: rest.map Prod.snd) := by
  induction rest generalizing first with
  | nil => exact .one (part_toDigits first)
  | cons pair rest ih => exact .more (part_toDigits first) pair.1 (ih pair.2)

theorem replace_joined (first : UInt64) (rest : List (Separator × UInt64)) :
    Text.replace '_' '.' (joined first rest) = dotted (first :: rest.map Prod.snd) := by
  induction rest generalizing first with
  | nil =>
    rw [joined, replace_eq_self (part_toDigits first).isNumeral]
    simp [dotted]
  | cons pair rest ih =>
    rw [joined, replace_append_separator, replace_eq_self (part_toDigits first).isNumeral, ih]
    simp [dotted]

/-- Numbers that are joined stand for the version that is put together from them. -/
theorem ofChars_joined (first : UInt64) (rest : List (Separator × UInt64)) :
    ofChars (joined first rest) = .ok (ofParts (first :: rest.map Prod.snd)) := by
  have hread := (series_joined first rest).writes.parse_eq
  rwa [parse, String.toList_ofList, replace_joined] at hread

theorem exists_digit_joined (first : UInt64) (rest : List (Separator × UInt64)) :
    ∃ c others, joined first rest = c :: others ∧ c.isDigit = true := by
  have hdigits : ∀ c ∈ Nat.toDigits 10 first.toNat, c.isDigit = true :=
    fun c hc => Nat.isDigit_of_mem_toDigits (by decide) (by decide) hc
  cases hfirst : Nat.toDigits 10 first.toNat with
  | nil => exact absurd hfirst Nat.toDigits_ne_nil
  | cons c others =>
    rw [hfirst] at hdigits
    cases rest with
    | nil => exact ⟨c, others, by rw [joined, hfirst], hdigits c List.mem_cons_self⟩
    | cons pair rest =>
      exact ⟨c, others ++ pair.1.char :: joined pair.2 rest, by rw [joined, hfirst]; rfl,
        hdigits c List.mem_cons_self⟩

/-! ### Texts that begin with a digit -/

/-- The word for the upper bound begins with a letter, also behind white space. -/
theorem isNumbered_of_digit (hc : c.isDigit = true) (h : ofChars (c :: rest) = .ok version) :
    version.isNumbered = true := by
  have hnumeral : isNumeral c = true := by simp [isNumeral, hc]
  have hread : parse (String.ofList (c :: rest)) = .ok version := by
    rwa [parse, String.toList_ofList]
  cases version with
  | numbered parts text => rfl
  | empty => exact absurd rfl (spelling_of_parse hread).1
  | latest =>
    have hlatest := parse_eq_latest_iff.mp hread
    obtain ⟨others, hothers⟩ := Text.exists_trim_cons (isBlank_of_isNumeral hnumeral) rest
    rw [IsLatestText, String.toList_ofList, hothers] at hlatest
    obtain ⟨hfirst, -⟩ := List.cons.inj (beq_iff_eq.mp hlatest)
    exact absurd hfirst (toLower_ne_of_isNumeral hnumeral)

end Version

namespace Script.Name

variable {name written words : List Char} {parsed : Name}

/-- The name consists of these pieces: what is written for the version, and the words of the
description with underscores between them. -/
structure Pieces (name written words : List Char) : Prop where
  whole : name = ['V'] ++ (written ++ ['_', '_'] ++ (words ++ ['.', 's', 'q', 'l']))
  first : Text.IsFirst ['_', '_'] written (words ++ ['.', 's', 'q', 'l'])
  ne_nil : words ≠ []
  digit : ∃ c rest, written = c :: rest ∧ c.isDigit = true

/-- The file name with these numbers, the given separators between them, and this description. -/
def spelled (first : UInt64) (rest : List (Version.Separator × UInt64)) (description : String) :
    String :=
  String.ofList (['V'] ++ (Version.joined first rest ++ ['_', '_'] ++
    (Text.replace ' ' '_' description.toList ++ ['.', 's', 'q', 'l'])))

theorem startsWithDigit_iff :
    startsWithDigit written = true ↔ ∃ c rest, written = c :: rest ∧ c.isDigit = true := by
  cases written <;> simp [startsWithDigit]

theorem pieces?_eq_some_iff :
    pieces? name = some (written, words) ↔
      name = ['V'] ++ (written ++ ['_', '_'] ++ (words ++ ['.', 's', 'q', 'l'])) ∧
        Text.IsFirst ['_', '_'] written (words ++ ['.', 's', 'q', 'l']) := by
  simp only [pieces?, Option.bind_eq_bind, Option.bind_eq_some_iff, Text.after?_eq_some_iff,
    Text.before?_eq_some_iff, Text.cut?_eq_some_iff, Text.isFirst_append_iff]
  constructor
  · rintro ⟨behind, rfl, body, rfl, rfl, hfirst⟩
    exact ⟨by simp [opening, separator, ending], hfirst⟩
  · rintro ⟨rfl, hfirst⟩
    exact ⟨_, rfl, written ++ separator ++ words, by simp [separator, ending], rfl, hfirst⟩

theorem version?_eq_some_iff {version : Version} :
    version? written = some version ↔
      startsWithDigit written = true ∧ Version.ofChars written = .ok version := by
  unfold version?
  split
  · next hdigit => cases Version.ofChars written <;> simp [hdigit, Except.toOption]
  · next hdigit => simp [hdigit]

/-- What is read off a name, by its pieces. -/
theorem ofChars?_eq_some_iff :
    ofChars? name = some parsed ↔ ∃ written words, Pieces name written words ∧
      Version.ofChars written = .ok parsed.version ∧
      parsed.description = String.ofList (Text.replace '_' ' ' words) := by
  constructor
  · intro h
    obtain ⟨⟨written, words⟩, hpieces, h⟩ := Option.bind_eq_some_iff.mp h
    obtain ⟨_, hguard, h⟩ := Option.bind_eq_some_iff.mp h
    obtain ⟨version, hversion, h⟩ := Option.bind_eq_some_iff.mp h
    obtain ⟨hwhole, hfirst⟩ := pieces?_eq_some_iff.mp hpieces
    obtain ⟨hdigit, hread⟩ := version?_eq_some_iff.mp hversion
    have hne : words ≠ [] := by simpa [guard] using hguard
    cases h
    exact ⟨written, words, ⟨hwhole, hfirst, hne, startsWithDigit_iff.mp hdigit⟩, hread, rfl⟩
  · rintro ⟨written, words, hpieces, hread, hdescription⟩
    have hcut := pieces?_eq_some_iff.mpr ⟨hpieces.whole, hpieces.first⟩
    have hversion := version?_eq_some_iff.mpr ⟨startsWithDigit_iff.mpr hpieces.digit, hread⟩
    have hguard : (guard (!words.isEmpty) : Option Unit) = some () := by
      simp [guard, hpieces.ne_nil]
    rw [ofChars?, hcut]
    simp only [Option.bind_eq_bind, Option.bind_some, hguard, hversion, ← hdescription]
    rfl

theorem isNumbered_of_ofChars? (h : ofChars? name = some parsed) :
    parsed.version.isNumbered = true := by
  obtain ⟨written, words, hpieces, hread, -⟩ := ofChars?_eq_some_iff.mp h
  obtain ⟨c, rest, rfl, hc⟩ := hpieces.digit
  exact Version.isNumbered_of_digit hc hread

theorem underscore_not_mem_replace (words : List Char) : '_' ∉ Text.replace '_' ' ' words := by
  intro h
  obtain ⟨c, -, hc⟩ := List.mem_map.mp h
  split at hc
  · cases hc
  · next hne => exact hne hc

theorem replace_replace_eq_self (h : '_' ∉ words) :
    Text.replace '_' ' ' (Text.replace ' ' '_' words) = words := by
  rw [Text.replace, Text.replace, List.map_map]
  refine (List.map_congr_left fun c hc => ?_).trans (List.map_id words)
  have hne : c ≠ '_' := by
    rintro rfl
    exact h hc
  by_cases hspace : c = ' '
  · simp [hspace]
  · simp [hspace, hne]

theorem pieces_spelled (first : UInt64) (rest : List (Version.Separator × UInt64))
    {description : String} (hne : description ≠ "") :
    Pieces (spelled first rest description).toList (Version.joined first rest)
      (Text.replace ' ' '_' description.toList) where
  whole := String.toList_ofList
  first := (Version.series_joined first rest).isFirst _
  ne_nil := by
    intro hnil
    exact hne (String.toList_eq_nil_iff.mp (List.map_eq_nil_iff.mp hnil))
  digit := Version.exists_digit_joined first rest

/-- **The file names of scripts.** -/
theorem names_by_pieces :
    (∀ name parsed, parse? name = some parsed ↔ ∃ written words,
      Pieces name.toList written words ∧
      Version.parse (String.ofList written) = .ok parsed.version ∧
      parsed.description = String.ofList (Text.replace '_' ' ' words)) ∧
    (∀ name parsed, parse? name = some parsed →
      parsed.version.isNumbered = true ∧ '_' ∉ parsed.description.toList) ∧
    ∀ first rest description, description ≠ "" → '_' ∉ description.toList →
      parse? (spelled first rest description) =
        some ⟨.ofParts (first :: rest.map Prod.snd), description⟩ := by
  refine ⟨?_, ?_, ?_⟩
  · intro name parsed
    simp only [Version.parse, String.toList_ofList]
    exact ofChars?_eq_some_iff
  · intro name parsed h
    obtain ⟨written, words, -, -, hdescription⟩ := ofChars?_eq_some_iff.mp h
    refine ⟨isNumbered_of_ofChars? h, ?_⟩
    rw [hdescription, String.toList_ofList]
    exact underscore_not_mem_replace words
  · intro first rest description hne hplain
    refine ofChars?_eq_some_iff.mpr ⟨_, _, pieces_spelled first rest hne,
      Version.ofChars_joined first rest, ?_⟩
    rw [replace_replace_eq_self hplain, String.ofList_toList]

end Script.Name

end MigrationStatus
