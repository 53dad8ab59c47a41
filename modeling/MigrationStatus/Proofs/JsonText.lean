import MigrationStatus.Report.Json
import MigrationStatus.Text.Digits
import Mathlib.Data.List.Basic
import Mathlib.Data.Nat.Digits.Lemmas
/-!
# What a reader of JSON makes of a printed value

A reader takes white space between the parts of a text, escapes in either notation and numbers
without a leading zero, whoever wrote them. `read?_pretty`: from the indented form it reads the
value that was printed, and nothing is left over. A view is then told by what is read, whatever its
text.
-/

namespace MigrationStatus.Report.Json

/-! ### The reader -/

/-- White space between the parts of a text. -/
def isSpace (c : Char) : Bool := c == ' ' || c == '\n' || c == '\t' || c == '\r'

/-- The text from its first character on that is no white space. -/
def trimmed (text : List Char) : List Char := text.dropWhile isSpace

/-- What a letter stands for behind a backslash. -/
def unescaped? (letter : Char) : Option Char :=
  [('"', '"'), ('\\', '\\'), ('/', '/'), ('b', '\x08'), ('f', '\x0c'), ('n', '\n'), ('r', '\r'),
    ('t', '\t')].lookup letter

/-- The characters up to the closing quotation mark, and what stands behind it. -/
def readChars? : List Char → Option (List Char × List Char)
  | [] => none
  | '"' :: rest => some ([], rest)
  | '\\' :: 'u' :: rest =>
    match rest with
    | a :: b :: c :: d :: rest => do
      let char ← Text.character? (← Text.hexNumber? [a, b, c, d])
      (readChars? rest).map fun found => (char :: found.1, found.2)
    | _ => none
  | '\\' :: letter :: rest => do
    let char ← unescaped? letter
    (readChars? rest).map fun found => (char :: found.1, found.2)
  | char :: rest =>
    if char.toNat < 0x20 then none
    else (readChars? rest).map fun found => (char :: found.1, found.2)

/-- A number in the digits it is written in, and what stands behind them. -/
def readNumber? (text : List Char) : Option (Json × List Char) :=
  let digits := text.takeWhile Char.isDigit
  let n := Nat.ofDigitChars 10 digits 0
  if digits = Nat.toDigits 10 n then some (.number n, text.dropWhile Char.isDigit) else none

section

variable {α : Type} (part : List Char → Option (α × List Char)) (closing : Char)

/-- One part or more, with commas between them, up to the closing bracket. -/
def readParts? : Nat → List Char → Option (List α × List Char)
  | 0, _ => none
  | fuel + 1, input => do
    let (first, rest) ← part input
    match trimmed rest with
    | [] => none
    | c :: rest =>
      if c = closing then some ([first], rest)
      else if c = ',' then (readParts? fuel rest).map fun found => (first :: found.1, found.2)
      else none

/-- What stands up to the closing bracket, which may follow at once. -/
def readBracketed? (text : List Char) : Option (List α × List Char) :=
  match trimmed text with
  | [] => none
  | c :: rest => if c = closing then some ([], rest) else readParts? part closing text.length text

end

/-- A name, a colon and a value. -/
def readMember? (value : List Char → Option (Json × List Char)) (text : List Char) :
    Option ((String × Json) × List Char) :=
  match trimmed text with
  | '"' :: rest => do
    let (name, rest) ← readChars? rest
    match trimmed rest with
    | ':' :: rest => do
      let (json, rest) ← value rest
      return ((String.ofList name, json), rest)
    | _ => none
  | _ => none

/-- A value and what stands behind it. The number bounds how deep values stand in each other. -/
def readValue? : Nat → List Char → Option (Json × List Char)
  | 0, _ => none
  | depth + 1, input =>
    match trimmed input with
    | 'n' :: 'u' :: 'l' :: 'l' :: rest => some (.null, rest)
    | '"' :: rest => do
      let (chars, rest) ← readChars? rest
      return (.text (String.ofList chars), rest)
    | '[' :: rest => do
      let (items, rest) ← readBracketed? (readValue? depth) ']' rest
      return (.list items, rest)
    | '\x7b' :: rest => do
      let (members, rest) ← readBracketed? (readMember? (readValue? depth)) '\x7d' rest
      return (.object members, rest)
    | digits => readNumber? digits

/-- The value that a whole text stands for. -/
def read? (text : String) : Option Json := do
  let (json, rest) ← readValue? (text.length + 1) text.toList
  if (trimmed rest).isEmpty then some json else none

/-! ### What stands under a name -/

/-- The value under a name of an object. -/
def at? (name : String) : Json → Option Json
  | object members => members.lookup name
  | _ => none

def textAt? (name : String) (json : Json) : Option String :=
  match json.at? name with
  | some (.text content) => some content
  | _ => none

def numberAt? (name : String) (json : Json) : Option Nat :=
  match json.at? name with
  | some (.number n) => some n
  | _ => none

def listAt? (name : String) (json : Json) : Option (List Json) :=
  match json.at? name with
  | some (.list items) => some items
  | _ => none

/-- The names of an object, in the order they are written in. -/
def names : Json → List String
  | object members => members.map (·.1)
  | _ => []

theorem textAt?_eq_some_iff {name content : String} {json : Json} :
    json.textAt? name = some content ↔ json.at? name = some (.text content) := by
  unfold textAt?
  split <;> simp_all

theorem numberAt?_eq_some_iff {name : String} {n : Nat} {json : Json} :
    json.numberAt? name = some n ↔ json.at? name = some (.number n) := by
  unfold numberAt?
  split <;> simp_all

theorem some_optional_text_iff {value : Option String} {content : String} :
    some (optional text value) = some (text content) ↔ value = some content := by
  cases value <;> simp [optional]

theorem some_optional_null_iff {α : Type} {render : α → Json} (h : ∀ a, render a ≠ null)
    {value : Option α} : some (optional render value) = some null ↔ value = none := by
  cases value <;> simp [optional, h]

/-! ### White space -/

theorem trimmed_cons {c : Char} (h : isSpace c = false) (rest : List Char) :
    trimmed (c :: rest) = c :: rest := by
  simp [trimmed, h]

/-- The characters on a line of their own, a depth into it. -/
def onLine (depth : Nat) (chars : List Char) : List Char :=
  '\n' :: List.replicate (2 * depth) ' ' ++ chars

theorem trimmed_onLine (depth : Nat) (chars : List Char) :
    trimmed (onLine depth chars) = trimmed chars := by
  refine List.dropWhile_append_of_pos fun c hc => ?_
  rcases List.mem_cons.mp hc with rfl | hc
  · rfl
  · rw [List.eq_of_mem_replicate hc]
    rfl

theorem onLine_append (depth : Nat) (chars rest : List Char) :
    onLine depth chars ++ rest = onLine depth (chars ++ rest) := by
  simp [onLine]

/-! ### Texts -/

/-- A control character is found again by the two digits of its number. -/
theorem character?_hexNumber?_hexDigit : ∀ n < 0x20,
    (Text.hexNumber? ['0', '0', hexDigit (n / 16), hexDigit (n % 16)]).bind Text.character? =
      some (Char.ofNat n) := by
  decide

theorem readChars?_plain {c : Char} (hquote : c ≠ '"') (hbackslash : c ≠ '\\')
    (hcontrol : ¬ c.toNat < 0x20) (rest : List Char) :
    readChars? (c :: rest) = (readChars? rest).map fun found => (c :: found.1, found.2) := by
  rw [readChars?, if_neg hcontrol]
  · exact hquote
  · exact fun _ h => absurd h hbackslash
  · exact fun _ _ h => absurd h hbackslash

theorem readChars?_letter {letter c : Char} (hletter : letter ≠ 'u')
    (h : unescaped? letter = some c) (rest : List Char) :
    readChars? ('\\' :: letter :: rest) =
      (readChars? rest).map fun found => (c :: found.1, found.2) := by
  rw [readChars?, h]
  · rfl
  · exact hletter

theorem readChars?_escapedChar (c : Char) (rest : List Char) :
    readChars? (escapedChar c ++ rest) =
      (readChars? rest).map fun found => (c :: found.1, found.2) := by
  unfold escapedChar
  split
  case h_8 hquote hbackslash _ _ _ _ _ =>
    split
    · next hcontrol =>
      have hchar := character?_hexNumber?_hexDigit c.toNat hcontrol
      rw [Char.ofNat_toNat, Option.bind_eq_some_iff] at hchar
      obtain ⟨n, hn, hchar⟩ := hchar
      simp only [List.cons_append, List.nil_append, readChars?, hn, hchar, Option.bind_eq_bind,
        Option.bind_some]
    · next hplain => exact readChars?_plain hquote hbackslash hplain rest
  all_goals exact readChars?_letter (by decide) rfl rest

theorem readChars?_quoted (content rest : List Char) :
    readChars? (content.flatMap escapedChar ++ '"' :: rest) = some (content, rest) := by
  induction content with
  | nil => rfl
  | cons c content ih =>
    rw [List.flatMap_cons, List.append_assoc, readChars?_escapedChar, ih]
    rfl

theorem toList_quoted (content : String) (rest : List Char) :
    (quoted content).toList ++ rest =
      '"' :: (content.toList.flatMap escapedChar ++ '"' :: rest) := by
  simp [quoted]

/-! ### Numbers -/

/-- What stands behind a value does not continue a number. -/
def Delimited (rest : List Char) : Prop := ∀ c ∈ rest.head?, c.isDigit = false

theorem delimited_cons {c : Char} (h : c.isDigit = false) (rest : List Char) :
    Delimited (c :: rest) := by
  intro other hother
  obtain rfl := Option.some.inj hother
  exact h

theorem readNumber?_toString (n : Nat) {rest : List Char} (hrest : Delimited rest) :
    readNumber? ((toString n).toList ++ rest) = some (.number n, rest) := by
  have hdigits : ∀ c ∈ Nat.toDigits 10 n, c.isDigit = true :=
    fun c hc => Nat.isDigit_of_mem_toDigits (by decide) (by decide) hc
  have hstop : rest.takeWhile Char.isDigit = [] ∧ rest.dropWhile Char.isDigit = rest := by
    cases rest with
    | nil => exact ⟨rfl, rfl⟩
    | cons c rest =>
      have hc : c.isDigit = false := hrest c rfl
      simp [hc]
  rw [Nat.toString_eq_repr, Nat.toList_repr]
  simp only [readNumber?, List.takeWhile_append_of_pos hdigits,
    List.dropWhile_append_of_pos hdigits, hstop.1, hstop.2, List.append_nil,
    Nat.ofDigitChars_toDigits (by decide : 1 < 10) (by decide : 10 ≤ 10), if_true]

/-! ### Parts between brackets -/

/-- The lines between two brackets: each part but the first has a comma in front of its line. -/
theorem toList_lines (depth : Nat) (first : String) (others : List String) :
    (",\n".intercalate ((first :: others).map (indent depth ++ ·))).toList =
      List.replicate (2 * depth) ' ' ++ first.toList ++
        others.flatMap fun part => ',' :: onLine depth part.toList := by
  induction others generalizing first with
  | nil => simp [indent]
  | cons other others ih =>
    have hrest := ih other
    rw [String.toList_intercalate] at hrest ⊢
    simp only [List.map_cons] at hrest ⊢
    rw [List.intercalate_cons_cons, hrest]
    simp [indent, onLine]

theorem toList_bracketed (opening closing : String) (depth : Nat) (first : String)
    (others : List String) :
    (bracketed opening closing depth (first :: others)).toList =
      opening.toList ++ (onLine (depth + 1) first.toList ++
        (others.flatMap fun part => ',' :: onLine (depth + 1) part.toList) ++
        onLine depth closing.toList) := by
  simp only [bracketed, String.toList_append, toList_lines]
  simp [onLine, indent]

/-- A bracket behind the last part. -/
def Closes (c : Char) : Prop := c = ']' ∨ c = '\x7d'

theorem Closes.isSpace {c : Char} (h : Closes c) : isSpace c = false := by
  rcases h with rfl | rfl <;> rfl

theorem Closes.ne_comma {c : Char} (h : Closes c) : c ≠ ',' := by
  rcases h with rfl | rfl <;> decide

/-- The first character is seen as it is, and closes nothing. -/
def Starts (chars : List Char) : Prop :=
  ∃ c more, chars = c :: more ∧ isSpace c = false ∧ ¬ Closes c

section

variable {α : Type} {part : List Char → Option (α × List Char)} {write : α → String}
  {closing : Char} {depth : Nat} {first : α} {others values : List α}

/-- From the text the value is read, whatever stands behind it. -/
def Reads (part : List Char → Option (α × List Char)) (text : List Char) (value : α) : Prop :=
  ∀ rest, Delimited rest → part (text ++ rest) = some (value, rest)

/-- What stands behind the first part: the others, each behind a comma, and the closing bracket. -/
def remaining (closing : Char) (write : α → String) (depth : Nat) (others : List α)
    (rest : List Char) : List Char :=
  (others.flatMap fun value => ',' :: onLine (depth + 1) (write value).toList) ++
    onLine depth (closing :: rest)

theorem delimited_remaining (others : List α) (rest : List Char) :
    Delimited (remaining closing write depth others rest) := by
  cases others <;> exact delimited_cons rfl _

theorem length_lt_remaining (closing : Char) (write : α → String) (depth : Nat) (others : List α)
    (rest : List Char) : others.length < (remaining closing write depth others rest).length := by
  induction others with
  | nil => simp [remaining, onLine]
  | cons other others ih =>
    simp only [remaining, List.flatMap_cons, List.length_append, List.length_cons] at ih ⊢
    omega

theorem readParts?_remaining (hcloses : Closes closing)
    (hreads : ∀ value ∈ first :: others, Reads part (onLine (depth + 1) (write value).toList) value)
    (rest : List Char) {fuel : Nat} (hfuel : others.length < fuel) :
    readParts? part closing fuel (onLine (depth + 1) (write first).toList ++
      remaining closing write depth others rest) = some (first :: others, rest) := by
  induction others generalizing first fuel with
  | nil =>
    obtain ⟨fuel, rfl⟩ := Nat.exists_eq_succ_of_ne_zero (Nat.ne_zero_of_lt hfuel)
    have htrimmed : trimmed (remaining closing write depth [] rest) = closing :: rest := by
      rw [remaining, List.flatMap_nil, List.nil_append, trimmed_onLine,
        trimmed_cons hcloses.isSpace]
    rw [readParts?, hreads first List.mem_cons_self _ (delimited_remaining [] rest)]
    simp only [Option.bind_eq_bind, Option.bind_some, htrimmed, if_true]
  | cons other others ih =>
    obtain ⟨fuel, rfl⟩ := Nat.exists_eq_succ_of_ne_zero (Nat.ne_zero_of_lt hfuel)
    have htrimmed : trimmed (remaining closing write depth (other :: others) rest) =
        ',' :: (onLine (depth + 1) (write other).toList ++
          remaining closing write depth others rest) := by
      simp [remaining, trimmed_cons (by rfl : isSpace ',' = false)]
    have hothers := ih (fun value hvalue => hreads value (List.mem_cons_of_mem first hvalue))
      (Nat.lt_of_succ_lt_succ hfuel)
    rw [readParts?, hreads first List.mem_cons_self _ (delimited_remaining (other :: others) rest)]
    simp only [Option.bind_eq_bind, Option.bind_some, htrimmed, if_neg hcloses.ne_comma.symm,
      if_true, hothers, Option.map_some]

/-- What was printed between two brackets is read again, part by part. -/
theorem readBracketed?_bracketed {opening closingText : String} {bracket : Char}
    (hopening : opening.toList = [bracket]) (hclosing : closingText.toList = [closing])
    (hcloses : Closes closing)
    (hreads : ∀ value ∈ values, Reads part (onLine (depth + 1) (write value).toList) value)
    (hstarts : ∀ value ∈ values, Starts (write value).toList) (rest : List Char) :
    ∃ input, (bracketed opening closingText depth (values.map write)).toList ++ rest =
        bracket :: input ∧ readBracketed? part closing input = some (values, rest) := by
  cases values with
  | nil =>
    refine ⟨closing :: rest, by simp [bracketed, hopening, hclosing], ?_⟩
    simp only [readBracketed?, trimmed_cons hcloses.isSpace, if_true]
  | cons first others =>
    obtain ⟨c, more, htext, hspace, hopen⟩ := hstarts first List.mem_cons_self
    have htrimmed : trimmed (onLine (depth + 1) (write first).toList ++
        remaining closing write depth others rest) =
          c :: (more ++ remaining closing write depth others rest) := by
      rw [onLine_append, trimmed_onLine, htext, List.cons_append, trimmed_cons hspace]
    have hne : c ≠ closing := by
      rintro rfl
      exact hopen hcloses
    refine ⟨onLine (depth + 1) (write first).toList ++ remaining closing write depth others rest,
      ?_, ?_⟩
    · simp [toList_bracketed, hopening, hclosing, remaining, onLine, List.flatMap_map]
    · simp only [readBracketed?, htrimmed, if_neg hne]
      refine readParts?_remaining hcloses hreads rest ?_
      have hlength := length_lt_remaining closing write depth others rest
      rw [List.length_append]
      omega

end

/-! ### Values -/

theorem prettyItems_eq_map (depth : Nat) (items : List Json) :
    prettyItems depth items = items.map (pretty depth) := by
  induction items with
  | nil => rfl
  | cons item items ih => rw [prettyItems, ih, List.map_cons]

/-- A name, a colon and a value, as they are printed. -/
def prettyMember (depth : Nat) (member : String × Json) : String :=
  quoted member.1 ++ ": " ++ pretty depth member.2

theorem prettyMembers_eq_map (depth : Nat) (members : List (String × Json)) :
    prettyMembers depth members = members.map (prettyMember depth) := by
  induction members with
  | nil => rfl
  | cons member members ih => rw [prettyMembers, ih, List.map_cons, prettyMember]

theorem length_lt_prettyMember (depth : Nat) (member : String × Json) :
    (pretty depth member.2).length < (prettyMember depth member).length := by
  have hcolon : 0 < ": ".length := by decide
  simp only [prettyMember, String.length_append]
  omega

theorem length_lt_bracketed {opening : String} {bracket : Char}
    (hopening : opening.toList = [bracket]) (closing : String) (depth : Nat)
    {parts : List String} {part : String} (h : part ∈ parts) :
    part.length < (bracketed opening closing depth parts).length := by
  obtain ⟨before, behind, rfl⟩ := List.append_of_mem h
  simp only [← String.length_toList]
  cases before with
  | nil =>
    simp only [List.nil_append, toList_bracketed, hopening, onLine, List.length_append,
      List.length_cons]
    omega
  | cons first before =>
    simp only [List.cons_append, toList_bracketed, hopening, onLine, List.length_append,
      List.flatMap_append, List.flatMap_cons, List.length_cons]
    omega

theorem isSpace_of_isDigit {c : Char} (h : c.isDigit = true) : isSpace c = false := by
  simp only [isSpace, Bool.or_eq_false_iff, beq_eq_false_iff_ne]
  refine ⟨⟨⟨?_, ?_⟩, ?_⟩, ?_⟩ <;> (rintro rfl; exact absurd h (by decide))

theorem exists_digit_cons (n : Nat) :
    ∃ c more, (toString n).toList = c :: more ∧ c.isDigit = true := by
  rw [Nat.toString_eq_repr, Nat.toList_repr]
  obtain ⟨c, more, hdigits⟩ := List.exists_cons_of_ne_nil (Nat.toDigits_ne_nil (n := n) (b := 10))
  have hmem : c ∈ Nat.toDigits 10 n := hdigits ▸ List.mem_cons_self
  exact ⟨c, more, hdigits, Nat.isDigit_of_mem_toDigits (by decide) (by decide) hmem⟩

theorem starts_bracketed {opening : String} {bracket : Char} (hopening : opening.toList = [bracket])
    (hspace : isSpace bracket = false) (hopen : ¬ Closes bracket) (closing : String) (depth : Nat)
    (parts : List String) : Starts (bracketed opening closing depth parts).toList := by
  cases parts with
  | nil => exact ⟨bracket, closing.toList, by simp [bracketed, hopening], hspace, hopen⟩
  | cons first others => 
    rw [toList_bracketed, hopening]
    exact ⟨bracket, _, rfl, hspace, hopen⟩

theorem starts_quoted (content : String) (rest : List Char) :
    Starts ((quoted content).toList ++ rest) :=
  ⟨'"', _, toList_quoted content rest, rfl, by simp [Closes]⟩

theorem toList_listOpening : "[".toList = ['['] := by simp

theorem toList_listClosing : "]".toList = [']'] := by simp

theorem toList_objectOpening : "\x7b".toList = ['\x7b'] := by simp

theorem toList_objectClosing : "\x7d".toList = ['\x7d'] := by simp

theorem toList_pretty_null (depth : Nat) :
    (pretty depth null).toList = ['n', 'u', 'l', 'l'] := by
  simp [pretty]

theorem starts_pretty (depth : Nat) (json : Json) : Starts (pretty depth json).toList := by
  cases json with
  | null => exact ⟨'n', _, toList_pretty_null depth, rfl, by simp [Closes]⟩
  | number n =>
    obtain ⟨c, more, hdigits, hc⟩ := exists_digit_cons n
    refine ⟨c, more, hdigits, isSpace_of_isDigit hc, ?_⟩
    rintro (rfl | rfl) <;> exact absurd hc (by decide)
  | text content => simpa [pretty] using starts_quoted content []
  | list items => exact starts_bracketed toList_listOpening rfl (by simp [Closes]) _ _ _
  | object members => exact starts_bracketed toList_objectOpening rfl (by simp [Closes]) _ _ _

theorem starts_prettyMember (depth : Nat) (member : String × Json) :
    Starts (prettyMember depth member).toList := by
  simpa [prettyMember] using
    starts_quoted member.1 (':' :: ' ' :: (pretty depth member.2).toList)

theorem readValue?_congr {left right : List Char} (h : trimmed left = trimmed right)
    (nesting : Nat) : readValue? nesting left = readValue? nesting right := by
  cases nesting with
  | zero => rfl
  | succ nesting => rw [readValue?, readValue?, h]

theorem readMember?_congr {left right : List Char} (h : trimmed left = trimmed right)
    (value : List Char → Option (Json × List Char)) :
    readMember? value left = readMember? value right := by
  rw [readMember?, readMember?, h]

theorem readValue?_digit {c : Char} (h : c.isDigit = true) (nesting : Nat) (more : List Char) :
    readValue? (nesting + 1) (c :: more) = readNumber? (c :: more) := by
  rw [readValue?, trimmed_cons (isSpace_of_isDigit h)]
  split
  all_goals simp_all

theorem reads_prettyMember {nesting depth : Nat} {member : String × Json}
    (h : Reads (readValue? nesting) (pretty depth member.2).toList member.2) :
    Reads (readMember? (readValue? nesting)) (prettyMember depth member).toList member := by
  intro rest hrest
  have hvalue : readValue? nesting (' ' :: ((pretty depth member.2).toList ++ rest)) =
      some (member.2, rest) := by
    rw [← h rest hrest]
    refine readValue?_congr ?_ nesting
    rfl
  have htext : (prettyMember depth member).toList ++ rest = (quoted member.1).toList ++
      ':' :: ' ' :: ((pretty depth member.2).toList ++ rest) := by
    simp [prettyMember]
  rw [htext, toList_quoted, readMember?, trimmed_cons rfl]
  simp [readChars?_quoted, trimmed_cons (by rfl : isSpace ':' = false), hvalue]

/-- The value that was printed is read again, whatever stands behind it. -/
theorem reads_pretty {nesting depth : Nat} {json : Json}
    (h : (pretty depth json).length < nesting) :
    Reads (readValue? nesting) (pretty depth json).toList json := by
  -- Values within a value are printed in fewer characters, so the induction is on their bound.
  induction nesting generalizing json depth with
  | zero => omega
  | succ nesting ih =>
    intro rest hrest
    cases json with
    | null =>
      rw [toList_pretty_null]
      rfl
    | number n =>
      obtain ⟨c, more, hdigits, hc⟩ := exists_digit_cons n
      have hnumber := readNumber?_toString n hrest
      rw [hdigits, List.cons_append] at hnumber
      rw [pretty, hdigits, List.cons_append, readValue?_digit hc, hnumber]
    | text content =>
      rw [pretty, toList_quoted, readValue?, trimmed_cons rfl]
      simp [readChars?_quoted]
    | list items =>
      rw [pretty, prettyItems_eq_map] at h ⊢
      have hreads : ∀ item ∈ items, Reads (readValue? nesting)
          (onLine (depth + 1) (pretty (depth + 1) item).toList) item := by
        intro item hitem rest hrest
        have hlength := length_lt_bracketed toList_listOpening "]" depth
          (List.mem_map_of_mem (f := pretty (depth + 1)) hitem)
        rw [onLine_append, readValue?_congr (trimmed_onLine _ _)]
        exact ih (by omega) rest hrest
      obtain ⟨input, htext, hread⟩ := readBracketed?_bracketed toList_listOpening
        toList_listClosing (.inl rfl) hreads
        (fun item _ => starts_pretty (depth + 1) item) rest
      rw [htext, readValue?, trimmed_cons rfl]
      simp [hread]
    | object members =>
      rw [pretty, prettyMembers_eq_map] at h ⊢
      have hreads : ∀ member ∈ members, Reads (readMember? (readValue? nesting))
          (onLine (depth + 1) (prettyMember (depth + 1) member).toList) member := by
        intro member hmember rest hrest
        have hlength := length_lt_bracketed toList_objectOpening "\x7d" depth
          (List.mem_map_of_mem (f := prettyMember (depth + 1)) hmember)
        have hvalue := length_lt_prettyMember (depth + 1) member
        rw [onLine_append, readMember?_congr (trimmed_onLine _ _)]
        exact reads_prettyMember (ih (by omega)) rest hrest
      obtain ⟨input, htext, hread⟩ := readBracketed?_bracketed toList_objectOpening
        toList_objectClosing (.inr rfl) hreads
        (fun member _ => starts_prettyMember (depth + 1) member) rest
      rw [htext, readValue?, trimmed_cons rfl]
      simp [hread]

/-- **The printed text stands for the value.** -/
theorem read?_pretty (json : Json) (depth : Nat) : read? (pretty depth json) = some json := by
  have hnothing : Delimited [] := fun c hc => nomatch hc
  have hread := reads_pretty (Nat.lt_add_one (pretty depth json).length) [] hnothing
  rw [List.append_nil] at hread
  rw [read?, hread]
  rfl

-- Other white space and other escapes are read as well.
example : read? "\x7b\"a\":[1, null,\"\\u0041\\/\"] \x7d" =
    some (.object [("a", .list [.number 1, .null, .text "A/"])]) := by cbv

end MigrationStatus.Report.Json
