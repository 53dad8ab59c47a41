import MigrationStatus.Yaml.Scalar
/-!
The tokens of a YAML text.

In a block, indentation opens and closes collections, and a key is only known as one once its colon
has been found. Until then the place is remembered where the key would begin, and when the colon
comes, the tokens that open the mapping and the key are put in there.
-/

namespace MigrationStatus.Yaml

inductive Token where
  | versionDirective (major minor : Nat)
  | tagDirective (handle beginning : List Char)
  | documentStart
  | documentEnd
  | blockSequenceStart
  | blockMappingStart
  | blockEnd
  | flowSequenceStart
  | flowSequenceEnd
  | flowMappingStart
  | flowMappingEnd
  | blockEntry
  | flowEntry
  | key
  | value
  | reference (name : List Char)
  | anchor (name : List Char)
  | tag (handle suffix : List Char)
  | scalar (text : List Char) (plain : Bool)
  deriving DecidableEq, Repr

/-! ### Names, tags and directives -/

/-- Whether the character may follow the name of an anchor. -/
def endsAnchor (next : Option Char) : Bool :=
  endsWord next || next.any ['?', ':', ',', ']', '}', '%', '@', '\x60'].contains

/-- The name of an anchor, behind its mark. -/
def anchorName? (cursor : Cursor) : Option (List Char × Cursor) :=
  let name := cursor.taken isWord
  let after := cursor.skip name.length
  if name.isEmpty || !endsAnchor after.next? then none else some (name, after)

/-- Whether a tag can hold the character; commas and brackets only where they cannot end it. -/
def isTagCharacter (verbatim : Bool) (c : Char) : Bool :=
  isWord c || ";/?:@&=+$.%!~*'()".toList.contains c || (verbatim && [',', '[', ']'].contains c)

/-- How many bytes a character takes whose encoding begins with this one. -/
def encodedWidth? (byte : Nat) : Option Nat :=
  if byte < 0x80 then some 1
  else if 0xC0 ≤ byte && byte < 0xE0 then some 2
  else if 0xE0 ≤ byte && byte < 0xF0 then some 3
  else if 0xF0 ≤ byte && byte < 0xF8 then some 4
  else none

/-- The byte that a percent sign and two digits at the start of a text stand for. -/
def escapedByte? : List Char → Option Nat
  | '%' :: high :: low :: _ => Text.hexNumber? [high, low]
  | _ => none

/-- The bytes at the start of a text that continue a character, each as a character. -/
def continuation? (text : List Char) : (count : Nat) → Option (List Char)
  | 0 => some []
  | count + 1 => do
    let byte ← escapedByte? text
    guard (0x80 ≤ byte && byte < 0xC0)
    return .ofNat byte :: (← continuation? (text.drop 3) count)

/-- The characters of a tag with its escapes replaced, a byte for a character. -/
def unescapedTag? (text : List Char) : Option (List Char) :=
  match text with
  | [] => some []
  | c :: rest =>
    if c == '%' then do
      let byte ← escapedByte? (c :: rest)
      let width ← encodedWidth? byte
      let others ← continuation? (rest.drop 2) (width - 1)
      return .ofNat byte :: (others ++ (← unescapedTag? (rest.drop (3 * width - 1))))
    else (unescapedTag? rest).map (c :: ·)
termination_by text.length
decreasing_by all_goals simp only [List.length_cons, List.length_drop]; omega

/-- The characters of a tag, from `front` on; there has to be one. A zero byte ends the tag, and
what is written behind it does not count. -/
def tagCharacters? (verbatim : Bool) (front : List Char) (cursor : Cursor) :
    Option (List Char × Cursor) := do
  let written := cursor.taken (isTagCharacter verbatim)
  guard !(front.isEmpty && written.isEmpty)
  let characters := front.drop 1 ++ (← unescapedTag? written)
  return (characters.takeWhile (· != '\x00'), cursor.skip written.length)

/-- A handle: an exclamation mark, a name, and a second mark, which may be missing. -/
def tagHandle? (cursor : Cursor) : Option (List Char × Cursor) :=
  if !cursor.isAt '!' then none
  else
    let name := (cursor.skip 1).taken isWord
    let after := cursor.skip (1 + name.length)
    if after.isAt '!' then some ('!' :: (name ++ ['!']), after.skip 1)
    else some ('!' :: name, after)

/-- Whether a handle has both of its marks. -/
def isWholeHandle (handle : List Char) : Bool :=
  2 ≤ handle.length && handle.getLast? == some '!'

/-- The handle and the rest of a tag. -/
def tagParts? (cursor : Cursor) : Option (List Char × List Char × Cursor) :=
  if cursor.rest[1]? == some '<' then do
    let (suffix, after) ← tagCharacters? true [] (cursor.skip 2)
    guard (after.isAt '>')
    return ([], suffix, after.skip 1)
  else do
    let (handle, after) ← tagHandle? cursor
    if isWholeHandle handle then
      let (suffix, ending) ← tagCharacters? false [] after
      return (handle, suffix, ending)
    else
      let (suffix, ending) ← tagCharacters? false handle after
      return if suffix.isEmpty then ([], ['!'], ending) else (['!'], suffix, ending)

/-- A tag, with the check of what follows it. -/
def tag? (inFlow : Bool) (cursor : Cursor) : Option (Token × Cursor) := do
  let (handle, suffix, after) ← tagParts? cursor
  guard (endsWord after.next? || (inFlow && after.isAt ','))
  return (.tag handle suffix, after)

/-- A number of at most nine digits. -/
def versionNumber? (cursor : Cursor) : Option (Nat × Cursor) :=
  let digits := cursor.taken Char.isDigit
  if digits.isEmpty || 9 < digits.length then none
  else
    some (Text.valueIn 10 digits, cursor.skip digits.length)

def versionDirective? (cursor : Cursor) : Option (Token × Cursor) := do
  let (major, after) ← versionNumber? (cursor.skipWhile isBlank)
  guard (after.isAt '.')
  let (minor, ending) ← versionNumber? (after.skip 1)
  return (.versionDirective major minor, ending)

def tagDirective? (cursor : Cursor) : Option (Token × Cursor) := do
  let (handle, after) ← tagHandle? (cursor.skipWhile isBlank)
  guard (isWholeHandle handle || handle == ['!'])
  guard (after.next?.any isBlank)
  let (beginning, ending) ← tagCharacters? true [] (after.skipWhile isBlank)
  guard (endsWord ending.next?)
  return (.tagDirective handle beginning, ending)

/-- A directive, which takes its whole line. -/
def directive? (cursor : Cursor) : Option (Token × Cursor) := do
  let name := (cursor.skip 1).taken isWord
  let after := cursor.skip (1 + name.length)
  guard (endsWord after.next?)
  let (token, ending) ←
    if name == "YAML".toList then versionDirective? after
    else if name == "TAG".toList then tagDirective? after
    else none
  return (token, ← ending.skipLine?)

/-! ### The scanner -/

/-- A place where a key may have begun. -/
structure PendingKey where
  /-- The number of tokens in front of it. -/
  position : Nat
  /-- Whether nothing but a key can stand there. -/
  required : Bool
  mark : Mark
  deriving Repr

structure Scanner where
  cursor : Cursor
  tokens : Array Token
  /-- The indentation of the innermost block, below nothing in front of the first one. -/
  indent : Int
  /-- The indentations of the blocks around it, from the inside out. -/
  indents : List Int
  /-- The key that may have begun on this level. -/
  pending : Option PendingKey
  /-- The same for each level of brackets and braces around this one. -/
  outer : List (Option PendingKey)
  /-- Whether a key may begin here. -/
  keyAllowed : Bool

namespace Scanner

def start (text : List Char) : Scanner :=
  { cursor := ⟨.start, text⟩, tokens := #[], indent := -1, indents := [], pending := none
    outer := [], keyAllowed := true }

/-- Whether brackets or braces are open. -/
def inFlow (scanner : Scanner) : Bool := !scanner.outer.isEmpty

def push (scanner : Scanner) (token : Token) : Scanner :=
  { scanner with tokens := scanner.tokens.push token }

def column (scanner : Scanner) : Int := scanner.cursor.column

/-- Passes over blanks, comments and line ends. A tab is no indentation where a key may begin. -/
def toNextToken (scanner : Scanner) : (steps : Nat) → Scanner
  | 0 => scanner
  | steps + 1 =>
    let tabs := scanner.inFlow || !scanner.keyAllowed
    let ending :=
      (scanner.cursor.skipOrderMark.skipWhile fun c => c == ' ' || (tabs && c == '\t')).skipComment
    if ending.next?.any isBreak then
      toNextToken
        { scanner with
          cursor := ending.skipBreak, keyAllowed := scanner.keyAllowed || !scanner.inFlow }
        steps
    else { scanner with cursor := ending }

/-- How many bytes a key may take. -/
def keyLimit : Nat := 1024

/-- Whether a key that began there can no longer have ended: it takes one line, and not more bytes
than the limit. -/
def isStale (mark : Mark) (key : PendingKey) : Bool :=
  key.mark.line < mark.line || key.mark.width + keyLimit < mark.width

/-- A pending key, unless it is stale; a required key must not be. -/
def refreshed? (mark : Mark) (pending : Option PendingKey) : Option (Option PendingKey) :=
  match pending with
  | some key => if isStale mark key then (if key.required then none else some none) else some key
  | none => some none

/-- Gives up keys that can no longer be ones. -/
def dropStale? (scanner : Scanner) : Option Scanner := do
  let pending ← refreshed? scanner.cursor.toMark scanner.pending
  let outer ← scanner.outer.mapM (refreshed? scanner.cursor.toMark)
  return { scanner with pending, outer }

/-- Gives up the pending key of this level, which must not be required. -/
def dropPending? (scanner : Scanner) : Option Scanner :=
  if scanner.pending.any (·.required) then none else some { scanner with pending := none }

/-- Remembers that a key may begin here. -/
def savePending? (scanner : Scanner) : Option Scanner :=
  if scanner.keyAllowed then do
    let dropped ← scanner.dropPending?
    let key : PendingKey :=
      { position := scanner.tokens.size
        required := !scanner.inFlow && scanner.indent == scanner.column
        mark := scanner.cursor.toMark }
    return { dropped with pending := some key }
  else some scanner

/-- Opens a block that begins at a column, unless one is open there; its token is put in at a
position. -/
def roll (scanner : Scanner) (column : Int) (position : Nat) (token : Token) : Scanner :=
  if !scanner.inFlow && scanner.indent < column then
    { scanner with
      indent := column
      indents := scanner.indent :: scanner.indents
      tokens := scanner.tokens.insertIdxIfInBounds position token }
  else scanner

/-- Closes the blocks that are indented further than the column. -/
def unrolled (column : Int) (tokens : Array Token) (indent : Int) :
    (indents : List Int) → Array Token × Int × List Int
  | [] => (tokens, indent, [])
  | next :: others =>
    if column < indent then unrolled column (tokens.push .blockEnd) next others
    else (tokens, indent, next :: others)

/-- Closes the blocks that are indented further than the column, outside of brackets and braces. -/
def unroll (scanner : Scanner) (column : Int) : Scanner :=
  if scanner.inFlow then scanner
  else
    let (tokens, indent, indents) := unrolled column scanner.tokens scanner.indent scanner.indents
    { scanner with tokens, indent, indents }

/-- Adds a token of so many characters. -/
def advance (scanner : Scanner) (count : Nat) (token : Token) : Scanner :=
  { scanner.push token with cursor := scanner.cursor.skip count }

/-- Ends whatever is open, in front of a directive or the mark of a document. -/
def closeAll? (scanner : Scanner) : Option Scanner := do
  let dropped ← (scanner.unroll (-1)).dropPending?
  return { dropped with keyAllowed := false }

def fetchDirective? (scanner : Scanner) : Option Scanner := do
  let closed ← scanner.closeAll?
  let (token, after) ← directive? closed.cursor
  return { closed.push token with cursor := after }

def fetchDocumentMark? (scanner : Scanner) : Option Scanner := do
  let closed ← scanner.closeAll?
  return closed.advance 3 (if scanner.cursor.isAt '-' then .documentStart else .documentEnd)

def fetchFlowStart? (scanner : Scanner) (token : Token) : Option Scanner := do
  let saved ← scanner.savePending?
  return { saved.advance 1 token with
    pending := none, outer := saved.pending :: saved.outer, keyAllowed := true }

def fetchFlowEnd? (scanner : Scanner) (token : Token) : Option Scanner := do
  let dropped ← scanner.dropPending?
  return { dropped.advance 1 token with
    pending := dropped.outer.head?.join, outer := dropped.outer.tail, keyAllowed := false }

def fetchFlowEntry? (scanner : Scanner) : Option Scanner := do
  let dropped ← scanner.dropPending?
  return { dropped.advance 1 .flowEntry with keyAllowed := true }

def fetchBlockEntry? (scanner : Scanner) : Option Scanner := do
  guard (scanner.inFlow || scanner.keyAllowed)
  let rolled := scanner.roll scanner.column scanner.tokens.size .blockSequenceStart
  let dropped ← rolled.dropPending?
  return { dropped.advance 1 .blockEntry with keyAllowed := true }

def fetchKey? (scanner : Scanner) : Option Scanner := do
  guard (scanner.inFlow || scanner.keyAllowed)
  let rolled := scanner.roll scanner.column scanner.tokens.size .blockMappingStart
  let dropped ← rolled.dropPending?
  return { dropped.advance 1 .key with keyAllowed := !scanner.inFlow }

def fetchValue? (scanner : Scanner) : Option Scanner :=
  match scanner.pending with
  | some key =>
    let keyed :=
      { scanner with tokens := scanner.tokens.insertIdxIfInBounds key.position .key }
    let rolled := keyed.roll key.mark.column key.position .blockMappingStart
    some { rolled.advance 1 .value with pending := none, keyAllowed := false }
  | none => do
    guard (scanner.inFlow || scanner.keyAllowed)
    let rolled := scanner.roll scanner.column scanner.tokens.size .blockMappingStart
    return { rolled.advance 1 .value with keyAllowed := !scanner.inFlow }

/-- Adds a token that may begin a key. -/
def fetchContent? (scanner : Scanner) (read : Cursor → Option (Token × Cursor)) :
    Option Scanner := do
  let saved ← scanner.savePending?
  let (token, after) ← read scanner.cursor
  return { saved.push token with cursor := after, keyAllowed := false }

def fetchPlain? (scanner : Scanner) : Option Scanner := do
  let saved ← scanner.savePending?
  let (text, lineEnded, after) ← plain? scanner.inFlow (scanner.indent + 1) scanner.cursor
  return { saved.push (.scalar text true) with cursor := after, keyAllowed := lineEnded }

def fetchBlock? (scanner : Scanner) (folds : Bool) : Option Scanner := do
  let dropped ← scanner.dropPending?
  let (text, after) ← block? folds scanner.indent scanner.cursor
  return { dropped.push (.scalar text false) with cursor := after, keyAllowed := true }

/-- Reads a name behind its mark as a token. -/
def namedToken? (token : List Char → Token) (cursor : Cursor) : Option (Token × Cursor) :=
  (anchorName? (cursor.skip 1)).map fun (name, after) => (token name, after)

/-- Reads a quoted scalar as a token. -/
def quotedToken? (single : Bool) (cursor : Cursor) : Option (Token × Cursor) :=
  (quoted? single cursor).map fun (text, after) => (.scalar text false, after)

/-- Characters that begin a plain scalar only in certain places, or never. -/
def indicators : List Char := "-?:,[]{}#&*!|>'\"%@\x60".toList

/-- Whether a plain scalar begins with this character before that one. -/
def startsPlain (inFlow : Bool) (first : Char) (second : Option Char) : Bool :=
  (!isBlank first && !indicators.contains first) ||
    (first == '-' && !second.any isBlank) ||
    (!inFlow && (first == '?' || first == ':') && !endsWord second)

/-- Adds the token that begins with a character. -/
def fetch? (scanner : Scanner) (first : Char) : Option Scanner :=
  let second := scanner.cursor.rest[1]?
  let atStart := scanner.cursor.column == 0
  if atStart && first == '%' then scanner.fetchDirective?
  else if atStart && isDocumentMark scanner.cursor.rest then scanner.fetchDocumentMark?
  else if first == '[' then scanner.fetchFlowStart? .flowSequenceStart
  else if first == '\x7b' then scanner.fetchFlowStart? .flowMappingStart
  else if first == ']' then scanner.fetchFlowEnd? .flowSequenceEnd
  else if first == '\x7d' then scanner.fetchFlowEnd? .flowMappingEnd
  else if first == ',' then scanner.fetchFlowEntry?
  else if first == '-' && endsWord second then scanner.fetchBlockEntry?
  else if first == '?' && (scanner.inFlow || endsWord second) then scanner.fetchKey?
  else if first == ':' && (scanner.inFlow || endsWord second) then scanner.fetchValue?
  else if first == '*' then scanner.fetchContent? (namedToken? .reference)
  else if first == '&' then scanner.fetchContent? (namedToken? .anchor)
  else if first == '!' then scanner.fetchContent? (tag? scanner.inFlow)
  else if first == '|' && !scanner.inFlow then scanner.fetchBlock? false
  else if first == '>' && !scanner.inFlow then scanner.fetchBlock? true
  else if first == '\'' then scanner.fetchContent? (quotedToken? true)
  else if first == '"' then scanner.fetchContent? (quotedToken? false)
  else if startsPlain scanner.inFlow first second then scanner.fetchPlain?
  else none

/-- The tokens at the end of the text, where whatever is open ends. -/
def finish? (scanner : Scanner) : Option (Array Token) :=
  ((scanner.unroll (-1)).dropPending?).map (·.tokens)

/-- Reads token after token. Every token and every line in front of one takes a character, so as
many steps as there are characters suffice. -/
def run? (scanner : Scanner) : (steps : Nat) → Option (Array Token)
  | 0 => none
  | steps + 1 => do
    let here := scanner.toNextToken (steps + 1)
    let current := (← here.dropStale?).unroll here.column
    match current.cursor.next? with
    | none => current.finish?
    | some first => run? (← current.fetch? first) steps

end Scanner

/-- The tokens of a text. -/
def tokens? (text : List Char) : Option (List Token) :=
  if text.all isAllowed then
    let scanner := Scanner.start (unified text)
    (scanner.run? (scanner.cursor.rest.length + 1)).map Array.toList
  else none

end MigrationStatus.Yaml
