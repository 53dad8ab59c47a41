import MigrationStatus.Text.Digits
import MigrationStatus.Yaml.Cursor
/-!
Scalars of a YAML text in their five forms: plain, in single or double quotation marks, and as a
literal or folded block.

Lines of a plain or quoted scalar are folded: one line end becomes a space, and of several the first
is dropped. A block keeps the lines indented beyond its parent; a folded block folds those of them
that do not begin with a blank.
-/

namespace MigrationStatus.Yaml

/-- What stands between two words of a scalar. -/
inductive Gap where
  /-- Blanks on one line. -/
  | blanks (found : List Char)
  /-- Line ends: the first, unless it was escaped, and those after it. -/
  | breaks (first : Option Char) (others : List Char)

namespace Gap

/-- Between two characters of a word. -/
def none : Gap := .blanks []

def hasBreak : Gap → Bool
  | blanks _ => false
  | breaks .. => true

def isNone : Gap → Bool
  | blanks found => found.isEmpty
  | breaks .. => false

/-- Adds a blank; blanks next to line ends do not count. -/
def addBlank (gap : Gap) (c : Char) : Gap :=
  match gap with
  | blanks found => .blanks (found ++ [c])
  | breaks .. => gap

/-- Adds a line end. -/
def addBreak (gap : Gap) (c : Char) : Gap :=
  match gap with
  | blanks _ => .breaks (some c) []
  | breaks first others => .breaks first (others ++ [c])

/-- What the gap contributes to the scalar. -/
def folded : Gap → List Char
  | blanks found => found
  | breaks (some '\n') [] => [' ']
  | breaks (some '\n') others => others
  | breaks first others => first.toList ++ others

end Gap

/-! ### Plain scalars -/

/-- Characters that end a plain scalar within brackets or braces. -/
def flowMarks : List Char := [',', '[', ']', '{', '}']

/-- Whether a plain scalar stops before a text, at the start of a word or inside of one. -/
def plainStops (inFlow : Bool) (indent : Int) (column : Nat) (gap : Gap) (text : List Char) :
    Bool :=
  (gap.hasBreak && !inFlow && (column : Int) < indent) ||
    (column == 0 && isDocumentMark text) ||
    (!gap.isNone && text.head? == some '#') ||
    (text.head? == some ':' && endsWord text[1]?) ||
    (inFlow && text.head?.any flowMarks.contains)

/-- Reads a plain scalar on; `found` holds its characters from the last to the first. The result
says whether a line end followed the last word. -/
def plainFrom (inFlow : Bool) (indent : Int) (mark : Mark) (found : List Char) (gap : Gap) :
    List Char → Option (List Char × Bool × Cursor)
  | [] => some (found.reverse, gap.hasBreak, ⟨mark, []⟩)
  | c :: rest =>
    if isBlank c then
      if gap.hasBreak && c == '\t' && (mark.column : Int) < indent then none
      else plainFrom inFlow indent (mark.past c) found (gap.addBlank c) rest
    else if isBreak c then plainFrom inFlow indent mark.newLine found (gap.addBreak c) rest
    else if plainStops inFlow indent mark.column gap (c :: rest) then
      some (found.reverse, gap.hasBreak, ⟨mark, c :: rest⟩)
    else if inFlow && c == ':' && rest.head?.any ('?' :: flowMarks).contains then none
    else plainFrom inFlow indent (mark.past c) (c :: (gap.folded.reverse ++ found)) .none rest

/-- Reads a plain scalar that is indented at least as far as `indent`. -/
def plain? (inFlow : Bool) (indent : Int) (cursor : Cursor) :
    Option (List Char × Bool × Cursor) :=
  plainFrom inFlow indent cursor.toMark [] .none cursor.rest

/-! ### Quoted scalars -/

/-- The characters that single letters stand for behind a backslash. -/
def escapes : List (Char × Char) :=
  [('0', '\x00'), ('a', '\x07'), ('b', '\x08'), ('t', '\t'), ('\t', '\t'), ('n', '\n'),
    ('v', '\x0b'), ('f', '\x0c'), ('r', '\r'), ('e', '\x1b'), (' ', ' '), ('"', '"'), ('/', '/'),
    ('\\', '\\'), ('N', '\u0085'), ('_', '\u00a0'), ('L', '\u2028'), ('P', '\u2029')]

/-- How many hexadecimal digits follow a letter behind a backslash. -/
def escapeDigits : List (Char × Nat) := [('x', 2), ('u', 4), ('U', 8)]

/-- The character that an escape stands for, and how many characters behind the backslash it
takes. -/
def escape? (text : List Char) : Option (Char × Nat) := do
  let letter ← text.head?
  match escapes.lookup letter with
  | some c => return (c, 1)
  | none =>
    let count ← escapeDigits.lookup letter
    let digits := (text.drop 1).take count
    guard (digits.length = count)
    return (← Text.character? (← Text.hexNumber? digits), count + 1)

/-- Reads a quoted scalar on, up to its closing mark. -/
def quotedFrom (single : Bool) (mark : Mark) (found : List Char) (gap : Gap) (text : List Char) :
    Option (List Char × Cursor) :=
  match text with
  | [] => none
  | c :: rest =>
    if isBlank c then quotedFrom single (mark.past c) found (gap.addBlank c) rest
    else if isBreak c then quotedFrom single mark.newLine found (gap.addBreak c) rest
    else if mark.column == 0 && isDocumentMark (c :: rest) then none
    else
      let found := gap.folded.reverse ++ found
      let behind := mark.past c
      if single && c == '\'' then
        if rest.head? == some '\'' then
          quotedFrom single (behind.past '\'') ('\'' :: found) .none (rest.drop 1)
        else some (found.reverse, ⟨behind, rest⟩)
      else if !single && c == '"' then some (found.reverse, ⟨behind, rest⟩)
      else if !single && c == '\\' then
        if rest.head?.any isBreak then
          quotedFrom single mark.newLine found (.breaks Option.none []) (rest.drop 1)
        else
          match escape? rest with
          | some (escaped, count) =>
            quotedFrom single (behind.pastAll (rest.take count)) (escaped :: found) .none
              (rest.drop count)
          | none => none
      else quotedFrom single behind (c :: found) .none rest
termination_by text.length
decreasing_by
  all_goals simp only [List.length_cons, List.length_drop]; omega

/-- Reads a quoted scalar from its opening mark on. -/
def quoted? (single : Bool) (cursor : Cursor) : Option (List Char × Cursor) :=
  let opened := cursor.skip 1
  quotedFrom single opened.toMark [] .none opened.rest

/-! ### Blocks -/

/-- What becomes of the line ends at the end of a block. -/
inductive Chomping where
  | strip
  | clip
  | keep
  deriving DecidableEq, Repr

def chomping? : Option Char → Option Chomping
  | some '-' => some .strip
  | some '+' => some .keep
  | _ => none

/-- The indentation that a digit gives. -/
def increment? (c : Option Char) : Option Nat :=
  c.bind fun c => if c.isDigit then some (c.toNat - '0'.toNat) else none

/-- Reads the head of a block behind its first mark: how it ends, how far it is indented, and how
many characters that takes. -/
def blockHead? (text : List Char) : Option (Chomping × Option Nat × Nat) :=
  let head : Chomping × Option Nat × Nat :=
    match chomping? text[0]?, increment? text[0]? with
    | some chomping, _ =>
      match increment? text[1]? with
      | some increment => (chomping, some increment, 2)
      | none => (chomping, none, 1)
    | none, some increment =>
      match chomping? text[1]? with
      | some chomping => (chomping, some increment, 2)
      | none => (.clip, some increment, 1)
    | none, none => (.clip, none, 0)
  if head.2.1 = some 0 then none else some head

/-- Passes over indentation and empty lines; `indent` is nothing as long as it is not known. The
result holds the line ends and the deepest indentation that was seen. -/
def blockBreaks (indent : Option Nat) (mark : Mark) (deepest : Nat) (found : List Char) :
    List Char → Option (List Char × Nat × Cursor)
  | [] => some (found, max deepest mark.column, ⟨mark, []⟩)
  | c :: rest =>
    let outside := indent.all (mark.column < ·)
    if outside && c == ' ' then blockBreaks indent (mark.past c) deepest found rest
    else if outside && c == '\t' then none
    else if isBreak c then
      blockBreaks indent mark.newLine (max deepest mark.column) (found ++ [c]) rest
    else some (found, max deepest mark.column, ⟨mark, c :: rest⟩)

/-- A block as far as it has been read. -/
structure Block where
  /-- Its characters up to the last line, from the last to the first. -/
  found : List Char
  /-- The line end after the last line. -/
  ending : Option Char
  /-- The line ends of the empty lines after it. -/
  empty : List Char
  /-- Whether the last line began with a blank. -/
  blank : Bool

/-- The characters of the block with one more line, from the last to the first. -/
def Block.addLine (block : Block) (folds : Bool) (content : List Char) : List Char :=
  let startsBlank := content.head?.any isBlank
  let between :=
    if folds && block.ending == some '\n' && !block.blank && !startsBlank then
      if block.empty.isEmpty then [' '] else []
    else block.ending.toList
  (between ++ block.empty ++ content).reverse ++ block.found

/-- Reads the lines of a block; `steps` is at least the number of lines. -/
def blockLines (folds : Bool) (indent : Nat) (block : Block) (cursor : Cursor) :
    (steps : Nat) → Option (Block × Cursor)
  | 0 => none
  | steps + 1 =>
    if cursor.column ≠ indent ∨ cursor.rest.isEmpty then some (block, cursor)
    else do
      let content := cursor.taken fun c => !isBreak c
      let ending := cursor.skip content.length
      let after := if ending.rest.isEmpty then ending else ending.skipBreak
      let (empty, _, next) ← blockBreaks (some indent) after.toMark 0 [] after.rest
      blockLines folds indent
        { found := block.addLine folds content, ending := ending.next?, empty
          blank := content.head?.any isBlank } next steps

/-- Reads a block from its first mark on, below a parent that is indented as far as `parent`. -/
def block? (folds : Bool) (parent : Int) (cursor : Cursor) : Option (List Char × Cursor) := do
  let start := cursor.skip 1
  let (chomping, increment, count) ← blockHead? start.rest
  let first ← (start.skip count).skipLine?
  let given := increment.map fun increment => (max parent 0).toNat + increment
  let (empty, deepest, next) ← blockBreaks given first.toMark 0 [] first.rest
  let indent := given.getD (max (max deepest (parent + 1).toNat) 1)
  let (block, after) ←
    blockLines folds indent ⟨[], none, empty, false⟩ next (next.rest.length + 1)
  let last := if chomping = .strip then [] else block.ending.toList
  let empty := if chomping = .keep then block.empty else []
  return (block.found.reverse ++ last ++ empty, after)

end MigrationStatus.Yaml
