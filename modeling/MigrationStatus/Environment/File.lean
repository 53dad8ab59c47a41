import MigrationStatus.Environment
import MigrationStatus.Files
import MigrationStatus.Text.Blank
import MigrationStatus.Text.Letters
/-!
The file of variables in the working folder.

Each line gives one variable, `NAME=text`, perhaps with `export` in front. A text may stand in
quotation marks, and a dollar sign with a name stands for the text of that variable, except between
single marks. A comment may follow behind a blank. The file only adds variables that are not set,
and nothing of it counts from its first bad line on.
-/

namespace MigrationStatus.Environment.File

open Text

/-! ### Lines -/

/-- What a line says. -/
inductive Line where
  /-- An empty line or a comment. -/
  | nothing
  /-- A variable, and its text as it is written. -/
  | assignment (name written : List Char)
  deriving DecidableEq, Repr

/-- A name at the start of a text, and what is left after it and the blanks that follow. -/
def name? (text : List Char) : Option (List Char × List Char) :=
  if text.head?.any fun c => c.isAlpha || c == '_' then
    let name := text.takeWhile fun c => c.isAlphanum || c == '_' || c == '.'
    some (name, (text.drop name.length).dropWhile isBlank)
  else none

/-- What is left behind an equals sign and the blanks that follow it. -/
def behindEquals? : List Char → Option (List Char)
  | '=' :: rest => some (rest.dropWhile isBlank)
  | _ => none

/-- Whether nothing but a comment is left. -/
def isOver (text : List Char) : Bool := text.isEmpty || text.head? == some '#'

/-- Reads a line. The word in front of a name may itself be the name. -/
def Line.parse? (line : List Char) : Option Line := do
  let text := trim line
  if isOver text then return .nothing
  let (first, behind) ← name? text
  let (name, written) ←
    match behindEquals? behind with
    | some written => pure (first, written)
    | none => do
      guard (first == "export".toList)
      let (name, rest) ← name? behind
      pure (name, ← behindEquals? rest)
  return .assignment name (if isOver written then [] else written)

/-! ### Texts -/

/-- The quotation marks that are open. -/
inductive Marks where
  | none
  | single
  | double
  deriving DecidableEq, Repr

/-- How the next character is taken. -/
inductive Mode where
  | text
  /-- Behind a backslash. -/
  | escaped
  /-- In the name behind a dollar sign, with or without braces around it. -/
  | name (braced : Bool) (found : List Char)
  /-- Behind the text, where a comment may follow. -/
  | ended
  deriving DecidableEq, Repr

/-- A text as far as it has been read. -/
structure Reading where
  marks : Marks
  mode : Mode
  text : List Char

namespace Reading

/-- Before the first character. -/
def start : Reading := ⟨.none, .text, []⟩

def push (reading : Reading) (c : Char) : Reading := { reading with text := reading.text ++ [c] }

def become (reading : Reading) (mode : Mode) : Reading := { reading with mode }

/-- Adds the text of a variable; one that is not set has none. -/
def insert (reading : Reading) (environment : Environment) (name : List Char) : Reading :=
  { reading with
    text := reading.text ++ ((environment.get? (String.ofList name)).getD "").toList }

/-- Takes a character behind a backslash. -/
def escaped? (reading : Reading) (c : Char) : Option Reading :=
  if ['\\', '\'', '"', '$', ' '].contains c then some ((reading.push c).become .text)
  else if c == 'n' then some ((reading.push '\n').become .text)
  else none

/-- Takes a character in the name behind a dollar sign. What ends a name without braces belongs to
the text, a quotation mark too. -/
def named (reading : Reading) (environment : Environment) (braced : Bool) (found : List Char)
    (c : Char) : Reading :=
  if isAlphanumeric c then reading.become (.name braced (found ++ [c]))
  else if braced then
    if c == '\x7d' then (reading.insert environment found).become .text
    else reading.become (.name true (found ++ [c]))
  else if c == '\x7b' && found.isEmpty then reading.become (.name true [])
  else
    let inserted := reading.insert environment found
    if c == '$' then inserted.become (.name false []) else (inserted.push c).become .text

/-- Takes a character of the text itself. -/
def plain (reading : Reading) (c : Char) : Reading :=
  match reading.marks with
  | .single => if c == '\'' then { reading with marks := .none } else reading.push c
  | .double =>
    if c == '$' then reading.become (.name false [])
    else if c == '"' then { reading with marks := .none }
    else if c == '\\' then reading.become .escaped
    else reading.push c
  | .none =>
    if c == '$' then reading.become (.name false [])
    else if c == '\'' then { reading with marks := .single }
    else if c == '"' then { reading with marks := .double }
    else if c == '\\' then reading.become .escaped
    else if c == ' ' || c == '\t' then reading.become .ended
    else reading.push c

/-- The whole text, if it may end here. -/
def finish? (environment : Environment) (reading : Reading) : Option (List Char) :=
  if reading.marks ≠ .none then none
  else
    match reading.mode with
    | .name true _ => none
    | .name false found => some (reading.insert environment found).text
    | _ => some reading.text

/-- Reads a text to its end. -/
def run? (environment : Environment) (reading : Reading) : List Char → Option (List Char)
  | [] => reading.finish? environment
  | c :: rest =>
    match reading.mode with
    | .ended =>
      if c == ' ' || c == '\t' then run? environment reading rest
      else if c == '#' then reading.finish? environment
      else none
    | .escaped => do run? environment (← reading.escaped? c) rest
    | .name braced found => run? environment (reading.named environment braced found c) rest
    | .text => run? environment (reading.plain c) rest

end Reading

/-! ### Files -/

/-- The environment with what a line adds. -/
def addLine? (environment : Environment) (line : List Char) : Option Environment := do
  match ← Line.parse? line with
  | .nothing => return environment
  | .assignment name written =>
    let text ← Reading.start.run? environment written
    return environment.offer (String.ofList name) (String.ofList text)

/-- The environment with what the lines add, up to the first bad one. -/
def addLines (environment : Environment) : List ByteArray → Environment
  | [] => environment
  | line :: others =>
    match (Files.text line).toOption.bind fun text => addLine? environment text.toList with
    | some extended => addLines extended others
    | none => environment

/-- The path of the file. -/
def path : String := ".env"

/-- The environment with what the file adds, where there is one. -/
def add (environment : Environment) : Option Files.Entry → Environment
  | some (.file content) =>
    addLines environment ((content.toList.splitOn '\n'.toUInt8).map List.toByteArray)
  | _ => environment

end MigrationStatus.Environment.File
