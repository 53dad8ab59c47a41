import MigrationStatus.Command.Misuse
/-!
The words of a call, read as a command with its options.

Words are read one by one, in front of the command and then behind it. A parameter with a value
waits for it and is only settled when the next one begins or the words end, so what is wrong with a
later word is told before what is wrong with a value. Behind two dashes no parameter is recognised.
-/

namespace MigrationStatus.Command

/-- What the words on one side of the command gave. -/
structure Given where
  /-- The side: in front of the command, or behind it. -/
  place : Option Verb
  /-- The parameters with their values; one that takes no value has an empty one. -/
  values : List (Parameter × String)
  /-- The parameter that is still to be settled, with its value if that has come. -/
  pending : Option (Parameter × Option String)
  deriving DecidableEq, Repr

namespace Given

/-- Before the first word. -/
def start (place : Option Verb) : Given := ⟨place, [], none⟩

/-- The value of a parameter. -/
def value? (given : Given) (parameter : Parameter) : Option String :=
  given.values.lookup parameter

/-- Whether the next word is a value, unless it looks like a parameter. -/
def awaitsValue (given : Given) : Bool := given.pending.any (·.2.isNone)

/-- Adds a parameter with its value. -/
def add (given : Given) (parameter : Parameter) (value : String) : Except Stop Given :=
  if (given.value? parameter).isSome then throw (.misuse (.repeated parameter))
  else if parameter.admits value then
    return { given with values := (parameter, value) :: given.values }
  else if value.isEmpty then throw (.misuse (.missingValue parameter))
  else throw (.misuse (.invalidValue value parameter))

/-- Settles the parameter that is pending. -/
def settle (given : Given) : Except Stop Given :=
  match given.pending with
  | none => return given
  | some (parameter, none) => throw (.misuse (.missingValue parameter))
  | some (parameter, some value) => { given with pending := none }.add parameter value

/-- Takes a parameter without value. -/
def addSwitch (given : Given) (parameter : Parameter) : Except Stop Given := do
  let settled ← given.settle
  match parameter with
  | .help => throw .help
  | .version => throw .version
  | _ => settled.add parameter ""

/-- Takes the name of a parameter, perhaps with a value behind an equals sign. -/
def addNamed (given : Given) (name : String) (attached : Option String) : Except Stop Given :=
  match Parameter.ofName? given.place name with
  | none => throw (.misuse (.unexpected s!"--{name}"))
  | some parameter =>
    match attached with
    | some value =>
      if parameter.takesValue then do (← given.settle).add parameter value
      else throw (.misuse (.unexpectedValue value parameter))
    | none =>
      if parameter.takesValue then do
        return { ← given.settle with pending := some (parameter, none) }
      else given.addSwitch parameter

/-- Takes the letter of a parameter. -/
def addLetter (given : Given) (letter : Char) : Except Stop Given :=
  match Parameter.ofLetter? given.place letter with
  | none => throw (.misuse (.unexpected s!"-{letter}"))
  | some parameter => given.addSwitch parameter

end Given

/-- The forms of a word. -/
inductive Word where
  /-- Two dashes. -/
  | dashes
  | named (name : String) (attached : Option String)
  | letters (letters : List Char)
  /-- Any other word, also a single dash. -/
  | bare
  deriving DecidableEq, Repr

/-- The form of a word. -/
def Word.ofText (text : String) : Word :=
  match text.toList with
  | ['-', '-'] => .dashes
  | '-' :: '-' :: rest =>
    match Text.cut? ['='] rest with
    | some (name, value) => .named (String.ofList name) (some (String.ofList value))
    | none => .named (String.ofList rest) none
  | ['-'] => .bare
  | '-' :: rest => .letters rest
  | _ => .bare

/-- The word that asks for help in the place of a command. -/
def helpWord : String := "help"

/-- Whether a word stands for a command where one is due. -/
def isCommand (text : String) : Bool := (Verb.ofWord? text).isSome || text == helpWord

/-- What is wrong with a word that is no parameter, value or command. -/
def stray (place : Option Verb) (behindDashes : Bool) (text : String) : Misuse :=
  if place.isNone && !(behindDashes && isCommand text) then .unknownCommand text
  else .unexpected text

/-- Reads the words on one side of the command. In front of it, reading ends at the command, which
is given back with the words behind it. -/
def scan (given : Given) : List String → Except Stop (Given × Option (String × List String))
  | [] => return (given, none)
  | text :: rest =>
    if given.place.isNone && !given.awaitsValue && isCommand text then
      return (given, some (text, rest))
    else
      match Word.ofText text with
      | .dashes =>
        match rest with
        | [] => return (given, none)
        | next :: _ => throw (.misuse (stray given.place true next))
      | .named name attached => do scan (← given.addNamed name attached) rest
      | .letters letters => do scan (← letters.foldlM Given.addLetter given) rest
      | .bare =>
        match given.pending with
        | some (parameter, none) =>
          scan { given with pending := some (parameter, some text) } rest
        | _ => throw (.misuse (stray given.place false text))

/-- Reads the words behind the word for help: at most one command. -/
def helpFor : List String → Stop
  | [] => .help
  | word :: rest =>
    if isCommand word then
      match rest with
      | [] => .help
      | next :: _ => .misuse (.unknownCommand next)
    else .misuse (.unknownCommand word)

/-- What the words before and behind the command say together. -/
structure Sides where
  front : Given
  behind : Given

namespace Sides

/-- The value of a parameter; behind the command it counts more. -/
def value? (sides : Sides) (parameter : Parameter) : Option String :=
  (sides.behind.value? parameter).or (sides.front.value? parameter)

/-- Whether a parameter without value was given. -/
def has (sides : Sides) (parameter : Parameter) : Bool := (sides.value? parameter).isSome

/-- The level of the log that the parameters ask for, the most detailed one first. -/
def level (sides : Sides) : Log.Level :=
  if sides.has .debug then .debug
  else if sides.has .verbose then .info
  else if sides.has .quiet then .error
  else .warn

def options (sides : Sides) : Settings.Options where
  databaseUrl := sides.value? .databaseUrl
  migrations := sides.value? .migrations
  schema := sides.value? .schema
  tableName := sides.value? .tableName
  target := sides.value? .target

/-- The format of the overview. -/
def format (sides : Sides) : Report.Format :=
  ((sides.value? .format).bind (Report.Format.ofWord? false)).getD .human

def command (sides : Sides) : Verb → Command
  | .info => .info sides.format sides.options
  | .validate => .validate sides.options
  | .init =>
    .init (sides.value? .initVersion) (sides.value? .initDescription) sides.options

end Sides

/-- The settings file where none is named. -/
def defaultSettingsFile : String := "migstate.yaml"

/-- The call that the words in front of a command and those behind it make. -/
def callOf (front : Given) (verb : Verb) (words : List String) : Except Stop Call := do
  let (read, _) ← scan (.start (some verb)) words
  let behind ← read.settle
  let sides : Sides := ⟨← front.settle, behind⟩
  return {
    settingsFile := (sides.value? .settingsFile).getD defaultSettingsFile
    level := sides.level
    command := sides.command verb }

/-- What a call without a command leads to. -/
def withoutCommand (front : Given) : Except Stop Call := do
  let settled ← front.settle
  throw (if settled.values.isEmpty then .empty else .misuse .missingCommand)

/-- Reads the words of a call. -/
def parse (words : List String) : Except Stop Call := do
  let (front, found) ← scan (.start none) words
  match found with
  | none => withoutCommand front
  | some (word, rest) =>
    match Verb.ofWord? word with
    | some verb => callOf front verb rest
    | none => throw (helpFor rest)

end MigrationStatus.Command
