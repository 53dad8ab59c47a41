import MigrationStatus.Text.Blank
import MigrationStatus.Text.Cut
/-!
Levels of the log, and filters that say up to which level it is shown.
-/

namespace MigrationStatus.Log

/-- How detailed a line of the log is. -/
inductive Level where
  | error
  | warn
  | info
  | debug
  | trace
  deriving DecidableEq, Repr, Inhabited

namespace Level

def all : List Level := [.error, .warn, .info, .debug, .trace]

/-- The position of the level, from the gravest on. -/
def rank : Level → Nat
  | .error => 1
  | .warn => 2
  | .info => 3
  | .debug => 4
  | .trace => 5

/-- The name of the level. -/
def name : Level → String
  | .error => "ERROR"
  | .warn => "WARN"
  | .info => "INFO"
  | .debug => "DEBUG"
  | .trace => "TRACE"

/-- The name filled up to five characters, as it stands in a line. -/
def column (level : Level) : String :=
  String.ofList (List.replicate (5 - level.name.length) ' ') ++ level.name

/-- The level that a word names, in letters of either case. -/
def ofWord? (word : List Char) : Option Level :=
  all.find? fun level => Text.sameIgnoringCase level.name.toList word

end Level

/-- Who writes to the log. -/
inductive Source where
  | program
  /-- The part that makes connections to databases. -/
  | connector
  deriving DecidableEq, Repr

/-- Up to which level the log is shown, for every source; nothing for one that is silent. -/
structure Filter where
  program : Option Level
  connector : Option Level
  deriving DecidableEq, Repr

namespace Filter

/-- The filter that shows no source at all. -/
def silent : Filter := ⟨none, none⟩

/-- The filter that shows every source up to a level. -/
def upTo (level : Level) : Filter := ⟨some level, some level⟩

/-- Up to which level a source is shown. -/
def most (filter : Filter) : Source → Option Level
  | .program => filter.program
  | .connector => filter.connector

/-- Whether the filter lets a level of a source pass. -/
def admits (filter : Filter) (source : Source) (level : Level) : Bool :=
  (filter.most source).any fun most => level.rank ≤ most.rank

end Filter

/-- The name under which the program appears in filters. -/
def programName : List Char := "migstate".toList

/-- The level up to which one part of a filter shows the log of the program: a level alone counts
for every program, and a name or a name with a level for the program of that name. -/
def Filter.ofPart? (part : List Char) : Option Level :=
  match Text.cut? ['='] part with
  | some (name, word) => if name == programName then Level.ofWord? word else none
  | none => (Level.ofWord? part).or (if part == programName then some .trace else none)

/-- Reads a filter: parts with commas between them, of which one with a name counts more than one
without. Only those without a name count for the connector. -/
def Filter.parse (text : String) : Filter :=
  let parts := (text.toList.splitOn ',').map Text.trim
  let named := parts.filter fun part => (Text.cut? ['='] part).isSome || part == programName
  let bare := parts.filter fun part => !named.contains part
  let forAll := (bare.filterMap Filter.ofPart?).getLast?
  { program := ((named.filterMap Filter.ofPart?).getLast?).or forAll, connector := forAll }

end MigrationStatus.Log
