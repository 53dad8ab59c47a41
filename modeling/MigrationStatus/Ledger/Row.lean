import MigrationStatus.Ledger.Column
import MigrationStatus.Migration.Record
import MigrationStatus.Version.Text
/-!
The rows of the ledger, and the migrations they stand for.
-/

namespace MigrationStatus.Ledger

open Migration

/-- A row as it is stored. -/
structure Row where
  rank : Int32
  version : String
  description : String
  kind : String
  script : String
  checksum : Option String
  installedOn : Instant
  /-- In milliseconds. -/
  executionTime : Int32
  success : Bool
  deriving DecidableEq

/-- What the database gives a new row of its own accord: its rank, and the time. -/
structure Stamp where
  rank : Int32
  time : Instant
  deriving DecidableEq

/-- Why a row stands for no migration. -/
inductive RowError where
  | version (rank : Int32) (error : Version.ParseError)
  | kind (unknown : UnknownKind)
  | negativeTime (millis : Int32) (written : String)
  deriving DecidableEq

/-- What is wrong with the row, from the outermost message to the innermost. -/
def RowError.messages : RowError → List String
  | .version rank error => [s!"Corrupted metadata row (installed_rank {rank.toInt})", error.message]
  | .kind unknown => [unknown.message]
  | .negativeTime millis written =>
    [s!"Negative execution time {millis.toInt} for migration {written} in metadata table"]

namespace Row

/-- The migration that a row stands for. Of several faults the first counts, in the order of
version, kind and time. -/
def toRecord (row : Row) : Except RowError Record := do
  let version ← (Version.parse row.version).mapError (.version row.rank)
  let kind ← (Kind.parse row.kind).mapError .kind
  if row.executionTime < 0 then
    throw (.negativeTime row.executionTime row.version)
  return ((Record.applied version row.description kind row.installedOn
    ⟨row.executionTime.toInt.toNat⟩ row.success).withScript row.script).withChecksum row.checksum

/-- The row that comes of the values that are given for some columns. There is none where a column
is left out that must be given, or is given a value of another type; rank and time are up to the
database. -/
def ofCells? (stamp : Stamp) (given : Column → Option Cell) : Option Row := do
  guard (given .rank).isNone
  guard (given .installedOn).isNone
  let version ← (← given .version).text?
  let description ← (← given .description).text?
  let kind ← (← given .kind).text?
  let script ← (← given .script).text?
  let checksum ← ((given .checksum).getD .null).nullable?
  let executionTime ← (← given .executionTime).number?
  let success ← (← given .success).truth?
  return { rank := stamp.rank, version, description, kind, script, checksum
           installedOn := stamp.time, executionTime, success }

/-- The number of the row in a column. Columns that hold no numbers tell no rows apart. -/
def number (row : Row) : Column → Int32
  | .rank => row.rank
  | .executionTime => row.executionTime
  | _ => 0

end Row

/-- The migrations that rows stand for, or what is wrong with the first row that is none. -/
def records (rows : List Row) : Except RowError (List Record) := rows.mapM Row.toRecord

end MigrationStatus.Ledger
