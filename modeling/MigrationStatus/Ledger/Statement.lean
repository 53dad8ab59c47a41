import MigrationStatus.Ledger.Row
import MigrationStatus.Ledger.Table
/-!
The statements that are sent to the database, each with its text and the type of its answer.

A statement that puts in a row says which columns it gives and from where their values come, and one
that reads rows says which columns it wants and in which order. The texts are written from the same
lists by which the rows are made and put in order.
-/

namespace MigrationStatus.Ledger

/-- A statement. -/
inductive Statement where
  /-- Asks whether the table exists. -/
  | tableExists (table : Table)
  /-- Makes the table, unless it exists. -/
  | createTable (table : Table)
  | begin
  /-- Shuts all other writers out until the transaction ends. -/
  | lockTable (table : Table)
  | countRows (table : Table)
  /-- Adds the row that marks where tracking begins. -/
  | insertMarker (table : Table) (version : Version) (description : String)
  | commit
  | rollback
  /-- Reads every row, by rank. -/
  | selectRows (table : Table)
  deriving DecidableEq

namespace Statement

/-- What the database answers with. -/
abbrev Answer : Statement → Type
  | tableExists _ => Bool
  | countRows _ => Nat
  | selectRows _ => List Row
  | createTable _ | begin | lockTable _ | insertMarker .. | commit | rollback => Unit

/-- The columns that a marker is given, and where their values come from. -/
def markerValues : List (Column × Operand) :=
  [(.version, .parameter 1), (.description, .parameter 2), (.kind, .parameter 3),
    (.script, .parameter 4), (.checksum, .null), (.executionTime, .number 0),
    (.success, .truth true)]

/-- The columns that are read. -/
def readColumns : List Column :=
  [.rank, .version, .description, .kind, .script, .checksum, .installedOn, .executionTime, .success]

/-- The column by which the rows that are read are put in order. -/
def readOrder : Column := .rank

def listed (items : List String) : String := ", ".intercalate items

/-- The columns that are read, as they are asked for. -/
def readList : String := listed (readColumns.map Column.name)

/-- The text of a statement that puts in a marker, behind the name of the table. -/
def markerBody : String :=
  "(" ++ listed (markerValues.map (·.1.name)) ++ ") VALUES (" ++
    listed (markerValues.map (·.2.text)) ++ ")"

/-- A new line with a number of spaces in front. -/
def lineStart (spaces : Nat) : String := "\n" ++ String.ofList (List.replicate spaces ' ')

/-- The text of a statement that makes a table, behind the name of the table. -/
def tableBody : String :=
  " (" ++ lineStart 16 ++
    ("," ++ lineStart 16).intercalate (Column.all.map Column.definition) ++ lineStart 12 ++ ")" ++
    lineStart 12

/-- The statement as it is sent. -/
def text : Statement → String
  | tableExists _ =>
    "SELECT EXISTS (SELECT 1 FROM information_schema.tables " ++
      "WHERE table_schema = $1 AND table_name = $2)"
  | createTable table => s!"{lineStart 12}CREATE TABLE IF NOT EXISTS {table.written}{tableBody}"
  | begin => "BEGIN"
  | lockTable table => s!"LOCK TABLE {table.written} IN EXCLUSIVE MODE"
  | countRows table => s!"SELECT COUNT(*) FROM {table.written}"
  | insertMarker table .. => s!"INSERT INTO {table.written} {markerBody}"
  | commit => "COMMIT"
  | rollback => "ROLLBACK"
  | selectRows table =>
    s!"SELECT {readList} FROM {table.written} ORDER BY {readOrder.name}"

/-- The values sent along with the statement. -/
def parameters : Statement → List String
  | tableExists table => [table.schema, table.name]
  | insertMarker _ version description =>
    [version.display, description, Migration.Kind.init.code, description]
  | _ => []

/-- What the statement gives the columns of the rows that it puts in. -/
def values : Statement → List (Column × Operand)
  | insertMarker .. => markerValues
  | _ => []

/-- The row that the statement puts in, if it puts in any. -/
def row? (statement : Statement) (stamp : Stamp) : Option Row :=
  Row.ofCells? stamp fun column =>
    (statement.values.lookup column).bind (·.cell? statement.parameters)

end Statement

end MigrationStatus.Ledger
