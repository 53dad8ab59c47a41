import MigrationStatus.Connection.Error
import MigrationStatus.Ledger.Error
import MigrationStatus.Program
import MigrationStatus.Script.Folder
import MigrationStatus.Settings
/-!
Everything that can end a command early, and programs that end that way.
-/

namespace MigrationStatus

/-- Why a command ended early. -/
inductive Failure where
  | unreadableSettings (path : String) (error : Files.ReadError)
  | malformedSettings (path : String)
  | settings (error : Settings.Error)
  /-- No address of a database, where the state of the migrations is asked for. -/
  | noDatabase
  /-- No address of a database, where tracking is to be started. -/
  | noDatabaseToStart
  | connection (failure : Connection.Failure)
  | script (failure : Script.Failure)
  | ledger (failure : Ledger.Failure)
  /-- Some migrations need attention. -/
  | anomalies (count : Nat)
  /-- A column of the table is too wide to be filled up, and the program breaks off. -/
  | columnTooWide
  deriving DecidableEq

namespace Failure

/-- The ways to name a database, as they are listed where none was named. -/
def databaseHint : String :=
  "No database specified.\n\n" ++
    "Provide one of:\n\n" ++
    "• migstate info --database-url postgres://host/db\n" ++
    "• export DATABASE_URL=postgres://host/db\n" ++
    "• Add 'database: \x7b url: ... \x7d' to migstate.yaml"

/-- What is told where the width of a cell is more than 16 bits count. -/
def widthHint : String := "Formatting argument out of range"

/-- What went wrong, from the outermost message to the innermost. -/
def messages : Failure → List String
  | .unreadableSettings path error => [s!"Failed to read config file {path}", error.message]
  | .malformedSettings path => [s!"Invalid config file {path}"]
  | .settings error => error.messages
  | .noDatabase => [databaseHint]
  | .noDatabaseToStart => ["No database specified. Use --database-url or set DATABASE_URL"]
  | .connection failure => [failure.message]
  | .script failure => failure.messages
  | .ledger failure => failure.messages
  | .anomalies count => [s!"Validation failed: {count} migration(s) need attention"]
  | .columnTooWide => [widthHint]

end Failure

/-- A program that may end early. -/
abbrev Action (α : Type) := ExceptT Failure Program α

namespace Action

def note (event : Event) : Action Unit := ExceptT.lift (Program.note event)

def print (line : String) : Action Unit := ExceptT.lift (Program.print line)

/-- The result of a step that needs no effect. -/
def settled {ε α : Type} (wrap : ε → Failure) (result : Except ε α) : Action α :=
  ExceptT.mk (pure (result.mapError wrap))

/-- A part of a command, with its own ways to fail. -/
def part {ε α : Type} (wrap : ε → Failure) (program : ExceptT ε Program α) : Action α :=
  ExceptT.mk do return (← program.run).mapError wrap

end Action

end MigrationStatus
