import MigrationStatus.Command
import MigrationStatus.Environment
import MigrationStatus.Settings.File
import MigrationStatus.Status
/-!
What the commands do.

Every command first loads the settings file and settles its settings; only then does it tell the log
what it is about to do.
-/

namespace MigrationStatus.Command

/-- What the log tells when the command starts. -/
def started : Command → Event
  | info .. => .overviewStarted
  | validate _ => .validationStarted
  | init .. => .initStarted

section Perform

variable (digest : Checksum.Digest)

/-- Prints the overview, and breaks off where it cannot be written. -/
def overview (settings : Settings) (root : String) (format : Report.Format) (colors : Bool) :
    Action Unit := do
  let timeline ← Status.load digest settings root
  let some text := Report.overview format colors timeline | throw .columnTooWide
  Action.print text

/-- Prints what needs attention, and fails if that is anything. -/
def check (settings : Settings) (root : String) (colors : Bool) : Action Unit := do
  let timeline ← Status.load digest settings root
  let anomalies := timeline.anomalies
  Action.print (Report.anomalyList colors anomalies)
  if !anomalies.isEmpty then
    throw (.anomalies anomalies.length)

/-- Starts tracking at the version of the settings. Nothing is sent to the database before the name
of the table is known to be admitted. -/
def startTracking (settings : Settings) : Action Unit := do
  let some url := settings.url | throw .noDatabaseToStart
  let written ←
    Action.settled (fun error => .ledger (.name error)) settings.table.checked
  Action.part .connection (ExceptT.mk (Connection.establish .default url))
  Action.part .ledger
    (Ledger.start settings.table settings.initVersion settings.initDescription)
  Action.print s!"Metadata table {written} initialized with version {settings.initVersion.display}"

/-- Runs the command with its settings. -/
def perform (settings : Settings) (root : String) (colors : Bool) : Command → Action Unit
  | info format _ => overview digest settings root format colors
  | validate _ => check digest settings root colors
  | init .. => startTracking settings

end Perform

end Command

/-- Runs a call. -/
def Call.run (digest : Checksum.Digest) (call : Call) (environment : Environment) :
    Action Unit := do
  let (layer, root) ← Settings.File.load call.settingsFile
  let settings ←
    Action.settled .settings
      (Settings.ofLayer environment.databaseUrl (.mergeAll [layer, call.command.layer]))
  Action.note call.command.started
  call.command.perform digest settings root environment.wantsColors

end MigrationStatus
