import MigrationStatus.Log
import MigrationStatus.Report
import MigrationStatus.Settings.Options
/-!
The commands, and what a call of the program asks for.
-/

namespace MigrationStatus

inductive Command where
  /-- Shows every migration with its state. -/
  | info (format : Report.Format) (options : Settings.Options)
  /-- Fails if any migration needs attention. -/
  | validate (options : Settings.Options)
  /-- Starts tracking at a version. -/
  | init (version description : Option String) (options : Settings.Options)
  deriving DecidableEq, Repr

/-- What the options of the command say about the settings. -/
def Command.layer : Command → Settings.Layer
  | info _ options | validate options => options.layer
  | init version description options => options.initLayer version description

/-- A call of the program. -/
structure Call where
  settingsFile : String
  /-- The level up to which the log is shown, where the environment does not say. -/
  level : Log.Level
  command : Command
  deriving DecidableEq, Repr

end MigrationStatus
