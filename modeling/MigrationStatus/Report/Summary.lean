import MigrationStatus.Migration.Overview
import MigrationStatus.Report.Json
/-!
The view of a timeline that scripts read: the current version, the number of pending migrations, and
one entry for each migration.
-/

namespace MigrationStatus.Report

open Migration

/-- One migration as scripts see it. -/
structure Entry where
  version : String
  description : String
  kind : Kind
  state : State
  installedOn : Option String
  executionMillis : Option UInt64
  deriving DecidableEq

/-- The whole view. -/
structure Summary where
  currentVersion : Option String
  pendingCount : Nat
  migrations : List Entry
  deriving DecidableEq

def Entry.ofRecord (record : Record) : Entry where
  version := record.version.display
  description := record.description
  kind := record.kind
  state := record.state
  installedOn := record.installedOn.map Instant.rfc3339
  executionMillis := record.duration.map fun duration => UInt64.ofNat duration.millis

def Entry.toJson (entry : Entry) : Json :=
  .object
    [("version", .text entry.version),
      ("description", .text entry.description),
      ("type", .text entry.kind.code),
      ("state", .text entry.state.code),
      ("installed_on", .optional .text entry.installedOn),
      ("execution_time_ms", .optional (fun millis => .number millis.toNat) entry.executionMillis)]

def Summary.ofTimeline (timeline : Timeline) : Summary where
  currentVersion := timeline.current?.map (·.version.display)
  pendingCount := timeline.pending.length
  migrations := timeline.map Entry.ofRecord

def Summary.toJson (summary : Summary) : Json :=
  .object
    [("current_version", .optional .text summary.currentVersion),
      ("pending_count", .number summary.pendingCount),
      ("migrations", .list (summary.migrations.map Entry.toJson))]

end MigrationStatus.Report
