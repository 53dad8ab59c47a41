import MigrationStatus.Migration.Timeline
/-!
What a reader asks of a classified timeline: which migration is current, which are pending, and
which need attention before anything else is run.
-/

namespace MigrationStatus.Migration

/-- A migration that needs attention. -/
inductive Anomaly where
  /-- It was run without success. -/
  | failed (record : Record)
  /-- It was passed over: a newer version was run before it. -/
  | ignored (record : Record)
  deriving DecidableEq

namespace Anomaly

def record : Anomaly → Record
  | .failed record | .ignored record => record

def message : Anomaly → String
  | .failed record =>
    s!"Detected failed migration to version {record.version.display} ({record.description})"
  | .ignored record =>
    s!"Detected ignored migration {record.version.display} ({record.description}): " ++
      "a newer version was applied before it"

/-- What is the matter with the record, if anything is. -/
def of? (record : Record) : Option Anomaly :=
  if record.state.isFailed then some (.failed record)
  else if record.state = .ignored then some (.ignored record)
  else none

end Anomaly

namespace Timeline

/-- The applied migration with the highest version. -/
def current? (timeline : Timeline) : Option Record :=
  timeline.reverse.find? (·.state.isApplied)

/-- The migrations still to be run. -/
def pending (timeline : Timeline) : List Record :=
  timeline.filter (·.state == .pending)

/-- The migrations that were run. -/
def applied (timeline : Timeline) : List Record :=
  timeline.filter (·.state.isApplied)

/-- The migrations that need attention, in ascending order. -/
def anomalies (timeline : Timeline) : List Anomaly :=
  timeline.filterMap Anomaly.of?

end Timeline

end MigrationStatus.Migration
