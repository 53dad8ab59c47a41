import MigrationStatus.Calendar
import MigrationStatus.Migration.Kind
import MigrationStatus.Migration.State
import MigrationStatus.Version
/-!
One migration as it is known from a file, from a row of the ledger, or from both.

When it ran and how long that took are two fields, and nothing in a record ties one to the other.
-/

namespace MigrationStatus.Migration

/-- A migration. -/
structure Record where
  version : Version
  description : String
  kind : Kind
  script : String
  checksum : Option String
  /-- When it was run. -/
  installedOn : Option Instant
  /-- How long the run took. -/
  duration : Option Duration
  state : State
  deriving DecidableEq

namespace Record

/-- A migration known from its file alone. -/
def available (version : Version) (description script : String) (checksum : Option String) :
    Record :=
  { version, description, kind := .sql, script, checksum, installedOn := none, duration := none
    state := .pending }

/-- A migration known from the ledger alone. -/
def applied (version : Version) (description : String) (kind : Kind) (installedOn : Instant)
    (duration : Duration) (success : Bool) : Record :=
  { version, description, kind, script := "", checksum := none, installedOn := some installedOn
    duration := some duration, state := .ran !success }

def withScript (record : Record) (script : String) : Record := { record with script }

def withChecksum (record : Record) (checksum : Option String) : Record := { record with checksum }

/-- The record in another state. -/
def reclassified (record : Record) (state : State) : Record := { record with state }

/-- The record in another state, and as if it had never been run. -/
def withoutExecution (record : Record) (state : State) : Record :=
  { record with state, installedOn := none, duration := none }

/-- Whether this is the marker at which tracking began. -/
def isInit (record : Record) : Bool := record.kind == .init

@[simp]
theorem version_reclassified (record : Record) (state : State) :
    (record.reclassified state).version = record.version := rfl

@[simp]
theorem version_withoutExecution (record : Record) (state : State) :
    (record.withoutExecution state).version = record.version := rfl

@[simp]
theorem state_reclassified (record : Record) (state : State) :
    (record.reclassified state).state = state := rfl

@[simp]
theorem state_withoutExecution (record : Record) (state : State) :
    (record.withoutExecution state).state = state := rfl

@[simp]
theorem installedOn_reclassified (record : Record) (state : State) :
    (record.reclassified state).installedOn = record.installedOn := rfl

@[simp]
theorem duration_reclassified (record : Record) (state : State) :
    (record.reclassified state).duration = record.duration := rfl

@[simp]
theorem installedOn_withoutExecution (record : Record) (state : State) :
    (record.withoutExecution state).installedOn = none := rfl

@[simp]
theorem duration_withoutExecution (record : Record) (state : State) :
    (record.withoutExecution state).duration = none := rfl

end Record

end MigrationStatus.Migration
