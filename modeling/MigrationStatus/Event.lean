import MigrationStatus.Log
import MigrationStatus.Migration.State
import MigrationStatus.Text.Terminal
/-!
What is written to the log along the way.
-/

namespace MigrationStatus

open Migration

/-- An event that the log tells of. Tables and versions are given as they are shown. -/
inductive Event where
  | overviewStarted
  | validationStarted
  | initStarted
  | scriptsWanted (folder : String)
  | connected (retries : Nat)
  | databaseNotReady
  /-- An address has a parameter that is not known. -/
  | parameterIgnored (name value : String)
  | folderMissing (folder : String)
  | fileSkipped (name : String)
  | scriptsFound (count : Nat) (folder : String)
  | ledgerMissing (table : String)
  | ledgerRead (count : Nat) (table : String)
  | ledgerStarted (table version : String)
  | mergeStarted (available applied : Nat) (target : String)
  | scriptUnavailable (version : String) (state : State)
  | predatesTracking (version baseline : String)
  | passedOver (version lastApplied : String)
  deriving DecidableEq, Repr

namespace Event

def level : Event → Log.Level
  | overviewStarted | validationStarted | initStarted | connected _ | databaseNotReady
  | ledgerStarted .. => .info
  | folderMissing _ | parameterIgnored .. => .warn
  | scriptsWanted _ | fileSkipped _ | scriptsFound .. | ledgerMissing _ | ledgerRead ..
  | mergeStarted .. | passedOver .. => .debug
  | scriptUnavailable .. | predatesTracking .. => .trace

/-- How often a connection was tried again, where it was. -/
def retriesText : Nat → String
  | 0 => ""
  | 1 => " (after 1 retry)"
  | retries => s!" (after {retries} retryies)"

def text : Event → String
  | overviewStarted => "Aggregating migration info"
  | validationStarted => "Validating applied migrations"
  | initStarted => "Initializing metadata table"
  | scriptsWanted folder => s!"Resolving migrations from {folder}"
  | connected retries => s!"Connected to database{retriesText retries}"
  | databaseNotReady => "Database not ready, retrying..."
  | parameterIgnored .. => "ignoring unrecognized connect parameter"
  | folderMissing folder => s!"Migrations directory {folder} does not exist"
  | fileSkipped name => s!"Skipping {name} (not a versioned migration)"
  | scriptsFound count folder => s!"Resolved {count} migrations from {folder}"
  | ledgerMissing table => s!"Metadata table {table} does not exist yet"
  | ledgerRead count table => s!"Loaded {count} applied migrations from {table}"
  | ledgerStarted table version => s!"Initialized metadata table {table} at version {version}"
  | mergeStarted available applied target =>
    s!"Merging {available} available and {applied} applied migrations up to {target}"
  | scriptUnavailable version state => s!"{version} not available locally: {state.label}"
  | predatesTracking version baseline => s!"{version} predates init marker {baseline}"
  | passedOver version lastApplied =>
    s!"{version} was never applied but {lastApplied} already is; marking ignored"

/-- What is told of an event besides its text, word for word. -/
def details : Event → String
  | parameterIgnored name value => s!" key={name} value={value}"
  | _ => ""

/-- Which part of the program tells of the event. -/
def source : Event → Log.Source
  | parameterIgnored .. => .connector
  | _ => .program

/-- The line of the log, after its time. The text is written so that no terminal takes part of it
for a command. -/
def line (event : Event) : String :=
  s!"{event.level.column} {Text.Terminal.writtenOut event.text}{event.details}"

/-- Whether a filter lets the event pass. -/
def passes (event : Event) (filter : Log.Filter) : Bool := filter.admits event.source event.level

end Event

end MigrationStatus
