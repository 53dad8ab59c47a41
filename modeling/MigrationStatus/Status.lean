import MigrationStatus.Connection.Retry
import MigrationStatus.Failure
import MigrationStatus.Ledger.Operation
import MigrationStatus.Migration.Reconcile
/-!
The status of all migrations: the scripts at hand and the ledger, read in this order and merged.
-/

namespace MigrationStatus.Status

open Migration

/-- What the log tells of applied migrations of which no script is at hand. -/
def unavailableEvents (horizon : Version) : Timeline → List Record → List Event
  | _, [] => []
  | timeline, record :: rest =>
    let entered := Reconcile.enter horizon timeline record
    let events := unavailableEvents horizon entered rest
    if timeline.contains record.version then events
    else
      .scriptUnavailable record.version.display (Reconcile.unavailableState horizon record) ::
        events

/-- What the log tells of migrations older than the marker of the ledger. -/
def predatingEvents (available applied : List Record) : List Event :=
  match applied.head?.filter (·.isInit) with
  | none => []
  | some marker =>
    ((Reconcile.entered available applied).takeWhile (·.version < marker.version)).map fun record =>
      .predatesTracking record.version.display marker.version.display

/-- What the log tells of migrations that were passed over. -/
def passedOverEvents (available applied : List Record) : List Event :=
  match Reconcile.lastApplied? applied with
  | none => []
  | some last =>
    ((Reconcile.baselined available applied).filter (Reconcile.isPassedOver last)).map
      fun record => .passedOver record.version.display last.display

/-- What the log tells of a merge, pass by pass. -/
def mergeEvents (available applied : List Record) (target : Version) : List Event :=
  .mergeStarted available.length applied.length target.display ::
    unavailableEvents (Reconcile.horizon available) (Reconcile.seeded available) applied ++
    predatingEvents available applied ++ passedOverEvents available applied

/-- Merges the migrations of both sources, which are read in this order. -/
def combined (readAvailable readApplied : Action (List Record)) (target : Version) :
    Action Timeline := do
  let available ← readAvailable
  let applied ← readApplied
  (mergeEvents available applied target).forM Action.note
  return Reconcile.merge available applied target

/-- The status of all migrations up to the target of the settings. The folder of the scripts is
seen from the folder `root`. -/
def load (digest : Checksum.Digest) (settings : Settings) (root : String) : Action Timeline := do
  let some url := settings.url | throw .noDatabase
  let folder := Files.Path.joined root settings.migrations
  Action.note (.scriptsWanted folder)
  Action.part .connection (ExceptT.mk (Connection.establish .default url))
  combined (Action.part .script (Script.available digest folder))
    (Action.part .ledger (Ledger.applied settings.table)) settings.target

end MigrationStatus.Status
