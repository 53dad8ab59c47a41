import MigrationStatus.Migration.Timeline
/-!
Laying the migrations at hand and the rows of the ledger side by side.

The files give every migration that can be run, in ascending order; the ledger gives those that were
run, in the order in which they ran. The result has one record for each version in either, in
ascending order and up to a target, and is built in four passes over one timeline.

1. Every migration at hand is pending.
2. Every row of the ledger takes the place of what is at hand. Without anything at hand it counts as
   missing below the newest migration at hand, and as future above it.
3. If the first row is the marker of where tracking began, all below it predates tracking.
4. What is still pending below the version of the last row was passed over, and is ignored.
-/

namespace MigrationStatus.Migration.Reconcile

/-- The newest version at hand, by the order of the files. -/
def horizon (available : List Record) : Version :=
  (available.getLast?.map (·.version)).getD .empty

/-- The marker that opens the ledger, if it does. -/
def baseline? (applied : List Record) : Option Version :=
  (applied.head?.filter (·.isInit)).map (·.version)

/-- The version that ran last. -/
def lastApplied? (applied : List Record) : Option Version :=
  applied.getLast?.map (·.version)

/-- The pending timeline of the migrations at hand. -/
def seeded (available : List Record) : Timeline :=
  .ofList (available.map (·.withoutExecution .pending))

/-- The state of an applied migration of which nothing is at hand. -/
def unavailableState (horizon : Version) (record : Record) : State :=
  match compare record.version horizon with
  | .lt => .missing record.state.isFailed
  | .gt => .future record.state.isFailed
  | .eq => record.state

/-- The record of an applied migration, as it enters the timeline. -/
def entering (horizon : Version) (timeline : Timeline) (record : Record) : Record :=
  if timeline.contains record.version then record
  else record.reclassified (unavailableState horizon record)

/-- Puts an applied migration into the timeline. -/
def enter (horizon : Version) (timeline : Timeline) (record : Record) : Timeline :=
  timeline.insert (entering horizon timeline record)

/-- Marks what lies below the baseline as older than tracking. The walk ends at the first record
that does not lie below it. -/
def markPreInit (baseline : Version) : Timeline → Timeline
  | [] => []
  | record :: rest =>
    if baseline ≤ record.version then record :: rest
    else record.withoutExecution .preInit :: markPreInit baseline rest

/-- Whether the record is pending although the last applied version is newer. -/
def isPassedOver (lastApplied : Version) (record : Record) : Bool :=
  record.version < lastApplied && record.state == .pending

/-- Marks what was passed over as ignored. -/
def markIgnored (lastApplied : Version) (timeline : Timeline) : Timeline :=
  timeline.map fun record =>
    if isPassedOver lastApplied record then record.withoutExecution .ignored else record

/-- The timeline after the second pass. -/
def entered (available applied : List Record) : Timeline :=
  applied.foldl (enter (horizon available)) (seeded available)

/-- The timeline after the third pass. -/
def baselined (available applied : List Record) : Timeline :=
  (baseline? applied).elim (entered available applied) (markPreInit · (entered available applied))

/-- The timeline after the fourth pass. -/
def classified (available applied : List Record) : Timeline :=
  (lastApplied? applied).elim (baselined available applied)
    (markIgnored · (baselined available applied))

/-- Every migration in either list up to the target, classified. -/
def merge (available applied : List Record) (target : Version) : Timeline :=
  (classified available applied).upTo target

end MigrationStatus.Migration.Reconcile
