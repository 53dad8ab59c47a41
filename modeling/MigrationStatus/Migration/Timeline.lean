import MigrationStatus.Migration.Record
/-!
Timelines: records in ascending order of their versions, one for each position.

`insert` is the one way in which a timeline grows: it puts a record at its place and replaces the
one that stood at the same position, however that version was written. A timeline is looked at
through `find?`, which gives the record at a position, and `Ascending` says that it is in order.
-/

namespace MigrationStatus.Migration

/-- Records to be kept in ascending order of their versions. -/
abbrev Timeline := List Record

namespace Timeline

/-- Each record lies before all that follow it. -/
def Ascending (timeline : Timeline) : Prop :=
  timeline.Pairwise fun earlier later => earlier.version < later.version

instance (timeline : Timeline) : Decidable timeline.Ascending :=
  inferInstanceAs (Decidable (List.Pairwise _ _))

/-- Puts the record at its place, where it replaces the one at the same position. -/
def insert (record : Record) : Timeline → Timeline
  | [] => [record]
  | first :: rest =>
    match compare record.version first.version with
    | .lt => record :: first :: rest
    | .eq => record :: rest
    | .gt => first :: insert record rest

/-- The record at the position of the version. -/
def find? (version : Version) (timeline : Timeline) : Option Record :=
  List.find? (fun record => version.same record.version) timeline

/-- Whether the position of the version is taken. -/
def contains (version : Version) (timeline : Timeline) : Bool :=
  timeline.any fun record => version.same record.version

/-- The timeline of the records; of two at the same position the later one stays. -/
def ofList (records : List Record) : Timeline :=
  records.foldl (fun timeline record => insert record timeline) []

/-- The part of the timeline up to the target and with it. -/
def upTo (target : Version) (timeline : Timeline) : Timeline :=
  timeline.filter fun record => record.version ≤ target

end Timeline

end MigrationStatus.Migration
