import MigrationStatus.Report.Summary
import MigrationStatus.Report.Table
import MigrationStatus.Text.Cut
/-!
The reports on a timeline: the overview in either format, and the list of what needs attention.
-/

namespace MigrationStatus.Report

open Migration

/-- The formats of the overview. -/
inductive Format where
  /-- A table for people. -/
  | human
  /-- JSON for scripts. -/
  | json
  deriving DecidableEq, Repr, Inhabited

/-- The word that selects the format. -/
def Format.word : Format → String
  | .human => "human"
  | .json => "json"

/-- The format that a word selects, where wanted in letters of either case. -/
def Format.ofWord? (ignoringCase : Bool) (word : String) : Option Format :=
  [Format.human, .json].find? fun format =>
    if ignoringCase then Text.sameIgnoringCase format.word.toList word.toList
    else format.word == word

/-- The overview of a timeline, or nothing where its table has a column that cannot be filled up. -/
def overview (format : Format) (colors : Bool) (timeline : Timeline) : Option String :=
  match format with
  | .human => table colors timeline
  | .json => some ((Summary.ofTimeline timeline).toJson.pretty 0)

/-- One line for each anomaly, or a sentence where there is none. -/
def anomalyList (colors : Bool) (anomalies : List Anomaly) : String :=
  if anomalies.isEmpty then "No failed or ignored migrations found"
  else "\n".intercalate (anomalies.map fun anomaly =>
    Style.paint colors [.red] "✗" ++ " " ++ anomaly.message)

end MigrationStatus.Report
