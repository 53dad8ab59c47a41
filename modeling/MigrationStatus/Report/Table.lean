import MigrationStatus.Migration.Overview
import MigrationStatus.Report.Style
/-!
The table that people read: a header, a rule under it, and one line for each migration.

Columns are as wide as their widest cell, counted in characters, the header included. Every cell but
the last of a line is filled up with spaces, so the bars stand under each other. How far a cell is
filled up is counted in 16 bits, so there is no table with a wider column in front of the last.
-/

namespace MigrationStatus.Report

open Migration

/-- The four cells of one line. -/
structure Cells where
  version : String
  description : String
  installedOn : String
  state : String
  deriving DecidableEq, Repr

/-- The widths of the four columns. -/
structure Widths where
  version : Nat
  description : Nat
  installedOn : Nat
  state : Nat
  deriving DecidableEq, Repr

def Cells.header : Cells := ⟨"Version", "Description", "Installed on", "State"⟩

def Cells.ofRecord (record : Record) : Cells where
  version := record.version.display
  description := record.description
  installedOn := (record.installedOn.map Instant.tableText).getD ""
  state := record.state.label

/-- The width of a column: the length of its longest text, or that of its title in bytes. -/
def columnWidth (title : String) (texts : List String) : Nat :=
  (texts.map String.length).foldl max title.utf8ByteSize

def Widths.ofRows (rows : List Cells) : Widths where
  version := columnWidth Cells.header.version (rows.map (·.version))
  description := columnWidth Cells.header.description (rows.map (·.description))
  installedOn := columnWidth Cells.header.installedOn (rows.map (·.installedOn))
  state := columnWidth Cells.header.state (rows.map (·.state))

/-- The width up to which a cell can be filled, the largest number of 16 bits. -/
def widestFilled : Nat := 65535

/-- The text with spaces after it up to the width, unless that is beyond what is counted. -/
def filled (width : Nat) (text : String) : Option String :=
  if width ≤ widestFilled then
    some (text ++ String.ofList (List.replicate (width - text.length) ' '))
  else none

/-- A line up to its last cell, where each cell of it can be filled up. -/
def Cells.front (cells : Cells) (widths : Widths) : Option String := do
  let version ← filled widths.version cells.version
  let description ← filled widths.description cells.description
  let installedOn ← filled widths.installedOn cells.installedOn
  return version ++ " | " ++ description ++ " | " ++ installedOn ++ " | "

/-- The line, with a last cell in place of the state where one is given. -/
def Cells.line (cells : Cells) (widths : Widths) (last : String) : Option String :=
  return (← cells.front widths) ++ last

/-- The rule under the header: dashes, with a cross under every bar. -/
def Widths.rule (widths : Widths) : String :=
  "-+-".intercalate
    ([widths.version, widths.description, widths.installedOn, widths.state].map fun width =>
      String.ofList (List.replicate width '-'))

/-- The state of a record as the last cell of its line. -/
def stateCell (colors : Bool) (record : Record) : String :=
  Style.paint colors (Style.ofState record.state) record.state.label

/-- The widths of the table of a timeline. -/
def tableWidths (timeline : Timeline) : Widths := .ofRows (timeline.map Cells.ofRecord)

/-- The lines of the table; one cell that cannot be filled up, and there are none. -/
def tableLines (colors : Bool) (timeline : Timeline) : Option (List String) := do
  let widths := tableWidths timeline
  let header ← Cells.header.line widths Cells.header.state
  let rows ← timeline.mapM fun record =>
    (Cells.ofRecord record).line widths (stateCell colors record)
  return header :: widths.rule :: rows

/-- The table, if its lines can be written, or a sentence where there is nothing to show. -/
def table (colors : Bool) (timeline : Timeline) : Option String :=
  if timeline.isEmpty then some "No migrations found"
  else return "\n".intercalate (← tableLines colors timeline)

end MigrationStatus.Report
