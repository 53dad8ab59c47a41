import MigrationStatus.Ledger.Server
/-!
# What the statement of a marker says, and what it stores

The text of the statement names seven columns and gives each its value: four come from the
parameters that are sent along, three stand in the text. The row is computed from the same columns,
values and parameters, and whatever the stamp, it is the marker. Rank and time are not the
statement's to give.
-/

namespace MigrationStatus.Ledger

/-- The row that marks where tracking begins, with the rank and the time that the database adds. -/
def Row.marker (stamp : Stamp) (version : Version) (description : String) : Row where
  rank := stamp.rank
  version := version.display
  description := description
  kind := Migration.Kind.init.code
  script := description
  checksum := none
  installedOn := stamp.time
  executionTime := 0
  success := true

variable {table : Table} {version : Version} {description : String}

namespace Statement

theorem space_append_markerBody :
    " " ++ markerBody =
      " (version, description, type, script, checksum, execution_time, success) " ++
        "VALUES ($1, $2, $3, $4, NULL, 0, TRUE)" := by
  decide +kernel

theorem text_insertMarker (table : Table) (version : Version) (description : String) :
    (insertMarker table version description).text =
      "INSERT INTO " ++ table.written ++
        " (version, description, type, script, checksum, execution_time, success) " ++
        "VALUES ($1, $2, $3, $4, NULL, 0, TRUE)" := by
  change "INSERT INTO " ++ table.written ++ " " ++ markerBody = _
  rw [String.append_assoc, space_append_markerBody, ← String.append_assoc]

theorem parameters_insertMarker (table : Table) (version : Version) (description : String) :
    (insertMarker table version description).parameters =
      [version.display, description, "INIT", description] := rfl

/-- Columns, values and parameters make the marker, whichever rank and time are added. -/
theorem row?_insertMarker (stamp : Stamp) :
    (insertMarker table version description).row? stamp =
      some (Row.marker stamp version description) := rfl

end Statement

end MigrationStatus.Ledger
