import MigrationStatus.Proofs.Requests
import MigrationStatus.Proofs.VersionText
import MigrationStatus.Proofs.Views
/-!
# What is shown once tracking has begun

The marker is stored as text and read back as the version it was made for. As the only row it is the
marker and the last row at once: what is at hand below it predates tracking, what lies above it is
pending, and nothing is passed over. Later requests find the marker in the table, so none of them
starts tracking again, and what is shown stays the same. The time at which tracking began is the one
that the database has given the row.
-/

namespace MigrationStatus

namespace Migration.Reconcile

open Timeline

/-- The record as which the marker of a start is read, if the row was written at that time. -/
def opening (version : Version) (description : String) (time : Instant) : Record where
  version := version
  description := description
  kind := .init
  script := description
  checksum := none
  installedOn := some time
  duration := some ⟨0⟩
  state := .success

variable {available : List Record} {record file : Record} {target version bound : Version}
  {description : String} {time : Instant}

/-! ### The marker alone -/

end Migration.Reconcile

namespace Ledger

open Migration Migration.Reconcile

variable {table : Table} {world : World} {version target : Version} {description : String}
  {available : List Record} {failure? : Statement → Option String} {stamp : Stamp}

/-! ### The marker in the ledger -/

theorem rows_after_start (h : Ready (met world failure?).server table version description) :
    (Step.after table world ⟨failure?, .start version description⟩).server.rows =
      [Row.marker world.server.stamp version description] := by
  have hvacant : world.server.rows = [] := h.vacant
  rw [rows_after, marker?_start_of_ready h, hvacant]
  rfl

/-- Whatever is asked afterwards, the marker stays the only row. -/
theorem rows_reached_of_start (h : Ready (met world failure?).server table version description)
    (further : List Step) :
    let begun := Step.after table world ⟨failure?, .start version description⟩
    (reached table begun further).server.rows =
      [Row.marker world.server.stamp version description] := by
  intro begun
  have hbegun : begun.server.rows = [Row.marker world.server.stamp version description] :=
    rows_after_start h
  rw [rows_reached, markers_of_rows_ne_nil further (by simp [hbegun]), hbegun, List.append_nil]

end Ledger

end MigrationStatus
