import MigrationStatus.Ledger.Row
import MigrationStatus.Ledger.Table
/-!
What can go wrong while the ledger is read or started.
-/

namespace MigrationStatus.Ledger

/-- Why an operation on the ledger failed; tables and versions are given as they are shown. -/
inductive Failure where
  | name (error : NameError)
  /-- A statement failed that needs no further words. -/
  | server (message : String)
  | creating (table message : String)
  | locking (table message : String)
  | recording (version table message : String)
  | reading (table message : String)
  | row (error : RowError)
  /-- Tracking begins at a version of its own, not at one of the two bounds. -/
  | unmarkable (version : String)
  | notEmpty (table version : String) (rows : Nat)
  deriving DecidableEq

/-- The error of the database, with the message it came with. -/
def databaseMessages (message : String) : List String :=
  [s!"error returned from database: {message}", message]

/-- What went wrong, from the outermost message to the innermost. -/
def Failure.messages : Failure → List String
  | .name error => [error.message]
  | .server message => databaseMessages message
  | .creating table message =>
    s!"Failed to create metadata table {table}" :: databaseMessages message
  | .locking table message => s!"Failed to lock metadata table {table}" :: databaseMessages message
  | .recording version table message =>
    s!"Failed to record init marker {version} in {table}" :: databaseMessages message
  | .reading table message =>
    s!"Failed to read applied migrations from {table}" :: databaseMessages message
  | .row error => error.messages
  | .unmarkable version =>
    [s!"Unable to initialize metadata table with version {version}: must be a concrete version"]
  | .notEmpty table version rows =>
    [s!"Unable to initialize metadata table {table} with version {version}: " ++
      s!"it already contains {rows} applied migration(s)"]

end MigrationStatus.Ledger
