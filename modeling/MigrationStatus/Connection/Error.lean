import MigrationStatus.Connection.Mask
import MigrationStatus.Connection.Route
/-!
Why no connection to the database could be made.
-/

namespace MigrationStatus.Connection

/-- Why one attempt failed. -/
inductive AttemptError where
  | route (error : RouteError)
  | refused (message : String)
  /-- The folder of the socket holds none. -/
  | noSocket
  | timedOut
  deriving DecidableEq, Repr

def AttemptError.message : AttemptError → String
  | .route error => s!"error with configuration: {error.message}"
  | .refused message => s!"error returned from database: {message}"
  | .noSocket => "error communicating with database: No such file or directory (os error 2)"
  | .timedOut => "pool timed out while waiting for an open connection"

/-- All attempts failed, the last of them with `last`. -/
structure Failure where
  url : String
  attempts : UInt32
  last : AttemptError
  deriving DecidableEq, Repr

def Failure.message (failure : Failure) : String :=
  s!"Failed to connect to database at {masked failure.url} after {failure.attempts.toNat} " ++
    s!"attempts: {failure.last.message}"

end MigrationStatus.Connection
