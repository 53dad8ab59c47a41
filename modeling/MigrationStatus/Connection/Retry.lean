import MigrationStatus.Program
/-!
Connecting to a database that may still be starting: a refused connection is tried again a limited
number of times, with a pause between two attempts.
-/

namespace MigrationStatus.Connection

/-- How often a connection is tried again, and how long to wait in between. -/
structure Policy where
  maxRetries : UInt32
  delayMillis : Nat
  deriving DecidableEq, Repr

def Policy.default : Policy := ⟨3, 200⟩

/-- Tries to connect once, and notes before which parameters of the address are passed over. -/
def tryOnce (url : String) : Program (Except AttemptError Unit) := do
  (Route.ignored url).forM fun (name, value) => Program.note (.parameterIgnored name value)
  Program.connect url

/-- Tries to connect for as often as there are retries left. -/
def attempt (url : String) (delayMillis : Nat) (retried : Nat) :
    (left : Nat) → Program (Except AttemptError Unit)
  | 0 => do
    match ← tryOnce url with
    | .ok _ =>
      Program.note (.connected retried)
      return .ok ()
    | .error error => return .error error
  | left + 1 => do
    match ← tryOnce url with
    | .ok _ =>
      Program.note (.connected retried)
      return .ok ()
    | .error _ =>
      if retried = 0 then Program.note .databaseNotReady
      Program.pause delayMillis
      attempt url delayMillis (retried + 1) left

/-- Connects to the database. -/
def establish (policy : Policy) (url : String) : Program (Except Failure Unit) := do
  let answer ← attempt url policy.delayMillis 0 policy.maxRetries.toNat
  return answer.mapError fun last => { url, attempts := policy.maxRetries + 1, last }

end MigrationStatus.Connection
