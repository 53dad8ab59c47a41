import MigrationStatus.Ledger.Error
import MigrationStatus.Program
/-!
The operations on the ledger, as programs that send statements.

Tracking is started within one transaction: the table is locked, its rows are counted, and only an
empty table gets its marker, so no two runs can both put one in. Over a table with rows the
transaction is given up, and where anything fails it is let go. The table itself is made before
that, and stays.
-/

namespace MigrationStatus.Ledger

/-- A program that may fail. -/
abbrev Action (α : Type) := ExceptT Failure Program α

/-- Sends a statement; a failure is told in the words that `wrap` finds for it. -/
def send (statement : Statement) (wrap : String → Failure) : Action statement.Answer :=
  ExceptT.mk do
    let answer ← Program.ask statement
    return answer.mapError wrap

def note (event : Event) : Action Unit := ExceptT.lift (Program.note event)

/-- The written name of the table, if the name is admitted. -/
def admitted (table : Table) : Action String :=
  ExceptT.mk (pure (table.checked.mapError Failure.name))

/-- Whether the table exists. -/
def tableExists (table : Table) : Action Bool := send (.tableExists table) .server

/-- Makes the table, unless it exists. -/
def ensureTable (table : Table) : Action Unit := do
  let written ← admitted table
  send (.createTable table) (.creating written)

/-- Runs a part of a transaction. Where it fails, the transaction is let go, and it does not matter
what the database says to that. -/
def orRollback {α : Type} (body : Action α) : Action α :=
  ExceptT.mk do
    let result ← body.run
    if result matches .error _ then
      discard (Program.ask .rollback)
    return result

/-- Locks the table and counts its rows. -/
def lockedCount (table : Table) (written : String) : Action Nat := do
  send (.lockTable table) (.locking written)
  send (.countRows table) .server

/-- Puts the marker in and ends the transaction with it. -/
def mark (table : Table) (written : String) (version : Version) (description : String) :
    Action Unit := do
  send (.insertMarker table version description) (.recording version.display written)
  send .commit .server

/-- Starts tracking at a version. A table with rows is refused, unless the transaction cannot even
be given up. -/
def start (table : Table) (version : Version) (description : String) : Action Unit := do
  if !version.isNumbered then
    throw (.unmarkable version.display)
  let written ← admitted table
  ensureTable table
  send .begin .server
  let rows ← orRollback (lockedCount table written)
  if 0 < rows then
    orRollback (send .rollback .server)
    throw (.notEmpty written version.display rows)
  orRollback (mark table written version description)
  note (.ledgerStarted written version.display)

/-- Every migration that was run, in the order of the ranks. A table that does not exist holds
none. -/
def applied (table : Table) : Action (List Migration.Record) := do
  let written ← admitted table
  if !(← tableExists table) then
    note (.ledgerMissing written)
    return []
  let rows ← send (.selectRows table) (.reading written)
  note (.ledgerRead rows.length written)
  ExceptT.mk (pure ((records rows).mapError Failure.row))

end MigrationStatus.Ledger
