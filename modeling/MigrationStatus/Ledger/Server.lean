import MigrationStatus.Ledger.Statement
/-!
A database server with one table.

The server serves one connection at a time. Within a transaction it keeps the rows to go back to, in
case the transaction is undone. Which statements fail, and which ranks and times new rows get, is
not for the server to say but for the world that it stands in. A statement that fails has no effect,
except that a transaction whose end fails is undone.
-/

namespace MigrationStatus.Ledger

structure Server where
  /-- The rows of the table; nothing where the table does not exist. -/
  table : Option (List Row)
  /-- The table as it was when the open transaction began. -/
  saved : Option (Option (List Row))
  /-- What new rows get of their own accord, one after the other. -/
  stamps : Nat → Stamp
  /-- The number of stamps that were handed out. None is handed out again, even if its row is
  undone. -/
  stamped : Nat
  /-- The message with which a statement fails, if it does. -/
  failure? : Statement → Option String

namespace Server

/-- The rows in the order of a column. -/
def ordered (column : Column) (rows : List Row) : List Row :=
  rows.mergeSort fun left right => left.number column ≤ right.number column

/-- The rows in the order of their ranks. -/
def ranked (rows : List Row) : List Row := ordered .rank rows

/-- Gives up the open transaction. -/
def undone (server : Server) : Server :=
  { server with table := server.saved.getD server.table, saved := none }

/-- The server after a statement has put in its row. -/
def inserted (server : Server) (statement : Statement) : Server :=
  let row? := statement.row? (server.stamps server.stamped)
  { server with
    table := some (server.table.getD [] ++ row?.toList)
    stamped := server.stamped + 1 }

/-- The answer to a statement that does not fail, and the server after it. -/
def obeyed (server : Server) : (statement : Statement) → statement.Answer × Server
  | .tableExists _ => (server.table.isSome, server)
  | .createTable _ => ((), { server with table := some (server.table.getD []) })
  | .begin => ((), { server with saved := some server.table })
  | .lockTable _ => ((), server)
  | .countRows _ => ((server.table.getD []).length, server)
  | .insertMarker table version description =>
    ((), server.inserted (.insertMarker table version description))
  | .commit => ((), { server with saved := none })
  | .rollback => ((), server.undone)
  | .selectRows _ => (ordered Statement.readOrder (server.table.getD []), server)

/-- The server after a statement that has failed. -/
def failed (server : Server) : Statement → Server
  | .commit | .rollback => server.undone
  | _ => server

/-- The answer to a statement, or the message with which it failed, and the server after it. -/
def execute (server : Server) (statement : Statement) :
    Except String statement.Answer × Server :=
  match server.failure? statement with
  | some message => (.error message, server.failed statement)
  | none =>
    let (answer, after) := server.obeyed statement
    (.ok answer, after)

end Server

end MigrationStatus.Ledger
