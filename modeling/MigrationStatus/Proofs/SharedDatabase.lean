import Mathlib.Logic.Function.Basic
import MigrationStatus.Ledger.Operation
import MigrationStatus.Proofs.MarkerRow
/-!
# One database, many callers

Every caller has a connection of its own, and the statements of all callers reach the database in
some order. A schedule decides whose turn it is and whether the statement fails, and it picks the
rank and the time that a new row gets. Of the database itself only this is used: at most one open
transaction holds the exclusive lock of a table, and it does so until it ends; a transaction sees
the committed rows and its own; its rows become visible to others when its commit succeeds.

Every table has rows and a lock of its own, so a statement about one table tells nothing of another.
A caller that is alone and keeps to one table finds the server of `Ledger.Server` (`obeyed_view`).
-/

namespace MigrationStatus.Ledger

namespace Shared

inductive Transaction where
  | closed
  /-- Holds the rows that were put into each table so far, which no one else sees. -/
  | opened (own : Table → List Row)
  /-- A statement has failed, and nothing but the end of the transaction is accepted. -/
  | aborted

def Transaction.isClosed : Transaction → Bool
  | closed => true
  | opened _ | aborted => false

structure Database (Caller : Type) where
  /-- The rows of each table that everyone sees; nothing where the table does not exist. -/
  rows? : Table → Option (List Row)
  /-- The caller whose transaction holds the exclusive lock of a table. -/
  holder : Table → Option Caller
  transaction : Caller → Transaction

variable {Caller α β ε : Type} [DecidableEq Caller]

namespace Database

def committed (database : Database Caller) (table : Table) : List Row :=
  (database.rows? table).getD []

/-- The rows of a table that a statement of the caller works on, if there is such a table and the
transaction goes on. -/
def seen? (database : Database Caller) (caller : Caller) (table : Table) : Option (List Row) :=
  match database.transaction caller with
  | .closed => database.rows? table
  | .opened own => (database.rows? table).map (· ++ own table)
  | .aborted => none

def put (database : Database Caller) (caller : Caller) (transaction : Transaction) :
    Database Caller :=
  { database with transaction := Function.update database.transaction caller transaction }

def filled (database : Database Caller) (table : Table) (rows : List Row) : Database Caller :=
  { database with rows? := Function.update database.rows? table (some rows) }

def released (database : Database Caller) (caller : Caller) : Database Caller :=
  { database with
    holder := fun table =>
      if database.holder table = some caller then none else database.holder table }

/-- The end of the caller's transaction, with which its locks are gone. -/
def ended (database : Database Caller) (caller : Caller) : Database Caller :=
  (database.put caller .closed).released caller

/-- The rows of the caller's transaction become visible to everyone. -/
def published (database : Database Caller) (caller : Caller) : Database Caller :=
  match database.transaction caller with
  | .opened own =>
    { database with rows? := fun table => (database.rows? table).map (· ++ own table) }
  | .closed | .aborted => database

/-- Whether the caller gets the exclusive lock: a table is locked within a transaction only, and the
lock of another caller is waited for. -/
def lockable (database : Database Caller) (caller : Caller) (table : Table) : Bool :=
  !(database.transaction caller).isClosed && (database.seen? caller table).isSome &&
    (database.holder table = none || database.holder table = some caller)

def locked (database : Database Caller) (caller : Caller) (table : Table) : Database Caller :=
  { database with holder := Function.update database.holder table (some caller) }

/-- A new row, in the table itself or in the caller's transaction. -/
def inserted? (database : Database Caller) (caller : Caller) (table : Table) (row : Row) :
    Option (Database Caller) :=
  match database.transaction caller, database.rows? table with
  | .closed, some rows => some (database.filled table (rows ++ [row]))
  | .opened own, some _ =>
    some (database.put caller (.opened (Function.update own table (own table ++ [row]))))
  | _, _ => none

/-- The answer to a statement that does not fail, and the database after it. Nothing where the
statement has to wait, or cannot but fail. -/
def obeyed? (database : Database Caller) (caller : Caller) (stamp : Stamp) :
    (statement : Statement) → Option (statement.Answer × Database Caller)
  | .tableExists table =>
    match database.transaction caller with
    | .aborted => none
    | _ => some ((database.rows? table).isSome, database)
  | .createTable table =>
    if (database.transaction caller).isClosed then
      some ((), database.filled table (database.committed table))
    else none
  | .begin =>
    if (database.transaction caller).isClosed then
      some ((), database.put caller (.opened fun _ => []))
    else none
  | .lockTable table =>
    if database.lockable caller table then some ((), database.locked caller table) else none
  | .countRows table => (database.seen? caller table).map fun rows => (rows.length, database)
  | .insertMarker table version description =>
    ((Statement.insertMarker table version description).row? stamp).bind fun row =>
      (database.inserted? caller table row).map fun after => ((), after)
  | .commit => some ((), (database.published caller).ended caller)
  | .rollback => some ((), database.ended caller)
  | .selectRows table =>
    (database.seen? caller table).map fun rows =>
      (Server.ordered Statement.readOrder rows, database)

/-- The database after a failed statement. A transaction in which a statement failed keeps its locks
until it is given up, or loses them at once; a commit that failed has ended it. -/
def failed (database : Database Caller) (caller : Caller) (statement : Statement) (frees : Bool) :
    Database Caller :=
  if (database.transaction caller).isClosed then database
  else if statement = .commit then database.ended caller
  else if frees then (database.put caller .aborted).released caller
  else database.put caller .aborted

end Database

/-- What the schedule has in store for the next statement of a caller. -/
inductive Fate where
  | obeyed (stamp : Stamp)
  | failed (message : String) (frees : Bool)

structure Turn (Caller : Type) where
  caller : Caller
  fate : Fate

/-- A database and what every caller still has to do. -/
structure System (Caller α : Type) where
  database : Database Caller
  call : Caller → Program α

namespace Database

/-- The answer to a statement and the database after it, unless the statement has to wait. -/
def answer? (database : Database Caller) (caller : Caller) (statement : Statement) :
    Fate → Option (Except String statement.Answer × Database Caller)
  | .obeyed stamp =>
    (database.obeyed? caller stamp statement).map fun (answer, after) => (.ok answer, after)
  | .failed message frees => some (.error message, database.failed caller statement frees)

/-- The database after one step of a program, and what is left of the program. Programs that do
anything but write to the log and ask the database are left standing. -/
def advance? (database : Database Caller) (caller : Caller) (fate : Fate) :
    Program α → Option (Database Caller × Program α)
  | .perform (.ask statement) next =>
    (database.answer? caller statement fate).map fun (answer, after) => (after, next answer)
  | .perform (.note _) next => some (database, next ())
  | _ => none

end Database

namespace System

/-- One turn. Where the caller has to wait or is done, nothing happens. -/
def turn (system : System Caller α) (turn : Turn Caller) : System Caller α :=
  match system.database.advance? turn.caller turn.fate (system.call turn.caller) with
  | none => system
  | some (database, rest) =>
    { database, call := Function.update system.call turn.caller rest }

def run (system : System Caller α) (schedule : List (Turn Caller)) : System Caller α :=
  schedule.foldl turn system

/-- Every caller is about to start tracking at a version of its own, all in the same table. -/
def starting (table : Table) (content : Table → Option (List Row)) (version : Caller → Version)
    (description : Caller → String) : System Caller (Except Failure Unit) where
  database := { rows? := content, holder := fun _ => none, transaction := fun _ => .closed }
  call caller := (start table (version caller) (description caller)).run

end System

/-! ### A caller that is alone -/

/-- The statement is about this table, or about none. -/
def KeepsTo (table : Table) : Statement → Prop
  | .tableExists other | .createTable other | .lockTable other | .countRows other
  | .insertMarker other .. | .selectRows other => other = table
  | .begin | .commit | .rollback => True

namespace Database

variable {database after : Database Caller} {caller : Caller} {table : Table}
  {stamps : Nat → Stamp} {stamped : Nat}

/-- What one caller can tell about a table, where new rows get these stamps. -/
def view (database : Database Caller) (caller : Caller) (table : Table) (stamps : Nat → Stamp)
    (stamped : Nat) : Server where
  table :=
    match database.transaction caller with
    | .opened own => (database.rows? table).map (· ++ own table)
    | .closed | .aborted => database.rows? table
  saved :=
    match database.transaction caller with
    | .opened _ => some (database.rows? table)
    | .closed | .aborted => none
  stamps
  stamped
  failure? _ := none

theorem view_ended (database : Database Caller) (caller : Caller) :
    (database.ended caller).view caller table stamps stamped =
      ⟨database.rows? table, none, stamps, stamped, fun _ => none⟩ := by
  simp [view, ended, released, put]

theorem view_put_opened (database : Database Caller) (caller : Caller) (own : Table → List Row) :
    (database.put caller (.opened own)).view caller table stamps stamped =
      ⟨(database.rows? table).map (· ++ own table), some (database.rows? table), stamps, stamped,
        fun _ => none⟩ := by
  simp [view, put]

omit [DecidableEq Caller] in
theorem table_view_of_seen? {rows : List Row} (h : database.seen? caller table = some rows) :
    (database.view caller table stamps stamped).table = some rows := by
  unfold seen? at h
  unfold view
  cases htransaction : database.transaction caller <;> simp_all

omit [DecidableEq Caller] in
theorem undone_view (database : Database Caller) (caller : Caller) :
    (database.view caller table stamps stamped).undone =
      ⟨database.rows? table, none, stamps, stamped, fun _ => none⟩ := by
  cases htransaction : database.transaction caller <;> simp [view, htransaction, Server.undone]

theorem view_published_ended (database : Database Caller) (caller : Caller) :
    ((database.published caller).ended caller).view caller table stamps stamped =
      { database.view caller table stamps stamped with saved := none } := by
  rw [view_ended]
  cases htransaction : database.transaction caller <;> simp [view, htransaction, published]

omit [DecidableEq Caller] in
theorem view_of_isClosed (h : (database.transaction caller).isClosed = true) :
    database.view caller table stamps stamped =
      ⟨database.rows? table, none, stamps, stamped, fun _ => none⟩ := by
  cases htransaction : database.transaction caller <;>
    simp_all [view, Transaction.isClosed]

theorem inserted_view {version : Version} {description : String}
    (h : database.inserted? caller table (Row.marker (stamps stamped) version description) =
      some after) :
    (database.view caller table stamps stamped).inserted
        (.insertMarker table version description) =
      after.view caller table stamps (stamped + 1) := by
  cases hrows : database.rows? table with
  | none =>
    cases htransaction : database.transaction caller <;>
      simp [inserted?, htransaction, hrows] at h
  | some rows =>
    cases htransaction : database.transaction caller with
    | closed =>
      obtain rfl : database.filled table
          (rows ++ [Row.marker (stamps stamped) version description]) = after := by
        simpa [inserted?, htransaction, hrows] using h
      simp [Server.inserted, Statement.row?_insertMarker, view, filled, htransaction, hrows]
    | opened own =>
      obtain rfl : database.put caller (.opened (Function.update own table
          (own table ++ [Row.marker (stamps stamped) version description]))) = after := by
        simpa [inserted?, htransaction, hrows] using h
      rw [view_put_opened]
      simp [Server.inserted, Statement.row?_insertMarker, view, htransaction, hrows]
    | aborted => simp [inserted?, htransaction, hrows] at h

/-- A statement that is obeyed does for its caller what it does on a server that fails nothing and
has the next stamp in store. -/
theorem obeyed_view {statement : Statement} {answer : statement.Answer}
    (hkeeps : KeepsTo table statement)
    (h : database.obeyed? caller (stamps stamped) statement = some (answer, after)) :
    ∃ later, (database.view caller table stamps stamped).obeyed statement =
      (answer, after.view caller table stamps later) := by
  cases statement with
  | tableExists other =>
    obtain rfl : other = table := hkeeps
    obtain ⟨rfl, rfl⟩ : (database.rows? other).isSome = answer ∧ database = after := by
      cases htransaction : database.transaction caller with
      | aborted => simp [obeyed?, htransaction] at h
      | _ => simpa [obeyed?, htransaction] using h
    refine ⟨stamped, ?_⟩
    cases htransaction : database.transaction caller <;>
      simp [Server.obeyed, view, htransaction]
  | createTable other =>
    obtain rfl : other = table := hkeeps
    obtain ⟨hclosed, rfl⟩ : (database.transaction caller).isClosed = true ∧
        database.filled other (database.committed other) = after := by
      simpa [obeyed?] using h
    have hfilled : ((database.filled other (database.committed other)).transaction
        caller).isClosed = true := hclosed
    refine ⟨stamped, ?_⟩
    rw [view_of_isClosed hclosed, view_of_isClosed hfilled]
    simp [Server.obeyed, filled, committed]
  | begin =>
    obtain ⟨hclosed, rfl⟩ : (database.transaction caller).isClosed = true ∧
        database.put caller (.opened fun _ => []) = after := by
      simpa [obeyed?] using h
    refine ⟨stamped, ?_⟩
    rw [view_of_isClosed hclosed, view_put_opened]
    simp [Server.obeyed]
  | lockTable other =>
    obtain ⟨-, rfl⟩ : database.lockable caller other ∧ database.locked caller other = after := by
      simpa [obeyed?] using h
    exact ⟨stamped, rfl⟩
  | countRows other =>
    obtain rfl : other = table := hkeeps
    obtain ⟨rows, hrows, rfl, rfl⟩ : ∃ rows, database.seen? caller other = some rows ∧
        rows.length = answer ∧ database = after := by
      simpa [obeyed?] using h
    exact ⟨stamped, by simp [Server.obeyed, table_view_of_seen? hrows]⟩
  | insertMarker other version description =>
    obtain rfl : other = table := hkeeps
    have hinserted : database.inserted? caller other
        (Row.marker (stamps stamped) version description) = some after := by
      simpa [obeyed?, Statement.row?_insertMarker] using h
    exact ⟨stamped + 1, congrArg (Prod.mk ()) (inserted_view hinserted)⟩
  | commit =>
    obtain rfl : (database.published caller).ended caller = after := by simpa [obeyed?] using h
    exact ⟨stamped, by rw [view_published_ended]; rfl⟩
  | rollback =>
    obtain rfl : database.ended caller = after := by simpa [obeyed?] using h
    exact ⟨stamped, by rw [Server.obeyed, undone_view, view_ended]⟩
  | selectRows other =>
    obtain rfl : other = table := hkeeps
    obtain ⟨rows, hrows, rfl, rfl⟩ : ∃ rows, database.seen? caller other = some rows ∧
        Server.ordered Statement.readOrder rows = answer ∧ database = after := by
      simpa [obeyed?] using h
    exact ⟨stamped, by simp [Server.obeyed, table_view_of_seen? hrows]⟩

end Database

end Shared

end MigrationStatus.Ledger
