import MigrationStatus.Connection.Error
import MigrationStatus.Event
import MigrationStatus.Files
import MigrationStatus.Ledger.Server
/-!
Programs: what a command does, step by step, as a tree of effects.

Every effect has a type of answers, and a program goes on from each answer in its own way. `run`
plays a program against a world that holds the files, the network and the database server, and tells
which effects were performed in which order. Nothing is performed outside of that list, so what the
log, the output and the database get to see is read off it.
-/

namespace MigrationStatus

/-- One step that reaches beyond the program. -/
inductive Effect where
  /-- Writes an event to the log. -/
  | note (event : Event)
  /-- Prints a line. -/
  | print (line : String)
  /-- Looks up what stands under a path. -/
  | look (path : String)
  /-- Tries to connect to the database. -/
  | connect (url : String)
  /-- Waits for a number of milliseconds. -/
  | pause (millis : Nat)
  /-- Sends a statement to the database. -/
  | ask (statement : Ledger.Statement)
  deriving DecidableEq

/-- What an effect answers with. -/
abbrev Effect.Answer : Effect → Type
  | note _ | print _ | pause _ => Unit
  | look _ => Option Files.Entry
  | connect _ => Except Connection.AttemptError Unit
  | ask statement => Except String statement.Answer

/-- A program with a result. -/
inductive Program (α : Type) where
  | done (result : α)
  | perform (effect : Effect) (next : effect.Answer → Program α)

namespace Program

/-- One program after another. -/
def bind {α β : Type} : Program α → (α → Program β) → Program β
  | done result, rest => rest result
  | perform effect next, rest => perform effect fun answer => (next answer).bind rest

instance : Monad Program where
  pure := done
  bind := bind

/-- The program that performs one effect. -/
def of (effect : Effect) : Program effect.Answer := perform effect done

def note (event : Event) : Program Unit := of (.note event)

def print (line : String) : Program Unit := of (.print line)

def look (path : String) : Program (Option Files.Entry) := of (.look path)

def connect (url : String) : Program (Except Connection.AttemptError Unit) := of (.connect url)

def pause (millis : Nat) : Program Unit := of (.pause millis)

def ask (statement : Ledger.Statement) : Program (Except String statement.Answer) :=
  of (.ask statement)

theorem bind_done {α : Type} (program : Program α) : program.bind done = program := by
  induction program with
  | done result => rfl
  | perform effect next ih => exact congrArg (perform effect) (funext ih)

theorem bind_assoc {α β γ : Type} (program : Program α) (second : α → Program β)
    (third : β → Program γ) :
    (program.bind second).bind third = program.bind fun result => (second result).bind third := by
  induction program with
  | done result => rfl
  | perform effect next ih => exact congrArg (perform effect) (funext ih)

instance : LawfulMonad Program :=
  LawfulMonad.mk' Program bind_done (fun _ _ => rfl) bind_assoc

end Program

/-- What programs run in. -/
structure World where
  /-- What stands under each path. -/
  files : String → Option Files.Entry
  /-- What comes of attempts to connect, by their number and by the address. -/
  network : Nat → String → Except Connection.AttemptError Unit
  /-- The number of attempts that were made. -/
  attempted : Nat
  server : Ledger.Server

/-- The answer of the world to an effect, and the world after it. -/
def World.answer (world : World) : (effect : Effect) → effect.Answer × World
  | .note _ | .print _ | .pause _ => ((), world)
  | .look path => (world.files path, world)
  | .connect url =>
    (world.network world.attempted url, { world with attempted := world.attempted + 1 })
  | .ask statement =>
    let (answer, server) := world.server.execute statement
    (answer, { world with server })

/-- What became of a program. -/
structure Outcome (α : Type) where
  result : α
  /-- The effects in the order in which they were performed. -/
  performed : List Effect
  world : World

/-- Plays a program against a world. -/
def Program.run {α : Type} (world : World) : Program α → Outcome α
  | done result => { result, performed := [], world }
  | perform effect next =>
    let (answer, after) := world.answer effect
    let outcome := (next answer).run after
    { outcome with performed := effect :: outcome.performed }

namespace Outcome

/-- The statements that were sent. The database does not log the one that gives up a
transaction. -/
def statements {α : Type} (outcome : Outcome α) : List Ledger.Statement :=
  outcome.performed.filterMap fun
    | .ask .rollback => none
    | .ask statement => some statement
    | _ => none

/-- The addresses to which connections were attempted. -/
def attempts {α : Type} (outcome : Outcome α) : List String :=
  outcome.performed.filterMap fun
    | .connect url => some url
    | _ => none

end Outcome

end MigrationStatus
