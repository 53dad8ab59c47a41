import MigrationStatus.Checksum.Md5
import MigrationStatus.Command.Session
import MigrationStatus.Connection.Network
/-!
The program: the words of the call, the variables and the files come from the system, and the output
goes to it. The database is a server in memory that lives as long as the session; it is found at one
place, numbers its rows from one, fails nothing, and its clock stands still.
-/

namespace MigrationStatus.Main

/-- The variables that the program and its file of variables may refer to. -/
def variableNames : List String :=
  ["DATABASE_URL", "RUST_LOG", "CLICOLOR_FORCE", "HOME", "USER", "PATH"]

def environment : IO Environment := do
  let found ← variableNames.filterMapM fun name => do
    return (← IO.getEnv name).map fun text => (name, text)
  return ⟨found⟩

/-- What stands under a path, as the system has it. -/
def look (path : String) : IO (Option Files.Entry) := do
  if path.isEmpty then return none
  let place := (← IO.currentDir) / path
  if ← place.isDir then
    let items ← (← place.readDir).mapM fun found => do
      let content ← if ← found.path.isDir then pure none else some <$> IO.FS.readBinFile found.path
      return { name := found.fileName.toUTF8, content : Files.Item }
    return some (.folder items.toList)
  else if ← place.pathExists then return some (.file (← IO.FS.readBinFile place))
  else return none

/-- The time since the start of the session, in milliseconds. -/
def elapsed (start : Nat) : IO String := do return s!"{(← IO.monoMsNow) - start}ms"

/-- Where the server in memory is found. -/
def place : Connection.Place := ⟨"/run/ledger", 5432⟩

def server : Ledger.Server where
  table := none
  saved := none
  stamps n := ⟨Int32.ofNat (n + 1), .startOf2024⟩
  stamped := 0
  failure? _ := none

/-- Performs an effect and answers it. -/
def answer (filter : Log.Filter) (start : Nat) (server : IO.Ref Ledger.Server) :
    (effect : Effect) → IO effect.Answer
  | .note event => do
    if let some line := Session.line? filter (← elapsed start) (.note event) then
      IO.println line
  | .print text => IO.println text
  | .look path => look path
  | .connect url => return place.answerTo (.ok ()) url
  | .pause millis => IO.sleep millis.toUInt32
  | .ask statement => server.modifyGet (·.execute statement)

/-- Performs a program, effect by effect. -/
def perform {α : Type} (answer : (effect : Effect) → IO effect.Answer) : Program α → IO α
  | .done result => return result
  | .perform effect next => do perform answer (next (← answer effect))

end MigrationStatus.Main

open MigrationStatus in
/-- Runs a session on the words of the call. -/
def main (words : List String) : IO UInt32 := do
  let start ← IO.monoMsNow
  let server ← IO.mkRef Main.server
  let file ← Main.look Environment.File.path
  let session := Session.start Checksum.md5 (← Main.environment) file words
  let ending ← Main.perform (Main.answer session.filter start server) session.program
  IO.eprint ending.complaint
  return ending.code.toUInt32
