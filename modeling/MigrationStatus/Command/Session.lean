import MigrationStatus.Command.Arguments
import MigrationStatus.Command.Run
import MigrationStatus.Environment.File
/-!
A session: one call of the program from its words to its end.

What is printed and what of the log is shown come in one stream, in the order in which they happen.
A failure is told at the end with everything that led to it, and the session ends with a number that
says whether it succeeded.
-/

namespace MigrationStatus

/-- How a session ends. -/
structure Ending where
  /-- Zero for success, two for a wrong call, 101 where the program broke off, and one for any
  other failure. -/
  code : UInt8
  /-- What is told about a failure. -/
  complaint : String
  deriving DecidableEq, Repr

namespace Ending

def success : Ending := ⟨0, ""⟩

/-- A message with marks in front of its first line and of every other line. -/
def indented (first others message : String) : String :=
  first ++ ("\n" ++ others).intercalate (message.splitOn "\n")

/-- The number of a cause, filled up to five characters. -/
def numberColumn (n : Nat) : String :=
  let digits := toString n
  String.ofList (List.replicate (5 - digits.length) ' ') ++ digits

/-- What led to a failure, one cause a line; several causes are numbered. -/
def causesText : List String → String
  | [] => ""
  | [cause] => "\n\nCaused by:\n" ++ indented "    " "    " cause
  | causes =>
    "\n\nCaused by:\n" ++ "\n".intercalate
      (causes.mapIdx fun n cause => indented s!"{numberColumn n}: " "       " cause)

/-- The end after a failure with its messages, from the outermost to the innermost. -/
def ofMessages (messages : List String) : Ending where
  code := 1
  complaint := "Error: " ++ messages.headD "" ++ causesText messages.tail ++ "\n"

/-- The end of a program that broke off. -/
def brokenOff (message : String) : Ending := ⟨101, s!"\nthread 'main' panicked:\n{message}\n"⟩

def ofResult : Except Failure Unit → Ending
  | .ok _ => success
  | .error .columnTooWide => brokenOff Failure.widthHint
  | .error failure => ofMessages failure.messages

end Ending

/-- A session before it runs. -/
structure Session where
  /-- How much of the log is shown. -/
  filter : Log.Filter
  program : Program Ending

namespace Session

open Command

/-- The end of a wrong call. -/
def misused (misuse : Misuse) : Ending :=
  ⟨2, s!"error: {misuse.message}\n\nFor more information, try '--help'.\n"⟩

/-- The session of a call that runs no command. -/
def ofStop (stop : Stop) : Session where
  filter := .silent
  program :=
    match stop with
    | .help => do
      Program.print helpText
      return .success
    | .version => do
      Program.print versionText
      return .success
    | .empty => return ⟨2, helpText ++ "\n"⟩
    | .misuse misuse => return misused misuse

/-- How much of the log a call shows; the environment counts more than its parameters. -/
def filterOf (environment : Environment) (call : Call) : Log.Filter :=
  match environment.logFilter with
  | some text => Log.Filter.parse text
  | none => .upTo call.level

/-- The session of a call that runs a command. -/
def ofCall (digest : Checksum.Digest) (environment : Environment) (call : Call) : Session where
  filter := filterOf environment call
  program := do return .ofResult (← (call.run digest environment).run)

/-- The session that the words of a call ask for, with the file of variables that was found. -/
def start (digest : Checksum.Digest) (environment : Environment) (file : Option Files.Entry)
    (words : List String) : Session :=
  match Command.parse words with
  | .ok call => ofCall digest (Environment.File.add environment file) call
  | .error stop => ofStop stop

/-- What an effect adds to the output, if anything. Lines of the log begin with the time. -/
def line? (filter : Log.Filter) (time : String) : Effect → Option String
  | .note event => if event.passes filter then some s!"{time} {event.line}" else none
  | .print text => some text
  | _ => none

/-- The output of effects, line by line, where one time is shown for all of them. -/
def output (filter : Log.Filter) (time : String) (performed : List Effect) : String :=
  String.join ((performed.filterMap (line? filter time)).map (· ++ "\n"))

end Session

end MigrationStatus
