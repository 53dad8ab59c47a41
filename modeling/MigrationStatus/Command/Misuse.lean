import MigrationStatus.Command.Parameter
import MigrationStatus.Text.Terminal
/-!
Ways to call the program wrongly, and what else keeps a call from running a command.
-/

namespace MigrationStatus.Command

open Text.Terminal (seen)

/-- What is wrong with the words of a call. -/
inductive Misuse where
  | unexpected (word : String)
  | unexpectedValue (value : String) (parameter : Parameter)
  | missingValue (parameter : Parameter)
  | invalidValue (value : String) (parameter : Parameter)
  | repeated (parameter : Parameter)
  | unknownCommand (word : String)
  | missingCommand
  deriving DecidableEq, Repr

/-- The name under which the program is called. -/
def programName : String := "migstate"

/-- What is wrong, in words. Of the words of the call only that is repeated which can be seen. -/
def Misuse.message : Misuse → String
  | unexpected word => s!"unexpected argument '{seen word}' found"
  | unexpectedValue value parameter =>
    s!"unexpected value '{seen value}' for '{parameter.shown}' found; no more were expected"
  | missingValue parameter =>
    s!"a value is required for '{parameter.shown}' but none was supplied"
  | invalidValue value parameter => s!"invalid value '{seen value}' for '{parameter.shown}'"
  | repeated parameter => s!"the argument '{parameter.shown}' cannot be used multiple times"
  | unknownCommand word => s!"unrecognized subcommand '{seen word}'"
  | missingCommand => s!"'{programName}' requires a subcommand but one was not provided"

/-- Why a call runs no command. -/
inductive Stop where
  /-- The help text was asked for. -/
  | help
  /-- The version was asked for. -/
  | version
  /-- Nothing was given at all. -/
  | empty
  | misuse (misuse : Misuse)
  deriving DecidableEq, Repr

/-- What the program does. -/
def about : String :=
  "Reconciles available and applied PostgreSQL migrations into one classified status view"

/-- One line of the help text on a command. -/
def helpLine (verb : Verb) : String :=
  let blanks := String.ofList (List.replicate (10 - verb.word.length) ' ')
  s!"  {verb.word}{blanks}{verb.about}"

/-- The help text. -/
def helpText : String :=
  "\n".intercalate
    ([about, "", s!"Usage: {programName} [OPTIONS] <COMMAND>", "", "Commands:"] ++
      Verb.all.map helpLine)

/-- The version of the program. -/
def versionText : String := s!"{programName} 0.1.0"

end MigrationStatus.Command
