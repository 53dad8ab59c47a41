import MigrationStatus.Command
/-!
The parameters of the command line, and which of them each command takes.

Every parameter has a name that is written behind two dashes, and some have a letter behind one.
The parameters that every command takes may stand in front of the command as well.
-/

namespace MigrationStatus.Command

/-- The words that select a command. -/
inductive Verb where
  | info
  | validate
  | init
  deriving DecidableEq, Repr

namespace Verb

def all : List Verb := [.info, .validate, .init]

def word : Verb → String
  | info => "info"
  | validate => "validate"
  | init => "init"

def ofWord? (word : String) : Option Verb := all.find? (·.word == word)

/-- What the command does, for the help text. -/
def about : Verb → String
  | info => "Show every migration with its state"
  | validate => "Fail if any migration failed or was ignored"
  | init => "Record the version at which this database starts being tracked"

end Verb

inductive Parameter where
  | settingsFile
  | verbose
  | quiet
  | debug
  | help
  | version
  | format
  | databaseUrl
  | migrations
  | schema
  | tableName
  | target
  | initVersion
  | initDescription
  | yes
  deriving DecidableEq, Repr

namespace Parameter

def name : Parameter → String
  | settingsFile => "config-file"
  | verbose => "verbose"
  | quiet => "quiet"
  | debug => "debug"
  | help => "help"
  | version => "version"
  | format => "format"
  | databaseUrl => "database-url"
  | migrations => "migrations-dir"
  | schema => "table-schema"
  | tableName => "table-name"
  | target => "target"
  | initVersion => "init-version"
  | initDescription => "init-description"
  | yes => "yes"

def letter? : Parameter → Option Char
  | verbose => some 'v'
  | quiet => some 'q'
  | help => some 'h'
  | version => some 'V'
  | yes => some 'y'
  | _ => none

/-- Whether the parameter is followed by a value. -/
def takesValue : Parameter → Bool
  | verbose | quiet | debug | help | version | yes => false
  | _ => true

/-- The parameter as it is shown: its name, and the name in capitals in the place of its value. -/
def shown (parameter : Parameter) : String :=
  if parameter.takesValue then
    let value := Text.replace '-' '_' (parameter.name.toList.map Char.toUpper)
    s!"--{parameter.name} <{String.ofList value}>"
  else s!"--{parameter.name}"

/-- Whether a value can be given to the parameter. -/
def admits (parameter : Parameter) (value : String) : Bool :=
  match parameter with
  | format => (Report.Format.ofWord? false value).isSome
  | _ => true

/-- The parameters that may stand in front of a command and behind it. -/
def shared : List Parameter := [settingsFile, verbose, quiet, debug, help]

/-- The parameters on the settings that show and check the state. -/
def ofStatus : List Parameter := [databaseUrl, migrations, schema, tableName, target]

/-- The parameters that are taken behind a command, or in front of one. -/
def taken : Option Verb → List Parameter
  | none => shared ++ [version]
  | some .info => shared ++ format :: ofStatus
  | some .validate => shared ++ ofStatus
  | some .init =>
    shared ++ [initVersion, initDescription, yes, databaseUrl, schema, tableName, target]

/-- The parameter of a name. -/
def ofName? (place : Option Verb) (name : String) : Option Parameter :=
  (taken place).find? (·.name == name)

/-- The parameter of a letter. -/
def ofLetter? (place : Option Verb) (letter : Char) : Option Parameter :=
  (taken place).find? (·.letter? == some letter)

end Parameter

end MigrationStatus.Command
