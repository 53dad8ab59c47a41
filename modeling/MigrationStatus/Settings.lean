import MigrationStatus.Ledger.Table
import MigrationStatus.Settings.Layer
import MigrationStatus.Version.Text
/-!
The settings of a run: the values that the layers give, and a default for every other value.
-/

namespace MigrationStatus

/-- The settings of a run. -/
structure Settings where
  url : Option String
  /-- The folder of the scripts, as seen from the folder of the settings file. -/
  migrations : String
  table : Ledger.Table
  /-- The highest version that is shown. -/
  target : Version
  /-- The version at which tracking begins. -/
  initVersion : Version
  initDescription : String
  deriving DecidableEq

namespace Settings

/-- Why layers give no settings. -/
inductive Error where
  | target (error : Version.ParseError)
  | initVersion (error : Version.ParseError)
  /-- Tracking cannot begin at one of the two bounds. -/
  | initUnbounded (shown : String)
  deriving DecidableEq, Repr

/-- What is wrong, from the outermost message to the innermost. -/
def Error.messages : Error → List String
  | .target error => ["Invalid target version", error.message]
  | .initVersion error => ["Invalid init version", error.message]
  | .initUnbounded shown =>
    [s!"Invalid init version: must be a concrete version, got '{shown}'"]

/-- The settings where no layer gives a value. -/
def default : Settings where
  url := none
  migrations := "migrations"
  table := ⟨"public", "schema_version"⟩
  target := .latest
  initVersion := .ofParts [1]
  initDescription := "<< Init >>"

/-- The version that a layer gives, if it gives one. -/
def versionOf (text : Option String) (otherwise : Version) :
    Except Version.ParseError Version :=
  match text with
  | some text => Version.parse text
  | none => .ok otherwise

/-- The settings that a layer gives, with the address of the database that the environment names
where the layer names none. A fault of the target is told before one of the first version. -/
def ofLayer (environmentUrl : Option String) (layer : Layer) : Except Error Settings := do
  let target ← (versionOf (layer.leaf? .target) default.target).mapError .target
  let initVersion ←
    (versionOf (layer.leaf? .initVersion) default.initVersion).mapError .initVersion
  if !initVersion.isNumbered then
    throw (.initUnbounded initVersion.display)
  return {
    url := (layer.leaf? .url).or environmentUrl
    migrations := (layer.leaf? .migrations).getD default.migrations
    table :=
      { schema := (layer.leaf? .schema).getD default.table.schema
        name := (layer.leaf? .tableName).getD default.table.name }
    target
    initVersion
    initDescription := (layer.leaf? .initDescription).getD default.initDescription }

end Settings

end MigrationStatus
