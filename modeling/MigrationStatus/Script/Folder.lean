import MigrationStatus.Checksum
import MigrationStatus.Files
import MigrationStatus.Files.Path
import MigrationStatus.Migration.Record
import MigrationStatus.Program
import MigrationStatus.Script.Name
/-!
The folder of migration scripts: which of its files are scripts, in which order they run, and the
migrations they make available.

The order in which a folder lists its files does not matter, since scripts are sorted by version;
two scripts with one version are refused. A folder that does not exist holds no scripts.
-/

namespace MigrationStatus

/-- A migration script: a file whose name is that of a script. -/
structure Script where
  path : String
  fileName : String
  name : Script.Name
  content : ByteArray

namespace Script

open Migration

/-- Why the scripts of a folder cannot be used. -/
inductive Failure where
  | unreadableFolder (folder : String) (error : Files.ReadError)
  /-- Two files with one version. -/
  | duplicate (version first second : String)
  | unreadableScript (path : String) (error : Files.ReadError)
  deriving DecidableEq

/-- What went wrong, from the outermost message to the innermost. -/
def Failure.messages : Failure → List String
  | .unreadableFolder folder error =>
    [s!"Failed to read migrations directory {folder}", error.message]
  | .duplicate version first second =>
    [s!"Found more than one migration with version {version}: {first} and {second}"]
  | .unreadableScript path error => [s!"Failed to read migration file: {path}", error.message]

def version (script : Script) : Version := script.name.version

/-- The script that a file is, if its name is that of a script. -/
def ofFile? (folder fileName : String) (content : ByteArray) : Option Script :=
  (Name.parse? fileName).map fun name =>
    { path := Files.Path.joined folder fileName, fileName, name, content }

/-- The migration that a script makes available. -/
def toRecord (digest : Checksum.Digest) (script : Script) : Except Failure Record :=
  match Files.text script.content with
  | .ok _ =>
    .ok (.available script.version script.name.description script.fileName
      (some (Checksum.text digest script.content)))
  | .error error => .error (.unreadableScript script.path error)

/-- The files of a folder whose names are text. -/
def textFiles (items : List Files.Item) : List (String × ByteArray) :=
  items.filterMap fun item => do
    let content ← item.content
    let name ← String.fromUTF8? item.name
    return (name, content)

/-- The scripts among files. -/
def scripts (folder : String) (files : List (String × ByteArray)) : List Script :=
  files.filterMap fun (name, content) => ofFile? folder name content

/-- The names of the files that are no scripts. -/
def skipped (files : List (String × ByteArray)) : List String :=
  (files.map (·.1)).filter fun name => (Name.parse? name).isNone

/-- Scripts in ascending order of their versions. -/
def sorted (scripts : List Script) : List Script :=
  scripts.mergeSort fun left right => (compare left.version right.version).isLE

/-- The first two neighbours with one version. -/
def duplicate? : List Script → Option (Script × Script)
  | first :: second :: rest =>
    if first.version.same second.version then some (first, second)
    else duplicate? (second :: rest)
  | _ => none

/-- The scripts in ascending order, if no two of them share a version. -/
def arranged (scripts : List Script) : Except Failure (List Script) :=
  match duplicate? (sorted scripts) with
  | some (first, second) =>
    .error (.duplicate first.version.display first.fileName second.fileName)
  | none => .ok (sorted scripts)

/-- The files of a folder, where it is one. -/
def filesOf (folder : String) (entry : Files.Entry) :
    Except Failure (List (String × ByteArray)) :=
  (entry.items.mapError (.unreadableFolder folder)).map textFiles

/-- The scripts of a folder. -/
def discover (folder : String) : Option Files.Entry → Except Failure (List Script)
  | none => .ok []
  | some entry => do arranged (scripts folder (← filesOf folder entry))

/-- The migrations that scripts make available, or what is wrong with the first script that cannot
be read. -/
def records (digest : Checksum.Digest) (scripts : List Script) : Except Failure (List Record) :=
  scripts.mapM (toRecord digest)

/-- A program that may fail. -/
abbrev Action (α : Type) := ExceptT Failure Program α

def note (event : Event) : Action Unit := ExceptT.lift (Program.note event)

/-- The result of a step that needs no effect. -/
def settled {α : Type} (result : Except Failure α) : Action α := ExceptT.mk (pure result)

/-- The migrations that the scripts of a folder make available. -/
def available (digest : Checksum.Digest) (folder : String) : Action (List Record) := do
  match ← ExceptT.lift (Program.look folder) with
  | none =>
    note (.folderMissing folder)
    return []
  | some entry =>
    let files ← settled (filesOf folder entry)
    (skipped files).forM fun name => note (.fileSkipped name)
    let found ← settled (arranged (scripts folder files))
    note (.scriptsFound found.length folder)
    settled (records digest found)

end Script

end MigrationStatus
