import MigrationStatus.Failure
import MigrationStatus.Files.Path
import MigrationStatus.Yaml.Node
/-!
Settings files: what their content says, and how one is loaded.

Every value may be left out, and keys that mean nothing here are passed over. A value is taken as it
is written, whatever kind of value its text looks like; only the plain words for a missing value
stand for none.
-/

namespace MigrationStatus.Settings.File

open Yaml

/-! ### Reading the tree of a file

A reader is given the whole tree, in which aliases are looked up, and the node that it reads. It
answers nothing where the node does not have the right form. -/

/-- The words that stand for a missing value. -/
def missingWords : List (List Char) :=
  ["null".toList, "Null".toList, "NULL".toList, "~".toList]

def missingTag : List Char := "tag:yaml.org,2002:null".toList

/-- Whether a plain text with a tag stands for a missing value. With the tag for missing values it
has to be one of the words; with any other tag, the bare one included, it is a text. -/
def isMissing? (text : List Char) (tag : Option (List Char)) : Option Bool :=
  match tag with
  | none => some (text.isEmpty || missingWords.contains text)
  | some tag =>
    if tag == missingTag then
      if missingWords.contains text then some true else none
    else some false

/-- Reads a value that may be missing. -/
def optional? {α : Type} (read : Node → Node → Option α) (root node : Node) :
    Option (Option α) :=
  match root.resolved node with
  | .scalar text true tag => do
    if ← isMissing? text tag then return none else return some (← read root node)
  | _ => (read root node).map some

/-- Reads a text. -/
def text? (root node : Node) : Option String :=
  match root.resolved node with
  | .scalar text _ _ => some (String.ofList text)
  | _ => none

/-- The values of a mapping under a name; a name must not be given twice. -/
def value? (pairs : List (String × Node)) (name : String) : Option Node :=
  match pairs.filter (·.1 == name) with
  | [] => some Node.nothing
  | [(_, value)] => some value
  | _ => none

/-- Reads a section as the nodes of its values, in the order of their names. A section is a mapping
with texts as keys, or nothing. -/
def values? (names : List String) (root node : Node) : Option (List Node) :=
  match root.resolved node with
  | .mapping pairs => do
    let keyed ← pairs.mapM fun (key, value) => return (← text? root key, value)
    names.mapM (value? keyed)
  | .scalar [] true _ => some (names.map fun _ => Node.nothing)
  | _ => none

/-! ### The sections -/

def database? (root node : Node) : Option DatabaseSection := do
  let [url] ← values? ["url"] root node | none
  return { url := ← optional? text? root url }

def directories? (root node : Node) : Option DirectoriesSection := do
  let [migrations] ← values? ["migrations_dir"] root node | none
  return { migrations := ← optional? text? root migrations }

def table? (root node : Node) : Option TableSection := do
  let [schema, name] ← values? ["schema", "name"] root node | none
  return { schema := ← optional? text? root schema, name := ← optional? text? root name }

def ledger? (root node : Node) : Option LedgerSection := do
  let [table, target, initVersion, initDescription] ←
    values? ["table", "target", "init_version", "init_description"] root node | none
  return {
    table := ← optional? table? root table
    target := ← optional? text? root target
    initVersion := ← optional? text? root initVersion
    initDescription := ← optional? text? root initDescription }

/-- The layer that a tree describes. -/
def layer? (root : Node) : Option Layer := do
  let [database, directories, ledger] ←
    values? ["database", "directories", "metadata"] root root | none
  return {
    database := ← optional? database? root database
    directories := ← optional? directories? root directories
    ledger := ← optional? ledger? root ledger }

/-- The layer that a text describes. -/
def parse? (text : String) : Option Layer := do layer? (← Node.parse? text)

/-! ### Loading -/

/-- The layer of what stands under a path. A file that is not there says nothing. -/
def read (path : String) : Option Files.Entry → Except Failure Layer
  | none => .ok .empty
  | some entry => do
    let text ← entry.text.mapError (Failure.unreadableSettings path)
    match parse? text with
    | some layer => return layer
    | none => throw (.malformedSettings path)

/-- Loads a settings file, and tells which folder the paths in it start from: the one that holds
it. -/
def load (path : String) : Action (Layer × String) := do
  let entry ← ExceptT.lift (Program.look path)
  let layer ← ExceptT.mk (pure (read path entry))
  return (layer, Files.Path.folder path)

end MigrationStatus.Settings.File
