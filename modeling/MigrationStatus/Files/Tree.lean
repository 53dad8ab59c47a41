import MigrationStatus.Files
/-!
A tree of files in memory, which stands in for the working folder of a run.

Every node is kept under the names that lead to it from the root of the tree. A path is walked from
there component by component; two points lead back to the folder above. Whatever lies outside of the
tree, up to the root of the file system, are folders in which nothing is found.
-/

namespace MigrationStatus.Files

/-- A node of the tree. -/
inductive Node where
  | file (content : ByteArray)
  | folder

/-- Whether a node is there and can hold others. -/
def Node.isFolder : Option Node → Bool
  | some .folder => true
  | _ => false

/-- The nodes below the root, each with the names that lead to it; no names occur twice. -/
structure Tree where
  nodes : List (List ByteArray × Node)

namespace Tree

def empty : Tree := ⟨[]⟩

/-- The components of a path. -/
def components (path : ByteArray) : List ByteArray :=
  (path.toList.splitOn '/'.toUInt8).map List.toByteArray

def here : ByteArray := ".".toUTF8

def above : ByteArray := "..".toUTF8

/-- The node at a place; the root is a folder. -/
def node? (tree : Tree) (place : List ByteArray) : Option Node :=
  if place.isEmpty then some .folder else tree.nodes.lookup place

/-- Puts a node at a place. -/
def put (tree : Tree) (place : List ByteArray) (node : Node) : Tree :=
  ⟨(tree.nodes.filter (·.1 != place)) ++ [(place, node)]⟩

/-- The place in the tree that one more component leads to; nothing where it leads outside. -/
def next? (place : List ByteArray) (component : ByteArray) : Option (List ByteArray) :=
  if component.isEmpty || component == here then some place
  else if component == above then (if place.isEmpty then none else some place.dropLast)
  else some (place ++ [component])

/-- Where a walk has come to. -/
inductive Place where
  | inside (names : List ByteArray)
  | outside

/-- The place that one more component leads to, if anything is there. -/
def step? (tree : Tree) (component : ByteArray) : Place → Option Place
  | .inside names =>
    if !Node.isFolder (tree.node? names) then none
    else
      match next? names component with
      | some further => if (tree.node? further).isSome then some (.inside further) else none
      | none => some .outside
  | .outside =>
    if component.isEmpty || component == here || component == above then some .outside else none

/-- The place that components lead to, if every component before the last leads to a folder and the
last one to some node. -/
def walk? (tree : Tree) (place : Place) (components : List ByteArray) : Option Place :=
  components.foldlM (fun place component => tree.step? component place) place

/-- What lies in the folder at a place. -/
def items (tree : Tree) (place : List ByteArray) : List Item :=
  tree.nodes.filterMap fun (names, node) =>
    if names.dropLast == place then
      names.getLast?.map fun name =>
        { name, content := match node with
                          | .file content => some content
                          | .folder => none }
    else none

/-- What stands under a path. A path that begins with a slash is read from the root of the file
system, and any other from the root of the tree. -/
def look (tree : Tree) (path : String) : Option Entry :=
  if path.isEmpty then none
  else do
    let start : Place := if path.toList.head? = some '/' then .outside else .inside []
    match ← tree.walk? start (components path.toUTF8) with
    | .outside => return .folder []
    | .inside names =>
      match ← tree.node? names with
      | .file content => return .file content
      | .folder => return .folder (tree.items names)

/-- Makes the folders that components lead through, and gives the place of the last one. -/
def opened (tree : Tree) (place : List ByteArray) : List ByteArray → Tree × List ByteArray
  | [] => (tree, place)
  | component :: rest =>
    match next? place component with
    | none => (tree, place)
    | some further =>
      let grown := if (tree.node? further).isSome then tree else tree.put further .folder
      opened grown further rest

/-- Makes a folder, with all the folders above it. -/
def makeFolder (tree : Tree) (path : ByteArray) : Tree := (tree.opened [] (components path)).1

/-- Writes a file, and makes all the folders above it. -/
def write (tree : Tree) (path content : ByteArray) : Tree :=
  let names := (components path).filter fun component => !component.isEmpty && component != here
  let (grown, place) := tree.opened [] names.dropLast
  match (names.getLast?).bind (next? place) with
  | some further => grown.put further (.file content)
  | none => grown

/-- Removes a file, if there is one. -/
def remove (tree : Tree) (path : ByteArray) : Tree :=
  match tree.walk? (.inside []) (components path) with
  | some (.inside place) => ⟨tree.nodes.filter (·.1 != place)⟩
  | _ => tree

end Tree

end MigrationStatus.Files
