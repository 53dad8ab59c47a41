/-!
Paths as they are written: components with slashes between them, and a slash in front of a path that
starts at the root.
-/

namespace MigrationStatus.Files.Path

/-- The path that leads from a folder to where `path` points: `path` itself if it starts at the
root, and otherwise both with a slash between them. -/
def joined (folder path : String) : String :=
  if path.toList.head? = some '/' ∨ folder.isEmpty then path
  else if folder.toList.getLast? = some '/' then folder ++ path
  else folder ++ "/" ++ path

/-- Whether a component leads nowhere: an empty one, or a point. -/
def isIdle (component : List Char) : Bool := component.isEmpty || component == ['.']

/-- A path without the part that stays in front of every folder on it: the slash of the root, or a
point as its first component. -/
def split (path : List Char) : List Char × List Char :=
  match path with
  | '/' :: rest => (['/'], rest)
  | ['.'] => (['.'], [])
  | '.' :: '/' :: rest => (['.'], '/' :: rest)
  | rest => ([], rest)

/-- The components without the idle ones at their end. -/
def trimmed (components : List (List Char)) : List (List Char) :=
  (components.reverse.dropWhile isIdle).reverse

/-- The folder that holds what a path points to; the current folder where the path names none. -/
def folder (path : String) : String :=
  let (front, rest) := split path.toList
  match trimmed (rest.splitOn '/') with
  | [] => "."
  | components =>
    let found := front ++ ['/'].intercalate (trimmed components.dropLast)
    if found.isEmpty then "." else String.ofList found

end MigrationStatus.Files.Path
