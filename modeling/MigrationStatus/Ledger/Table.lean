import MigrationStatus.Text.Letters
/-!
The table that holds the ledger, and its name as it stands in a statement.

Both parts of the name are put between quotation marks as they are, so a name is admitted only if
its characters are letters, numbers, underscores and dollar signs, with a letter or an underscore
in front. `readQuoted?` reads a quoted identifier the way the database does.
-/

namespace MigrationStatus.Ledger

/-- A table, named by its schema and its own name. -/
structure Table where
  schema : String
  name : String
  deriving DecidableEq, Repr

/-- Which part of the name is not admitted. -/
inductive NameError where
  | schema (text : String)
  | name (text : String)
  deriving DecidableEq, Repr

def NameError.message : NameError → String
  | .schema text => s!"Invalid schema name '{text}': {rule}"
  | .name text => s!"Invalid table name '{text}': {rule}"
where
  /-- The rule that both parts have to keep. -/
  rule : String :=
    "must contain only letters, numbers, underscores, and dollar signs, " ++
      "starting with letter or underscore"

/-- Whether an identifier may begin with the character. -/
def canStart (c : Char) : Bool := Text.isAlphabetic c || c == '_'

/-- Whether an identifier may go on with the character. -/
def canFollow (c : Char) : Bool := Text.isAlphanumeric c || c == '_' || c == '$'

/-- Whether the text is admitted as an identifier. -/
def isIdentifier : List Char → Bool
  | [] => false
  | first :: rest => canStart first && rest.all canFollow

namespace Table

/-- The name of the table as it stands in a statement. -/
def written (table : Table) : String := s!"\"{table.schema}\".\"{table.name}\""

/-- The written name of a table with an admitted name. -/
def checked (table : Table) : Except NameError String :=
  if !isIdentifier table.schema.toList then .error (.schema table.schema)
  else if !isIdentifier table.name.toList then .error (.name table.name)
  else .ok table.written

end Table

/-- Reads on behind an opening quotation mark, up to the mark that closes the identifier; two marks
stand for one. -/
def readClosing? : List Char → Option (List Char × List Char)
  | [] => none
  | '"' :: '"' :: rest => (readClosing? rest).map fun (name, left) => ('"' :: name, left)
  | c :: rest =>
    if c = '"' then some ([], rest)
    else (readClosing? rest).map fun (name, left) => (c :: name, left)

/-- The quoted identifier at the start of a text, and what is left after it. -/
def readQuoted? : List Char → Option (List Char × List Char)
  | '"' :: rest => readClosing? rest
  | _ => none

end MigrationStatus.Ledger
