/-!
The columns of the table, and the values that a statement gives them.
-/

namespace MigrationStatus.Ledger

/-- A column of the table. -/
inductive Column where
  | rank
  | version
  | description
  | kind
  | script
  | checksum
  | installedBy
  | installedOn
  | executionTime
  | success
  deriving DecidableEq, Repr

namespace Column

/-- The columns in the order in which the table has them. -/
def all : List Column :=
  [rank, version, description, kind, script, checksum, installedBy, installedOn, executionTime,
    success]

def name : Column → String
  | rank => "installed_rank"
  | version => "version"
  | description => "description"
  | kind => "type"
  | script => "script"
  | checksum => "checksum"
  | installedBy => "installed_by"
  | installedOn => "installed_on"
  | executionTime => "execution_time"
  | success => "success"

/-- What the column may hold, and what it holds where a statement does not say. -/
def type : Column → String
  | rank => "SERIAL PRIMARY KEY"
  | version => "TEXT NOT NULL UNIQUE"
  | description | kind | script => "TEXT NOT NULL"
  | checksum => "TEXT"
  | installedBy => "TEXT NOT NULL DEFAULT CURRENT_USER"
  | installedOn => "TIMESTAMP WITH TIME ZONE NOT NULL DEFAULT CURRENT_TIMESTAMP"
  | executionTime => "INTEGER NOT NULL"
  | success => "BOOLEAN NOT NULL"

/-- The column as it is described where the table is made. -/
def definition (column : Column) : String := s!"{column.name} {column.type}"

end Column

/-- A value that is put into a column. -/
inductive Cell where
  | null
  | text (content : String)
  | number (n : Int32)
  | truth (value : Bool)
  deriving DecidableEq, Repr

namespace Cell

def text? : Cell → Option String
  | text content => some content
  | _ => none

def number? : Cell → Option Int32
  | number n => some n
  | _ => none

def truth? : Cell → Option Bool
  | truth value => some value
  | _ => none

/-- The text of a column that may be left empty. -/
def nullable? : Cell → Option (Option String)
  | null => some none
  | text content => some (some content)
  | _ => none

end Cell

/-- A value as it stands in a statement. -/
inductive Operand where
  /-- One of the values that are sent along with the statement, counted from one. -/
  | parameter (position : Nat)
  | null
  | number (n : Int32)
  | truth (value : Bool)
  deriving DecidableEq, Repr

namespace Operand

def text : Operand → String
  | parameter position => s!"${position}"
  | null => "NULL"
  | number n => toString n.toInt
  | truth true => "TRUE"
  | truth false => "FALSE"

/-- The value itself, if there is such a parameter. -/
def cell? (parameters : List String) : Operand → Option Cell
  | parameter position => parameters[position - 1]?.map .text
  | null => some .null
  | number n => some (.number n)
  | truth value => some (.truth value)

end Operand

end MigrationStatus.Ledger
