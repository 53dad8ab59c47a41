import MigrationStatus.Settings.Layer
/-!
The settings that can be given on the command line, as a layer.

Whatever options are given, their sections are there; only the part on the table is left out when
neither its schema nor its name is given.
-/

namespace MigrationStatus.Settings

/-- The options that give settings. -/
structure Options where
  databaseUrl : Option String
  migrations : Option String
  schema : Option String
  tableName : Option String
  target : Option String
  deriving DecidableEq, Repr, Inhabited

namespace Options

def none : Options := ⟨.none, .none, .none, .none, .none⟩

/-- The part on the table, if there is anything to say about it. -/
def table (options : Options) : Option TableSection :=
  if options.schema.isSome || options.tableName.isSome then
    some ⟨options.schema, options.tableName⟩
  else .none

/-- The section on the ledger. -/
def ledger (options : Options) (initVersion initDescription : Option String) : LedgerSection :=
  { table := options.table, target := options.target, initVersion, initDescription }

/-- The layer of a command that shows or checks the state of the migrations. -/
def layer (options : Options) : Layer where
  database := some ⟨options.databaseUrl⟩
  directories := some ⟨options.migrations⟩
  ledger := some (options.ledger .none .none)

/-- The layer of the command that starts tracking, which has nothing to do with scripts. -/
def initLayer (options : Options) (initVersion initDescription : Option String) : Layer where
  database := some ⟨options.databaseUrl⟩
  directories := .none
  ledger := some (options.ledger initVersion initDescription)

end Options

end MigrationStatus.Settings
