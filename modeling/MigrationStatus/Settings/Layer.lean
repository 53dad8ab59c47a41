/-!
Layers of settings: what one source of settings says, and several sources laid over each other.

A source may leave out any value, and any section with all its values. Where two sources both give
a value, the later one counts; a section is there if either source has it.
-/

namespace MigrationStatus.Settings

/-- The section on the database. -/
structure DatabaseSection where
  url : Option String
  deriving DecidableEq, Repr

/-- The section on folders. -/
structure DirectoriesSection where
  migrations : Option String
  deriving DecidableEq, Repr

/-- The part on the table that holds the ledger. -/
structure TableSection where
  schema : Option String
  name : Option String
  deriving DecidableEq, Repr

/-- The section on the ledger. -/
structure LedgerSection where
  table : Option TableSection
  target : Option String
  initVersion : Option String
  initDescription : Option String
  deriving DecidableEq, Repr

/-- What one source says. -/
structure Layer where
  database : Option DatabaseSection
  directories : Option DirectoriesSection
  ledger : Option LedgerSection
  deriving DecidableEq, Repr

def DatabaseSection.merge (lower upper : DatabaseSection) : DatabaseSection where
  url := upper.url.or lower.url

def DirectoriesSection.merge (lower upper : DirectoriesSection) : DirectoriesSection where
  migrations := upper.migrations.or lower.migrations

def TableSection.merge (lower upper : TableSection) : TableSection where
  schema := upper.schema.or lower.schema
  name := upper.name.or lower.name

def LedgerSection.merge (lower upper : LedgerSection) : LedgerSection where
  table := Option.merge TableSection.merge lower.table upper.table
  target := upper.target.or lower.target
  initVersion := upper.initVersion.or lower.initVersion
  initDescription := upper.initDescription.or lower.initDescription

namespace Layer

/-- The source that says nothing. -/
def empty : Layer := ⟨none, none, none⟩

/-- What two sources say together. -/
def merge (lower upper : Layer) : Layer where
  database := Option.merge DatabaseSection.merge lower.database upper.database
  directories := Option.merge DirectoriesSection.merge lower.directories upper.directories
  ledger := Option.merge LedgerSection.merge lower.ledger upper.ledger

/-- What several sources say together, the last of which counts most. -/
def mergeAll (layers : List Layer) : Layer := layers.foldl merge empty

end Layer

/-- One of the values that a layer can give. -/
inductive Leaf where
  | url
  | migrations
  | schema
  | tableName
  | target
  | initVersion
  | initDescription
  deriving DecidableEq, Repr

/-- The value that a layer gives. -/
def Layer.leaf? (layer : Layer) : Leaf → Option String
  | .url => layer.database.bind (·.url)
  | .migrations => layer.directories.bind (·.migrations)
  | .schema => (layer.ledger.bind (·.table)).bind (·.schema)
  | .tableName => (layer.ledger.bind (·.table)).bind (·.name)
  | .target => layer.ledger.bind (·.target)
  | .initVersion => layer.ledger.bind (·.initVersion)
  | .initDescription => layer.ledger.bind (·.initDescription)

/-- The later of two values, as a way to lay one over the other. -/
def later {α : Type} (_ upper : α) : α := upper

theorem or_eq_merge {α : Type} (lower upper : Option α) :
    upper.or lower = Option.merge later lower upper := by
  cases lower <;> cases upper <;> rfl

/-- What is laid over part by part is laid over likewise within sections that may be missing. -/
theorem bind_merge {α β : Type} {whole : α → α → α} {inner : β → β → β} {part : α → Option β}
    (h : ∀ lower upper, part (whole lower upper) = Option.merge inner (part lower) (part upper))
    (lower upper : Option α) :
    (Option.merge whole lower upper).bind part =
      Option.merge inner (lower.bind part) (upper.bind part) := by
  cases lower <;> cases upper <;> simp [h]

/-- Where both layers give a value, the upper one counts. -/
theorem Layer.leaf?_merge (lower upper : Layer) (leaf : Leaf) :
    (lower.merge upper).leaf? leaf = (upper.leaf? leaf).or (lower.leaf? leaf) := by
  have htable : (lower.merge upper).ledger.bind (·.table) =
      Option.merge TableSection.merge (lower.ledger.bind (·.table)) (upper.ledger.bind (·.table)) :=
    bind_merge (fun _ _ => rfl) _ _
  rw [or_eq_merge]
  cases leaf with
  | url => exact bind_merge (fun _ _ => or_eq_merge _ _) _ _
  | migrations => exact bind_merge (fun _ _ => or_eq_merge _ _) _ _
  | schema =>
    rw [leaf?, htable]
    exact bind_merge (fun _ _ => or_eq_merge _ _) _ _
  | tableName =>
    rw [leaf?, htable]
    exact bind_merge (fun _ _ => or_eq_merge _ _) _ _
  | target => exact bind_merge (fun _ _ => or_eq_merge _ _) _ _
  | initVersion => exact bind_merge (fun _ _ => or_eq_merge _ _) _ _
  | initDescription => exact bind_merge (fun _ _ => or_eq_merge _ _) _ _

end MigrationStatus.Settings
