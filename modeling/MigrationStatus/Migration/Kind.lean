import MigrationStatus.Text.Blank
/-!
The kinds of entry that a ledger holds, and the words that name them.
-/

namespace MigrationStatus.Migration

/-- What an entry of the ledger stands for. -/
inductive Kind where
  /-- A migration that was run. -/
  | sql
  /-- The marker of the version at which tracking began; nothing below it was run. -/
  | init
  deriving DecidableEq, Repr, Inhabited

/-- A word, without the white space around it and in capitals, that names no kind of entry. -/
structure UnknownKind where
  word : String
  deriving DecidableEq, Repr

def UnknownKind.message (unknown : UnknownKind) : String :=
  s!"Unknown migration type '{unknown.word}'"

namespace Kind

/-- The word that names the kind. -/
def code : Kind → String
  | .sql => "SQL"
  | .init => "INIT"

/-- The kind that a text names, whatever the case of its ASCII letters and the white space around
it. -/
def parse (text : String) : Except UnknownKind Kind :=
  let word := String.ofList ((Text.trim text.toList).map Char.toUpper)
  if word = Kind.sql.code then .ok .sql
  else if word = Kind.init.code then .ok .init
  else .error ⟨word⟩

theorem parse_code (kind : Kind) : parse kind.code = .ok kind := by
  cases kind <;> rfl

theorem code_inj {kind other : Kind} : kind.code = other.code ↔ kind = other := by
  refine ⟨fun h => ?_, congrArg code⟩
  have hparsed := parse_code kind
  rw [h, parse_code other] at hparsed
  exact (Except.ok.inj hparsed).symm

end Kind

end MigrationStatus.Migration
