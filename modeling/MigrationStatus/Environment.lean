/-!
The environment of a run: variables, each with a text.
-/

namespace MigrationStatus

/-- The variables and their texts. -/
structure Environment where
  bindings : List (String × String)
  deriving DecidableEq, Repr

namespace Environment

/-- The text of a variable, if it is set. -/
def get? (environment : Environment) (name : String) : Option String :=
  environment.bindings.lookup name

/-- Sets a variable, unless it is set already. -/
def offer (environment : Environment) (name text : String) : Environment :=
  if (environment.get? name).isSome then environment
  else ⟨(name, text) :: environment.bindings⟩

/-- The database that the environment names. -/
def databaseUrl (environment : Environment) : Option String := environment.get? "DATABASE_URL"

/-- The filter of the log that the environment gives. -/
def logFilter (environment : Environment) : Option String := environment.get? "RUST_LOG"

/-- Whether colors are asked for. Without that the output has none, since nothing says that it goes
to a terminal. -/
def wantsColors (environment : Environment) : Bool :=
  (environment.get? "CLICOLOR_FORCE").any (· != "0")

/-! ### What is offered does not change what is set -/

theorem get?_offer_self (environment : Environment) (name text : String) :
    (environment.offer name text).get? name = some ((environment.get? name).getD text) := by
  unfold offer
  cases h : environment.get? name with
  | none => simp [get?]
  | some found => simp [h]

theorem get?_offer_of_ne {name other : String} (h : other ≠ name) (environment : Environment)
    (text : String) : (environment.offer name text).get? other = environment.get? other := by
  unfold offer
  split
  · rfl
  · simp [get?, List.lookup_cons, beq_eq_false_iff_ne.mpr h]

end Environment

end MigrationStatus
