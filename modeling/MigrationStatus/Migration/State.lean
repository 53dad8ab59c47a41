/-!
The classification of a migration once the files at hand and the rows of the ledger are laid side by
side.
-/

namespace MigrationStatus.Migration

/-- How a migration stands. -/
inductive State where
  /-- At hand and not applied yet. -/
  | pending
  /-- Older than the marker at which tracking began; never to be applied. -/
  | preInit
  /-- At hand and not applied, although the last applied migration is newer. -/
  | ignored
  /-- Applied, and no longer at hand. -/
  | missingSuccess
  /-- Applied without success, and no longer at hand. -/
  | missingFailed
  /-- Applied. -/
  | success
  /-- Applied without success. -/
  | failed
  /-- Applied, and newer than anything at hand. -/
  | futureSuccess
  /-- Applied without success, and newer than anything at hand. -/
  | futureFailed
  deriving DecidableEq, Repr, Inhabited

namespace State

/-- Every state. -/
def all : List State :=
  [.pending, .preInit, .ignored, .missingSuccess, .missingFailed, .success, .failed,
    .futureSuccess, .futureFailed]

/-- Whether the migration was run against the database. -/
def isApplied : State → Bool
  | .pending | .preInit | .ignored => false
  | _ => true

/-- Whether the run of the migration failed. -/
def isFailed : State → Bool
  | .missingFailed | .failed | .futureFailed => true
  | _ => false

/-- The short name shown in tables. -/
def label : State → String
  | .pending => "Pending"
  | .preInit => "PreInit"
  | .ignored => "Ignored"
  | .missingSuccess => "Missing"
  | .missingFailed => "MisFail"
  | .success => "Success"
  | .failed => "Failed"
  | .futureSuccess => "Future"
  | .futureFailed => "FutFail"

/-- The name under which programs read the state. -/
def code : State → String
  | .pending => "PENDING"
  | .preInit => "PRE_INIT"
  | .ignored => "IGNORED"
  | .missingSuccess => "MISSING_SUCCESS"
  | .missingFailed => "MISSING_FAILED"
  | .success => "SUCCESS"
  | .failed => "FAILED"
  | .futureSuccess => "FUTURE_SUCCESS"
  | .futureFailed => "FUTURE_FAILED"

/-- The state with this code. -/
def ofCode? (code : String) : Option State := all.find? (·.code == code)

/-- The state of a finished run. -/
def ran (failed : Bool) : State := if failed then .failed else .success

/-- The state of a run whose migration is no longer at hand. -/
def missing (failed : Bool) : State := if failed then .missingFailed else .missingSuccess

/-- The state of a run whose migration is newer than anything at hand. -/
def future (failed : Bool) : State := if failed then .futureFailed else .futureSuccess

theorem ofCode?_code (state : State) : ofCode? state.code = some state := by
  cases state <;> decide

theorem code_inj {state other : State} : state.code = other.code ↔ state = other := by
  refine ⟨fun h => Option.some.inj ?_, congrArg code⟩
  rw [← ofCode?_code state, ← ofCode?_code other, h]

theorem isApplied_of_isFailed {state : State} (h : state.isFailed = true) :
    state.isApplied = true := by
  cases state <;> simp_all [isFailed, isApplied]

@[simp]
theorem isApplied_missing (failed : Bool) : (missing failed).isApplied = true := by
  cases failed <;> rfl

@[simp]
theorem isApplied_future (failed : Bool) : (future failed).isApplied = true := by
  cases failed <;> rfl

@[simp]
theorem isFailed_missing (failed : Bool) : (missing failed).isFailed = failed := by
  cases failed <;> rfl

@[simp]
theorem isFailed_future (failed : Bool) : (future failed).isFailed = failed := by
  cases failed <;> rfl

end State

end MigrationStatus.Migration
