import MigrationStatus.Proofs.SharedDatabase
/-!
# No two markers, whoever starts and whenever

A call that starts tracking locks the table, counts the rows and puts its marker in, all within one
transaction. Where a call stands in this is its stage, and `Follows` says which statement may bring
it from one stage to the next. A program that keeps to these steps is careful, and `start` is.

What a stage means for the database is `Holds`. A call that has counted no rows holds the lock until
its marker is committed, and so no other call can count, or commit, in between. One step of one call
keeps this up for every call, and so does every schedule (`guarded_run`).
-/

namespace MigrationStatus.Ledger.Shared

inductive Stage where
  | outside
  | opened
  | locked
  /-- Holds the lock, and has counted no rows. -/
  | vacant
  /-- Has put its marker in, and has not committed it. -/
  | marked
  | kept
  /-- A statement has failed, or the transaction was given up. -/
  | lost
  deriving DecidableEq

/-- The steps of a call that starts tracking in a table. Every step may fail, and every transaction
may be given up, but a call whose marker is committed asks for nothing more. -/
inductive Follows (table : Table) (version : Version) (description : String) :
    Stage → (statement : Statement) → Except String statement.Answer → Stage → Prop where
  | created : Follows table version description .outside (.createTable table) (.ok ()) .outside
  | begun : Follows table version description .outside .begin (.ok ()) .opened
  | locked : Follows table version description .opened (.lockTable table) (.ok ()) .locked
  | occupied {rows : Nat} :
    Follows table version description .locked (.countRows table) (.ok (rows + 1)) .locked
  | vacant : Follows table version description .locked (.countRows table) (.ok 0) .vacant
  | marked :
    Follows table version description .vacant (.insertMarker table version description) (.ok ())
      .marked
  | kept : Follows table version description .marked .commit (.ok ()) .kept
  | undone {stage : Stage} (hstage : stage ≠ .kept) :
    Follows table version description stage .rollback (.ok ()) .lost
  | failed {stage : Stage} {statement : Statement} {message : String} (hstage : stage ≠ .kept) :
    Follows table version description stage statement (.error message) .lost

/-- Whatever the database answers, the program keeps to the steps, and it ends as demanded. -/
def Careful {α : Type} (table : Table) (version : Version) (description : String)
    (ends : Stage → α → Prop) : Stage → Program α → Prop
  | stage, .done result => ends stage result
  | stage, .perform (.ask statement) next =>
    ∀ answer, ∃ after, Follows table version description stage statement answer after ∧
      Careful table version description ends after (next answer)
  | stage, .perform (.note _) next => Careful table version description ends stage (next ())
  | _, .perform _ _ => False

variable {α β ε : Type} {table : Table} {version : Version} {description : String} {stage : Stage}

/-! ### Careful programs -/

theorem careful_mono {weak strong : Stage → α → Prop} {program : Program α}
    (himp : ∀ stage result, strong stage result → weak stage result)
    (h : Careful table version description strong stage program) :
    Careful table version description weak stage program := by
  induction program generalizing stage with
  | done result => exact himp stage result h
  | perform effect next ih =>
    cases effect with
    | ask statement =>
      intro answer
      obtain ⟨after, hfollows, hnext⟩ := h answer
      exact ⟨after, hfollows, ih answer hnext⟩
    | note event => exact ih () h
    | _ => exact h.elim

theorem careful_bind {ends : Stage → β → Prop} {program : Program α} {rest : α → Program β}
    (h : Careful table version description
      (fun after result => Careful table version description ends after (rest result)) stage
      program) :
    Careful table version description ends stage (program.bind rest) := by
  induction program generalizing stage with
  | done result => exact h
  | perform effect next ih =>
    cases effect with
    | ask statement =>
      intro answer
      obtain ⟨after, hfollows, hnext⟩ := h answer
      exact ⟨after, hfollows, ih answer hnext⟩
    | note event => exact ih () h
    | _ => exact h.elim

/-- A program that may fail is careful if its first part is, and what follows is careful where the
first part succeeds. -/
theorem careful_action_bind {ends : Stage → Except ε β → Prop} {first : ExceptT ε Program α}
    {rest : α → ExceptT ε Program β}
    (h : Careful table version description (fun after result =>
      match result with
      | .ok value => Careful table version description ends after (rest value).run
      | .error failure => ends after (.error failure)) stage first.run) :
    Careful table version description ends stage (first >>= rest).run := by
  refine careful_bind (careful_mono ?_ h)
  intro after result hresult
  cases result with
  | ok value => exact hresult
  | error failure => exact hresult

theorem careful_send {statement : Statement} {wrap : String → Failure}
    {ends : Stage → Except Failure statement.Answer → Prop} (hstage : stage ≠ .kept)
    (hfailed : ∀ failure, ends .lost (.error failure))
    (hobeyed : ∀ answer, ∃ after,
      Follows table version description stage statement (.ok answer) after ∧
        ends after (.ok answer)) :
    Careful table version description ends stage (send statement wrap).run := by
  intro answer
  cases answer with
  | error message => exact ⟨.lost, .failed hstage, hfailed (wrap message)⟩
  | ok answer => exact hobeyed answer

theorem careful_admitted {ends : Stage → Except Failure String → Prop}
    (hrefused : ∀ failure, ends stage (.error failure))
    (hwritten : ∀ written, ends stage (.ok written)) :
    Careful table version description ends stage (admitted table).run := by
  unfold admitted
  cases table.checked with
  | error fault => exact hrefused (.name fault)
  | ok written => exact hwritten written

/-- A part of a call that was meant to get as far as a stage: it has, unless something failed before
a marker was committed. -/
def Reaches (goal : α → Stage) (after : Stage) (result : Except Failure α) : Prop :=
  match result with
  | .ok value => after = goal value
  | .error _ => after ≠ .kept

theorem careful_ensureTable (table : Table) (version : Version) (description : String) :
    Careful table version description (Reaches fun _ => .outside) .outside
      (ensureTable table).run := by
  refine careful_action_bind (careful_admitted (fun failure => ?_) fun written => ?_)
  · exact Stage.noConfusion
  · refine careful_send (by decide) (fun failure => Stage.noConfusion) fun answer => ?_
    exact ⟨.outside, .created, rfl⟩

/-- Where a call stands that has locked the table and counted its rows. -/
def counted : Nat → Stage
  | 0 => .vacant
  | _ + 1 => .locked

theorem careful_lockedCount (table : Table) (written : String) :
    Careful table version description (Reaches counted) .opened
      (lockedCount table written).run := by
  refine careful_action_bind (careful_send (by decide) (fun failure => Stage.noConfusion)
    fun answer => ⟨.locked, .locked, ?_⟩)
  refine careful_send (by decide) (fun failure => Stage.noConfusion) fun rows => ?_
  cases rows with
  | zero => exact ⟨.vacant, .vacant, rfl⟩
  | succ rows => exact ⟨.locked, .occupied, rfl⟩

theorem careful_mark (table : Table) (written : String) :
    Careful table version description (Reaches fun _ => .kept) .vacant
      (mark table written version description).run := by
  refine careful_action_bind (careful_send (by decide) (fun failure => Stage.noConfusion)
    fun answer => ⟨.marked, .marked, ?_⟩)
  refine careful_send (by decide) (fun failure => Stage.noConfusion) fun answer => ?_
  exact ⟨.kept, .kept, rfl⟩

theorem careful_giveUp (hstage : stage ≠ .kept) :
    Careful table version description (Reaches fun _ => .lost) stage
      (send .rollback .server).run := by
  refine careful_send hstage (fun failure => Stage.noConfusion) fun answer => ?_
  exact ⟨.lost, .undone hstage, rfl⟩

theorem careful_orRollback {body : Action α} {goal : α → Stage}
    (h : Careful table version description (Reaches goal) stage body.run) :
    Careful table version description (Reaches goal) stage (orRollback body).run := by
  refine careful_bind (careful_mono ?_ h)
  intro after result hreaches
  cases result with
  | ok value => exact hreaches
  | error failure =>
    intro answer
    refine ⟨.lost, ?_, Stage.noConfusion⟩
    cases answer with
    | ok answer => exact .undone hreaches
    | error message => exact .failed hreaches

/-- A call that starts tracking keeps to the steps, and it succeeds exactly if its marker is
committed. -/
theorem careful_start (table : Table) (version : Version) (description : String) :
    Careful table version description (fun after result => result = .ok () ↔ after = .kept) .outside
      (start table version description).run := by
  have hfailed {after : Stage} (failure : Failure) (hafter : after ≠ .kept) :
      (Except.error failure : Except Failure Unit) = .ok () ↔ after = .kept :=
    iff_of_false nofun hafter
  unfold start
  cases hnumbered : version.isNumbered with
  | false => exact hfailed _ (by decide)
  | true =>
    refine careful_action_bind (careful_admitted (fun failure => hfailed failure (by decide))
      fun written => ?_)
    refine careful_action_bind (careful_mono ?_ (careful_ensureTable table version description))
    rintro after (failure | answer) hreaches
    · exact hfailed failure hreaches
    obtain rfl : after = .outside := hreaches
    refine careful_action_bind (careful_send (by decide)
      (fun failure => hfailed failure (by decide)) fun answer => ⟨.opened, .begun, ?_⟩)
    refine careful_action_bind
      (careful_mono ?_ (careful_orRollback (careful_lockedCount table written)))
    rintro after (failure | rows) hreaches
    · exact hfailed failure hreaches
    cases rows with
    | zero =>
      obtain rfl : after = .vacant := hreaches
      refine careful_action_bind (careful_mono ?_ (careful_orRollback (careful_mark table written)))
      rintro after (failure | answer) hreaches
      · exact hfailed failure hreaches
      · exact iff_of_true rfl hreaches
    | succ rows =>
      obtain rfl : after = .locked := hreaches
      refine careful_action_bind
        (careful_mono ?_ (careful_orRollback (careful_giveUp (by decide))))
      rintro after (failure | answer) hreaches
      · exact hfailed failure hreaches
      · obtain rfl : after = .lost := hreaches
        exact hfailed _ (by decide)

/-! ### What a stage means for the database -/

variable {Caller : Type} [DecidableEq Caller] {database after : Database Caller} {caller : Caller}
  {next : Stage}

def Holds (database : Database Caller) (caller : Caller) (table : Table) (version : Version)
    (description : String) : Stage → Prop
  | .outside => database.transaction caller = .closed
  | .opened => database.transaction caller = .opened fun _ => []
  | .locked =>
    database.transaction caller = .opened (fun _ => []) ∧ database.holder table = some caller
  | .vacant =>
    database.transaction caller = .opened (fun _ => []) ∧ database.holder table = some caller ∧
      database.rows? table = some []
  | .marked =>
    (∃ stamp : Stamp, database.transaction caller =
      .opened (Function.update (fun _ => []) table [Row.marker stamp version description])) ∧
    database.holder table = some caller ∧ database.rows? table = some []
  | .kept => ∃ stamp : Stamp, database.rows? table = some [Row.marker stamp version description]
  | .lost => True

/-- What the step of one caller leaves alone. The rows that everyone sees change with the commit of
a marker only, and then the caller holds the lock of an empty table. -/
structure Moves (table : Table) (database after : Database Caller) (caller : Caller)
    (stage next : Stage) : Prop where
  transaction : ∀ other ≠ caller, after.transaction other = database.transaction other
  holder : ∀ other ≠ caller, database.holder table = some other → after.holder table = some other
  others : ∀ other ≠ table, after.rows? other = database.rows? other
  rows :
    ((after.rows? table = database.rows? table ∨
        after.rows? table = some (database.committed table)) ∧
      (next = .kept ↔ stage = .kept)) ∨
    (database.holder table = some caller ∧ database.rows? table = some [] ∧ next = .kept)

theorem transaction_put_of_ne {other : Caller} (h : other ≠ caller) (transaction : Transaction) :
    (database.put caller transaction).transaction other = database.transaction other :=
  Function.update_of_ne h _ _

theorem holder_released_of_ne {other : Caller} (h : other ≠ caller)
    (hholder : database.holder table = some other) :
    (database.released caller).holder table = some other := by
  simp [Database.released, hholder, h]

omit [DecidableEq Caller] in
theorem moves_self (h : next = .kept ↔ stage = .kept) :
    Moves table database database caller stage next :=
  ⟨fun _ _ => rfl, fun _ _ hholder => hholder, fun _ _ => rfl, .inl ⟨.inl rfl, h⟩⟩

theorem moves_put (transaction : Transaction) (h : next = .kept ↔ stage = .kept) :
    Moves table database (database.put caller transaction) caller stage next :=
  ⟨fun _ hne => transaction_put_of_ne hne transaction, fun _ _ hholder => hholder,
    fun _ _ => rfl, .inl ⟨.inl rfl, h⟩⟩

theorem moves_released (h : Moves table database after caller stage next) :
    Moves table database (after.released caller) caller stage next :=
  ⟨h.transaction, fun other hne hholder => holder_released_of_ne hne (h.holder other hne hholder),
    h.others, h.rows⟩

theorem moves_ended (h : next = .kept ↔ stage = .kept) :
    Moves table database (database.ended caller) caller stage next :=
  moves_released (moves_put .closed h)

theorem moves_failed (statement : Statement) (frees : Bool) (h : next = .kept ↔ stage = .kept) :
    Moves table database (database.failed caller statement frees) caller stage next := by
  unfold Database.failed
  split
  · exact moves_self h
  · split
    · exact moves_ended h
    · split
      · exact moves_released (moves_put .aborted h)
      · exact moves_put .aborted h

omit [DecidableEq Caller] in
/-- A transaction that has put a single row into an empty table makes it the row of the table. -/
theorem published_eq_filled {row : Row}
    (hopened : database.transaction caller = .opened (Function.update (fun _ => []) table [row]))
    (hrows : database.rows? table = some []) :
    database.published caller = database.filled table [row] := by
  have hpublished : (fun other => (database.rows? other).map
      (· ++ Function.update (fun _ => []) table [row] other)) =
        Function.update database.rows? table (some [row]) := by
    funext other
    by_cases hother : other = table
    · subst hother
      simp [hrows]
    · simp [hother]
  rw [Database.published, hopened]
  exact congrArg (fun rows => { database with rows? := rows }) hpublished

/-- A statement that is obeyed brings its caller to the next stage. -/
theorem moves_obeyed {statement : Statement} {answer : statement.Answer} {stamp : Stamp}
    (hfollows : Follows table version description stage statement (.ok answer) next)
    (hholds : Holds database caller table version description stage)
    (h : database.obeyed? caller stamp statement = some (answer, after)) :
    Holds after caller table version description next ∧
      Moves table database after caller stage next := by
  cases hfollows with
  | created =>
    have hclosed : database.transaction caller = .closed := hholds
    obtain rfl : database.filled table (database.committed table) = after := by
      simpa [Database.obeyed?, hclosed, Transaction.isClosed] using h
    refine ⟨hclosed, fun _ _ => rfl, fun _ _ hholder => hholder,
      fun other hne => Function.update_of_ne hne _ _, .inl ⟨.inr ?_, Iff.rfl⟩⟩
    exact Function.update_self ..
  | begun =>
    have hclosed : database.transaction caller = .closed := hholds
    obtain rfl : database.put caller (.opened fun _ => []) = after := by
      simpa [Database.obeyed?, hclosed, Transaction.isClosed] using h
    exact ⟨Function.update_self .., moves_put _ (by decide)⟩
  | locked =>
    have hopened : database.transaction caller = .opened fun _ => [] := hholds
    obtain ⟨hlockable, rfl⟩ :
        database.lockable caller table ∧ database.locked caller table = after := by
      simpa [Database.obeyed?] using h
    refine ⟨⟨hopened, Function.update_self ..⟩, fun _ _ => rfl, fun other hne hholder => ?_,
      fun _ _ => rfl, .inl ⟨.inl rfl, by decide⟩⟩
    -- The lock is free or the caller's own, so no other caller loses it.
    simp [Database.lockable, hholder, hne] at hlockable
  | occupied =>
    obtain ⟨_, -, -, rfl⟩ : ∃ rows, database.seen? caller table = some rows ∧
        rows.length = _ ∧ database = after := by
      simpa [Database.obeyed?] using h
    exact ⟨hholds, moves_self Iff.rfl⟩
  | vacant =>
    obtain ⟨hopened, hholder⟩ := hholds
    obtain ⟨_, hrows, rfl, rfl⟩ : ∃ rows, database.rows? table = some rows ∧ rows = [] ∧
        database = after := by
      simpa [Database.obeyed?, Database.seen?, hopened] using h
    exact ⟨⟨hopened, hholder, hrows⟩, moves_self (by decide)⟩
  | marked =>
    obtain ⟨hopened, hholder, hrows⟩ := hholds
    obtain rfl : database.put caller (.opened
        (Function.update (fun _ => []) table [Row.marker stamp version description])) = after := by
      simpa [Database.obeyed?, Database.inserted?, Statement.row?_insertMarker, hopened, hrows]
        using h
    exact ⟨⟨⟨stamp, Function.update_self ..⟩, hholder, hrows⟩, moves_put _ (by decide)⟩
  | kept =>
    obtain ⟨⟨stamp, hopened⟩, hholder, hrows⟩ := hholds
    obtain rfl : (database.published caller).ended caller = after := by
      simpa [Database.obeyed?] using h
    rw [published_eq_filled hopened hrows]
    exact ⟨⟨stamp, Function.update_self ..⟩, fun other hne => transaction_put_of_ne hne .closed,
      fun other hne hother => holder_released_of_ne hne hother,
      fun other hne => Function.update_of_ne hne _ _, .inr ⟨hholder, hrows, rfl⟩⟩
  | undone hstage =>
    obtain rfl : database.ended caller = after := by simpa [Database.obeyed?] using h
    exact ⟨trivial, moves_ended (by simpa using hstage)⟩

omit [DecidableEq Caller] in
theorem rows_of_moves {rows : List Row} (hmoves : Moves table database after caller stage next)
    (hrows : database.rows? table = some rows)
    (hkeeps : database.holder table ≠ some caller ∨ rows ≠ []) :
    after.rows? table = some rows := by
  rcases hmoves.rows with ⟨hsame | hmade, -⟩ | ⟨hholder, hempty, -⟩
  · rw [hsame, hrows]
  · rw [hmade, Database.committed, hrows, Option.getD_some]
  · rw [hrows] at hempty
    simp_all

omit [DecidableEq Caller] in
/-- A call stays at its stage while another one takes a step. -/
theorem holds_of_moves {other : Caller} {earlier later : Stage} (hne : other ≠ caller)
    (hmoves : Moves table database after caller earlier later)
    (hholds : Holds database other table version description stage) :
    Holds after other table version description stage := by
  have htransaction := hmoves.transaction other hne
  have hlocked (hholder : database.holder table = some other) :
      database.holder table ≠ some caller := by
    simpa [hholder] using hne
  cases stage with
  | outside => exact htransaction.trans hholds
  | opened => exact htransaction.trans hholds
  | locked =>
    obtain ⟨hopened, hholder⟩ := hholds
    exact ⟨htransaction.trans hopened, hmoves.holder other hne hholder⟩
  | vacant =>
    obtain ⟨hopened, hholder, hrows⟩ := hholds
    exact ⟨htransaction.trans hopened, hmoves.holder other hne hholder,
      rows_of_moves hmoves hrows (.inl (hlocked hholder))⟩
  | marked =>
    obtain ⟨⟨stamp, hopened⟩, hholder, hrows⟩ := hholds
    exact ⟨⟨stamp, htransaction.trans hopened⟩, hmoves.holder other hne hholder,
      rows_of_moves hmoves hrows (.inl (hlocked hholder))⟩
  | kept =>
    obtain ⟨stamp, hrows⟩ := hholds
    exact ⟨stamp, rows_of_moves hmoves hrows (.inr (by simp))⟩
  | lost => trivial

/-- One step of a careful call: it reaches a next stage, and is careful from there. -/
theorem exists_of_advance? {ends : Stage → α → Prop} {program rest : Program α} {fate : Fate}
    (hcareful : Careful table version description ends stage program)
    (hholds : Holds database caller table version description stage)
    (h : database.advance? caller fate program = some (after, rest)) :
    ∃ next, Careful table version description ends next rest ∧
      Holds after caller table version description next ∧
      Moves table database after caller stage next := by
  cases program with
  | done result => cases h
  | perform effect next =>
    cases effect with
    | ask statement =>
      cases fate with
      | obeyed stamp =>
        obtain ⟨answer, _, hobeyed, rfl, rfl⟩ : ∃ answer reached,
            database.obeyed? caller stamp statement = some (answer, reached) ∧
              reached = after ∧ next (.ok answer) = rest := by
          simpa [Database.advance?, Database.answer?] using h
        obtain ⟨reached, hfollows, hnext⟩ := hcareful (.ok answer)
        exact ⟨reached, hnext, moves_obeyed hfollows hholds hobeyed⟩
      | failed message frees =>
        obtain ⟨rfl, rfl⟩ : database.failed caller statement frees = after ∧
            next (.error message) = rest := by
          simpa [Database.advance?, Database.answer?] using h
        obtain ⟨reached, hfollows, hnext⟩ := hcareful (.error message)
        cases hfollows with
        | failed hstage =>
          exact ⟨.lost, hnext, trivial, moves_failed statement frees (by simpa using hstage)⟩
    | note event =>
      obtain ⟨rfl, rfl⟩ : database = after ∧ next () = rest := by
        simpa [Database.advance?] using h
      exact ⟨stage, hcareful, hholds, moves_self Iff.rfl⟩
    | _ => cases h

/-! ### Every schedule -/

/-- Either no call has committed its marker and the rows of the table are the first ones, or a
single call has, and there were no rows. -/
def Decided (table : Table) (initial : List Row) (database : Database Caller)
    (stages : Caller → Stage) : Prop :=
  (database.committed table = initial ∧ ∀ caller, stages caller ≠ .kept) ∨
    (initial = [] ∧ ∃ winner, ∀ caller, stages caller = .kept ↔ caller = winner)

/-- What holds from the start on, whichever turns are taken. -/
structure Guarded (table : Table) (content : Table → Option (List Row))
    (versions : Caller → Version) (descriptions : Caller → String)
    (system : System Caller (Except Failure Unit)) (stages : Caller → Stage) : Prop where
  careful : ∀ caller, Careful table (versions caller) (descriptions caller)
    (fun after result => result = .ok () ↔ after = .kept) (stages caller) (system.call caller)
  holds : ∀ caller,
    Holds system.database caller table (versions caller) (descriptions caller) (stages caller)
  decided : Decided table ((content table).getD []) system.database stages
  others : ∀ other ≠ table, system.database.rows? other = content other

variable {initial : List Row} {content : Table → Option (List Row)} {versions : Caller → Version}
  {descriptions : Caller → String} {system : System Caller (Except Failure Unit)}
  {stages : Caller → Stage}

theorem decided_of_moves
    (hholds : ∀ caller,
      Holds database caller table (versions caller) (descriptions caller) (stages caller))
    (hmoves : Moves table database after caller (stages caller) next)
    (h : Decided table initial database stages) :
    Decided table initial after (Function.update stages caller next) := by
  rcases hmoves.rows with ⟨hrows, hkept⟩ | ⟨-, hempty, rfl⟩
  · have hcommitted : after.committed table = database.committed table := by
      rcases hrows with hrows | hrows <;> simp [Database.committed, hrows]
    have hsame (other : Caller) :
        Function.update stages caller next other = .kept ↔ stages other = .kept := by
      by_cases hother : other = caller
      · subst hother
        simpa using hkept
      · simp [hother]
    simpa only [Decided, hcommitted, ne_eq, hsame] using h
  · rcases h with ⟨hinitial, hnone⟩ | ⟨-, winner, hwinner⟩
    · refine .inr ⟨?_, caller, fun other => ?_⟩
      · simpa [Database.committed, hempty] using hinitial.symm
      by_cases hother : other = caller
      · simp [hother]
      · simp [hother, hnone other]
    · -- A marker that was committed earlier would be in the table, which is empty.
      have hkept := hholds winner
      rw [(hwinner winner).mpr rfl] at hkept
      obtain ⟨stamp, hrows⟩ := hkept
      simp [hempty] at hrows

theorem guarded_turn (turn : Turn Caller)
    (h : Guarded table content versions descriptions system stages) :
    ∃ stages, Guarded table content versions descriptions (system.turn turn) stages := by
  unfold System.turn
  cases hstep : system.database.advance? turn.caller turn.fate (system.call turn.caller) with
  | none => exact ⟨stages, h⟩
  | some step =>
    obtain ⟨after, rest⟩ := step
    obtain ⟨next, hcareful, hholds, hmoves⟩ :=
      exists_of_advance? (h.careful turn.caller) (h.holds turn.caller) hstep
    refine ⟨Function.update stages turn.caller next, fun caller => ?_, fun caller => ?_,
      decided_of_moves h.holds hmoves h.decided,
      fun other hne => (hmoves.others other hne).trans (h.others other hne)⟩
    · by_cases hcaller : caller = turn.caller
      · subst hcaller
        simpa using hcareful
      · simpa [hcaller] using h.careful caller
    · by_cases hcaller : caller = turn.caller
      · subst hcaller
        simpa using hholds
      · simpa [hcaller] using holds_of_moves hcaller hmoves (h.holds caller)

theorem guarded_run (schedule : List (Turn Caller))
    (h : Guarded table content versions descriptions system stages) :
    ∃ stages, Guarded table content versions descriptions (system.run schedule) stages := by
  induction schedule generalizing system stages with
  | nil => exact ⟨stages, h⟩
  | cons turn schedule ih =>
    obtain ⟨reached, hreached⟩ := guarded_turn turn h
    exact ih hreached

omit [DecidableEq Caller] in
theorem guarded_starting (table : Table) (content : Table → Option (List Row))
    (versions : Caller → Version) (descriptions : Caller → String) :
    Guarded table content versions descriptions
      (System.starting table content versions descriptions) fun _ => .outside :=
  ⟨fun caller => careful_start table (versions caller) (descriptions caller), fun _ => rfl,
    .inl ⟨rfl, fun _ => Stage.noConfusion⟩, fun _ _ => rfl⟩

/-- What is left of a call that has nothing to do but to log, and to report success. -/
def Concluding : Program (Except Failure Unit) → Prop
  | .done result => result = .ok ()
  | .perform (.note _) next => Concluding (next ())
  | .perform _ _ => False

theorem concluding_of_careful {program : Program (Except Failure Unit)}
    (h : Careful table version description (fun after result => result = .ok () ↔ after = .kept)
      .kept program) :
    Concluding program := by
  induction program with
  | done result => exact h.mpr rfl
  | perform effect next ih =>
    cases effect with
    | ask statement =>
      -- A call whose marker is committed may not even ask for something that fails.
      obtain ⟨after, hfollows, -⟩ := h (.error "")
      cases hfollows with
      | failed hstage => exact absurd rfl hstage
    | note event => exact ih () h
    | _ => exact h.elim

/-- **A table gets one marker at most.** Whichever turns the callers take, and whichever statements
fail: a table that holds rows stays as it is, and every call fails. In a table without rows there is
never more than one row. It is the marker of one call, which then succeeds and is the only one that
does; as long as there is none, no call has succeeded. All other tables stay as they are. -/
theorem marker_of_schedule (table : Table) (content : Table → Option (List Row))
    (versions : Caller → Version) (descriptions : Caller → String)
    (schedule : List (Turn Caller)) :
    let system := (System.starting table content versions descriptions).run schedule
    ((content table).getD [] ≠ [] → system.database.rows? table = content table ∧
      ∀ caller, system.call caller ≠ .done (.ok ())) ∧
    ((content table).getD [] = [] →
      (system.database.committed table = [] ∧ ∀ caller, system.call caller ≠ .done (.ok ())) ∨
      ∃ winner, ∃ stamp : Stamp,
        system.database.committed table =
          [Row.marker stamp (versions winner) (descriptions winner)] ∧
        Concluding (system.call winner) ∧
        ∀ caller, system.call caller = .done (.ok ()) → caller = winner) ∧
    ∀ other ≠ table, system.database.rows? other = content other := by
  intro system
  obtain ⟨stages, hguarded⟩ : ∃ stages,
      Guarded table content versions descriptions system stages :=
    guarded_run schedule (guarded_starting table content versions descriptions)
  have hkept (caller : Caller) (hdone : system.call caller = .done (.ok ())) :
      stages caller = .kept := by
    have hcareful := hguarded.careful caller
    rw [hdone] at hcareful
    exact hcareful.mp rfl
  rcases hguarded.decided with ⟨hcommitted, hnone⟩ | ⟨hinitial, winner, hwinner⟩
  · have hfails (caller : Caller) : system.call caller ≠ .done (.ok ()) :=
      fun hdone => hnone caller (hkept caller hdone)
    refine ⟨fun hrows => ⟨?_, hfails⟩, fun hempty => .inl ⟨hcommitted.trans hempty, hfails⟩,
      hguarded.others⟩
    unfold Database.committed at hcommitted
    cases hnow : system.database.rows? table <;> cases hfirst : content table <;> simp_all
  · refine ⟨fun hrows => absurd hinitial hrows, fun _ => .inr ⟨winner, ?_⟩, hguarded.others⟩
    have hholds := hguarded.holds winner
    have hcareful := hguarded.careful winner
    rw [(hwinner winner).mpr rfl] at hholds hcareful
    obtain ⟨stamp, hrows⟩ := hholds
    refine ⟨stamp, by rw [Database.committed, hrows, Option.getD_some],
      concluding_of_careful hcareful, fun caller hdone => ?_⟩
    exact (hwinner caller).mp (hkept caller hdone)

/-- The turns of two callers who find no table. Both make it and begin; one of them waits for the
lock, and when it counts the rows there is one. -/
def contention : List (Turn Bool) :=
  [false, true, false, true, true, false, true, true, true, false, true, false, false].map
    fun caller => ⟨caller, .obeyed ⟨1, .startOf2024⟩⟩

theorem marker_of_contention :
    let system := (System.starting ⟨"s", "t"⟩ (fun _ => none)
      (fun caller => Version.ofParts [if caller then 1 else 2]) fun _ => "start").run contention
    system.call true = .done (.ok ()) ∧
      (∃ failure, system.call false = .done (.error failure)) ∧
      ∀ caller, system.call caller = .done (.ok ()) → caller = true := by
  intro system
  have hdone : system.call true = .done (.ok ()) := by rfl
  refine ⟨hdone, ⟨.notEmpty "\"s\".\"t\"" "2" 1, by rfl⟩, ?_⟩
  obtain ⟨-, hempty, -⟩ := marker_of_schedule ⟨"s", "t"⟩ (fun _ => none)
    (fun caller => Version.ofParts [if caller then 1 else 2]) (fun _ => "start") contention
  rcases hempty rfl with ⟨-, hnone⟩ | ⟨winner, stamp, -, -, hwinner⟩
  · exact absurd hdone (hnone true)
  · intro caller hcaller
    rw [hwinner caller hcaller, hwinner true hdone]

end MigrationStatus.Ledger.Shared
