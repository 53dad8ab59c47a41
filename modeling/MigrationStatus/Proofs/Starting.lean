import MigrationStatus.Proofs.MarkerRow
import MigrationStatus.Proofs.Run
/-!
# Starting tracking, in full or not at all

Tracking is started by six statements, each of which can fail, and between two of them it is looked
at what was found. Either nothing of this stands in the way, and the marker is the one row of the
table, or the rows are those that were there before. The table itself is made in front of the
transaction, so it can be left behind empty. Rank and time of the marker are whatever the world has
in store for its next row.
-/

namespace MigrationStatus

/-! ### Runs that stop early -/

namespace Program

variable {α β ε : Type} {world middle after : World} {earlier later : List Ledger.Statement}

/-- The run fails, having sent no more than the first few of the planned statements. -/
def Halts (world : World) (program : Program (Except ε α)) (planned : List Ledger.Statement)
    (after : World) : Prop :=
  ∃ failure sent, sent <+: planned ∧ Ends world program (.error failure) sent after

section Halts

variable {first : ExceptT ε Program α} {rest : α → ExceptT ε Program β} {value : α}

theorem halts_bind_of_halts (h : Halts world first.run earlier after)
    (later : List Ledger.Statement) :
    Halts world (first >>= rest).run (earlier ++ later) after := by
  obtain ⟨failure, sent, hsent, hends⟩ := h
  have hplanned : sent <+: earlier ++ later := hsent.trans (List.prefix_append earlier later)
  exact ⟨failure, sent, hplanned, ends_bind_of_error hends⟩

theorem halts_bind (hfirst : Ends world first.run (.ok value) earlier middle)
    (hrest : Halts middle (rest value).run later after) :
    Halts world (first >>= rest).run (earlier ++ later) after := by
  obtain ⟨failure, sent, hsent, hends⟩ := hrest
  have hplanned : earlier ++ sent <+: earlier ++ later :=
    (List.prefix_append_right_inj earlier).mpr hsent
  exact ⟨failure, earlier ++ sent, hplanned, ends_bind hfirst hends⟩

end Halts

end Program

namespace Ledger

open Program (Ends Halts)

/-! ### The statements of a start -/

namespace Server

variable (server : Server)

/-- The server once the table has been made. -/
def created : Server := { server with table := some (server.table.getD []) }

/-- The server without an open transaction. -/
def closed : Server := { server with saved := none }

/-- The server within a transaction that has just begun. -/
def begun : Server := { server with saved := some server.table }

/-- The server once tracking has been started: it holds the marker and nothing else. -/
def started (version : Version) (description : String) : Server :=
  { server with
    table := some [Row.marker (server.stamps server.stamped) version description]
    saved := none
    stamped := server.stamped + 1 }

end Server

variable {world : World} {server : Server} {table : Table} {version : Version}
  {description : String}

/-- The statements that shut other writers out and count the rows. -/
def counting (table : Table) : List Statement := [.lockTable table, .countRows table]

/-- The statements that put the marker into the table for good. -/
def marking (table : Table) (version : Version) (description : String) : List Statement :=
  [.insertMarker table version description, .commit]

/-- The statements that start tracking. -/
def starting (table : Table) (version : Version) (description : String) : List Statement :=
  [.createTable table] ++ ([.begin] ++ (counting table ++ marking table version description))

/-- Nothing stands in the way of a start. -/
structure Ready (server : Server) (table : Table) (version : Version) (description : String) :
    Prop where
  numbered : version.isNumbered = true
  named : table.checked = .ok table.written
  vacant : server.table.getD [] = []
  obeyed : ∀ statement ∈ starting table version description, server.failure? statement = none

theorem forall_mem_starting_iff {allowed : Statement → Prop} :
    (∀ statement ∈ starting table version description, allowed statement) ↔
      allowed (.createTable table) ∧ allowed .begin ∧
        (∀ statement ∈ counting table, allowed statement) ∧
        ∀ statement ∈ marking table version description, allowed statement := by
  simp [starting, or_imp, forall_and]

/-! ### Statements that fail -/

theorem halts_send {statement : Statement} (wrap : String → Failure)
    (hrollback : statement ≠ .rollback) (h : world.server.failure? statement ≠ none) :
    Halts world (send statement wrap).run [statement]
      { world with server := world.server.failed statement } := by
  obtain ⟨message, hmessage⟩ := Option.ne_none_iff_exists'.mp h
  exact ⟨wrap message, [statement], List.prefix_rfl,
    ends_send_of_failure wrap hrollback hmessage⟩

theorem ends_create (h : world.server.failure? (.createTable table) = none) :
    Ends world (send (.createTable table) (.creating table.written)).run (.ok ())
      [.createTable table] { world with server := world.server.created } :=
  ends_send_of_obeyed _ nofun h

theorem ends_begin (h : world.server.failure? .begin = none) :
    Ends world (send .begin .server).run (.ok ()) [.begin]
      { world with server := world.server.begun } :=
  ends_send_of_obeyed _ nofun h

theorem ends_lock (written : String) (h : world.server.failure? (.lockTable table) = none) :
    Ends world (send (.lockTable table) (.locking written)).run (.ok ()) [.lockTable table] world :=
  reads_send_of_obeyed nofun h rfl

theorem ends_lockedCount (written : String)
    (h : ∀ statement ∈ counting table, world.server.failure? statement = none) :
    Ends world (lockedCount table written).run (.ok (world.server.table.getD []).length)
      (counting table) world := by
  have hlock := ends_lock written (h (.lockTable table) (by simp [counting]))
  have hcount : Ends world (send (.countRows table) .server).run
      (.ok (world.server.table.getD []).length) [.countRows table] world :=
    reads_send_of_obeyed nofun (h (.countRows table) (by simp [counting])) rfl
  exact Program.ends_bind hlock hcount

theorem halts_lockedCount (written : String)
    (h : ¬ ∀ statement ∈ counting table, world.server.failure? statement = none) :
    Halts world (lockedCount table written).run (counting table) world := by
  by_cases hlock : world.server.failure? (.lockTable table) = none
  · have hcount : world.server.failure? (.countRows table) ≠ none :=
      fun hcount => h (by simp [counting, hlock, hcount])
    exact Program.halts_bind (ends_lock written hlock) (halts_send .server nofun hcount)
  · have hhalts : Halts world (send (.lockTable table) (.locking written)).run
        [.lockTable table] world := halts_send _ nofun hlock
    exact Program.halts_bind_of_halts hhalts [.countRows table]

theorem ends_insert (written : String)
    (h : world.server.failure? (.insertMarker table version description) = none) :
    Ends world
      (send (.insertMarker table version description) (.recording version.display written)).run
      (.ok ()) [.insertMarker table version description]
      { world with server := world.server.inserted (.insertMarker table version description) } :=
  ends_send_of_obeyed _ nofun h

theorem ends_mark (written : String)
    (h : ∀ statement ∈ marking table version description, world.server.failure? statement = none) :
    Ends world (mark table written version description).run (.ok ())
      (marking table version description)
      { world with
        server := (world.server.inserted (.insertMarker table version description)).closed } := by
  have hinsert := ends_insert written
    (h (.insertMarker table version description) (by simp [marking]))
  have hcommit : (world.server.inserted
      (.insertMarker table version description)).failure? .commit = none :=
    h .commit (by simp [marking])
  exact Program.ends_bind hinsert (ends_send_of_obeyed .server nofun hcommit)

/-- A marker that cannot be put in, or not for good, is gone once its transaction is given up. -/
theorem halts_mark (written : String)
    (h : ¬ ∀ statement ∈ marking table version description,
      world.server.failure? statement = none) :
    ∃ after, Halts { world with server := world.server.begun }
        (mark table written version description).run (marking table version description) after ∧
      after.server.undone.table = world.server.table := by
  let begun : World := { world with server := world.server.begun }
  by_cases hinsert : begun.server.failure? (.insertMarker table version description) = none
  · have hcommit : (begun.server.inserted
        (.insertMarker table version description)).failure? .commit ≠ none :=
      fun hcommit => h (by simpa [marking] using ⟨hinsert, hcommit⟩)
    exact ⟨_, Program.halts_bind (ends_insert written hinsert) (halts_send .server nofun hcommit),
      rfl⟩
  · have hhalts : Halts begun (send (.insertMarker table version description)
        (.recording version.display written)).run [.insertMarker table version description]
          begun := halts_send _ nofun hinsert
    exact ⟨begun, Program.halts_bind_of_halts hhalts [.commit], rfl⟩

/-! ### The transaction -/

/-- Giving a transaction up is not among the statements that are logged, and it takes place even
where the database has a complaint about it. -/
theorem ends_rollback (world : World) :
    Ends world (Program.ask .rollback) (world.server.execute .rollback).1 []
      { world with server := world.server.undone } := by
  refine ⟨rfl, rfl, ?_⟩
  have hundone : (world.server.execute .rollback).2 = world.server.undone := by
    cases hfailure : world.server.failure? .rollback with
    | some message => rw [execute_of_failure hfailure]; rfl
    | none => rw [execute_of_obeyed hfailure]; rfl
  exact congrArg (fun server => { world with server }) hundone

section Rollback

variable {α : Type} {body : Action α} {planned : List Statement} {after : World}

theorem ends_orRollback {value : α} (h : Ends world body.run (.ok value) planned after) :
    Ends world (orRollback body).run (.ok value) planned after := by
  rw [orRollback, ExceptT.run_mk]
  exact Program.ends_then_of_quiet h (Program.ends_done after _)

theorem ends_orRollback_of_error {failure : Failure}
    (h : Ends world body.run (.error failure) planned after) :
    Ends world (orRollback body).run (.error failure) planned
      { after with server := after.server.undone } := by
  have hrollback : Ends after (discard (Program.ask .rollback)) () []
      { after with server := after.server.undone } :=
    Program.ends_then_of_quiet (ends_rollback after) (Program.ends_done _ ())
  rw [orRollback, ExceptT.run_mk]
  exact Program.ends_then_of_quiet h
    (Program.ends_then_of_quiet hrollback (Program.ends_done _ _))

theorem halts_orRollback (h : Halts world body.run planned after) :
    Halts world (orRollback body).run planned { after with server := after.server.undone } := by
  obtain ⟨failure, sent, hsent, hends⟩ := h
  exact ⟨failure, sent, hsent, ends_orRollback_of_error hends⟩

end Rollback

/-- However the database takes it that a transaction is given up, the rows are those from before. -/
theorem exists_ends_giveUp (world : World) :
    ∃ result after, Ends world (orRollback (send .rollback .server)).run result [] after ∧
      after.server.table = world.server.undone.table := by
  have hsend : Ends world (send .rollback .server).run _ [] _ :=
    Program.ends_then_of_quiet (ends_rollback world) (Program.ends_done _ _)
  cases hanswer : (world.server.execute .rollback).1 with
  | ok answer =>
    rw [hanswer] at hsend
    exact ⟨_, _, ends_orRollback hsend, rfl⟩
  | error message =>
    rw [hanswer] at hsend
    exact ⟨_, _, ends_orRollback_of_error hsend, rfl⟩

/-! ### A start -/

section Start

/-- What is left of a start once the rows have been counted. -/
def settle (table : Table) (version : Version) (description : String) (rows : Nat) :
    Action Unit := do
  if 0 < rows then
    orRollback (send .rollback .server)
    throw (.notEmpty table.written version.display rows)
  orRollback (mark table table.written version description)
  note (.ledgerStarted table.written version.display)

/-- What follows in a start once version and name are admitted. -/
theorem run_start (hnumbered : version.isNumbered = true)
    (hnamed : table.checked = .ok table.written) :
    (start table version description).run = (do
      send (.createTable table) (.creating table.written)
      send .begin .server
      let rows ← orRollback (lockedCount table table.written)
      settle table version description rows : Action Unit).run := by
  simp only [start, ensureTable, admitted, hnumbered, hnamed]
  rfl

theorem ends_settle_zero
    (h : ∀ statement ∈ marking table version description, world.server.failure? statement = none) :
    Ends world (settle table version description 0).run (.ok ())
      (marking table version description)
      { world with
        server := (world.server.inserted (.insertMarker table version description)).closed } :=
  Program.ends_bind_of_quiet (ends_orRollback (ends_mark table.written h)) (Program.ends_note _ _)

/-- A table with rows is left to its rows. -/
theorem halts_settle_of_pos {rows : Nat} (h : 0 < rows) :
    ∃ after, Halts { world with server := world.server.begun }
        (settle table version description rows).run (marking table version description) after ∧
      after.server.table = world.server.table := by
  obtain ⟨result, after, hends, htable⟩ :=
    exists_ends_giveUp { world with server := world.server.begun }
  rw [settle, if_pos h]
  cases result with
  | ok answer =>
    exact ⟨after, ⟨_, [], List.nil_prefix,
      Program.ends_bind hends (Program.ends_done after _)⟩, htable⟩
  | error failure =>
    exact ⟨after, ⟨failure, [], List.nil_prefix, Program.ends_bind_of_error hends⟩, htable⟩

theorem halts_settle_zero
    (h : ¬ ∀ statement ∈ marking table version description,
      world.server.failure? statement = none) :
    ∃ after, Halts { world with server := world.server.begun }
        (settle table version description 0).run (marking table version description) after ∧
      after.server.table = world.server.table := by
  obtain ⟨after, hhalts, htable⟩ := halts_mark table.written h
  exact ⟨_, Program.halts_bind_of_halts (halts_orRollback hhalts) [], htable⟩

theorem ends_start (h : Ready world.server table version description) :
    Ends world (start table version description).run (.ok ())
      (starting table version description)
      { world with server := world.server.started version description } := by
  obtain ⟨hnumbered, hnamed, hvacant, hobeyed⟩ := h
  obtain ⟨hcreate, hbegin, hcounting, hmarking⟩ := forall_mem_starting_iff.mp hobeyed
  let begun : World := { world with server := world.server.created.begun }
  have hcounted : Ends begun (orRollback (lockedCount table table.written)).run
      (.ok (begun.server.table.getD []).length) (counting table) begun :=
    ends_orRollback (ends_lockedCount table.written hcounting)
  have hempty : begun.server.table.getD [] = [] := hvacant
  have hsettle : Ends begun (settle table version description 0).run (.ok ())
      (marking table version description) { begun with
        server := (begun.server.inserted (.insertMarker table version description)).closed } :=
    ends_settle_zero hmarking
  have hstarted : (begun.server.inserted (.insertMarker table version description)).closed =
      world.server.started version description := by
    simp [Server.inserted, Statement.row?_insertMarker, Server.closed, Server.started, hvacant,
      begun, Server.begun, Server.created]
  rw [hempty] at hcounted
  rw [hstarted] at hsettle
  rw [run_start hnumbered hnamed, starting]
  exact Program.ends_bind (ends_create hcreate) (Program.ends_bind (ends_begin hbegin)
    (Program.ends_bind hcounted hsettle))

/-- Once the transaction has begun, whatever stops it leads back to the table it has found. -/
theorem halts_transaction
    (h : world.server.table.getD [] = [] →
      ¬ ∀ statement ∈ counting table ++ marking table version description,
        world.server.failure? statement = none) :
    ∃ after, Halts { world with server := world.server.begun } (do
          let rows ← orRollback (lockedCount table table.written)
          settle table version description rows : Action Unit).run
        (counting table ++ marking table version description) after ∧
      after.server.table = world.server.table := by
  let begun : World := { world with server := world.server.begun }
  by_cases hcounting : ∀ statement ∈ counting table, world.server.failure? statement = none
  · have hcounted : Ends begun (orRollback (lockedCount table table.written)).run
        (.ok (world.server.table.getD []).length) (counting table) begun :=
      ends_orRollback (ends_lockedCount table.written hcounting)
    obtain ⟨after, hsettle, htable⟩ : ∃ after, Halts begun
        (settle table version description (world.server.table.getD []).length).run
          (marking table version description) after ∧ after.server.table = world.server.table := by
      by_cases hvacant : world.server.table.getD [] = []
      · rw [hvacant]
        refine halts_settle_zero fun hmarking => h hvacant fun statement hstatement => ?_
        exact (List.mem_append.mp hstatement).elim (hcounting statement) (hmarking statement)
      · exact halts_settle_of_pos (List.length_pos_iff.mpr hvacant)
    exact ⟨after, Program.halts_bind hcounted hsettle, htable⟩
  · have hcounted : Halts begun (orRollback (lockedCount table table.written)).run
        (counting table) { begun with server := begun.server.undone } :=
      halts_orRollback (halts_lockedCount table.written hcounting)
    exact ⟨_, Program.halts_bind_of_halts hcounted _, rfl⟩

theorem halts_statements (hnumbered : version.isNumbered = true)
    (hnamed : table.checked = .ok table.written)
    (h : ¬ Ready world.server table version description) :
    ∃ after, Halts world (start table version description).run
        (starting table version description) after ∧
      (after.server.table = world.server.table ∨
        after.server.table = some (world.server.table.getD [])) := by
  let created : World := { world with server := world.server.created }
  rw [run_start hnumbered hnamed, starting]
  by_cases hcreate : world.server.failure? (.createTable table) = none
  · by_cases hbegin : created.server.failure? .begin = none
    · have hstopped (hvacant : created.server.table.getD [] = []) :
          ¬ ∀ statement ∈ counting table ++ marking table version description,
            created.server.failure? statement = none := by
        intro hobeyed
        refine h ⟨hnumbered, hnamed, hvacant, forall_mem_starting_iff.mpr ⟨hcreate, hbegin, ?_⟩⟩
        exact List.forall_mem_append.mp hobeyed
      obtain ⟨after, htransaction, htable⟩ := halts_transaction hstopped
      exact ⟨after, Program.halts_bind (ends_create hcreate)
        (Program.halts_bind (ends_begin hbegin) htransaction), .inr htable⟩
    · have hhalts : Halts created (send .begin .server).run [.begin] created :=
        halts_send .server nofun hbegin
      refine ⟨created, Program.halts_bind (ends_create hcreate) ?_, .inr rfl⟩
      exact Program.halts_bind_of_halts hhalts _
  · have hhalts : Halts world (send (.createTable table) (.creating table.written)).run
        [.createTable table] world := halts_send _ nofun hcreate
    exact ⟨world, Program.halts_bind_of_halts hhalts _, .inl rfl⟩

/-- A start that is not ready leaves the table as it was, or has made it. -/
theorem halts_start (h : ¬ Ready world.server table version description) :
    ∃ after, Halts world (start table version description).run
        (starting table version description) after ∧
      (after.server.table = world.server.table ∨
        after.server.table = some (world.server.table.getD [])) := by
  cases hnumbered : version.isNumbered with
  | false =>
    refine ⟨world, ⟨.unmarkable version.display, [], List.nil_prefix, ?_⟩, .inl rfl⟩
    simp only [start, hnumbered]
    exact Program.ends_done world _
  | true =>
    cases hnamed : table.checked with
    | error error =>
      refine ⟨world, ⟨.name error, [], List.nil_prefix, ?_⟩, .inl rfl⟩
      simp only [start, hnumbered, admitted, hnamed]
      exact Program.ends_done world _
    | ok written =>
      obtain rfl := checked_eq_ok hnamed
      exact halts_statements hnumbered hnamed h

/-! ### Whatever the database answers -/

theorem within_send {statement : Statement} {wrap : String → Failure} {allowed : Effect → Prop}
    {permitted : Failure → Prop} (hask : allowed (.ask statement))
    (hfailed : ∀ message, permitted (wrap message)) :
    Program.Within allowed permitted (send statement wrap).run := by
  refine ⟨hask, fun answer => ?_⟩
  cases answer with
  | ok answer => trivial
  | error message => exact hfailed message

theorem within_orRollback {α : Type} {body : Action α} {allowed : Effect → Prop}
    {permitted : Failure → Prop} (hrollback : allowed (.ask .rollback))
    (h : Program.Within allowed permitted body.run) :
    Program.Within allowed permitted (orRollback body).run := by
  refine Program.within_then h fun result htold => ?_
  cases result with
  | ok value => trivial
  | error failure => exact ⟨hrollback, fun _ => htold failure rfl⟩

/-- A start sends its own statements only, and none before the name of the table is admitted. It
complains of its version only where that is one of the two bounds. -/
theorem within_start (table : Table) (version : Version) (description : String) :
    Program.Within
      (fun effect => ∀ statement, effect = .ask statement → table.checked = .ok table.written ∧
        (statement = .rollback ∨ statement ∈ starting table version description))
      (fun failure => ∀ shown, failure = .unmarkable shown → version.isNumbered = false)
      (start table version description).run := by
  cases hnumbered : version.isNumbered with
  | false =>
    simp only [start, hnumbered]
    exact fun _ _ => trivial
  | true =>
    cases hnamed : table.checked with
    | error error =>
      simp only [start, hnumbered, admitted, hnamed]
      exact nofun
    | ok written =>
      obtain rfl := checked_eq_ok hnamed
      have hsent (statement : Statement)
          (hmem : statement = .rollback ∨ statement ∈ starting table version description) :
          ∀ other, Effect.ask statement = .ask other →
            (Except.ok table.written : Except NameError String) = .ok table.written ∧
              (other = .rollback ∨ other ∈ starting table version description) := by
        rintro other ⟨⟩
        exact ⟨rfl, hmem⟩
      rw [run_start hnumbered hnamed]
      refine Program.within_bind (within_send (hsent _ (by simp [starting])) nofun) fun _ => ?_
      refine Program.within_bind (within_send (hsent _ (by simp [starting])) nofun) fun _ => ?_
      refine Program.within_bind (within_orRollback (hsent _ (by simp)) ?_) fun rows => ?_
      · exact Program.within_bind
          (within_send (hsent (.lockTable table) (by simp [starting, counting])) nofun) fun _ =>
            within_send (hsent (.countRows table) (by simp [starting, counting])) nofun
      by_cases hrows : 0 < rows
      · rw [settle, if_pos hrows]
        refine Program.within_bind (within_orRollback (hsent .rollback (by simp))
          (within_send (hsent .rollback (by simp)) fun _ => ?_)) fun _ => ?_
        · exact nofun
        · exact nofun
      · rw [settle, if_neg hrows]
        refine Program.within_bind (within_orRollback (hsent .rollback (by simp)) ?_) fun _ =>
          ⟨nofun, fun _ => trivial⟩
        refine Program.within_bind (within_send
          (hsent (.insertMarker table version description) (by simp [starting, marking])) nofun)
            fun _ => ?_
        exact within_send (hsent .commit (by simp [starting, marking])) nofun

end Start

end Ledger

end MigrationStatus
