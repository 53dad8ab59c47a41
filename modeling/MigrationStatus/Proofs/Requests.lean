import MigrationStatus.Proofs.Loading
import MigrationStatus.Proofs.Starting
/-!
# A run of requests to one ledger

Requests come one after another, in any order, and each of them meets its own failures. Only a start
that succeeds changes the rows; it finds none and leaves exactly its marker. So over a whole run
there is at most one such start, and none where the run has found rows. Which rank and which time
the marker has is up to the world: they are those that it has in store for its next row.
-/

namespace MigrationStatus.Ledger

open Migration
open Program (Ends Halts Reads)

/-- What can be asked of one ledger. -/
inductive Request where
  | look
  | ensure
  | start (version : Version) (description : String)
  | read
  /-- Merges what is at hand with the ledger, unless it cannot be told what is at hand. -/
  | status (available : Except Script.Failure (List Record)) (target : Version)

namespace Request

abbrev Answer : Request → Type
  | look => Bool
  | ensure | start .. => Unit
  | read => List Record
  | status .. => Timeline

def action (table : Table) : (request : Request) → MigrationStatus.Action request.Answer
  | look => Action.part .ledger (tableExists table)
  | ensure => Action.part .ledger (ensureTable table)
  | start version description => Action.part .ledger (Ledger.start table version description)
  | read => Action.part .ledger (applied table)
  | status available target =>
    Status.combined (Action.settled .script available) (Action.part .ledger (applied table)) target

end Request

/-- A request, and the statements that fail while it is served. -/
structure Step where
  failure? : Statement → Option String
  request : Request

/-- The world in which other statements fail. -/
def met (world : World) (failure? : Statement → Option String) : World :=
  { world with server := { world.server with failure? } }

/-- What the next row gets of its own accord. -/
def Server.stamp (server : Server) : Stamp := server.stamps server.stamped

namespace Step

def outcome (table : Table) (world : World) (step : Step) :
    Outcome (Except MigrationStatus.Failure step.request.Answer) :=
  Program.run (met world step.failure?) (step.request.action table).run

def after (table : Table) (world : World) (step : Step) : World := (step.outcome table world).world

/-- The marker of a start that succeeds. -/
def marker? (table : Table) (world : World) (step : Step) : Option Row :=
  match step.request, (step.outcome table world).result with
  | .start version description, .ok _ =>
    some (Row.marker world.server.stamp version description)
  | _, _ => none

end Step

/-- The world after all steps of a run. -/
def reached (table : Table) (world : World) (steps : List Step) : World :=
  steps.foldl (Step.after table) world

/-- The markers that a run has put into the table, one for each start that succeeded. -/
def markers (table : Table) : World → List Step → List Row
  | _, [] => []
  | world, step :: rest =>
    (step.marker? table world).toList ++ markers table (step.after table world) rest

/-- The rows of the table; none where there is no table. -/
def Server.rows (server : Server) : List Row := server.table.getD []

/-- The rows are still the same; but the table may have been made. -/
def Kept (before after : Option (List Row)) : Prop :=
  after = before ∨ before = none ∧ after = some []

variable {table : Table} {world : World} {failure? : Statement → Option String} {step : Step}
  {version : Version} {description : String}

/-! ### Requests that start nothing -/

theorem reads_look (world : World) (table : Table) :
    ∃ result statements, Reads world (tableExists table).run result statements := by
  cases h : world.server.failure? (.tableExists table) with
  | some message => exact ⟨_, _, reads_send_of_failure nofun nofun h⟩
  | none => exact ⟨_, _, reads_send_of_obeyed nofun h rfl⟩

theorem reads_settled {α : Type} (world : World) (available : Except Script.Failure α) :
    Reads world (Action.settled .script available).run (available.mapError .script) [] :=
  Program.ends_done world _

theorem reads_status (world : World) (table : Table)
    (available : Except Script.Failure (List Record)) (target : Version) :
    ∃ result statements,
      Reads world ((Request.status available target).action table).run result statements := by
  have hledger := Status.ends_part .ledger (reads_applied world table)
  exact ⟨_, _, Status.reads_combined target (reads_settled world available) hledger⟩

theorem kept_of_eq_some {before after : Option (List Row)} (h : after = some (before.getD [])) :
    Kept before after := by
  cases before with
  | none => exact .inr ⟨rfl, h⟩
  | some rows => exact .inl h

theorem getD_of_kept {before after : Option (List Row)} (h : Kept before after) :
    after.getD [] = before.getD [] := by
  rcases h with rfl | ⟨rfl, rfl⟩ <;> rfl

theorem exists_ends_ensureTable (world : World) (table : Table) :
    ∃ result statements after, Ends world (ensureTable table).run result statements after ∧
      Kept world.server.table after.server.table := by
  have hadmitted := reads_admitted world table
  cases hnamed : table.checked with
  | error error =>
    rw [hnamed] at hadmitted
    exact ⟨_, _, world, Program.ends_bind_of_error hadmitted, .inl rfl⟩
  | ok written =>
    obtain rfl := checked_eq_ok hnamed
    rw [hnamed] at hadmitted
    cases hcreate : world.server.failure? (.createTable table) with
    | some message =>
      have hfailed : Reads world (send (.createTable table) (.creating table.written)).run _ _ :=
        reads_send_of_failure nofun nofun hcreate
      exact ⟨_, _, world, Program.ends_bind hadmitted hfailed, .inl rfl⟩
    | none =>
      exact ⟨_, _, _, Program.ends_bind hadmitted (ends_create hcreate), kept_of_eq_some rfl⟩

/-! ### A start -/

theorem ends_request_start (h : Ready (met world failure?).server table version description) :
    Ends (met world failure?) ((Request.start version description).action table).run (.ok ())
      (starting table version description)
      { met world failure? with
        server := (met world failure?).server.started version description } :=
  Status.ends_part .ledger (ends_start h)

theorem halts_request_start (h : ¬ Ready (met world failure?).server table version description) :
    ∃ after, Halts (met world failure?) ((Request.start version description).action table).run
        (starting table version description) after ∧
      Kept world.server.table after.server.table := by
  obtain ⟨after, ⟨failure, sent, hsent, hends⟩, htable⟩ := halts_start h
  refine ⟨after, ⟨.ledger failure, sent, hsent, Status.ends_part .ledger hends⟩, ?_⟩
  exact htable.elim .inl kept_of_eq_some

theorem result_start_eq_ok_iff :
    (Step.outcome table world ⟨failure?, .start version description⟩).result = .ok () ↔
      Ready (met world failure?).server table version description := by
  constructor
  · intro hok
    by_contra hready
    obtain ⟨after, ⟨failure, sent, -, hends⟩, -⟩ := halts_request_start hready
    cases hends.gives.symm.trans hok
  · exact fun hready => (ends_request_start hready).gives

theorem ready_iff (server : Server) (table : Table) (version : Version) (description : String) :
    Ready server table version description ↔ version.isNumbered = true ∧
      (∃ written, table.checked = .ok written) ∧ server.rows = [] ∧
      ∀ statement ∈ starting table version description, server.failure? statement = none := by
  constructor
  · rintro ⟨hnumbered, hnamed, hvacant, hobeyed⟩
    exact ⟨hnumbered, ⟨table.written, hnamed⟩, hvacant, hobeyed⟩
  · rintro ⟨hnumbered, ⟨written, hnamed⟩, hvacant, hobeyed⟩
    obtain rfl := checked_eq_ok hnamed
    exact ⟨hnumbered, hnamed, hvacant, hobeyed⟩

theorem ready_of_no_failures (hnumbered : version.isNumbered = true)
    (hnamed : table.checked = .ok table.written) (hvacant : world.server.rows = [])
    (description : String) : Ready (met world fun _ => none).server table version description :=
  ⟨hnumbered, hnamed, hvacant, fun _ _ => rfl⟩

/-! ### One step -/

theorem marker?_start_of_ready (h : Ready (met world failure?).server table version description) :
    Step.marker? table world ⟨failure?, .start version description⟩ =
      some (Row.marker world.server.stamp version description) := by
  have hresult :
      (Step.outcome table world ⟨failure?, .start version description⟩).result = .ok () :=
    (ends_request_start h).gives
  simp only [Step.marker?, hresult]

theorem marker?_start_of_not_ready
    (h : ¬ Ready (met world failure?).server table version description) :
    Step.marker? table world ⟨failure?, .start version description⟩ = none := by
  obtain ⟨after, ⟨failure, sent, -, hends⟩, -⟩ := halts_request_start h
  have hresult : (Step.outcome table world ⟨failure?, .start version description⟩).result =
      .error failure := hends.gives
  simp only [Step.marker?, hresult]

theorem kept_of_not_start (h : ∀ version description, step.request ≠ .start version description) :
    Kept world.server.table (step.after table world).server.table := by
  obtain ⟨failure?, request⟩ := step
  have hworld {result statements}
      (hreads : Reads (met world failure?) (request.action table).run result statements) :
      (Step.after table world ⟨failure?, request⟩).server.table = world.server.table :=
    congrArg (·.server.table) hreads.leaves
  cases request with
  | start version description => exact absurd rfl (h version description)
  | look =>
    obtain ⟨result, statements, hreads⟩ := reads_look (met world failure?) table
    exact .inl (hworld (Status.ends_part .ledger hreads))
  | read =>
    have hreads := reads_applied (met world failure?) table
    exact .inl (hworld (Status.ends_part .ledger hreads))
  | status available target =>
    obtain ⟨result, statements, hreads⟩ := reads_status (met world failure?) table available target
    exact .inl (hworld hreads)
  | ensure =>
    obtain ⟨result, statements, after, hends, hkept⟩ :=
      exists_ends_ensureTable (met world failure?) table
    have hafter := (Status.ends_part .ledger hends).leaves
    change Kept _ (Program.run _ _).world.server.table
    rw [Request.action, hafter]
    exact hkept

theorem kept_of_marker?_eq_none (h : step.marker? table world = none) :
    Kept world.server.table (step.after table world).server.table := by
  obtain ⟨failure?, request⟩ := step
  cases request with
  | start version description =>
    by_cases hready : Ready (met world failure?).server table version description
    · rw [marker?_start_of_ready hready] at h
      cases h
    · obtain ⟨after, ⟨failure, sent, -, hends⟩, hkept⟩ := halts_request_start hready
      have hafter : Step.after table world ⟨failure?, .start version description⟩ = after :=
        hends.leaves
      rwa [hafter]
  | _ => exact kept_of_not_start nofun

theorem table_of_marker?_eq_some {marker : Row} (h : step.marker? table world = some marker) :
    world.server.rows = [] ∧ (step.after table world).server.table = some [marker] := by
  obtain ⟨failure?, request⟩ := step
  cases request with
  | start version description =>
    by_cases hready : Ready (met world failure?).server table version description
    · rw [marker?_start_of_ready hready] at h
      obtain rfl := Option.some.inj h
      have hafter := (ends_request_start hready).leaves
      exact ⟨hready.vacant, congrArg (·.server.table) hafter⟩
    · rw [marker?_start_of_not_ready hready] at h
      cases h
  | _ => simp [Step.marker?] at h

theorem rows_after (table : Table) (world : World) (step : Step) :
    (step.after table world).server.rows =
      world.server.rows ++ (step.marker? table world).toList := by
  cases hmarker : step.marker? table world with
  | none =>
    rw [Option.toList_none, List.append_nil]
    exact getD_of_kept (kept_of_marker?_eq_none hmarker)
  | some marker =>
    obtain ⟨hvacant, htable⟩ := table_of_marker?_eq_some hmarker
    rw [hvacant, Server.rows, htable]
    rfl

/-! ### A run -/

theorem markers_of_rows_ne_nil (steps : List Step) (h : world.server.rows ≠ []) :
    markers table world steps = [] := by
  induction steps generalizing world with
  | nil => rfl
  | cons step rest ih =>
    have hnone : step.marker? table world = none := by
      by_contra hsome
      obtain ⟨marker, hmarker⟩ := Option.ne_none_iff_exists'.mp hsome
      exact h (table_of_marker?_eq_some hmarker).1
    have hrest : (step.after table world).server.rows ≠ [] := by
      rw [rows_after, hnone]
      simpa using h
    rw [markers, hnone, ih hrest]
    rfl

theorem length_markers_le_one (table : Table) (world : World) (steps : List Step) :
    (markers table world steps).length ≤ 1 := by
  induction steps generalizing world with
  | nil => exact Nat.zero_le 1
  | cons step rest ih =>
    rw [markers]
    cases hmarker : step.marker? table world with
    | none => exact ih (step.after table world)
    | some marker =>
      -- The marker stands in the table from here on, so no later start succeeds.
      have hrows : (step.after table world).server.rows ≠ [] := by
        rw [rows_after, hmarker]
        simp
      rw [markers_of_rows_ne_nil rest hrows]
      simp

theorem rows_reached (table : Table) (world : World) (steps : List Step) :
    (reached table world steps).server.rows = world.server.rows ++ markers table world steps := by
  induction steps generalizing world with
  | nil => simp [reached, markers]
  | cons step rest ih =>
    calc (reached table world (step :: rest)).server.rows
        = (step.after table world).server.rows ++ markers table (step.after table world) rest :=
          ih (step.after table world)
      _ = world.server.rows ++ markers table world (step :: rest) := by
          rw [rows_after, markers, List.append_assoc]

/-- **Starts are atomic, and at most one of them succeeds.** Whatever rank and time the world has in
store, a start that succeeds leaves the one row that its `INSERT` says. -/
theorem starts_atomic (table : Table) (world : World) :
    (∀ step : Step, (∀ version description, step.request ≠ .start version description) →
      Kept world.server.table (step.after table world).server.table) ∧
    (∀ failure? version description,
      let outcome := Step.outcome table world ⟨failure?, .start version description⟩
      let insert := Statement.insertMarker table version description
      let planned := [.createTable table, .begin, .lockTable table, .countRows table, insert,
        .commit]
      let stamp := world.server.stamps world.server.stamped
      (outcome.result = .ok () ↔ version.isNumbered = true ∧
        (∃ written, table.checked = .ok written) ∧ world.server.rows = [] ∧
        ∀ statement ∈ planned, failure? statement = none) ∧
      (outcome.result = .ok () → outcome.statements = planned ∧
        insert.text = "INSERT INTO " ++ table.written ++
          " (version, description, type, script, checksum, execution_time, success) " ++
          "VALUES ($1, $2, $3, $4, NULL, 0, TRUE)" ∧
        insert.parameters = [version.display, description, "INIT", description] ∧
        outcome.world.server.table =
          some [⟨stamp.rank, version.display, description, "INIT", description, none, stamp.time,
            0, true⟩]) ∧
      ∀ failure, outcome.result = .error failure →
        outcome.statements <+: planned ∧ Kept world.server.table outcome.world.server.table) ∧
    ∀ steps : List Step,
      (reached table world steps).server.rows =
        world.server.rows ++ markers table world steps ∧
      (markers table world steps).length ≤ 1 ∧
      (world.server.rows ≠ [] → markers table world steps = []) := by
  refine ⟨fun step => kept_of_not_start, fun failure? version description => ?_, fun steps =>
    ⟨rows_reached table world steps, length_markers_le_one table world steps,
      markers_of_rows_ne_nil steps⟩⟩
  intro outcome insert planned stamp
  have hok_iff : outcome.result = .ok () ↔
      Ready (met world failure?).server table version description := result_start_eq_ok_iff
  have hready_iff := ready_iff (met world failure?).server table version description
  refine ⟨hok_iff.trans hready_iff, fun hok => ?_, fun failure hfailure => ?_⟩
  · have hends := ends_request_start (hok_iff.mp hok)
    exact ⟨hends.sends, Statement.text_insertMarker table version description,
      Statement.parameters_insertMarker table version description,
      congrArg (·.server.table) hends.leaves⟩
  · have hready : ¬ Ready (met world failure?).server table version description := fun hready =>
      nomatch (hok_iff.mpr hready).symm.trans hfailure
    obtain ⟨after, ⟨failure, sent, hsent, hends⟩, hkept⟩ := halts_request_start hready
    exact ⟨hends.sends ▸ hsent, hends.leaves ▸ hkept⟩

/-- The first start is denied its lock, the second one succeeds, and the third one is too late. The
row gets the rank that the world has in store. -/
theorem starts_atomic_of_retry :
    let table : Table := ⟨"public", "schema_version"⟩
    let world : World := .ofServer
      { Server.ofTable none with stamps := fun _ => ⟨5, .startOf2024⟩ }
    let denied : Step :=
      ⟨fun statement => if statement = .lockTable table then some "canceled" else none,
        .start (.ofParts [3]) "first"⟩
    let granted : Step := ⟨fun _ => none, .start (.ofParts [3]) "second"⟩
    let late : Step := ⟨fun _ => none, .start (.ofParts [4]) "third"⟩
    markers table world [denied, granted, late] =
        [Row.marker ⟨5, .startOf2024⟩ (.ofParts [3]) "second"] ∧
      (reached table world [denied, granted, late]).server.rows =
        [Row.marker ⟨5, .startOf2024⟩ (.ofParts [3]) "second"] := by
  intro table world denied granted late
  have hdenied : denied.marker? table world = none := by
    refine marker?_start_of_not_ready fun hready => ?_
    have hlock := hready.obeyed (.lockTable table) (by simp [starting, counting])
    exact absurd hlock (by simp [met])
  have hvacant : (denied.after table world).server.rows = [] := by
    rw [rows_after, hdenied]
    rfl
  have hstamp : (denied.after table world).server.stamp = ⟨5, .startOf2024⟩ :=
    congrFun (Program.stamps_run (met world denied.failure?) _) _
  have hgranted : granted.marker? table (denied.after table world) =
      some (Row.marker (denied.after table world).server.stamp (.ofParts [3]) "second") :=
    marker?_start_of_ready (ready_of_no_failures rfl checked_sample hvacant "second")
  rw [hstamp] at hgranted
  have hrows : (granted.after table (denied.after table world)).server.rows ≠ [] := by
    rw [rows_after, hgranted]
    simp
  have hmarkers : markers table world [denied, granted, late] =
      [Row.marker ⟨5, .startOf2024⟩ (.ofParts [3]) "second"] := by
    rw [markers, hdenied, markers, hgranted, markers_of_rows_ne_nil [late] hrows]
    rfl
  obtain ⟨hreached, -, -⟩ := (starts_atomic table world).2.2 [denied, granted, late]
  exact ⟨hmarkers, by rw [hreached, hmarkers]; rfl⟩

end MigrationStatus.Ledger
