import MigrationStatus.Ledger.Operation
/-!
# Playing programs step by step

A program that may fail goes on only where its first part succeeds, and it goes on in the world that
part has left behind. `run_bind_of_ok` and `run_bind_of_error` take a run apart in this way, so a
statement about a run is proved along the lines of the program, without opening the tree of effects.

What is then known of a run is told in one go: what it gives, which statements it has sent, and
which world it leaves behind (`Ends`), the same world where it only looked around (`Reads`). A
program that sends no statement leaves the table alone, whatever else it does (`Mute`). What holds
whatever the world answers is told of the program itself (`Within`).
-/

namespace MigrationStatus

/-- A server that fails nothing and has no open transaction. -/
def Ledger.Server.ofTable (table : Option (List Ledger.Row)) : Ledger.Server where
  table := table
  saved := none
  stamps n := ⟨Int32.ofNat (n + 1), .startOf2024⟩
  stamped := 0
  failure? _ := none

/-- A world without files, in which every address leads to the server at once. -/
def World.ofServer (server : Ledger.Server) : World := ⟨fun _ => none, fun _ _ => .ok (), 0, server⟩

variable {α β ε : Type} {world : World}

namespace Outcome

/-- The outcome of a program that goes on where another one has ended. -/
def followed (earlier : Outcome α) (later : Outcome β) : Outcome β :=
  { later with performed := earlier.performed ++ later.performed }

@[simp]
theorem result_followed (earlier : Outcome α) (later : Outcome β) :
    (earlier.followed later).result = later.result := rfl

@[simp]
theorem world_followed (earlier : Outcome α) (later : Outcome β) :
    (earlier.followed later).world = later.world := rfl

@[simp]
theorem statements_followed (earlier : Outcome α) (later : Outcome β) :
    (earlier.followed later).statements = earlier.statements ++ later.statements :=
  List.filterMap_append

end Outcome

namespace Program

theorem run_bind (world : World) (program : Program α) (rest : α → Program β) :
    run world (program.bind rest) =
      (run world program).followed
        (run (run world program).world (rest (run world program).result)) := by
  induction program generalizing world with
  | done result => rfl
  | perform effect next ih =>
    simp only [bind, run, ih, Outcome.followed, List.cons_append]

/-- No program changes what the world has in store for new rows. -/
theorem stamps_run (world : World) (program : Program α) :
    (run world program).world.server.stamps = world.server.stamps := by
  induction program generalizing world with
  | done result => rfl
  | perform effect next ih =>
    refine (ih (world.answer effect).1 (world.answer effect).2).trans ?_
    cases effect with
    | ask statement =>
      change (world.server.execute statement).2.stamps = world.server.stamps
      unfold Ledger.Server.execute
      split <;> cases statement <;> rfl
    | _ => rfl

section Action

variable {first : ExceptT ε Program α} {value : α} {failure : ε}

theorem run_bind_of_ok (rest : α → ExceptT ε Program β)
    (h : (run world first.run).result = .ok value) :
    run world (first >>= rest).run =
      (run world first.run).followed (run (run world first.run).world (rest value).run) := by
  change run world (first.run.bind (ExceptT.bindCont rest)) = _
  rw [run_bind, h]
  rfl

theorem run_bind_of_error (rest : α → ExceptT ε Program β)
    (h : (run world first.run).result = .error failure) :
    run world (first >>= rest).run =
      (run world first.run).followed (run (run world first.run).world (done (.error failure))) := by
  change run world (first.run.bind (ExceptT.bindCont rest)) = _
  rw [run_bind, h]
  rfl

theorem result_run_bind_of_ok {rest : α → ExceptT ε Program β}
    (h : (run world first.run).result = .ok value) :
    (run world (first >>= rest).run).result =
      (run (run world first.run).world (rest value).run).result := by
  rw [run_bind_of_ok rest h, Outcome.result_followed]

/-- A run that succeeds has succeeded in its first part and goes on from there. -/
theorem exists_of_run_bind_eq_ok {rest : α → ExceptT ε Program β} {result : β}
    (h : (run world (first >>= rest).run).result = .ok result) :
    ∃ value, (run world first.run).result = .ok value ∧
      (run (run world first.run).world (rest value).run).result = .ok result := by
  cases hfirst : (run world first.run).result with
  | error failure =>
    rw [run_bind_of_error rest hfirst] at h
    cases h
  | ok value =>
    rw [result_run_bind_of_ok hfirst] at h
    exact ⟨value, rfl, h⟩

end Action

/-! ### Runs by what becomes of them -/

/-- The run ends with the result, has sent the statements, and leaves the world `after` behind. -/
structure Ends (world : World) (program : Program α) (result : α)
    (statements : List Ledger.Statement) (after : World) : Prop where
  gives : (run world program).result = result
  sends : (run world program).statements = statements
  leaves : (run world program).world = after

/-- The run only looks around. -/
abbrev Reads (world : World) (program : Program α) (result : α)
    (statements : List Ledger.Statement) : Prop :=
  Ends world program result statements world

section Ends

variable {program : Program α} {next : α → Program β} {result : α} {final : β}
  {earlier later : List Ledger.Statement} {middle after : World}

theorem ends_done (world : World) (result : α) : Ends world (done result) result [] world :=
  ⟨rfl, rfl, rfl⟩

theorem ends_note (world : World) (event : Event) :
    Ends world (ExceptT.lift (note event) : ExceptT ε Program Unit).run (.ok ()) [] world :=
  ⟨rfl, rfl, rfl⟩

theorem ends_then (h : Ends world program result earlier middle)
    (hnext : Ends middle (next result) final later after) :
    Ends world (program >>= next) final (earlier ++ later) after := by
  have hrun : run world (program >>= next) =
      (run world program).followed
        (run (run world program).world (next (run world program).result)) :=
    run_bind world program next
  rw [h.gives, h.leaves] at hrun
  constructor
  · rw [hrun, Outcome.result_followed, hnext.gives]
  · rw [hrun, Outcome.statements_followed, h.sends, hnext.sends]
  · rw [hrun, Outcome.world_followed, hnext.leaves]

/-- What is done at the end sends nothing more. -/
theorem ends_then_of_quiet (h : Ends world program result earlier middle)
    (hnext : Ends middle (next result) final [] after) :
    Ends world (program >>= next) final earlier after := by
  have hends := ends_then h hnext
  rwa [List.append_nil] at hends

end Ends

section Action

variable {first : ExceptT ε Program α} {rest : α → ExceptT ε Program β} {value : α} {failure : ε}
  {result : Except ε β} {earlier later : List Ledger.Statement} {middle after : World}

theorem ends_bind (hfirst : Ends world first.run (.ok value) earlier middle)
    (hrest : Ends middle (rest value).run result later after) :
    Ends world (first >>= rest).run result (earlier ++ later) after := by
  change Ends world (first.run >>= ExceptT.bindCont rest) result (earlier ++ later) after
  exact ends_then hfirst hrest

theorem ends_bind_of_quiet (hfirst : Ends world first.run (.ok value) earlier middle)
    (hrest : Ends middle (rest value).run result [] after) :
    Ends world (first >>= rest).run result earlier after := by
  change Ends world (first.run >>= ExceptT.bindCont rest) result earlier after
  exact ends_then_of_quiet hfirst hrest

theorem ends_bind_of_error (hfirst : Ends world first.run (.error failure) earlier after) :
    Ends world (first >>= rest).run (.error failure) earlier after := by
  change Ends world (first.run >>= ExceptT.bindCont rest) (.error failure) earlier after
  exact ends_then_of_quiet hfirst (ends_done after _)

theorem reads_forM {body : α → ExceptT ε Program PUnit}
    (h : ∀ item, Reads world (body item).run (.ok ()) []) (items : List α) :
    Reads world (items.forM body).run (.ok ()) [] := by
  induction items with
  | nil => exact ends_done world _
  | cons item rest ih =>
    change Reads world (body item >>= fun _ => rest.forM body).run (.ok ()) []
    exact ends_bind (h item) ih

end Action

/-! ### Programs that send nothing -/

/-- Whatever the answers, the program sends no statement. -/
inductive Mute : Program α → Prop where
  | done (result : α) : Mute (done result)
  | perform {effect : Effect} {next : effect.Answer → Program α}
      (heffect : ∀ statement, effect ≠ .ask statement) (hnext : ∀ answer, Mute (next answer)) :
      Mute (perform effect next)

theorem mute_note (event : Event) : (note event).Mute := .perform nofun fun _ => .done _

theorem mute_connect (url : String) : (connect url).Mute := .perform nofun fun _ => .done _

theorem mute_pause (millis : Nat) : (pause millis).Mute := .perform nofun fun _ => .done _

theorem mute_bind {program : Program α} {rest : α → Program β} (h : program.Mute)
    (hrest : ∀ result, (rest result).Mute) : (program >>= rest).Mute := by
  induction h with
  | done result => exact hrest result
  | perform heffect _ ih => exact .perform heffect ih

theorem mute_forM {body : α → Program PUnit} (h : ∀ item, (body item).Mute) (items : List α) :
    (items.forM body).Mute := by
  induction items with
  | nil => exact .done _
  | cons item rest ih =>
    change (body item >>= fun _ => rest.forM body).Mute
    exact mute_bind (h item) fun _ => ih

/-- All that an effect other than a statement can change is the number of attempts to connect. -/
theorem exists_attempted_of_answer {effect : Effect}
    (heffect : ∀ statement, effect ≠ .ask statement) (world : World) :
    ∃ attempted, (world.answer effect).2 = { world with attempted } := by
  cases effect with
  | ask statement => exact absurd rfl (heffect statement)
  | connect url => exact ⟨world.attempted + 1, rfl⟩
  | _ => exact ⟨world.attempted, rfl⟩

theorem statements_perform {effect : Effect} (heffect : ∀ statement, effect ≠ .ask statement)
    (next : effect.Answer → Program α) (world : World) :
    (run world (perform effect next)).statements =
      (run (world.answer effect).2 (next (world.answer effect).1)).statements := by
  unfold Outcome.statements
  rw [run, List.filterMap_cons]
  cases effect with
  | ask statement => exact absurd rfl (heffect statement)
  | _ => rfl

theorem exists_ends_of_mute {program : Program α} (h : program.Mute) (world : World) :
    ∃ attempted,
      Ends world program (run world program).result [] { world with attempted } := by
  induction h generalizing world with
  | done result => exact ⟨world.attempted, ends_done world result⟩
  | @perform effect next heffect _ ih =>
    obtain ⟨attempted, hanswer⟩ := exists_attempted_of_answer heffect world
    obtain ⟨left, hends⟩ := ih (world.answer effect).1 (world.answer effect).2
    have hsends := (statements_perform heffect next world).trans hends.sends
    refine ⟨left, rfl, hsends, hends.leaves.trans ?_⟩
    rw [hanswer]

/-! ### Whatever the answers -/

/-- Whatever the answers, the program performs allowed effects only, and if it fails, then in a
permitted way. -/
def Within (allowed : Effect → Prop) (permitted : ε → Prop) : Program (Except ε α) → Prop
  | .done (.ok _) => True
  | .done (.error failure) => permitted failure
  | .perform effect next =>
    allowed effect ∧ ∀ answer, Within allowed permitted (next answer)

section Within

variable {δ : Type} {allowed : Effect → Prop} {permitted : ε → Prop} {told : δ → Prop}
  {first : ExceptT ε Program α} {rest : α → ExceptT ε Program β}

theorem within_then {program : Program (Except δ α)} {next : Except δ α → Program (Except ε β)}
    (h : Within allowed told program)
    (hnext : ∀ result, (∀ failure, result = .error failure → told failure) →
      Within allowed permitted (next result)) :
    Within allowed permitted (program.bind next) := by
  induction program with
  | done result =>
    refine hnext result fun failure hfailure => ?_
    rw [hfailure] at h
    exact h
  | perform effect body ih => exact ⟨h.1, fun answer => ih answer (h.2 answer)⟩

theorem within_bind (hfirst : Within allowed permitted first.run)
    (hrest : ∀ value, Within allowed permitted (rest value).run) :
    Within allowed permitted (first >>= rest).run := by
  refine within_then hfirst fun result htold => ?_
  cases result with
  | ok value => exact hrest value
  | error failure => exact htold failure rfl

theorem within_mono {stated : Effect → Prop} {held : ε → Prop} {program : Program (Except ε α)}
    (hallowed : ∀ effect, stated effect → allowed effect)
    (hpermitted : ∀ failure, held failure → permitted failure) (h : Within stated held program) :
    Within allowed permitted program := by
  induction program with
  | done result =>
    cases result with
    | ok value => trivial
    | error failure => exact hpermitted failure h
  | perform effect next ih =>
    exact ⟨hallowed effect h.1, fun answer => ih answer (h.2 answer)⟩

theorem within_forM {body : α → ExceptT ε Program PUnit}
    (h : ∀ item, Within allowed permitted (body item).run) (items : List α) :
    Within allowed permitted (items.forM body).run := by
  induction items with
  | nil => trivial
  | cons item rest ih =>
    change Within allowed permitted (body item >>= fun _ => rest.forM body).run
    exact within_bind (h item) fun _ => ih

theorem of_within {program : Program (Except ε α)} (h : Within allowed permitted program)
    (world : World) :
    (∀ effect ∈ (run world program).performed, allowed effect) ∧
      ∀ failure, (run world program).result = .error failure → permitted failure := by
  induction program generalizing world with
  | done result =>
    refine ⟨fun effect heffect => absurd heffect List.not_mem_nil, fun failure hfailure => ?_⟩
    obtain rfl : result = .error failure := hfailure
    exact h
  | perform effect next ih =>
    obtain ⟨hperformed, hresult⟩ := ih _ (h.2 (world.answer effect).1) (world.answer effect).2
    exact ⟨List.forall_mem_cons.mpr ⟨h.1, hperformed⟩, hresult⟩

end Within

end Program

namespace Ledger

theorem run_send (world : World) (statement : Statement) (wrap : String → Failure) :
    Program.run world (send statement wrap).run =
      { result := (world.server.execute statement).1.mapError wrap
        performed := [.ask statement]
        world := { world with server := (world.server.execute statement).2 } } := rfl

theorem execute_of_failure {server : Server} {statement : Statement} {message : String}
    (h : server.failure? statement = some message) :
    server.execute statement = (.error message, server.failed statement) := by
  rw [Server.execute, h]

theorem execute_of_obeyed {server : Server} {statement : Statement}
    (h : server.failure? statement = none) :
    server.execute statement = (.ok (server.obeyed statement).1, (server.obeyed statement).2) := by
  rw [Server.execute, h]

theorem statements_ask {result : α} {world : World} {statement : Statement}
    (h : statement ≠ .rollback) :
    ({ result, performed := [.ask statement], world } : Outcome α).statements = [statement] := by
  cases statement with
  | rollback => exact absurd rfl h
  | _ => rfl

/-- A statement that was answered did not fail, and the server has obeyed it. -/
theorem run_send_eq_ok {statement : Statement} {wrap : String → Failure}
    {answer : statement.Answer}
    (h : (Program.run world (send statement wrap).run).result = .ok answer) :
    (world.server.obeyed statement).1 = answer ∧
      (Program.run world (send statement wrap).run).world =
        { world with server := (world.server.obeyed statement).2 } := by
  rw [run_send] at h ⊢
  cases hfailure : world.server.failure? statement with
  | some message =>
    rw [execute_of_failure hfailure] at h
    cases h
  | none =>
    rw [execute_of_obeyed hfailure] at h ⊢
    exact ⟨Except.ok.inj h, rfl⟩

section Ends

variable {statement : Statement} {wrap : String → Failure} {table : Table}

/-- A statement that failed has changed nothing, unless it was to end a transaction. -/
theorem ends_send_of_failure {message : String} (wrap : String → Failure)
    (hrollback : statement ≠ .rollback) (h : world.server.failure? statement = some message) :
    Program.Ends world (send statement wrap).run (.error (wrap message)) [statement]
      { world with server := world.server.failed statement } := by
  constructor
  · rw [run_send, execute_of_failure h]
    rfl
  · rw [run_send, statements_ask hrollback]
  · rw [run_send, execute_of_failure h]

theorem reads_send_of_failure {message : String} (hrollback : statement ≠ .rollback)
    (hcommit : statement ≠ .commit) (h : world.server.failure? statement = some message) :
    Program.Reads world (send statement wrap).run (.error (wrap message)) [statement] := by
  have hends := ends_send_of_failure wrap hrollback h
  have hkeeps : world.server.failed statement = world.server := by
    cases statement with
    | rollback => exact absurd rfl hrollback
    | commit => exact absurd rfl hcommit
    | _ => rfl
  rwa [hkeeps] at hends

theorem ends_send_of_obeyed (wrap : String → Failure) (hrollback : statement ≠ .rollback)
    (h : world.server.failure? statement = none) :
    Program.Ends world (send statement wrap).run (.ok (world.server.obeyed statement).1)
      [statement] { world with server := (world.server.obeyed statement).2 } := by
  constructor
  · rw [run_send, execute_of_obeyed h]
    rfl
  · rw [run_send, statements_ask hrollback]
  · rw [run_send, execute_of_obeyed h]

theorem reads_send_of_obeyed (hrollback : statement ≠ .rollback)
    (h : world.server.failure? statement = none)
    (hkeeps : (world.server.obeyed statement).2 = world.server) :
    Program.Reads world (send statement wrap).run (.ok (world.server.obeyed statement).1)
      [statement] := by
  have hends := ends_send_of_obeyed wrap hrollback h
  rwa [hkeeps] at hends

theorem checked_eq_ok {written : String} (h : table.checked = .ok written) :
    written = table.written := by
  unfold Table.checked at h
  split at h
  · cases h
  · split at h
    · cases h
    · exact (Except.ok.inj h).symm

theorem reads_admitted (world : World) (table : Table) :
    Program.Reads world (admitted table).run (table.checked.mapError .name) [] :=
  Program.ends_done world _

end Ends

end Ledger

end MigrationStatus
