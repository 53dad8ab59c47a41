import MigrationStatus.Command.Run
import MigrationStatus.Proofs.LedgerRows
import MigrationStatus.Proofs.MarkerRow
import MigrationStatus.Proofs.Rollout
import MigrationStatus.Proofs.ScriptFolder
import MigrationStatus.Proofs.Standing
/-!
# What the views of a merge show

A deployment is gated by three views of the merged list: what is current, what is pending, and what
needs attention. They read the states that the passes of the merge have left behind. Here each of
them is told by the two lists that were read, without any state but the success of a row: by the
marker that opens the ledger, its last row, and the target.
-/

namespace MigrationStatus.Migration

/-! ### The views of an ascending list -/

namespace Timeline

variable {timeline : Timeline} {record : Record} {anomaly : Anomaly}

theorem current?_eq_none_iff :
    current? timeline = none ↔ ∀ record ∈ timeline, record.state.isApplied = false := by
  simp [current?]

/-- The search from the end stops at a record that no applied one exceeds. -/
theorem of_current?_eq_some (h : Ascending timeline) (hcurrent : current? timeline = some record) :
    (record ∈ timeline ∧ record.state.isApplied = true) ∧
      ∀ other ∈ timeline, other.state.isApplied = true → other.version ≤ record.version := by
  obtain ⟨happlied, later, earlier, hsplit, hlater⟩ := List.find?_eq_some_iff_append.mp hcurrent
  have htimeline : timeline = earlier.reverse ++ record :: later.reverse := by
    simpa using congrArg List.reverse hsplit
  subst htimeline
  obtain ⟨-, -, hbelow⟩ := List.pairwise_append.mp h
  refine ⟨⟨by simp, happlied⟩, fun other hother hran => ?_⟩
  rcases List.mem_append.mp hother with hmem | hmem
  · exact (hbelow other hmem record (List.mem_cons_self ..)).le
  · rcases List.mem_cons.mp hmem with rfl | hmem
    · exact le_rfl
    · have hnot := hlater other (List.mem_reverse.mp hmem)
      simp [hran] at hnot

theorem current?_eq_some_iff (h : Ascending timeline) :
    current? timeline = some record ↔
      (record ∈ timeline ∧ record.state.isApplied = true) ∧
        ∀ other ∈ timeline, other.state.isApplied = true → other.version ≤ record.version := by
  refine ⟨of_current?_eq_some h, fun ⟨⟨hrecord, happlied⟩, hhighest⟩ => ?_⟩
  cases hcurrent : current? timeline with
  | none =>
    have hnot := current?_eq_none_iff.mp hcurrent record hrecord
    simp [happlied] at hnot
  | some found =>
    obtain ⟨⟨hfound, hran⟩, habove⟩ := of_current?_eq_some h hcurrent
    -- Each of the two is as high as the other, and an ascending list has one record at a position.
    have hsame : record.version.same found.version = true :=
      Version.same_iff_le_and_le.mpr ⟨habove record hrecord happlied, hhighest found hfound hran⟩
    have hfirst := find?_of_mem h.distinct hfound hsame
    rw [find?_of_mem h.distinct hrecord (Version.same_self _)] at hfirst
    exact hfirst.symm

theorem mem_anomalies_iff :
    anomaly ∈ anomalies timeline ↔
      (∃ record ∈ timeline, record.state.isFailed = true ∧ anomaly = .failed record) ∨
        ∃ record ∈ timeline, record.state = .ignored ∧ anomaly = .ignored record := by
  have hof (record : Record) : Anomaly.of? record = some anomaly ↔
      (record.state.isFailed = true ∧ anomaly = .failed record) ∨
        (record.state = .ignored ∧ anomaly = .ignored record) := by
    unfold Anomaly.of?
    cases record.state <;> simp [State.isFailed, eq_comm]
  simp only [anomalies, List.mem_filterMap, hof, and_or_left, exists_or]

theorem record_of_of?_eq_some (h : Anomaly.of? record = some anomaly) :
    anomaly.record = record := by
  unfold Anomaly.of? at h
  split at h
  · cases h
    rfl
  · split at h
    · cases h
      rfl
    · cases h

theorem pairwise_anomalies (h : Ascending timeline) :
    (anomalies timeline).Pairwise fun earlier later =>
      earlier.record.version < later.record.version := by
  refine List.Pairwise.filterMap _ (fun earlier later hlt first hfirst second hsecond => ?_) h
  rw [record_of_of?_eq_some hfirst, record_of_of?_eq_some hsecond]
  exact hlt

end Timeline

namespace Reconcile

open Timeline

/-- The version lies within the target, and not below the marker that opens the ledger. -/
def Tracked (applied : List Record) (target version : Version) : Prop :=
  version ≤ target ∧ ¬ BelowMarker applied version

instance (applied : List Record) (target version : Version) :
    Decidable (Tracked applied target version) :=
  inferInstanceAs (Decidable (_ ∧ _))

/-- The migration is at hand, and no row was written for it. -/
def Unapplied (available applied : List Record) (file : Record) : Prop :=
  file ∈ available ∧ contains file.version applied = false

variable {available applied : List Record} {record row file : Record} {target version : Version}

/-! ### What the merge makes of rows and files -/

theorem isApplied_settled (hrow : row.state = .success ∨ row.state = .failed)
    (available : List Record) : (settled available row).state.isApplied = true := by
  have hrun : row.state.isApplied = true := by
    rcases hrow with h | h <;> simp [h, State.isApplied]
  unfold settled
  split
  · exact hrun
  · exact isApplied_unavailableState hrun _

theorem isFailed_settled (available : List Record) (row : Record) :
    (settled available row).state.isFailed = row.state.isFailed := by
  unfold settled
  split
  · rfl
  · rw [Record.state_reclassified]
    unfold unavailableState
    split <;> simp

theorem waitingState_eq_ignored_iff :
    waitingState applied version = .ignored ↔
      ¬ BelowMarker applied version ∧ BelowLast applied version := by
  unfold waitingState
  split
  · simp_all
  · split <;> simp_all

theorem isApplied_waitingState (applied : List Record) (version : Version) :
    (waitingState applied version).isApplied = false := by
  unfold waitingState
  split
  · rfl
  · split <;> rfl

theorem isApplied_rowEntry_iff (hrow : row.state = .success ∨ row.state = .failed) :
    (rowEntry available applied row).state.isApplied = true ↔
      ¬ BelowMarker applied row.version := by
  unfold rowEntry
  split
  · next hmarker => simp [hmarker, State.isApplied]
  · next hmarker => simp [hmarker, isApplied_settled hrow]

/-- A record of the merge comes from a row, or from a file without one. -/
theorem mem_merge_iff_source (havailable : Distinct available) (happlied : Recorded applied) :
    record ∈ merge available applied target ↔ record.version ≤ target ∧
      ((∃ row ∈ applied, record = rowEntry available applied row) ∨
        ∃ file, Unapplied available applied file ∧
          record = file.withoutExecution (waitingState applied file.version)) := by
  rw [mem_merge_iff havailable happlied]
  refine and_congr_right fun _ => ⟨fun hentry => ?_, ?_⟩
  · unfold entryAt? at hentry
    split at hentry
    · next row hrow =>
      exact .inl ⟨row, mem_of_find?_eq_some hrow, (Option.some.inj hentry).symm⟩
    · next hnone =>
      obtain ⟨file, hfile, hrecord⟩ := Option.map_eq_some_iff.mp hentry
      have hsame := same_of_find?_eq_some hfile
      have hnew : contains file.version applied = false := by
        rw [contains_eq_false_iff, ← find?_congr hsame applied]
        exact hnone
      rw [waitingState_congr hsame] at hrecord
      exact .inr ⟨file, ⟨mem_of_find?_eq_some hfile, hnew⟩, hrecord.symm⟩
  · rintro (⟨row, hrow, rfl⟩ | ⟨file, ⟨hfile, hnew⟩, rfl⟩)
    · rw [version_rowEntry]
      exact entryAt?_of_mem_applied happlied.distinct hrow
    · have hentry := entryAt?_of_mem_available havailable hfile hnew
      exact hentry

theorem mem_merge_and_isApplied_iff (havailable : Distinct available)
    (happlied : Recorded applied) :
    record ∈ merge available applied target ∧ record.state.isApplied = true ↔
      ∃ row ∈ applied, Tracked applied target row.version ∧ record = settled available row := by
  rw [mem_merge_iff_source havailable happlied]
  constructor
  · rintro ⟨⟨hle, ⟨row, hrow, rfl⟩ | ⟨file, -, rfl⟩⟩, hstate⟩
    · have hmarker := (isApplied_rowEntry_iff (happlied.finished row hrow)).mp hstate
      rw [version_rowEntry] at hle
      exact ⟨row, hrow, ⟨hle, hmarker⟩, if_neg hmarker⟩
    · simp [isApplied_waitingState] at hstate
  · rintro ⟨row, hrow, ⟨hle, hmarker⟩, rfl⟩
    have hentry : settled available row = rowEntry available applied row := (if_neg hmarker).symm
    refine ⟨⟨by simpa using hle, .inl ⟨row, hrow, hentry⟩⟩, ?_⟩
    exact isApplied_settled (happlied.finished row hrow) available

/-- Being passed over and waiting are states of files without a row. -/
theorem mem_merge_and_state_iff (havailable : Distinct available) (happlied : Recorded applied)
    {state : State} (hstate : state = .ignored ∨ state = .pending) :
    record ∈ merge available applied target ∧ record.state = state ↔
      ∃ file, Unapplied available applied file ∧ file.version ≤ target ∧
        waitingState applied file.version = state ∧ record = file.withoutExecution state := by
  rw [mem_merge_iff_source havailable happlied]
  constructor
  · rintro ⟨⟨hle, ⟨row, hrow, rfl⟩ | ⟨file, hfile, rfl⟩⟩, rfl⟩
    · exfalso
      have hfinished := happlied.finished row hrow
      by_cases hmarker : BelowMarker applied row.version
      · simp [rowEntry, hmarker] at hstate
      · have hran : (rowEntry available applied row).state.isApplied = true :=
          (isApplied_rowEntry_iff hfinished).mpr hmarker
        rcases hstate with h | h <;> simp [h, State.isApplied] at hran
    · exact ⟨file, hfile, hle, rfl, rfl⟩
  · rintro ⟨file, hfile, hle, rfl, rfl⟩
    exact ⟨⟨hle, .inr ⟨file, hfile, rfl⟩⟩, rfl⟩

/-! ### The views of the merge -/

theorem mem_anomalies_merge_iff (havailable : Distinct available) (happlied : Recorded applied)
    {anomaly : Anomaly} :
    anomaly ∈ anomalies (merge available applied target) ↔
      (∃ row ∈ applied, row.state.isFailed = true ∧ Tracked applied target row.version ∧
        anomaly = .failed (settled available row)) ∨
      ∃ file, Unapplied available applied file ∧ Tracked applied target file.version ∧
        BelowLast applied file.version ∧ anomaly = .ignored (file.withoutExecution .ignored) := by
  rw [mem_anomalies_iff]
  refine or_congr ⟨?_, ?_⟩ ⟨?_, ?_⟩
  · rintro ⟨record, hrecord, hfailed, rfl⟩
    have hran := State.isApplied_of_isFailed hfailed
    obtain ⟨row, hrow, htracked, rfl⟩ :=
      (mem_merge_and_isApplied_iff havailable happlied).mp ⟨hrecord, hran⟩
    rw [isFailed_settled] at hfailed
    exact ⟨row, hrow, hfailed, htracked, rfl⟩
  · rintro ⟨row, hrow, hfailed, htracked, rfl⟩
    obtain ⟨hrecord, -⟩ := (mem_merge_and_isApplied_iff havailable happlied).mpr
      ⟨row, hrow, htracked, rfl⟩
    exact ⟨settled available row, hrecord, by rwa [isFailed_settled], rfl⟩
  · rintro ⟨record, hrecord, hstate, rfl⟩
    obtain ⟨file, hfile, hle, hwaiting, rfl⟩ :=
      (mem_merge_and_state_iff havailable happlied (.inl rfl)).mp ⟨hrecord, hstate⟩
    obtain ⟨hmarker, hlast⟩ := waitingState_eq_ignored_iff.mp hwaiting
    exact ⟨file, hfile, ⟨hle, hmarker⟩, hlast, rfl⟩
  · rintro ⟨file, hfile, ⟨hle, hmarker⟩, hlast, rfl⟩
    have hwaiting := waitingState_eq_ignored_iff.mpr ⟨hmarker, hlast⟩
    obtain ⟨hrecord, hstate⟩ := (mem_merge_and_state_iff havailable happlied (.inl rfl)).mpr
      ⟨file, hfile, hle, hwaiting, rfl⟩
    exact ⟨_, hrecord, hstate, rfl⟩

/-- A version without a row is not that of the last row, so it lies on one side of it. -/
theorem not_belowLast_iff (hnew : contains version applied = false) :
    ¬ BelowLast applied version ↔
      ∀ last, applied.getLast? = some last → last.version < version := by
  constructor
  · intro hlast last hmem
    rcases lt_or_gt_of_getLast? hnew hmem with hlt | hgt
    · exact absurd ⟨last, hmem, hlt⟩ hlast
    · exact hgt
  · rintro habove ⟨last, hmem, hlt⟩
    exact (habove last hmem).not_gt hlt

theorem mem_pending_merge_iff_unapplied (havailable : Distinct available)
    (happlied : Recorded applied) :
    record ∈ pending (merge available applied target) ↔
      ∃ file, Unapplied available applied file ∧ Tracked applied target file.version ∧
        (∀ last, applied.getLast? = some last → last.version < file.version) ∧
        record = file.withoutExecution .pending := by
  rw [pending, List.mem_filter, beq_iff_eq,
    mem_merge_and_state_iff havailable happlied (.inr rfl)]
  refine exists_congr fun file => and_congr_right fun hfile => ?_
  rw [waitingState_eq_pending_iff, not_belowLast_iff hfile.2, Tracked]
  tauto

theorem current?_merge_eq_some_iff (havailable : Distinct available) (happlied : Recorded applied) :
    current? (merge available applied target) = some record ↔
      ∃ row ∈ applied, Tracked applied target row.version ∧
        (∀ other ∈ applied, Tracked applied target other.version →
          other.version ≤ row.version) ∧ record = settled available row := by
  rw [current?_eq_some_iff (ascending_merge available applied target),
    mem_merge_and_isApplied_iff havailable happlied]
  constructor
  · rintro ⟨⟨row, hrow, htracked, rfl⟩, hhighest⟩
    refine ⟨row, hrow, htracked, fun other hother hsight => ?_, rfl⟩
    obtain ⟨hmem, hran⟩ := (mem_merge_and_isApplied_iff havailable happlied).mpr
      ⟨other, hother, hsight, rfl⟩
    simpa using hhighest (settled available other) hmem hran
  · rintro ⟨row, hrow, htracked, hhighest, rfl⟩
    refine ⟨⟨row, hrow, htracked, rfl⟩, fun entry hentry hran => ?_⟩
    obtain ⟨other, hother, hsight, rfl⟩ :=
      (mem_merge_and_isApplied_iff havailable happlied).mp ⟨hentry, hran⟩
    simpa using hhighest other hother hsight

theorem current?_merge_eq_none_iff (havailable : Distinct available) (happlied : Recorded applied) :
    current? (merge available applied target) = none ↔
      ∀ row ∈ applied, ¬ Tracked applied target row.version := by
  rw [current?_eq_none_iff]
  constructor
  · intro hnone row hrow htracked
    obtain ⟨hmem, hran⟩ := (mem_merge_and_isApplied_iff havailable happlied).mpr
      ⟨row, hrow, htracked, rfl⟩
    simp [hnone _ hmem] at hran
  · intro hnone entry hentry
    rw [Bool.eq_false_iff]
    intro hran
    obtain ⟨row, hrow, htracked, -⟩ :=
      (mem_merge_and_isApplied_iff havailable happlied).mp ⟨hentry, hran⟩
    exact hnone row hrow htracked

/-! ### The command that checks -/

theorem result_run_check {digest : Checksum.Digest} {world : World} {settings : Settings}
    {root : String} {colors : Bool} {timeline : Timeline}
    (h : (Program.run world (Status.load digest settings root).run).result = .ok timeline) :
    (Program.run world (Command.check digest settings root colors).run).result =
      if (anomalies timeline).isEmpty then .ok ()
      else .error (.anomalies (anomalies timeline).length) := by
  rw [Command.check, Program.result_run_bind_of_ok h]
  dsimp only
  rw [Program.result_run_bind_of_ok rfl]
  cases (anomalies timeline).isEmpty <;> rfl

/-- **The views by the lists that were read.** -/
theorem views_of_merge (havailable : Ascending available) (happlied : Recorded applied)
    (target : Version) :
    ((anomalies (merge available applied target)).Pairwise fun earlier later =>
        earlier.record.version < later.record.version) ∧
    (∀ anomaly, anomaly ∈ anomalies (merge available applied target) ↔
      (∃ row ∈ applied, row.state.isFailed = true ∧ Tracked applied target row.version ∧
        anomaly = .failed (settled available row)) ∨
      ∃ file, Unapplied available applied file ∧ Tracked applied target file.version ∧
        BelowLast applied file.version ∧ anomaly = .ignored (file.withoutExecution .ignored)) ∧
    Ascending (pending (merge available applied target)) ∧
    (∀ record, record ∈ pending (merge available applied target) ↔
      ∃ file, Unapplied available applied file ∧ Tracked applied target file.version ∧
        (∀ last, applied.getLast? = some last → last.version < file.version) ∧
        record = file.withoutExecution .pending) ∧
    (∀ record, current? (merge available applied target) = some record ↔
      ∃ row ∈ applied, Tracked applied target row.version ∧
        (∀ other ∈ applied, Tracked applied target other.version →
          other.version ≤ row.version) ∧ record = settled available row) ∧
    (current? (merge available applied target) = none ↔
      ∀ row ∈ applied, ¬ Tracked applied target row.version) ∧
    ∀ (digest : Checksum.Digest) (world : World) (settings : Settings) (root : String)
        (colors : Bool),
      (Program.run world (Status.load digest settings root).run).result =
        .ok (merge available applied target) →
      ∀ failure, (Program.run world (Command.check digest settings root colors).run).result =
          .error failure ↔
        anomalies (merge available applied target) ≠ [] ∧
          failure = .anomalies (anomalies (merge available applied target)).length := by
  have hascending := ascending_merge available applied target
  refine ⟨pairwise_anomalies hascending,
    fun anomaly => mem_anomalies_merge_iff havailable.distinct happlied,
    List.Pairwise.filter _ hascending,
    fun record => mem_pending_merge_iff_unapplied havailable.distinct happlied,
    fun record => current?_merge_eq_some_iff havailable.distinct happlied,
    current?_merge_eq_none_iff havailable.distinct happlied,
    fun digest world settings root colors hload failure => ?_⟩
  rw [result_run_check hload]
  generalize anomalies (merge available applied target) = found
  cases found with
  | nil => simp
  | cons first rest => simp [eq_comm]

/-! ### A deployment that needs attention -/

def sampleSettings : Settings := { Settings.default with url := some Connection.sampleUrl }

def sampleScripts : List Files.Item :=
  ["V1__step.sql", "V2__step.sql", "V3__step.sql", "V5__step.sql"].map fun name =>
    ⟨name.toUTF8, some "".toUTF8⟩

/-- The rows of a ledger where tracking began at 2, and then 4 failed. -/
def mixedTable : List Ledger.Row :=
  [Ledger.Row.marker ⟨1, .startOf2024⟩ (.ofParts [2]) "start", Ledger.storedRow 2 "4" false]

/-- There is no script left of the version that failed, and 3 was passed over. -/
def mixedWorld : World :=
  { World.ofServer (.ofTable (some mixedTable)) with
    files := fun path => if path = "./migrations" then some (.folder sampleScripts) else none }

def mixedFile (number : UInt64) (fileName : String) : Record :=
  .available (.ofParts [number]) "step" fileName (some Checksum.emptyChecksum)

def mixedFiles : List Record :=
  [mixedFile 1 "V1__step.sql", mixedFile 2 "V2__step.sql", mixedFile 3 "V3__step.sql",
    mixedFile 5 "V5__step.sql"]

def mixedRows : List Record :=
  [(Record.applied (.ofParts [2]) "start" .init .startOf2024 ⟨0⟩ true).withScript "start",
    sampleRow .sql [4] false]

def mixedScript (number : UInt64) (text fileName : String) : Script where
  path := Files.Path.joined "./migrations" fileName
  fileName := fileName
  name := ⟨.numbered (.ofList [number]) text, "step"⟩
  content := "".toUTF8

def mixedScripts : List Script :=
  [mixedScript 1 "1" "V1__step.sql", mixedScript 2 "2" "V2__step.sql",
    mixedScript 3 "3" "V3__step.sql", mixedScript 5 "5" "V5__step.sql"]

theorem found_mixedWorld :
    Script.found Checksum.md5 "./migrations" (mixedWorld.files "./migrations") =
      .ok mixedFiles := by
  have hlists : List.Forall₂ (Script.Lists "./migrations") sampleScripts mixedScripts := by
    refine .cons ⟨rfl, rfl, ?_, rfl⟩ (.cons ⟨rfl, rfl, ?_, rfl⟩ (.cons ⟨rfl, rfl, ?_, rfl⟩
      (.cons ⟨rfl, rfl, ?_, rfl⟩ .nil))) <;> decide +kernel
  have hascending : Script.Ascending mixedScripts := by
    refine List.pairwise_map.mp (?_ : (mixedScripts.map Script.version).Pairwise (· < ·))
    decide
  have hmade (number : UInt64) (text fileName : String)
      (hversion : Version.ofParts [number] = .numbered (.ofList [number]) text) :
      Script.MakesAvailable Checksum.md5 (mixedScript number text fileName)
        (mixedFile number fileName) :=
    ⟨⟨"", rfl⟩, hversion, rfl, rfl, rfl, ⟨_, rfl, Checksum.bytes?_emptyChecksum⟩, rfl, rfl, rfl⟩
  have hfolder : mixedWorld.files "./migrations" = some (.folder sampleScripts) := rfl
  rw [hfolder]
  exact Script.found_of_lists hlists (.refl _) hascending (.cons (hmade 1 "1" _ rfl)
    (.cons (hmade 2 "2" _ rfl) (.cons (hmade 3 "3" _ rfl) (.cons (hmade 5 "5" _ rfl) .nil))))

theorem records_mixedTable :
    Ledger.records (Ledger.Server.ranked mixedTable) = .ok mixedRows := by
  have hranked : Ledger.Server.ranked mixedTable = mixedTable :=
    List.mergeSort_of_pairwise (by decide)
  rw [hranked]
  rfl

theorem result_load_mixedWorld :
    (Program.run mixedWorld (Status.load Checksum.md5 sampleSettings ".").run).result =
      .ok (merge mixedFiles mixedRows .latest) := by
  have hconnection : Connection.unreached? .default Connection.sampleUrl
      (Connection.answersTo mixedWorld Connection.sampleUrl) = none :=
    Connection.unreached?_eq_none_iff.mpr ⟨0, Nat.zero_le _, rfl⟩
  have hreading : Ledger.reading mixedWorld.server sampleSettings.table = .ok mixedRows := by
    have hchecked : sampleSettings.table.checked = .ok sampleSettings.table.written :=
      Ledger.checked_sample
    have hrecords : Ledger.records (Ledger.Server.ranked (mixedWorld.server.table.getD [])) =
        .ok mixedRows := records_mixedTable
    rw [Ledger.reading_of_conversion hchecked rfl fun _ => rfl, hrecords]
    rfl
  have hfound : Script.found Checksum.md5 (Files.Path.joined "." sampleSettings.migrations)
      (mixedWorld.files (Files.Path.joined "." sampleSettings.migrations)) = .ok mixedFiles :=
    found_mixedWorld
  obtain ⟨attempted, hends⟩ := Status.exists_ends_load Checksum.md5 mixedWorld sampleSettings "."
  rw [hends.gives, Status.loaded_of_connected rfl hconnection, hfound, hreading]
  rfl

theorem views_of_mixed_merge :
    Ascending mixedFiles ∧ Recorded mixedRows ∧
    (Program.run mixedWorld (Status.load Checksum.md5 sampleSettings ".").run).result =
      .ok (merge mixedFiles mixedRows .latest) ∧
    (anomalies (merge mixedFiles mixedRows .latest)).map (·.record.version) =
      [.ofParts [3], .ofParts [4]] ∧
    current? (merge mixedFiles mixedRows .latest) =
      some (settled mixedFiles (sampleRow .sql [4] false)) ∧
    (Program.run mixedWorld (Command.check Checksum.md5 sampleSettings "." false).run).result =
      .error (.anomalies 2) := by
  have havailable : Ascending mixedFiles := by decide
  have happlied : Recorded mixedRows := ⟨by decide, by decide⟩
  have hload := result_load_mixedWorld
  obtain ⟨-, -, -, -, hcurrent, -, hcheck⟩ := views_of_merge havailable happlied .latest
  refine ⟨havailable, happlied, hload, by decide, (hcurrent _).mpr ?_,
    (hcheck Checksum.md5 mixedWorld sampleSettings "." false hload _).mpr
      ⟨by decide, by decide⟩⟩
  exact ⟨sampleRow .sql [4] false, by decide, by decide, by decide, rfl⟩

end Reconcile

end MigrationStatus.Migration
