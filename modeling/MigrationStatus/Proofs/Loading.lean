import MigrationStatus.Proofs.LedgerRows
import MigrationStatus.Proofs.Retrying
import MigrationStatus.Status
/-!
# Loading reads, and fails at the first stage that cannot be passed

Loading the status passes through stages: the address, the connection, the scripts, and four stages
of the ledger. What each stage has to complain about is told here on its own, as if all others had
been passed. Several of them can fail at once; the failure that is reported is that of the first,
and nothing is sent to the database before the stages in front of the statement are passed. Whatever
happens, the table stays as it is.
-/

namespace MigrationStatus

/-- The failure of a step, in the words of `wrap`. -/
def faultOf? {ε φ α : Type} (wrap : ε → φ) : Except ε α → Option φ
  | .ok _ => none
  | .error error => some (wrap error)

theorem faultOf?_eq_some_iff {ε φ α : Type} {wrap : ε → φ} {result : Except ε α} {failure : φ} :
    faultOf? wrap result = some failure ↔
      ∃ error, result = .error error ∧ wrap error = failure := by
  cases result <;> simp [faultOf?]

theorem faultOf?_eq_none_iff {ε φ α : Type} {wrap : ε → φ} {result : Except ε α} :
    faultOf? wrap result = none ↔ ∃ value, result = .ok value := by
  cases result <;> simp [faultOf?]

theorem mapError_eq_ok_iff {ε φ α : Type} {wrap : ε → φ} {result : Except ε α} {value : α} :
    result.mapError wrap = .ok value ↔ result = .ok value := by
  cases result <;> simp [Except.mapError]

/-- Reading one item after another fails at the first item that cannot be read. -/
theorem faultOf?_mapM {ε φ α β : Type} {read : α → Except ε β} (wrap : ε → φ) (items : List α) :
    faultOf? wrap (items.mapM read) = items.findSome? fun item => faultOf? wrap (read item) := by
  induction items with
  | nil => rfl
  | cons item rest ih =>
    rw [List.mapM_cons, List.findSome?_cons]
    cases hitem : read item with
    | error fault => rfl
    | ok value =>
      rw [faultOf?, ← ih]
      cases rest.mapM read <;> rfl

namespace Ledger

open Migration

/-- The stages of reading the ledger, in the order in which they are passed. -/
inductive Stage where
  | name
  | lookup
  | rows
  | conversion
  deriving DecidableEq, Repr

namespace Stage

def all : List Stage := [.name, .lookup, .rows, .conversion]

/-- What a stage has to complain about, whatever becomes of the others. Where there is no table, no
rows are asked for. -/
def fault? (server : Server) (table : Table) : Stage → Option Failure
  | .name => faultOf? .name table.checked
  | .lookup => (server.failure? (.tableExists table)).map .server
  | .rows =>
    if server.table.isSome then
      (server.failure? (.selectRows table)).map (.reading table.written)
    else none
  | .conversion =>
    (Server.ranked (server.table.getD [])).findSome? fun row => faultOf? .row row.toRecord

end Stage

variable {world : World} {server : Server} {table : Table} {rows : List Row} {row : Row}
  {fault : RowError} {found : List Record}

/-! ### Rows that do not convert -/

theorem faultOf?_records {φ : Type} (wrap : RowError → φ) (rows : List Row) :
    faultOf? wrap (records rows) = rows.findSome? fun row => faultOf? wrap row.toRecord :=
  faultOf?_mapM wrap rows

theorem pairwise_ranked (rows : List Row) :
    (Server.ranked rows).Pairwise fun earlier later => earlier.rank ≤ later.rank := by
  have htrans (first second third : Row) : decide (first.rank ≤ second.rank) = true →
      decide (second.rank ≤ third.rank) = true → decide (first.rank ≤ third.rank) = true := by
    simpa using fun hfirst hsecond => Int32.le_trans hfirst hsecond
  have htotal (first second : Row) :
      (decide (first.rank ≤ second.rank) || decide (second.rank ≤ first.rank)) = true := by
    simpa using Int32.le_total first.rank second.rank
  exact (List.pairwise_mergeSort htrans htotal rows).imp of_decide_eq_true

/-- The row whose fault is reported has the lowest rank of all rows with a fault. -/
theorem exists_lowest_of_records_eq_error (h : records (Server.ranked rows) = .error fault) :
    ∃ row ∈ rows, row.toRecord = .error fault ∧
      ∀ other ∈ rows, other.rank < row.rank → ∃ record, other.toRecord = .ok record := by
  have hfault : faultOf? id (records (Server.ranked rows)) = some fault := by
    rw [h]
    rfl
  rw [faultOf?_records] at hfault
  obtain ⟨before, row, after, hsplit, hrow, hbefore⟩ := List.findSome?_eq_some_iff.mp hfault
  have hmem (other : Row) : other ∈ rows ↔ other ∈ before ++ row :: after := by
    rw [← hsplit, ranked_eq_mergeSort, List.mem_mergeSort]
  have hsorted := pairwise_ranked rows
  rw [hsplit] at hsorted
  obtain ⟨-, hafter, -⟩ := List.pairwise_append.mp hsorted
  refine ⟨row, (hmem row).mpr (by simp), ?_, fun other hother hlt => ?_⟩
  · obtain ⟨error, herror, rfl⟩ := faultOf?_eq_some_iff.mp hrow
    exact herror
  · have hfirst : other ∈ before := by
      rcases List.mem_append.mp ((hmem other).mp hother) with hfirst | hlater
      · exact hfirst
      · exfalso
        rcases List.mem_cons.mp hlater with rfl | hlater
        · exact Int32.lt_irrefl hlt
        · exact Int32.not_lt.mpr ((List.pairwise_cons.mp hafter).1 other hlater) hlt
    exact faultOf?_eq_none_iff.mp (hbefore other hfirst)

/-! ### Reading the ledger -/

/-- What reading the ledger comes to: the fault of the first stage that has one, or else the records
of all rows, by rank. -/
def reading (server : Server) (table : Table) : Except Failure (List Record) :=
  match Stage.all.findSome? (Stage.fault? server table) with
  | some failure => .error failure
  | none => (records (Server.ranked (server.table.getD []))).mapError .row

/-- The statements that reading sends. -/
def asked (server : Server) (table : Table) : List Statement :=
  if (Stage.name.fault? server table).isSome then []
  else if (Stage.lookup.fault? server table).isSome ∨ server.table = none then
    [.tableExists table]
  else [.tableExists table, .selectRows table]

theorem records_ranked_nil : records (Server.ranked []) = .ok [] := by
  rw [ranked_nil]
  rfl

/-- Without a fault in front of it, the conversion decides. -/
theorem reading_of_conversion (hname : table.checked = .ok table.written)
    (hlookup : server.failure? (.tableExists table) = none)
    (hrows : server.table.isSome → server.failure? (.selectRows table) = none) :
    reading server table =
      (records (Server.ranked (server.table.getD []))).mapError .row := by
  have hname : Stage.name.fault? server table = none := by
    rw [Stage.fault?, hname]
    rfl
  have hlookup : Stage.lookup.fault? server table = none := by
    rw [Stage.fault?, hlookup]
    rfl
  have hrows : Stage.rows.fault? server table = none := by
    rw [Stage.fault?, ite_eq_right_iff]
    intro hsome
    rw [hrows hsome, Option.map_none]
  have hconversion : Stage.conversion.fault? server table =
      faultOf? .row (records (Server.ranked (server.table.getD []))) :=
    (faultOf?_records ..).symm
  simp only [reading, Stage.all, List.findSome?_cons, List.findSome?_nil, hname, hlookup, hrows,
    hconversion]
  cases records (Server.ranked (server.table.getD [])) <;> rfl

theorem faultOf?_reading (server : Server) (table : Table) :
    faultOf? id (reading server table) = Stage.all.findSome? (Stage.fault? server table) := by
  have hconversion : Stage.conversion.fault? server table =
      faultOf? .row (records (Server.ranked (server.table.getD []))) :=
    (faultOf?_records ..).symm
  unfold reading
  cases hall : Stage.all.findSome? (Stage.fault? server table) with
  | some failure => rfl
  | none =>
    have hsound : Stage.conversion.fault? server table = none :=
      List.findSome?_eq_none_iff.mp hall .conversion (by simp [Stage.all])
    rw [hconversion] at hsound
    cases hrecords : records (Server.ranked (server.table.getD [])) with
    | error fault => simp [hrecords, faultOf?] at hsound
    | ok found => rfl

/-- Once the table is known to exist, its rows are asked for and converted. -/
theorem reads_rows (hname : table.checked = .ok table.written)
    (hlookup : world.server.failure? (.tableExists table) = none)
    (htable : world.server.table.isSome) :
    Program.Reads world (do
        let rows ← send (.selectRows table) (.reading table.written)
        note (.ledgerRead rows.length table.written)
        ExceptT.mk (pure ((records rows).mapError Failure.row)) : Action (List Record)).run
      (reading world.server table) [.selectRows table] := by
  cases hrows : world.server.failure? (.selectRows table) with
  | some message =>
    have hreading : reading world.server table = .error (.reading table.written message) := by
      simp [reading, Stage.all, Stage.fault?, hname, hlookup, htable, hrows, faultOf?]
    have hselected : Program.Reads world (send (.selectRows table) (.reading table.written)).run
        (.error (.reading table.written message)) [.selectRows table] :=
      reads_send_of_failure nofun nofun hrows
    rw [hreading]
    exact Program.ends_bind_of_error hselected
  | none =>
    have hselected : Program.Reads world (send (.selectRows table) (.reading table.written)).run
        (.ok (Server.ranked (world.server.table.getD []))) [.selectRows table] :=
      reads_send_of_obeyed nofun hrows rfl
    have hnote (count : Nat) : Program.Reads world
        (note (.ledgerRead count table.written)).run (.ok ()) [] := Program.ends_note world _
    rw [reading_of_conversion hname hlookup fun _ => hrows]
    exact Program.ends_bind hselected
      (Program.ends_bind (hnote _) (Program.ends_done world _))

/-- What is done once the name is admitted. -/
theorem reads_named (hname : table.checked = .ok table.written) :
    Program.Reads world (do
        if !(← tableExists table) then
          note (.ledgerMissing table.written)
          return []
        let rows ← send (.selectRows table) (.reading table.written)
        note (.ledgerRead rows.length table.written)
        ExceptT.mk (pure ((records rows).mapError Failure.row)) : Action (List Record)).run
      (reading world.server table) (asked world.server table) := by
  cases hlookup : world.server.failure? (.tableExists table) with
  | some message =>
    have hreading : reading world.server table = .error (.server message) := by
      simp [reading, Stage.all, Stage.fault?, hname, hlookup, faultOf?]
    have hasked : asked world.server table = [.tableExists table] := by
      simp [asked, Stage.fault?, hname, hlookup, faultOf?]
    have hthere : Program.Reads world (tableExists table).run (.error (.server message))
        [.tableExists table] := reads_send_of_failure nofun nofun hlookup
    rw [hreading, hasked]
    exact Program.ends_bind_of_error hthere
  | none =>
    have hthere : Program.Reads world (tableExists table).run (.ok world.server.table.isSome)
        [.tableExists table] := reads_send_of_obeyed nofun hlookup rfl
    cases htable : world.server.table with
    | none =>
      have hreading : reading world.server table = .ok [] := by
        rw [reading_of_conversion hname hlookup (by simp [htable]), htable, Option.getD_none,
          records_ranked_nil]
        rfl
      have hasked : asked world.server table = [.tableExists table] := by
        simp [asked, Stage.fault?, hname, htable, faultOf?]
      have hnote : Program.Reads world (note (.ledgerMissing table.written)).run (.ok ()) [] :=
        Program.ends_note world _
      rw [htable] at hthere
      rw [hreading, hasked]
      exact Program.ends_bind hthere (Program.ends_bind hnote (Program.ends_done world _))
    | some rows =>
      have hasked : asked world.server table = [.tableExists table, .selectRows table] := by
        simp [asked, Stage.fault?, hname, hlookup, htable, faultOf?]
      rw [htable] at hthere
      rw [hasked]
      exact Program.ends_bind hthere (reads_rows hname hlookup (by simp [htable]))

theorem reads_applied (world : World) (table : Table) :
    Program.Reads world (applied table).run (reading world.server table)
      (asked world.server table) := by
  have hadmitted := reads_admitted world table
  cases hname : table.checked with
  | error error =>
    have hreading : reading world.server table = .error (.name error) := by
      simp [reading, Stage.all, Stage.fault?, hname, faultOf?]
    have hasked : asked world.server table = [] := by
      simp [asked, Stage.fault?, hname, faultOf?]
    rw [hname] at hadmitted
    rw [hreading, hasked]
    exact Program.ends_bind_of_error hadmitted
  | ok written =>
    rw [hname] at hadmitted
    obtain rfl := checked_eq_ok hname
    exact Program.ends_bind hadmitted (reads_named hname)

theorem asked_prefix (server : Server) (table : Table) :
    asked server table <+: [.tableExists table, .selectRows table] := by
  unfold asked
  split
  · exact List.nil_prefix
  · split
    · exact ⟨[.selectRows table], rfl⟩
    · exact List.prefix_rfl

theorem asked_eq_nil_iff :
    asked server table = [] ↔ Stage.name.fault? server table ≠ none := by
  rw [asked, ← Option.isSome_iff_ne_none]
  split
  · simp [*]
  · split <;> simp [*]

theorem selectRows_mem_asked_iff :
    .selectRows table ∈ asked server table ↔ Stage.name.fault? server table = none ∧
      Stage.lookup.fault? server table = none ∧ server.table.isSome := by
  unfold asked
  split
  · next hname => simp [Option.isSome_iff_ne_none.mp hname]
  · next hname =>
    rw [Option.not_isSome_iff_eq_none] at hname
    split
    · next hlookup =>
      rcases hlookup with hlookup | htable
      · simp [Option.isSome_iff_ne_none.mp hlookup]
      · simp [htable]
    · next hlookup =>
      rw [not_or, Option.not_isSome_iff_eq_none] at hlookup
      simp [hname, hlookup, Option.isSome_iff_ne_none]

theorem records_of_reading_eq_ok (h : reading server table = .ok found) :
    records (Server.ranked (server.table.getD [])) = .ok found := by
  unfold reading at h
  split at h
  · cases h
  · cases hrecords : records (Server.ranked (server.table.getD [])) with
    | error fault =>
      rw [hrecords] at h
      cases h
    | ok applied =>
      rw [hrecords] at h
      exact congrArg _ (Except.ok.inj h)

theorem fault?_eq_row {stage : Stage} (h : stage.fault? server table = some (.row fault)) :
    records (Server.ranked (server.table.getD [])) = .error fault := by
  cases stage with
  | name => cases hname : table.checked <;> simp [Stage.fault?, hname, faultOf?] at h
  | lookup => simp [Stage.fault?] at h
  | rows => simp [Stage.fault?] at h
  | conversion =>
    rw [Stage.fault?, ← faultOf?_records] at h
    cases hrecords : records (Server.ranked (server.table.getD [])) <;> simp_all [faultOf?]

end Ledger

namespace Script

open Migration

variable {digest : Checksum.Digest}

/-- The migrations that a folder makes available. -/
def found (digest : Checksum.Digest) (folder : String) (entry : Option Files.Entry) :
    Except Failure (List Record) := do
  records digest (← discover folder entry)

theorem found_folder {folder : String} {items : List Files.Item} {arrangement : List Script}
    (h : arranged (scripts folder (textFiles items)) = .ok arrangement) :
    found digest folder (some (.folder items)) = records digest arrangement := by
  have hdiscover : discover folder (some (.folder items)) = .ok arrangement := h
  rw [found, hdiscover]
  rfl

theorem reads_settled {α : Type} {result ended : Except Failure α} (world : World)
    (h : result = ended) : Program.Reads world (settled result).run ended [] :=
  h ▸ Program.ends_done world result

theorem reads_available (digest : Checksum.Digest) (world : World) (folder : String) :
    Program.Reads world (available digest folder).run (found digest folder (world.files folder))
      [] := by
  have hlook : Program.Reads world
      (ExceptT.lift (Program.look folder) : Action (Option Files.Entry)).run
      (.ok (world.files folder)) [] := ⟨rfl, rfl, rfl⟩
  refine Program.ends_bind hlook ?_
  cases world.files folder with
  | none =>
    have hnote : Program.Reads world (note (.folderMissing folder)).run (.ok ()) [] :=
      Program.ends_note world _
    exact Program.ends_bind hnote (Program.ends_done world _)
  | some entry =>
    dsimp only
    cases hfiles : filesOf folder entry with
    | error failure =>
      have hfound : found digest folder (some entry) = .error failure := by
        rw [found, discover, hfiles]
        rfl
      rw [hfound]
      exact Program.ends_bind_of_error (reads_settled world rfl)
    | ok files =>
      have hdiscover : discover folder (some entry) = arranged (scripts folder files) := by
        rw [discover, hfiles]
        rfl
      have hskipped : Program.Reads world ((skipped files).forM fun name =>
          note (.fileSkipped name)).run (.ok ()) [] :=
        Program.reads_forM (fun name => Program.ends_note world _) (skipped files)
      refine Program.ends_bind (reads_settled world rfl) (Program.ends_bind hskipped ?_)
      rw [found, hdiscover]
      cases arranged (scripts folder files) with
      | error failure => exact Program.ends_bind_of_error (reads_settled world rfl)
      | ok scripts =>
        have hnote : Program.Reads world (note (.scriptsFound scripts.length folder)).run
            (.ok ()) [] := Program.ends_note world _
        exact Program.ends_bind (reads_settled world rfl)
          (Program.ends_bind hnote (reads_settled world rfl))

end Script

namespace Connection

theorem mute_tryOnce (url : String) : (tryOnce url).Mute := by
  unfold tryOnce
  refine Program.mute_bind ?_ fun _ => Program.mute_connect url
  exact Program.mute_forM (fun _ => Program.mute_note _) (Route.ignored url)

theorem mute_attempt (url : String) (delayMillis retried left : Nat) :
    (attempt url delayMillis retried left).Mute := by
  induction left generalizing retried with
  | zero =>
    rw [attempt]
    refine Program.mute_bind (mute_tryOnce url) fun answer => ?_
    cases answer with
    | ok _ => exact Program.mute_bind (Program.mute_note _) fun _ => .done _
    | error _ => exact .done _
  | succ left ih =>
    rw [attempt]
    refine Program.mute_bind (mute_tryOnce url) fun answer => ?_
    cases answer with
    | ok _ => exact Program.mute_bind (Program.mute_note _) fun _ => .done _
    | error _ =>
      have hpause : (do Program.pause delayMillis
                        attempt url delayMillis (retried + 1) left).Mute :=
        Program.mute_bind (Program.mute_pause delayMillis) fun _ => ih (retried + 1)
      by_cases hfirst : retried = 0
      · simp only [if_pos hfirst]
        exact Program.mute_bind (Program.mute_note _) fun _ => hpause
      · simp only [if_neg hfirst]
        exact hpause

theorem mute_establish (policy : Policy) (url : String) : (establish policy url).Mute :=
  Program.mute_bind (mute_attempt ..) fun _ => .done _

end Connection

namespace Status

open Migration

theorem ends_part {ε α : Type} {program : ExceptT ε Program α} {result : Except ε α}
    {statements : List Ledger.Statement} {world after : World} (wrap : ε → Failure)
    (h : Program.Ends world program.run result statements after) :
    Program.Ends world (Action.part wrap program).run (result.mapError wrap) statements after := by
  rw [Action.part, ExceptT.run_mk]
  exact Program.ends_then_of_quiet h (Program.ends_done after _)

/-- The stages of loading the status, in the order in which they are passed. -/
inductive Stage where
  | address
  | connection
  | scripts
  | ledger (stage : Ledger.Stage)
  deriving DecidableEq, Repr

namespace Stage

def all : List Stage := [.address, .connection, .scripts] ++ Ledger.Stage.all.map .ledger

/-- What a stage has to complain about, whatever becomes of the others. A connection fails if none
of its attempts is accepted, for the reason of the last one. -/
def fault? (digest : Checksum.Digest) (world : World) (settings : Settings) (root : String) :
    Stage → Option Failure
  | .address => if settings.url.isNone then some .noDatabase else none
  | .connection => settings.url.bind fun url =>
    (Connection.unreached? .default url (Connection.answersTo world url)).map .connection
  | .scripts =>
    let folder := Files.Path.joined root settings.migrations
    faultOf? .script (Script.found digest folder (world.files folder))
  | .ledger stage => (stage.fault? world.server settings.table).map .ledger

end Stage

/-- What the merge of two sources comes to. -/
def merged (available applied : Except Failure (List Record)) (target : Version) :
    Except Failure Timeline := do
  return Reconcile.merge (← available) (← applied) target

theorem reads_combined {world : World} {available applied : Except Failure (List Record)}
    {readAvailable readApplied : Action (List Record)} {statements : List Ledger.Statement}
    (target : Version) (havailable : Program.Reads world readAvailable.run available [])
    (happlied : Program.Reads world readApplied.run applied statements) :
    Program.Reads world (combined readAvailable readApplied target).run
      (merged available applied target) (if available.isOk then statements else []) := by
  cases available with
  | error failure => exact Program.ends_bind_of_error havailable
  | ok files =>
    cases applied with
    | error failure => exact Program.ends_bind havailable (Program.ends_bind_of_error happlied)
    | ok rows =>
      have hnotes : Program.Reads world
          ((mergeEvents files rows target).forM Action.note).run (.ok ()) [] :=
        Program.reads_forM (fun event => Program.ends_note world event) _
      refine Program.ends_bind havailable (Program.ends_bind_of_quiet happlied ?_)
      exact Program.ends_bind hnotes (Program.ends_done world _)

theorem merged_eq_ok_iff {available applied : Except Failure (List Record)} {target : Version}
    {timeline : Timeline} :
    merged available applied target = .ok timeline ↔
      ∃ files rows, available = .ok files ∧ applied = .ok rows ∧
        timeline = Reconcile.merge files rows target := by
  constructor
  · intro h
    cases available with
    | error failure => cases h
    | ok files =>
      cases applied with
      | error failure => cases h
      | ok rows => exact ⟨files, rows, rfl, rfl, (Except.ok.inj h).symm⟩
  · rintro ⟨files, rows, rfl, rfl, rfl⟩
    rfl

theorem findSome?_all (fault? : Stage → Option Failure) :
    Stage.all.findSome? fault? =
      (fault? .address).or ((fault? .connection).or ((fault? .scripts).or
        (Ledger.Stage.all.findSome? fun stage => fault? (.ledger stage)))) := by
  simp only [Stage.all, List.cons_append, List.nil_append, List.findSome?_cons, List.findSome?_map]
  cases fault? .address <;> cases fault? .connection <;> cases fault? .scripts <;> rfl

/-- What loading comes to. -/
def loaded (digest : Checksum.Digest) (world : World) (settings : Settings) (root : String) :
    Except Failure Timeline :=
  let folder := Files.Path.joined root settings.migrations
  match settings.url with
  | none => .error .noDatabase
  | some url =>
    match Connection.unreached? .default url (Connection.answersTo world url) with
    | some failure => .error (.connection failure)
    | none =>
      merged ((Script.found digest folder (world.files folder)).mapError .script)
        ((Ledger.reading world.server settings.table).mapError .ledger) settings.target

theorem faultOf?_loaded (digest : Checksum.Digest) (world : World)
    (settings : Settings) (root : String) :
    faultOf? id (loaded digest world settings root) =
      Stage.all.findSome? (Stage.fault? digest world settings root) := by
  have hledger : (Ledger.Stage.all.findSome? fun stage =>
      Stage.fault? digest world settings root (.ledger stage)) =
        faultOf? .ledger (Ledger.reading world.server settings.table) := by
    have hwrap : faultOf? Failure.ledger (Ledger.reading world.server settings.table) =
        (faultOf? id (Ledger.reading world.server settings.table)).map .ledger := by
      cases Ledger.reading world.server settings.table <;> rfl
    rw [hwrap, Ledger.faultOf?_reading, List.map_findSome?]
    rfl
  rw [findSome?_all, hledger]
  simp only [loaded, Stage.fault?]
  cases settings.url with
  | none => rfl
  | some url =>
    simp only [Option.bind_some]
    cases Connection.unreached? .default url (Connection.answersTo world url) with
    | some failure => rfl
    | none =>
      cases Script.found digest (Files.Path.joined root settings.migrations)
          (world.files (Files.Path.joined root settings.migrations)) with
      | error failure => rfl
      | ok available =>
        cases Ledger.reading world.server settings.table <;> rfl

/-- The statements that loading sends. -/
def sent (digest : Checksum.Digest) (world : World)
    (settings : Settings) (root : String) : List Ledger.Statement :=
  if ∃ stage ∈ [Stage.address, .connection, .scripts],
      (stage.fault? digest world settings root).isSome then []
  else Ledger.asked world.server settings.table

theorem sent_of_fault {digest : Checksum.Digest} {world : World} {settings : Settings}
    {root : String} {failure : Failure}
    (stage : Stage) (hstage : stage ∈ [Stage.address, .connection, .scripts])
    (h : stage.fault? digest world settings root = some failure) :
    sent digest world settings root = [] := by
  rw [sent, if_pos ⟨stage, hstage, by simp [h]⟩]

section Run

variable {digest : Checksum.Digest} {world : World} {settings : Settings} {root url : String}

theorem loaded_of_connected (hurl : settings.url = some url)
    (hconnection :
      Connection.unreached? .default url (Connection.answersTo world url) = none) :
    loaded digest world settings root =
      merged ((Script.found digest (Files.Path.joined root settings.migrations)
          (world.files (Files.Path.joined root settings.migrations))).mapError .script)
        ((Ledger.reading world.server settings.table).mapError .ledger) settings.target := by
  simp only [loaded, hurl, hconnection]

theorem sent_of_connected (hurl : settings.url = some url)
    (hconnection :
      Connection.unreached? .default url (Connection.answersTo world url) = none) :
    sent digest world settings root =
      if ((Script.found digest (Files.Path.joined root settings.migrations)
          (world.files (Files.Path.joined root settings.migrations))).mapError
            Failure.script).isOk then
        Ledger.asked world.server settings.table
      else [] := by
  cases hfound : Script.found digest (Files.Path.joined root settings.migrations)
      (world.files (Files.Path.joined root settings.migrations)) with
  | error failure =>
    have hfault : Stage.scripts.fault? digest world settings root = some (.script failure) := by
      simp [Stage.fault?, hfound, faultOf?]
    exact sent_of_fault .scripts (by simp) hfault
  | ok available =>
    refine if_neg ?_
    simp [Stage.fault?, hurl, hconnection, hfound, faultOf?]

/-- Everything behind the connection. It is seen from the world in front of it, to which a
connection adds no more than attempts. -/
theorem reads_sources (hurl : settings.url = some url)
    (hconnection : Connection.unreached? .default url (Connection.answersTo world url) = none)
    (attempted : Nat) :
    Program.Reads { world with attempted }
      (combined
        (Action.part .script
          (Script.available digest (Files.Path.joined root settings.migrations)))
        (Action.part .ledger (Ledger.applied settings.table)) settings.target).run
      (loaded digest world settings root) (sent digest world settings root) := by
  let connected : World := { world with attempted }
  have hscripts := ends_part .script
    (Script.reads_available digest connected (Files.Path.joined root settings.migrations))
  have hledger := ends_part .ledger (Ledger.reads_applied connected settings.table)
  rw [loaded_of_connected hurl hconnection, sent_of_connected hurl hconnection]
  exact reads_combined settings.target hscripts hledger

theorem exists_ends_connect (world : World) (url : String) :
    ∃ attempted, Program.Ends world
      (Action.part .connection (ExceptT.mk (Connection.establish .default url))).run
      (((Connection.unreached? .default url (Connection.answersTo world url)).elim
        (Except.ok ()) Except.error).mapError .connection) []
      { world with attempted } := by
  obtain ⟨attempted, hends⟩ :=
    Program.exists_ends_of_mute (Connection.mute_establish .default url) world
  rw [Connection.result_run_establish, ← ExceptT.run_mk (Connection.establish .default url)]
    at hends
  exact ⟨attempted, ends_part .connection hends⟩

theorem exists_ends_load (digest : Checksum.Digest) (world : World) (settings : Settings)
    (root : String) :
    ∃ attempted, Program.Ends world (load digest settings root).run
      (loaded digest world settings root) (sent digest world settings root)
      { world with attempted } := by
  cases hurl : settings.url with
  | none =>
    have hload : load digest settings root = throw .noDatabase := by
      rw [load, hurl]
    have hloaded : loaded digest world settings root = .error .noDatabase := by
      simp [loaded, hurl]
    have hfault : Stage.address.fault? digest world settings root = some .noDatabase := by
      simp [Stage.fault?, hurl]
    rw [hload, hloaded, sent_of_fault .address (by simp) hfault]
    exact ⟨world.attempted, Program.ends_done world _⟩
  | some url =>
    obtain ⟨attempted, hconnect⟩ := exists_ends_connect world url
    have hnote : Program.Ends world (Action.note
        (.scriptsWanted (Files.Path.joined root settings.migrations))).run (.ok ()) [] world :=
      Program.ends_note world _
    refine ⟨attempted, ?_⟩
    rw [load, hurl]
    cases hconnection : Connection.unreached? .default url (Connection.answersTo world url) with
    | some failure =>
      have hloaded : loaded digest world settings root = .error (.connection failure) := by
        simp [loaded, hurl, hconnection]
      have hfault : Stage.connection.fault? digest world settings root =
          some (.connection failure) := by
        simp [Stage.fault?, hurl, hconnection]
      rw [hconnection] at hconnect
      rw [hloaded, sent_of_fault .connection (by simp) hfault]
      exact Program.ends_bind hnote (Program.ends_bind_of_error hconnect)
    | none =>
      rw [hconnection] at hconnect
      exact Program.ends_bind hnote
        (Program.ends_bind hconnect (reads_sources hurl hconnection attempted))

/-! ### What loading comes to -/

variable {failure : Failure} {timeline : Timeline}

theorem loaded_eq_error_iff :
    loaded digest world settings root = .error failure ↔
      Stage.all.findSome? (Stage.fault? digest world settings root) = some failure := by
  rw [← faultOf?_loaded, faultOf?_eq_some_iff]
  simp

theorem mem_all (stage : Stage) : stage ∈ Stage.all := by
  cases stage with
  | ledger stage => cases stage <;> simp [Stage.all, Ledger.Stage.all]
  | _ => simp [Stage.all]

theorem exists_of_loaded_eq_ok (h : loaded digest world settings root = .ok timeline) :
    ∃ available applied,
      Script.found digest (Files.Path.joined root settings.migrations)
        (world.files (Files.Path.joined root settings.migrations)) = .ok available ∧
      Ledger.records (Ledger.Server.ranked (world.server.table.getD [])) = .ok applied ∧
      timeline = Reconcile.merge available applied settings.target := by
  unfold loaded at h
  dsimp only at h
  split at h
  · cases h
  · split at h
    · cases h
    obtain ⟨available, applied, havailable, happlied, rfl⟩ := merged_eq_ok_iff.mp h
    rw [mapError_eq_ok_iff] at havailable happlied
    exact ⟨available, applied, havailable, Ledger.records_of_reading_eq_ok happlied, rfl⟩

/-- No other stage complains about a row. -/
theorem records_of_fault?_eq_row {stage : Stage} {fault : Ledger.RowError}
    (h : stage.fault? digest world settings root = some (.ledger (.row fault))) :
    Ledger.records (Ledger.Server.ranked (world.server.table.getD [])) = .error fault := by
  cases stage with
  | address => simp [Stage.fault?] at h
  | connection => simp [Stage.fault?, Option.bind_eq_some_iff] at h
  | scripts => simp [Stage.fault?, faultOf?_eq_some_iff] at h
  | ledger stage =>
    obtain ⟨failure, hfailure, hwrap⟩ := Option.map_eq_some_iff.mp h
    cases hwrap
    exact Ledger.fault?_eq_row hfailure

theorem loaded_eq_ok_iff :
    loaded digest world settings root = .ok timeline ↔
      (∀ stage : Stage, stage.fault? digest world settings root = none) ∧
      ∃ available applied,
        Script.found digest (Files.Path.joined root settings.migrations)
          (world.files (Files.Path.joined root settings.migrations)) = .ok available ∧
        Ledger.records (Ledger.Server.ranked (world.server.table.getD [])) = .ok applied ∧
        timeline = Reconcile.merge available applied settings.target := by
  constructor
  · intro h
    have hnone : Stage.all.findSome? (Stage.fault? digest world settings root) = none := by
      rw [← faultOf?_loaded, h]
      rfl
    exact ⟨fun stage => List.findSome?_eq_none_iff.mp hnone stage (mem_all stage),
      exists_of_loaded_eq_ok h⟩
  · rintro ⟨hsound, available, applied, havailable, happlied, rfl⟩
    cases hloaded : loaded digest world settings root with
    | error failure =>
      have hnone : Stage.all.findSome? (Stage.fault? digest world settings root) = none :=
        List.findSome?_eq_none_iff.mpr fun stage _ => hsound stage
      cases hnone.symm.trans (loaded_eq_error_iff.mp hloaded)
    | ok timeline =>
      obtain ⟨files, rows, hfiles, hrows, rfl⟩ := exists_of_loaded_eq_ok hloaded
      obtain rfl : files = available := Except.ok.inj (hfiles.symm.trans havailable)
      obtain rfl : rows = applied := Except.ok.inj (hrows.symm.trans happlied)
      rfl

theorem sent_prefix (digest : Checksum.Digest) (world : World)
    (settings : Settings) (root : String) :
    sent digest world settings root <+:
      [.tableExists settings.table, .selectRows settings.table] := by
  unfold sent
  split
  · exact List.nil_prefix
  · exact Ledger.asked_prefix world.server settings.table

theorem sent_eq_nil_iff :
    sent digest world settings root = [] ↔
      ∃ stage ∈ [Stage.address, .connection, .scripts, .ledger .name],
        stage.fault? digest world settings root ≠ none := by
  have hname : Stage.fault? digest world settings root (.ledger .name) ≠ none ↔
      Ledger.asked world.server settings.table = [] := by
    rw [Ledger.asked_eq_nil_iff, Stage.fault?, Ne, Option.map_eq_none_iff]
  unfold sent
  split
  · next hfault =>
    obtain ⟨stage, hstage, hsome⟩ := hfault
    refine iff_of_true rfl ⟨stage, ?_, Option.isSome_iff_ne_none.mp hsome⟩
    exact List.mem_append_left [.ledger .name] hstage
  · next hsound =>
    rw [← hname]
    simp_all

theorem selectRows_mem_sent_iff :
    .selectRows settings.table ∈ sent digest world settings root ↔
      (∀ stage ∈ [Stage.address, .connection, .scripts, .ledger .name, .ledger .lookup],
        stage.fault? digest world settings root = none) ∧ world.server.table.isSome := by
  unfold sent
  split
  · next hfault =>
    obtain ⟨stage, hstage, hsome⟩ := hfault
    refine iff_of_false List.not_mem_nil fun hsound => ?_
    have hnone := hsound.1 stage
      (List.mem_append_left [Stage.ledger .name, .ledger .lookup] hstage)
    simp [hnone] at hsome
  · next hsound =>
    rw [Ledger.selectRows_mem_asked_iff]
    simp_all [Stage.fault?, and_assoc]

/-- **Loading by its stages.** -/
theorem load_by_stages (digest : Checksum.Digest) (world : World)
    (settings : Settings) (root : String) :
    let outcome := Program.run world (load digest settings root).run
    let fault? := Stage.fault? digest world settings root
    let folder := Files.Path.joined root settings.migrations
    let rows := world.server.table.getD []
    outcome.world.server.table = world.server.table ∧
    outcome.statements <+: [.tableExists settings.table, .selectRows settings.table] ∧
    (outcome.statements = [] ↔
      ∃ stage ∈ [Stage.address, .connection, .scripts, .ledger .name], fault? stage ≠ none) ∧
    (.selectRows settings.table ∈ outcome.statements ↔
      (∀ stage ∈ [Stage.address, .connection, .scripts, .ledger .name, .ledger .lookup],
        fault? stage = none) ∧ world.server.table.isSome) ∧
    (∀ failure, outcome.result = .error failure ↔ Stage.all.findSome? fault? = some failure) ∧
    (∀ fault, outcome.result = .error (.ledger (.row fault)) →
      ∃ row ∈ rows, row.toRecord = .error fault ∧
        ∀ other ∈ rows, other.rank < row.rank → ∃ record, other.toRecord = .ok record) ∧
    ∀ timeline, outcome.result = .ok timeline ↔
      (∀ stage, fault? stage = none) ∧
      ∃ available applied, Script.found digest folder (world.files folder) = .ok available ∧
        Ledger.records (Ledger.Server.ranked rows) = .ok applied ∧
        timeline = Reconcile.merge available applied settings.target := by
  obtain ⟨attempted, hends⟩ := exists_ends_load digest world settings root
  dsimp only
  rw [hends.gives, hends.sends, hends.leaves]
  refine ⟨rfl, sent_prefix digest world settings root, sent_eq_nil_iff, selectRows_mem_sent_iff,
    fun failure => loaded_eq_error_iff, fun fault hfault => ?_, fun timeline => loaded_eq_ok_iff⟩
  obtain ⟨stage, -, hstage⟩ := List.exists_of_findSome?_eq_some (loaded_eq_error_iff.mp hfault)
  exact Ledger.exists_lowest_of_records_eq_error (records_of_fault?_eq_row hstage)

end Run

end Status

end MigrationStatus
