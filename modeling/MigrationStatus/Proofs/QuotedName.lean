import MigrationStatus.Proofs.Requests
/-!
# The name of the table in statements

The name of the table is put into statements as it is, between quotation marks. An admitted name
holds no quotation mark, so the mark behind it is the one that ends it (`readClosing?_append`), and
a statement that is read from its first character to its last names the table that was meant and no
other (`names_text_iff`). No request sends such a statement before the name is admitted.
-/

namespace MigrationStatus.Ledger

open Migration
open Program (Within)

/-- The rule for the parts of a name: letters, numbers, underscores and dollar signs, with a letter
or an underscore in front. -/
def Admissible (text : List Char) : Prop :=
  ∃ first rest, text = first :: rest ∧ (Text.isAlphabetic first = true ∨ first = '_') ∧
    ∀ c ∈ rest, Text.isAlphanumeric c = true ∨ c = '_' ∨ c = '$'

/-- The table that a text begins with, as two quoted identifiers with one point between them, and
what is left after it. -/
def readTable? (text : List Char) : Option (Table × List Char) :=
  match readQuoted? text with
  | some (schema, '.' :: behind) =>
    (readQuoted? behind).map fun (name, left) => (⟨String.ofList schema, String.ofList name⟩, left)
  | _ => none

/-- The tables that a text names between quotation marks, when it is read from its first character
to its last. -/
inductive Names : List Char → List Table → Prop where
  | nothing : Names [] []
  | plain {c : Char} {text : List Char} {tables : List Table} (hplain : c ≠ '"')
    (h : Names text tables) : Names (c :: text) tables
  | table {text left : List Char} {table : Table} {tables : List Table}
    (hread : readTable? text = some (table, left)) (h : Names left tables) :
    Names text (table :: tables)

namespace Statement

/-- The table whose name stands in the text of the statement. -/
def named? : Statement → Option Table
  | createTable table | lockTable table | countRows table | insertMarker table _ _
  | selectRows table => some table
  | tableExists _ | begin | commit | rollback => none

/-- The same statement, for another table. -/
def on (table : Table) : Statement → Statement
  | tableExists _ => tableExists table
  | createTable _ => createTable table
  | lockTable _ => lockTable table
  | countRows _ => countRows table
  | insertMarker _ version description => insertMarker table version description
  | selectRows _ => selectRows table
  | begin => begin
  | commit => commit
  | rollback => rollback

end Statement

variable {table other : Table} {tables : List Table} {statement : Statement}
  {name text before rest : List Char} {written : String}

/-! ### Admitted names -/

theorem isIdentifier_iff : isIdentifier text = true ↔ Admissible text := by
  cases text with
  | nil => exact iff_of_false Bool.false_ne_true (by rintro ⟨first, rest, h, -⟩; cases h)
  | cons first rest => simp [isIdentifier, Admissible, canStart, canFollow, or_assoc]

theorem isAlphabetic_quote : Text.isAlphabetic '"' = false := by
  have hquote := Text.isAlphanumeric_quote
  rw [Text.isAlphanumeric, Bool.or_eq_false_iff] at hquote
  exact hquote.1

theorem quote_not_mem (h : Admissible text) : '"' ∉ text := by
  obtain ⟨first, rest, rfl, hfirst, hrest⟩ := h
  intro hmem
  rcases List.mem_cons.mp hmem with rfl | hmem
  · rw [isAlphabetic_quote] at hfirst
    exact absurd hfirst (by decide)
  · have hquote := hrest '"' hmem
    rw [Text.isAlphanumeric_quote] at hquote
    exact absurd hquote (by decide)

theorem checked_eq_ok_iff : table.checked = .ok written ↔
    Admissible table.schema.toList ∧ Admissible table.name.toList ∧ table.written = written := by
  rw [← isIdentifier_iff, ← isIdentifier_iff, Table.checked]
  cases isIdentifier table.schema.toList <;> cases isIdentifier table.name.toList <;> simp

/-! ### Reading a name -/

/-- Where no further mark follows, the first mark ends the identifier. -/
theorem readClosing?_append (hname : '"' ∉ name) (hrest : rest.head? ≠ some '"') :
    readClosing? (name ++ '"' :: rest) = some (name, rest) := by
  induction name with
  | nil =>
    cases rest with
    | nil => rfl
    | cons c rest =>
      have hplain : c ≠ '"' := by simpa using hrest
      simp [readClosing?, hplain]
  | cons c name ih =>
    rw [List.mem_cons, not_or] at hname
    have hplain : c ≠ '"' := Ne.symm hname.1
    rw [List.cons_append, readClosing?.eq_3 _ _ fun _ hc _ => hplain hc, if_neg hplain, ih hname.2]
    rfl

theorem readTable?_written (h : table.checked = .ok written) (hrest : rest.head? ≠ some '"') :
    readTable? (table.written.toList ++ rest) = some (table, rest) := by
  obtain ⟨hschema, hname, -⟩ := checked_eq_ok_iff.mp h
  have htext : table.written.toList ++ rest =
      '"' :: (table.schema.toList ++ '"' :: '.' :: '"' :: (table.name.toList ++ '"' :: rest)) := by
    have hwritten : table.written = "\"" ++ table.schema ++ "\".\"" ++ table.name ++ "\"" := rfl
    simp [hwritten]
  rw [htext, readTable?, readQuoted?, readClosing?_append (quote_not_mem hschema) (by simp)]
  simp only [readQuoted?, readClosing?_append (quote_not_mem hname) hrest, Option.map_some,
    String.ofList_toList]

theorem readTable?_of_plain {c : Char} (h : c ≠ '"') : readTable? (c :: text) = none := by
  have hquoted : readQuoted? (c :: text) = none := by
    unfold readQuoted?
    split
    · next heq => exact absurd (List.cons.inj heq).1 h
    · rfl
  rw [readTable?, hquoted]

/-! ### Reading a statement -/

theorem names_append_iff (hbefore : '"' ∉ before) :
    Names (before ++ text) tables ↔ Names text tables := by
  induction before with
  | nil => rfl
  | cons c before ih =>
    rw [List.mem_cons, not_or] at hbefore
    have hplain : c ≠ '"' := Ne.symm hbefore.1
    rw [← ih hbefore.2, List.cons_append]
    constructor
    · intro h
      cases h with
      | plain _ h => exact h
      | table hread => cases (readTable?_of_plain hplain).symm.trans hread
    · exact .plain hplain

theorem names_iff_of_plain (hplain : '"' ∉ text) : Names text tables ↔ tables = [] := by
  rw [← List.append_nil text, names_append_iff hplain]
  constructor
  · intro h
    cases h with
    | nothing => rfl
    | table hread => cases hread
  · rintro rfl
    exact .nothing

/-- A text with the name of one table between two texts without marks names that table alone. -/
theorem names_frame_iff (h : table.checked = .ok written) (hbefore : '"' ∉ before)
    (hrest : '"' ∉ rest) :
    Names (before ++ (table.written.toList ++ rest)) tables ↔ tables = [table] := by
  have hend : rest.head? ≠ some '"' := fun hhead => hrest (List.mem_of_head? hhead)
  have hread := readTable?_written h hend
  rw [names_append_iff hbefore]
  constructor
  · intro hnames
    generalize htext : table.written.toList ++ rest = text at hnames hread
    cases hnames with
    | nothing => cases hread
    | plain hplain => cases (readTable?_of_plain hplain).symm.trans hread
    | table hother hleft =>
      obtain ⟨rfl, rfl⟩ : _ = table ∧ _ = rest :=
        Prod.mk.inj (Option.some.inj (hother.symm.trans hread))
      rw [(names_iff_of_plain hrest).mp hleft]
  · rintro rfl
    exact .table hread ((names_iff_of_plain hrest).mpr rfl)

theorem quote_not_mem_intercalate {separator : String} {pieces : List String}
    (hseparator : '"' ∉ separator.toList) (hpieces : ∀ piece ∈ pieces, '"' ∉ piece.toList) :
    '"' ∉ (separator.intercalate pieces).toList := by
  rw [String.toList_intercalate]
  intro hquote
  rcases Text.mem_of_mem_intercalate hquote with hquote | ⟨chars, hchars, hquote⟩
  · exact hseparator hquote
  · obtain ⟨piece, hpiece, rfl⟩ := List.mem_map.mp hchars
    exact hpieces piece hpiece hquote

theorem quote_not_mem_tableBody : '"' ∉ Statement.tableBody.toList := by
  have hdefinitions : ∀ piece ∈ Column.all.map Column.definition, '"' ∉ piece.toList := by decide
  have hcolumns : '"' ∉ (("," ++ Statement.lineStart 16).intercalate
      (Column.all.map Column.definition)).toList :=
    quote_not_mem_intercalate (by decide) hdefinitions
  simp only [Statement.tableBody, String.toList_append, List.mem_append, not_or]
  exact ⟨⟨⟨⟨⟨by decide, by decide⟩, hcolumns⟩, by decide⟩, by decide⟩, by decide⟩

/-- Nothing of a statement but the name of the table depends on the table. -/
theorem exists_frame (h : statement.named? = some table) :
    ∃ before after : String, '"' ∉ before.toList ∧ '"' ∉ after.toList ∧
      ∀ other, (statement.on other).text = before ++ other.written ++ after := by
  cases statement with
  | createTable _ =>
    exact ⟨Statement.lineStart 12 ++ "CREATE TABLE IF NOT EXISTS ", Statement.tableBody,
      by decide, quote_not_mem_tableBody, fun other => rfl⟩
  | lockTable _ =>
    exact ⟨"LOCK TABLE ", " IN EXCLUSIVE MODE", by decide, by decide, fun other => rfl⟩
  | countRows _ =>
    refine ⟨"SELECT COUNT(*) FROM ", "", by decide, by decide, fun other => ?_⟩
    rw [String.append_empty]
    rfl
  | insertMarker _ version description =>
    refine ⟨"INSERT INTO ", " " ++ Statement.markerBody, by decide, by decide +kernel,
      fun other => ?_⟩
    rw [← String.append_assoc]
    rfl
  | selectRows _ =>
    refine ⟨"SELECT " ++ Statement.readList ++ " FROM ",
      " ORDER BY " ++ Statement.readOrder.name, by decide +kernel, by decide +kernel,
      fun other => ?_⟩
    rw [← String.append_assoc]
    rfl
  | _ => cases h

theorem on_eq_self (h : statement.named? = some table) : statement.on table = statement := by
  cases statement <;> cases h <;> rfl

theorem names_text_iff (h : table.checked = .ok written) (hnamed : statement.named? = some table) :
    Names statement.text.toList tables ↔ tables = [table] := by
  obtain ⟨before, after, hbefore, hafter, htext⟩ := exists_frame hnamed
  rw [← on_eq_self hnamed, htext, String.toList_append, String.toList_append, List.append_assoc]
  exact names_frame_iff h hbefore hafter

theorem quote_not_mem_text (h : statement.named? = none) : '"' ∉ statement.text.toList := by
  cases statement with
  | tableExists asked =>
    have htext : (Statement.tableExists asked).text =
        "SELECT EXISTS (SELECT 1 FROM information_schema.tables " ++
          "WHERE table_schema = $1 AND table_name = $2)" := rfl
    rw [htext, String.toList_append, List.mem_append, not_or]
    exact ⟨by decide, by decide⟩
  | begin => exact by decide
  | commit => exact by decide
  | rollback => exact by decide
  | _ => cases h

theorem names_text_iff_named? (h : ∀ other, statement.named? = some other →
    other = table ∧ table.checked = .ok written) :
    Names statement.text.toList tables ↔ tables = statement.named?.toList := by
  cases hnamed : statement.named? with
  | none => exact names_iff_of_plain (quote_not_mem_text hnamed)
  | some other =>
    obtain ⟨rfl, hchecked⟩ := h other hnamed
    exact names_text_iff hchecked hnamed

/-! ### Requests -/

/-- If the effect sends a statement that names a table, it is this one, and its name is admitted. -/
def Minds (table : Table) (effect : Effect) : Prop :=
  ∀ statement other, effect = .ask statement → statement.named? = some other →
    other = table ∧ table.checked = .ok table.written

section Requests

variable {α : Type} {allowed : Effect → Prop}

theorem minds_of_mem_starting {version : Version} {description : String}
    (hchecked : table.checked = .ok table.written)
    (hmem : statement = .rollback ∨ statement ∈ starting table version description) :
    Minds table (.ask statement) := by
  rintro _ other ⟨⟩ hnamed
  refine ⟨?_, hchecked⟩
  have hplanned : statement = .rollback ∨ statement = .createTable table ∨ statement = .begin ∨
      statement = .lockTable table ∨ statement = .countRows table ∨
      statement = .insertMarker table version description ∨ statement = .commit := by
    simpa [starting, counting, marking] using hmem
  rcases hplanned with rfl | rfl | rfl | rfl | rfl | rfl | rfl <;> cases hnamed <;> rfl

theorem within_part {ε : Type} {wrap : ε → MigrationStatus.Failure}
    {permitted : MigrationStatus.Failure → Prop} {program : ExceptT ε Program α}
    (h : Within allowed (fun failure => permitted (wrap failure)) program.run) :
    Within allowed permitted (Action.part wrap program).run := by
  refine Program.within_then h fun result htold => ?_
  cases result with
  | ok value => trivial
  | error failure => exact htold failure rfl

theorem within_admitted {rest : String → Action α}
    (h : table.checked = .ok table.written →
      Within allowed (fun _ => True) (rest table.written).run) :
    Within allowed (fun _ => True) (admitted table >>= rest).run := by
  cases hchecked : table.checked with
  | error error =>
    rw [admitted, hchecked]
    trivial
  | ok written =>
    obtain rfl := checked_eq_ok hchecked
    rw [admitted, hchecked]
    exact h hchecked

theorem within_look (table : Table) :
    Within (Minds table) (fun _ => True) (tableExists table).run := by
  have hask : Minds table (.ask (.tableExists table)) := by
    rintro _ other ⟨⟩ ⟨⟩
  exact within_send hask fun _ => trivial

theorem within_ensureTable (table : Table) :
    Within (Minds table) (fun _ => True) (ensureTable table).run := by
  refine within_admitted fun hchecked => ?_
  have hask : Minds table (.ask (.createTable table)) := by
    rintro _ other ⟨⟩ ⟨⟩
    exact ⟨rfl, hchecked⟩
  exact within_send hask fun _ => trivial

theorem within_applied (table : Table) :
    Within (Minds table) (fun _ => True) (applied table).run := by
  refine within_admitted fun hchecked => ?_
  refine Program.within_bind (within_look table) fun present => ?_
  have hnote (event : Event) : Within (Minds table) (fun _ => True) (note event).run :=
    ⟨nofun, fun _ => trivial⟩
  cases present with
  | false => exact Program.within_bind (hnote _) fun _ => trivial
  | true =>
    have hask : Minds table (.ask (.selectRows table)) := by
      rintro _ other ⟨⟩ ⟨⟩
      exact ⟨rfl, hchecked⟩
    refine Program.within_bind (within_send hask fun _ => trivial) fun rows => ?_
    refine Program.within_bind (hnote _) fun _ => ?_
    cases hrecords : records rows with
    | ok applied => trivial
    | error error => trivial

theorem within_request (table : Table) (request : Request) :
    Within (Minds table) (fun _ => True) (request.action table).run := by
  cases request with
  | look => exact within_part (within_look table)
  | ensure => exact within_part (within_ensureTable table)
  | read => exact within_part (within_applied table)
  | start version description =>
    refine within_part ?_
    refine Program.within_mono ?_ (fun _ _ => trivial) (within_start table version description)
    rintro _ hstated statement other rfl hnamed
    obtain ⟨hchecked, hmem⟩ := hstated statement rfl
    exact minds_of_mem_starting hchecked hmem statement other rfl hnamed
  | status available target =>
    have hsettled : Within (Minds table) (fun _ => True)
        (Action.settled .script available).run := by
      cases available <;> trivial
    refine Program.within_bind hsettled fun scripts => ?_
    refine Program.within_bind (within_part (within_applied table)) fun rows => ?_
    refine Program.within_bind (Program.within_forM (fun event => ?_) _) fun _ => trivial
    exact ⟨nofun, fun _ => trivial⟩

end Requests

/-- **A table is named by its quoted name alone.** -/
theorem quoted_name (table : Table) :
    ((∃ written, table.checked = .ok written) ↔
      Admissible table.schema.toList ∧ Admissible table.name.toList) ∧
    (∀ written, table.checked = .ok written →
      readTable? written.toList = some (table, []) ∧
      (∀ other : Table, other.checked = .ok written → other = table) ∧
      ∀ statement : Statement, statement.named? = some table →
        (∀ tables, Names statement.text.toList tables ↔ tables = [table]) ∧
        ∃ before after : String, '"' ∉ before.toList ∧ '"' ∉ after.toList ∧
          ∀ other, (statement.on other).text = before ++ other.written ++ after) ∧
    ∀ (world : World) (request : Request) (statement : Statement),
      .ask statement ∈ (Program.run world (request.action table).run).performed →
      (∀ other, statement.named? = some other →
        other = table ∧ table.checked = .ok table.written) ∧
      ∀ tables, Names statement.text.toList tables ↔ tables = statement.named?.toList := by
  refine ⟨?_, fun written hchecked => ?_, fun world request statement hsent => ?_⟩
  · simp [checked_eq_ok_iff]
  · have hread {other : Table} (hother : other.checked = .ok written) :
        readTable? written.toList = some (other, []) := by
      have hend : ([] : List Char).head? ≠ some '"' := nofun
      have hplain := readTable?_written hother hend
      rwa [List.append_nil, (checked_eq_ok_iff.mp hother).2.2] at hplain
    refine ⟨hread hchecked, fun other hother => ?_, fun statement hnamed =>
      ⟨fun tables => names_text_iff hchecked hnamed, exists_frame hnamed⟩⟩
    exact congrArg Prod.fst (Option.some.inj ((hread hother).symm.trans (hread hchecked)))
  · obtain ⟨hminds, -⟩ := Program.of_within (within_request table request) world
    have hnamed (other : Table) (h : statement.named? = some other) :=
      hminds _ hsent statement other rfl h
    exact ⟨hnamed, fun tables => names_text_iff_named? hnamed⟩

/-- Letters need not be ASCII, and a name may begin with an underscore and hold dollar signs. -/
theorem quoted_name_of_unicode :
    let table : Table := ⟨"größe", "_v$1"⟩
    readTable? "\"größe\".\"_v$1\"".toList = some (table, []) ∧
      ∀ tables, Names (Statement.lockTable table).text.toList tables ↔ tables = [table] := by
  intro table
  have hchecked : table.checked = .ok "\"größe\".\"_v$1\"" := by decide +kernel
  obtain ⟨hread, -, hnames⟩ := (quoted_name table).2.1 _ hchecked
  exact ⟨hread, (hnames (.lockTable table) rfl).1⟩

end MigrationStatus.Ledger
