import Mathlib
import MigrationStatus.Proofs.Entry
import MigrationStatus.Proofs.TimeText
import MigrationStatus.Report
/-!
# The table in columns

A line of the table is four pieces with a separator between any two of them. Pieces as wide as
their columns are found again by the columns alone (`cut_joined`). The cells of a line are such
pieces once they are filled up, because no text is wider than its column (`widest_tableWidths`), and
so are the dashes of the rule.

Whether cells can be filled up hangs on the widths and not on the line (`line_eq`), so either every
line is written or none is. Times are short in every year (`fillable_iff`). What is left to break
the table is a version or a description of more than 65535 characters.
-/

namespace MigrationStatus.Report

open Migration

variable {widths : Widths} {separator line : String} {pieces : Cells} {timeline : Timeline}

/-! ### Lines and their columns -/

/-- The characters of a line from an offset on, as many as given. -/
def span (start length : Nat) (line : String) : List Char := (line.toList.drop start).take length

namespace Widths

/-- Where the bars stand, each together with the space on either side. -/
def bars (widths : Widths) : List Nat :=
  [widths.version, widths.version + 3 + widths.description,
    widths.version + widths.description + widths.installedOn + 6]

/-- Where the last cell begins. -/
def lastCell (widths : Widths) : Nat :=
  widths.version + widths.description + widths.installedOn + 9

/-- The cells of every column but the last can be filled up. -/
def Fillable (widths : Widths) : Prop :=
  widths.version ≤ widestFilled ∧ widths.description ≤ widestFilled ∧
    widths.installedOn ≤ widestFilled

instance (widths : Widths) : Decidable widths.Fillable :=
  inferInstanceAs (Decidable (_ ∧ _ ∧ _))

/-- Each column is as wide as the longest text in it, counted in characters. -/
structure Widest (widths : Widths) (lines : List Cells) : Prop where
  version : IsGreatest {n | ∃ cells ∈ lines, cells.version.length = n} widths.version
  description : IsGreatest {n | ∃ cells ∈ lines, cells.description.length = n} widths.description
  installedOn : IsGreatest {n | ∃ cells ∈ lines, cells.installedOn.length = n} widths.installedOn
  state : IsGreatest {n | ∃ cells ∈ lines, cells.state.length = n} widths.state

end Widths

/-- The line falls into one piece for each column, with a separator at each bar. -/
structure Cut (widths : Widths) (separator : String) (pieces : Cells) (line : String) : Prop where
  version : span 0 widths.version line = pieces.version.toList
  description : span (widths.version + 3) widths.description line = pieces.description.toList
  installedOn : span (widths.version + widths.description + 6) widths.installedOn line =
    pieces.installedOn.toList
  bars : ∀ bar ∈ widths.bars, span bar 3 line = separator.toList
  last : line.toList.drop widths.lastCell = pieces.state.toList

/-- A character as often as given. -/
def repeated (c : Char) (count : Nat) : String := String.ofList (List.replicate count c)

/-- The cells with spaces after them up to the widths of their columns, and the last one as
given. -/
def Cells.spaced (cells : Cells) (widths : Widths) (last : String) : Cells where
  version := cells.version ++ repeated ' ' (widths.version - cells.version.length)
  description := cells.description ++ repeated ' ' (widths.description - cells.description.length)
  installedOn := cells.installedOn ++ repeated ' ' (widths.installedOn - cells.installedOn.length)
  state := last

/-- Dashes over the full width of each column. -/
def Widths.dashes (widths : Widths) : Cells where
  version := repeated '-' widths.version
  description := repeated '-' widths.description
  installedOn := repeated '-' widths.installedOn
  state := repeated '-' widths.state

/-- The pieces in one line, with the separator between any two of them. -/
def Cells.joined (separator : String) (pieces : Cells) : String :=
  String.join [pieces.version, separator, pieces.description, separator, pieces.installedOn,
    separator, pieces.state]

/-- A line of the table with its cells filled up. -/
def Cells.drawn (cells : Cells) (widths : Widths) (last : String) : String :=
  (cells.spaced widths last).joined " | "

/-- The first line of the table of a timeline. -/
def titleLine (timeline : Timeline) : String :=
  Cells.header.drawn (tableWidths timeline) Cells.header.state

/-- The lines of the records in the table of a timeline. -/
def recordLines (colors : Bool) (timeline : Timeline) : List String :=
  timeline.map fun record =>
    (Cells.ofRecord record).drawn (tableWidths timeline) (stateCell colors record)

/-! ### Pieces in a line -/

@[simp]
theorem length_repeated (c : Char) (count : Nat) : (repeated c count).length = count := by
  rw [repeated, String.length_ofList, List.length_replicate]

theorem length_append_spaces {text : String} {width : Nat} (h : text.length ≤ width) :
    (text ++ repeated ' ' (width - text.length)).length = width := by
  rw [String.length_append, length_repeated]
  omega

/-- What follows in a text is found by the lengths of all that stands before it. -/
theorem drop_join {start : Nat} (before after : List String)
    (hstart : (before.map String.length).sum = start) :
    (String.join (before ++ after)).toList.drop start = (String.join after).toList := by
  have hbefore : (String.join before).toList.length = start := by
    rw [String.length_toList, String.length_join, hstart]
  rw [String.join_append, String.toList_append, List.drop_left' hbefore]

theorem span_join {start length : Nat} (before : List String) (piece : String)
    (after : List String) (hstart : (before.map String.length).sum = start)
    (hlength : piece.length = length) :
    span start length (String.join (before ++ piece :: after)) = piece.toList := by
  have hpiece : piece.toList.length = length := by rw [String.length_toList, hlength]
  rw [span, drop_join before (piece :: after) hstart, String.join_cons, String.toList_append,
    List.take_left' hpiece]

theorem cut_joined (hseparator : separator.length = 3)
    (hversion : pieces.version.length = widths.version)
    (hdescription : pieces.description.length = widths.description)
    (hinstalledOn : pieces.installedOn.length = widths.installedOn) :
    Cut widths separator pieces (pieces.joined separator) := by
  obtain ⟨version, description, installedOn, last⟩ := pieces
  refine {
    version := span_join [] version _ rfl hversion
    description := span_join [version, separator] description _ ?_ hdescription
    installedOn := span_join [version, separator, description, separator] installedOn _ ?_
      hinstalledOn
    bars := ?_
    last := ?_ }
  · simp [hversion, hseparator]
  · simp +arith [hversion, hdescription, hseparator]
  · simp only [Widths.bars, List.forall_mem_cons]
    refine ⟨span_join [version] separator _ ?_ hseparator,
      span_join [version, separator, description] separator _ ?_ hseparator,
      span_join [version, separator, description, separator, installedOn] separator _ ?_ hseparator,
      nofun⟩
    · simp [hversion]
    · simp +arith [hversion, hdescription, hseparator]
    · simp +arith [hversion, hdescription, hinstalledOn, hseparator]
  · have hfront : ([version, separator, description, separator, installedOn, separator].map
        String.length).sum = widths.lastCell := by
      simp +arith [Widths.lastCell, hversion, hdescription, hinstalledOn, hseparator]
    have hlast := drop_join _ [last] hfront
    rw [String.join_cons, String.join_nil, String.append_empty] at hlast
    exact hlast

theorem take_add_eq_append_span (start length : Nat) (line : String) :
    line.toList.take (start + length) = line.toList.take start ++ span start length line :=
  List.take_add

/-- Up to its last cell, the line is its pieces with the separators between them. -/
theorem Cut.take_lastCell (h : Cut widths separator pieces line) :
    line.toList.take widths.lastCell = pieces.version.toList ++ separator.toList ++
      pieces.description.toList ++ separator.toList ++ pieces.installedOn.toList ++
      separator.toList := by
  have hbars := h.bars
  simp only [Widths.bars, List.forall_mem_cons] at hbars
  obtain ⟨hfirst, hsecond, hthird, -⟩ := hbars
  have hversion : line.toList.take widths.version = pieces.version.toList := h.version
  have hinstalledOn : widths.version + widths.description + widths.installedOn + 6 =
      widths.version + widths.description + 6 + widths.installedOn := by omega
  have hsecondBar : widths.version + widths.description + 6 =
      widths.version + 3 + widths.description + 3 := by omega
  calc line.toList.take widths.lastCell
    _ = line.toList.take (widths.version + widths.description + widths.installedOn + 6) ++
        separator.toList := by
      rw [← hthird, ← take_add_eq_append_span, Widths.lastCell]
    _ = line.toList.take (widths.version + widths.description + 6) ++
        pieces.installedOn.toList ++ separator.toList := by
      rw [hinstalledOn, take_add_eq_append_span, h.installedOn]
    _ = line.toList.take (widths.version + 3 + widths.description) ++ separator.toList ++
        pieces.installedOn.toList ++ separator.toList := by
      rw [hsecondBar, take_add_eq_append_span, hsecond]
    _ = pieces.version.toList ++ separator.toList ++ pieces.description.toList ++
        separator.toList ++ pieces.installedOn.toList ++ separator.toList := by
      rw [take_add_eq_append_span, h.description, take_add_eq_append_span, hfirst, hversion]

/-! ### What the lines are put together from -/

theorem Widths.rule_eq (widths : Widths) : widths.rule = widths.dashes.joined "-+-" := rfl

theorem line_eq (cells : Cells) (widths : Widths) (last : String) :
    cells.line widths last =
      if widths.Fillable then some (cells.drawn widths last) else none := by
  simp only [Cells.line, Cells.front, filled, Widths.Fillable]
  by_cases hversion : widths.version ≤ widestFilled
  case neg => simp [hversion]
  by_cases hdescription : widths.description ≤ widestFilled
  case neg => simp [hversion, hdescription]
  by_cases hinstalledOn : widths.installedOn ≤ widestFilled
  case neg => simp [hversion, hdescription, hinstalledOn]
  simp [hversion, hdescription, hinstalledOn, Cells.drawn, Cells.joined, Cells.spaced, repeated,
    String.append_assoc]

theorem tableLines_eq (colors : Bool) (timeline : Timeline) :
    tableLines colors timeline =
      if (tableWidths timeline).Fillable then
        some (titleLine timeline :: (tableWidths timeline).rule :: recordLines colors timeline)
      else none := by
  simp only [tableLines, line_eq]
  by_cases hfillable : (tableWidths timeline).Fillable
  · have hrows : (timeline.mapM fun record =>
        some ((Cells.ofRecord record).drawn (tableWidths timeline) (stateCell colors record))) =
        some (recordLines colors timeline) := List.mapM_pure
    simp only [if_pos hfillable, hrows]
    rfl
  · simp only [if_neg hfillable]
    rfl

/-! ### The widths -/

/-- The title may be measured in bytes where each of its characters takes one. -/
theorem isGreatest_columnWidth (column : Cells → String) (rows : List Cells)
    (htitle : (column Cells.header).utf8ByteSize = (column Cells.header).length) :
    IsGreatest {n | ∃ cells ∈ Cells.header :: rows, (column cells).length = n}
      (columnWidth (column Cells.header) (rows.map column)) := by
  have hmax : ((Cells.header :: rows).map fun cells => (column cells).length).max? =
      some (columnWidth (column Cells.header) (rows.map column)) := by
    rw [List.map_cons, List.max?_cons', columnWidth, List.map_map, htitle]
    rfl
  obtain ⟨hmem, hle⟩ := List.max?_eq_some_iff.mp hmax
  refine ⟨List.mem_map.mp hmem, ?_⟩
  rintro _ ⟨cells, hcells, rfl⟩
  exact hle _ (List.mem_map_of_mem hcells)

theorem Widths.Widest.eq {other : Widths} {lines : List Cells} (h : widths.Widest lines)
    (hother : other.Widest lines) : widths = other := by
  cases widths
  cases other
  rw [Widths.mk.injEq]
  exact ⟨h.version.unique hother.version, h.description.unique hother.description,
    h.installedOn.unique hother.installedOn, h.state.unique hother.state⟩

theorem widest_tableWidths (timeline : Timeline) :
    (tableWidths timeline).Widest (Cells.header :: timeline.map Cells.ofRecord) where
  version := isGreatest_columnWidth (·.version) _ rfl
  description := isGreatest_columnWidth (·.description) _ rfl
  installedOn := isGreatest_columnWidth (·.installedOn) _ rfl
  state := isGreatest_columnWidth (·.state) _ rfl

theorem cut_drawn {lines : List Cells} {cells : Cells} (hwidest : widths.Widest lines)
    (hcells : cells ∈ lines) (last : String) :
    Cut widths " | " (cells.spaced widths last) (cells.drawn widths last) :=
  cut_joined rfl (length_append_spaces (hwidest.version.2 ⟨cells, hcells, rfl⟩))
    (length_append_spaces (hwidest.description.2 ⟨cells, hcells, rfl⟩))
    (length_append_spaces (hwidest.installedOn.2 ⟨cells, hcells, rfl⟩))

theorem cut_rule (widths : Widths) : Cut widths "-+-" widths.dashes widths.rule := by
  rw [Widths.rule_eq]
  exact cut_joined rfl (length_repeated _ _) (length_repeated _ _) (length_repeated _ _)

/-! ### Which texts are too long -/

theorem le_iff_of_isGreatest {column : Cells → String} {lines : List Cells} {width : Nat}
    (h : IsGreatest {n | ∃ cells ∈ lines, (column cells).length = n} width) (bound : Nat) :
    width ≤ bound ↔ ∀ cells ∈ lines, (column cells).length ≤ bound := by
  rw [isLUB_le_iff h.isLUB, mem_upperBounds]
  simp

theorem length_installedOn_le {record : Record}
    (hbounded : ∀ instant, record.installedOn = some instant → instant.Bounded) :
    (Cells.ofRecord record).installedOn.length ≤ widestFilled := by
  rw [Cells.ofRecord]
  cases hinstant : record.installedOn with
  | none => exact Nat.zero_le _
  | some instant =>
    exact (Instant.length_tableText_le (hbounded instant hinstant)).trans (by decide)

/-- Times are short in every year, so only a version or a description can be too long. -/
theorem fillable_iff (hwidest : widths.Widest (Cells.header :: timeline.map Cells.ofRecord))
    (hbounded : ∀ record ∈ timeline, ∀ instant, record.installedOn = some instant →
      instant.Bounded) :
    widths.Fillable ↔ ∀ record ∈ timeline,
      record.version.display.length ≤ widestFilled ∧
        record.description.length ≤ widestFilled := by
  have hheader : Cells.header.version.length ≤ widestFilled ∧
      Cells.header.description.length ≤ widestFilled ∧
      Cells.header.installedOn.length ≤ widestFilled := by decide
  have hinstalledOn : ∀ record ∈ timeline,
      (Cells.ofRecord record).installedOn.length ≤ widestFilled :=
    fun record hrecord => length_installedOn_le (hbounded record hrecord)
  rw [Widths.Fillable, le_iff_of_isGreatest hwidest.version,
    le_iff_of_isGreatest hwidest.description, le_iff_of_isGreatest hwidest.installedOn]
  simp only [List.forall_mem_cons, List.forall_mem_map, hheader, true_and]
  constructor
  · rintro ⟨hversion, hdescription, -⟩ record hrecord
    exact ⟨hversion record hrecord, hdescription record hrecord⟩
  · intro h
    exact ⟨fun record hrecord => (h record hrecord).1, fun record hrecord => (h record hrecord).2,
      hinstalledOn⟩

/-! ### The whole table -/

/-- The lines of a table, with states in colours and without: every cell stands in its column, and
in front of the states the lines do not differ. -/
structure Drawn (timeline : Timeline) (widths : Widths) (title rule : String)
    (lines : Bool → List String) : Prop where
  widest : widths.Widest (Cells.header :: timeline.map Cells.ofRecord)
  title : Cut widths " | " (Cells.header.spaced widths Cells.header.state) title
  rule : Cut widths "-+-" widths.dashes rule
  rows : ∀ colors, List.Forall₂ (fun record line => Cut widths " | "
    ((Cells.ofRecord record).spaced widths (stateCell colors record)) line) timeline (lines colors)
  fronts : List.Forall₂ (fun plain colored : String =>
    plain.toList.take widths.lastCell = colored.toList.take widths.lastCell)
    (lines false) (lines true)

theorem drawn_tableWidths (timeline : Timeline) :
    Drawn timeline (tableWidths timeline) (titleLine timeline) (tableWidths timeline).rule
      (recordLines · timeline) := by
  have hwidest := widest_tableWidths timeline
  have hrow (record : Record) (hrecord : record ∈ timeline) (colors : Bool) :=
    cut_drawn hwidest (List.mem_cons_of_mem _ (List.mem_map_of_mem hrecord))
      (stateCell colors record)
  refine {
    widest := hwidest
    title := cut_drawn hwidest List.mem_cons_self _
    rule := cut_rule _
    rows := fun colors => ?_
    fronts := ?_ }
  · rw [recordLines, List.forall₂_map_right_iff, List.forall₂_same]
    exact fun record hrecord => hrow record hrecord colors
  · rw [recordLines, recordLines, List.forall₂_map_left_iff, List.forall₂_map_right_iff,
      List.forall₂_same]
    intro record hrecord
    have hplain := (hrow record hrecord false).take_lastCell
    have hcolored := (hrow record hrecord true).take_lastCell
    exact hplain.trans hcolored.symm

theorem table_eq (colors : Bool) (h : timeline ≠ []) :
    table colors timeline =
      if (tableWidths timeline).Fillable then
        some ("\n".intercalate
          (titleLine timeline :: (tableWidths timeline).rule :: recordLines colors timeline))
      else none := by
  rw [table, if_neg (by simpa using h), tableLines_eq]
  split <;> rfl

/-- One description that is too long leaves no table, whatever else there is to show. -/
theorem table_eq_none_of_description {record : Record} (colors : Bool) (hrecord : record ∈ timeline)
    (hlong : widestFilled < record.description.length) : table colors timeline = none := by
  have hwide : ¬ (tableWidths timeline).Fillable := by
    rintro ⟨-, hdescription, -⟩
    have hle : record.description.length ≤ (tableWidths timeline).description :=
      (widest_tableWidths timeline).description.2
        ⟨_, List.mem_cons_of_mem _ (List.mem_map_of_mem hrecord), rfl⟩
    omega
  rw [table_eq colors (List.ne_nil_of_mem hrecord), if_neg hwide]

/-- **The table in columns.** Its lines are there in full, or there is no table because of a text
that is too long. -/
theorem table_in_columns (h : timeline ≠ []) :
    ∃ (widths : Widths) (title rule : String) (lines : Bool → List String),
      Drawn timeline widths title rule lines ∧
      (∀ colors, table colors timeline =
        if widths.Fillable then some ("\n".intercalate (title :: rule :: lines colors))
        else none) ∧
      ((∀ record ∈ timeline, ∀ instant, record.installedOn = some instant → instant.Bounded) →
        (widths.Fillable ↔ ∀ record ∈ timeline,
          record.version.display.length ≤ widestFilled ∧
            record.description.length ≤ widestFilled)) := by
  have hdrawn := drawn_tableWidths timeline
  exact ⟨_, _, _, _, hdrawn, fun colors => table_eq colors h, fillable_iff hdrawn.widest⟩

/-- Widths are counted in characters, whatever those take in bytes or on a screen. -/
theorem table_in_columns_of_unicode :
    let timeline : Timeline := [.available (.ofParts [1]) "créer 🎉" "" none,
      Reconcile.sampleRow .sql [10] false]
    timeline ≠ [] ∧ ∃ title rule lines, Drawn timeline ⟨7, 11, 19, 7⟩ title rule lines ∧
      ∀ colors, table colors timeline =
        some ("\n".intercalate (title :: rule :: lines colors)) := by
  intro timeline
  have hne : timeline ≠ [] := List.cons_ne_nil _ _
  have hbounded : ∀ record ∈ timeline, ∀ instant, record.installedOn = some instant →
      instant.Bounded := by
    simp only [timeline, List.forall_mem_cons]
    refine ⟨nofun, ?_, nofun⟩
    rintro _ ⟨⟩
    exact ⟨by decide, by decide⟩
  obtain ⟨widths, title, rule, lines, hdrawn, htable, hfillable⟩ := table_in_columns hne
  have hwidths : widths = ⟨7, 11, 19, 7⟩ :=
    (hdrawn.widest.eq (widest_tableWidths timeline)).trans (by decide +kernel)
  subst hwidths
  refine ⟨hne, title, rule, lines, hdrawn, fun colors => ?_⟩
  rw [htable, if_pos ((hfillable hbounded).mpr (by decide +kernel))]

/-- A description of one character more than can be filled up leaves no table. -/
theorem no_table_of_long_description :
    let record : Record := .available (.ofParts [1]) (repeated 'x' 65536) "" none
    ¬ ∃ colors pieces, table colors [record] = some ("\n".intercalate pieces) := by
  intro record
  rintro ⟨colors, pieces, htable⟩
  have hlong : widestFilled < record.description.length := by
    rw [show record.description = repeated 'x' 65536 from rfl, length_repeated]
    decide
  rw [table_eq_none_of_description colors List.mem_cons_self hlong] at htable
  cases htable

end MigrationStatus.Report
