import Mathlib.Data.List.Perm.Basic
import MigrationStatus.Checksum.Md5
import MigrationStatus.Proofs.Loading
/-!
# The scripts of a folder, and what they make available

Two scripts of one version are looked for among neighbours only. That is enough, because the scripts
are sorted by then and sorted scripts without equal neighbours ascend strictly. A list that ascends
strictly is the only one with its entries, so the order in which the folder is listed does not
enter.

What a script makes available is told field by field. Its checksum is read back to the digest of its
content, whichever digest is in use.
-/

namespace MigrationStatus

namespace Files

/-- Whether bytes encode a text. -/
def IsText (content : ByteArray) : Prop := ∃ text : String, text.toUTF8 = content

variable {content : ByteArray} {error : ReadError}

theorem fromUTF8?_eq_some_iff {text : String} :
    String.fromUTF8? content = some text ↔ text.toUTF8 = content := by
  unfold String.fromUTF8?
  constructor
  · intro h
    split at h
    · cases h
      rfl
    · cases h
  · rintro rfl
    rw [String.toUTF8_eq_toByteArray, dif_pos text.isValidUTF8]
    rfl

instance (content : ByteArray) : Decidable (IsText content) :=
  decidable_of_iff ((String.fromUTF8? content).isSome = true) <| by
    simp only [IsText, ← fromUTF8?_eq_some_iff, Option.isSome_iff_exists]

theorem text_eq_ok_iff {found : String} : text content = .ok found ↔ found.toUTF8 = content := by
  rw [← fromUTF8?_eq_some_iff, text]
  cases String.fromUTF8? content <;> simp

theorem text_eq_error_iff : text content = .error error ↔ ¬ IsText content ∧ error = .notText := by
  simp only [IsText, ← fromUTF8?_eq_some_iff, text]
  cases String.fromUTF8? content <;> simp [eq_comm]

end Files

namespace Checksum

/-! ### Checksums read back -/

/-- The value of a hexadecimal digit, in lowercase. -/
def nibble? (c : Char) : Option Nat := (List.range 16).find? fun n => n.digitChar == c

/-- The bytes that a text spells, two digits for each. -/
def bytes? : List Char → Option (List UInt8)
  | [] => some []
  | high :: low :: rest => do
    return UInt8.ofNat (16 * (← nibble? high) + (← nibble? low)) :: (← bytes? rest)
  | [_] => none

theorem nibble?_digitChar {n : Nat} (h : n < 16) : nibble? n.digitChar = some n := by
  have hall : ∀ n < 16, nibble? n.digitChar = some n := by decide
  exact hall n h

theorem digitChar_of_nibble?_eq_some {c : Char} {n : Nat} (h : nibble? c = some n) :
    n < 16 ∧ n.digitChar = c :=
  ⟨List.mem_range.mp (List.mem_of_find?_eq_some h), by simpa using List.find?_some h⟩

theorem byteText_ofNat {high low : Nat} (hhigh : high < 16) (hlow : low < 16) :
    byteText (UInt8.ofNat (16 * high + low)) = [high.digitChar, low.digitChar] := by
  have hsize : 16 * high + low < UInt8.size := by
    change 16 * high + low < 256
    omega
  have hbyte : (UInt8.ofNat (16 * high + low)).toNat = 16 * high + low :=
    UInt8.toNat_ofNat_of_lt hsize
  rw [byteText, hbyte, show (16 * high + low) / 16 = high by omega,
    show (16 * high + low) % 16 = low by omega]

theorem bytes?_flatMap_byteText (bytes : List UInt8) :
    bytes? (bytes.flatMap byteText) = some bytes := by
  induction bytes with
  | nil => rfl
  | cons byte bytes ih =>
    have hbyte : byte.toNat < 256 := byte.toNat_lt
    have hsum : 16 * (byte.toNat / 16) + byte.toNat % 16 = byte.toNat := by omega
    rw [List.flatMap_cons, byteText, List.cons_append, List.singleton_append, bytes?,
      nibble?_digitChar (by omega), nibble?_digitChar (by omega), ih]
    simp only [Option.bind_eq_bind, Option.bind_some, Option.pure_def, hsum, UInt8.ofNat_toNat]

theorem bytes?_eq_some_iff {chars : List Char} {bytes : List UInt8} :
    bytes? chars = some bytes ↔ chars = bytes.flatMap byteText := by
  constructor
  · intro h
    fun_induction bytes? chars generalizing bytes with
    | case1 =>
      cases h
      rfl
    | case2 high low rest ih =>
      simp only [Option.bind_eq_bind, Option.bind_eq_some_iff, Option.pure_def,
        Option.some.injEq] at h
      obtain ⟨first, hfirst, second, hsecond, left, hleft, rfl⟩ := h
      obtain ⟨hhigh, rfl⟩ := digitChar_of_nibble?_eq_some hfirst
      obtain ⟨hlow, rfl⟩ := digitChar_of_nibble?_eq_some hsecond
      rw [List.flatMap_cons, byteText_ofNat hhigh hlow, ← ih hleft]
      rfl
    | case3 => cases h
  · rintro rfl
    exact bytes?_flatMap_byteText bytes

/-- A text is the checksum of a message if it spells the digest. -/
theorem eq_text_iff {digest : Digest} {message : ByteArray} {written : String} :
    written = text digest message ↔ bytes? written.toList = some (digest message).toList := by
  rw [bytes?_eq_some_iff, text, ← String.toList_inj, String.toList_ofList]

/-- The checksum of an empty script. -/
def emptyChecksum : String := "d41d8cd98f00b204e9800998ecf8427e"

theorem bytes?_emptyChecksum :
    bytes? emptyChecksum.toList = some (md5 "".toUTF8).toList := by
  decide +kernel

end Checksum

namespace Script

open Migration

variable {digest : Checksum.Digest} {folder : String} {items : List Files.Item}
  {item : Files.Item} {script : Script}
  {scripts found : List Script} {first second : Script} {failure : Failure} {record : Record}

/-! ### The scripts among the entries of a folder -/

/-- The entry of the folder is a regular file, and the script is what its name says. -/
structure Lists (folder : String) (item : Files.Item) (script : Script) : Prop where
  content : item.content = some script.content
  fileName : script.fileName.toUTF8 = item.name
  name : Name.parse? script.fileName = some script.name
  path : script.path = Files.Path.joined folder script.fileName

/-- The script that an entry of the folder is. -/
def ofItem? (folder : String) (item : Files.Item) : Option Script := do
  let content ← item.content
  let fileName ← String.fromUTF8? item.name
  ofFile? folder fileName content

theorem ofItem?_eq_some_iff : ofItem? folder item = some script ↔ Lists folder item script := by
  simp only [ofItem?, ofFile?, Option.bind_eq_bind, Option.bind_eq_some_iff,
    Option.map_eq_some_iff, Files.fromUTF8?_eq_some_iff]
  constructor
  · rintro ⟨content, hcontent, fileName, hfileName, name, hname, rfl⟩
    exact ⟨hcontent, hfileName, hname, rfl⟩
  · intro h
    exact ⟨script.content, h.content, script.fileName, h.fileName, script.name, h.name, by
      rw [← h.path]⟩

theorem scripts_textFiles (folder : String) (items : List Files.Item) :
    Script.scripts folder (textFiles items) = items.filterMap (ofItem? folder) := by
  rw [Script.scripts, textFiles, List.filterMap_filterMap]
  apply List.filterMap_congr
  intro item _
  rw [ofItem?]
  cases item.content with
  | none => rfl
  | some content => cases String.fromUTF8? item.name <;> rfl

theorem mem_scripts_textFiles_iff :
    script ∈ Script.scripts folder (textFiles items) ↔
      ∃ item ∈ items, Lists folder item script := by
  simp only [scripts_textFiles, List.mem_filterMap, ofItem?_eq_some_iff]

theorem pairwise_fileName_ne (h : (items.map Files.Item.name).Nodup) :
    (Script.scripts folder (textFiles items)).Pairwise fun first second =>
      first.fileName ≠ second.fileName := by
  rw [scripts_textFiles, List.pairwise_filterMap]
  refine (List.pairwise_map.mp h).imp fun hne first hfirst second hsecond heq => hne ?_
  rw [← (ofItem?_eq_some_iff.mp hfirst).fileName, heq, (ofItem?_eq_some_iff.mp hsecond).fileName]

/-! ### Scripts in order -/

/-- No script lies before one in front of it. -/
def Ordered (scripts : List Script) : Prop :=
  scripts.Pairwise fun earlier later => earlier.version ≤ later.version

/-- Each script lies before all that follow it. -/
def Ascending (scripts : List Script) : Prop :=
  scripts.Pairwise fun earlier later => earlier.version < later.version

/-- No two scripts share a version. -/
def Distinct (scripts : List Script) : Prop :=
  scripts.Pairwise fun first second => first.version.same second.version = false

instance : Std.Symm fun first second : Script => first.version.same second.version = false where
  symm first second h := by rwa [Version.same_comm]

theorem Ascending.ordered (h : Ascending scripts) : Ordered scripts := h.imp le_of_lt

theorem Ascending.distinct (h : Ascending scripts) : Distinct scripts :=
  h.imp Version.not_same_of_lt

theorem Distinct.perm (h : Distinct scripts) (hperm : scripts.Perm found) : Distinct found :=
  hperm.pairwise h fun hsame => by rwa [Version.same_comm]

theorem Distinct.eq_of_same (h : Distinct scripts) (hfirst : first ∈ scripts)
    (hsecond : second ∈ scripts) (hsame : first.version.same second.version = true) :
    first = second := by
  by_contra hne
  exact Bool.eq_false_iff.mp (List.Pairwise.forall h hfirst hsecond hne) hsame

theorem Ordered.ascending (h : Ordered scripts) (hdistinct : Distinct scripts) :
    Ascending scripts := by
  apply (h.and hdistinct).imp
  rintro first second ⟨hle, hsame⟩
  exact Version.lt_of_le_of_not_same hle hsame

/-- Strictly ascending scripts are determined by which scripts they are. -/
theorem Ascending.eq_of_perm (h : Ascending scripts) (hfound : Ordered found)
    (hperm : found.Perm scripts) : found = scripts := by
  apply hperm.eq_of_pairwise _ hfound h.ordered
  intro first second hfirst hsecond hle hge
  exact h.distinct.eq_of_same (hperm.subset hfirst) hsecond
    (Version.same_iff_le_and_le.mpr ⟨hle, hge⟩)

/-! ### Neighbours with one version -/

theorem sublist_of_duplicate? (h : duplicate? scripts = some (first, second)) :
    [first, second].Sublist scripts ∧ first.version.same second.version = true := by
  fun_induction duplicate? scripts with
  | case1 earlier later rest hsame =>
    cases h
    exact ⟨(List.prefix_append [first, second] rest).sublist, hsame⟩
  | case2 earlier later rest hsame ih =>
    obtain ⟨hsublist, hsame⟩ := ih h
    exact ⟨hsublist.cons earlier, hsame⟩
  | case3 => cases h

theorem Ascending.duplicate?_eq_none (h : Ascending scripts) : duplicate? scripts = none := by
  rw [Option.eq_none_iff_forall_ne_some]
  rintro ⟨first, second⟩ hduplicate
  obtain ⟨hsublist, hsame⟩ := sublist_of_duplicate? hduplicate
  have hdistinct := List.pairwise_pair.mp (h.distinct.sublist hsublist)
  exact Bool.eq_false_iff.mp hdistinct hsame

theorem Ordered.lt_of_not_same {rest : List Script} (h : Ordered (first :: second :: rest))
    (hsame : ¬ first.version.same second.version = true) :
    ∀ script ∈ second :: rest, first.version < script.version := by
  obtain ⟨hfirst, hrest⟩ := List.pairwise_cons.mp h
  have hlt : first.version < second.version :=
    Version.lt_of_le_of_not_same (hfirst second List.mem_cons_self) (Bool.eq_false_iff.mpr hsame)
  intro script hscript
  rcases List.mem_cons.mp hscript with rfl | hscript
  · exact hlt
  · exact hlt.trans_le (List.rel_of_pairwise_cons hrest hscript)

theorem Ordered.ascending_of_duplicate?_eq_none (hordered : Ordered scripts)
    (h : duplicate? scripts = none) : Ascending scripts := by
  fun_induction duplicate? scripts with
  | case1 => cases h
  | case2 first second rest hsame ih =>
    exact List.pairwise_cons.mpr ⟨hordered.lt_of_not_same hsame, ih hordered.of_cons h⟩
  | case3 scripts hshort =>
    match scripts with
    | [] => exact .nil
    | [script] => exact List.pairwise_singleton ..
    | first :: second :: rest => exact absurd rfl (hshort first second rest)

/-- In front of the first such neighbours the scripts ascend strictly, and so up to the first of the
two. -/
theorem Ordered.exists_of_duplicate? (hordered : Ordered scripts)
    (h : duplicate? scripts = some (first, second)) :
    ∃ before after, scripts = before ++ first :: after ∧ Ascending (before ++ [first]) := by
  fun_induction duplicate? scripts with
  | case1 =>
    cases h
    exact ⟨[], _, rfl, List.pairwise_singleton ..⟩
  | case2 earlier later rest hsame ih =>
    obtain ⟨before, after, heq, hascending⟩ := ih hordered.of_cons h
    refine ⟨earlier :: before, after, congrArg (earlier :: ·) heq,
      List.pairwise_cons.mpr ⟨fun script hscript => ?_, hascending⟩⟩
    apply hordered.lt_of_not_same hsame
    rw [heq, ← List.singleton_append, ← List.append_assoc]
    exact List.mem_append_left after hscript
  | case3 => cases h

/-- So no version that occurs twice lies below theirs. -/
theorem Ordered.le_of_duplicate? (hordered : Ordered scripts)
    (h : duplicate? scripts = some (first, second)) {third fourth : Script}
    (hthird : third ∈ scripts) (hfourth : fourth ∈ scripts) (hne : third ≠ fourth)
    (hsame : third.version.same fourth.version = true) : first.version ≤ third.version := by
  obtain ⟨before, after, rfl, hascending⟩ := hordered.exists_of_duplicate? h
  have hbefore {script : Script} (hscript : script ∈ before ++ first :: after)
      (hlt : script.version < first.version) : script ∈ before ++ [first] := by
    rcases List.mem_append.mp hscript with hbefore | hafter
    · exact List.mem_append_left [first] hbefore
    · exfalso
      rcases List.mem_cons.mp hafter with rfl | hafter
      · exact lt_irrefl _ hlt
      · have hle := List.rel_of_pairwise_cons (List.pairwise_append.mp hordered).2.1 hafter
        exact hlt.not_ge hle
  refine Version.not_lt_iff_le.mp fun hlt => hne ?_
  exact hascending.distinct.eq_of_same (hbefore hthird hlt)
    (hbefore hfourth ((Version.lt_congr_left hsame).mp hlt)) hsame

/-! ### Arranging scripts -/

theorem perm_sorted (scripts : List Script) : (sorted scripts).Perm scripts :=
  List.mergeSort_perm ..

theorem ordered_sorted (scripts : List Script) : Ordered (sorted scripts) := by
  apply List.pairwise_mergeSort
  · intro first second third hfirst hsecond
    exact Std.TransOrd.isLE_trans hfirst hsecond
  · intro first second
    exact Bool.or_eq_true_iff.mpr (Std.Total.total (r := (· ≤ ·)) first.version second.version)

theorem arranged_eq_ok_iff :
    arranged scripts = .ok found ↔ found.Perm scripts ∧ Ascending found := by
  constructor
  · intro h
    unfold arranged at h
    split at h
    · cases h
    · next hduplicate =>
      cases h
      have hordered := ordered_sorted scripts
      exact ⟨perm_sorted scripts, hordered.ascending_of_duplicate?_eq_none hduplicate⟩
  · rintro ⟨hperm, hascending⟩
    have hsorted : sorted scripts = found :=
      hascending.eq_of_perm (ordered_sorted scripts) ((perm_sorted scripts).trans hperm.symm)
    rw [arranged, hsorted, hascending.duplicate?_eq_none]

theorem exists_arranged_iff : (∃ found, arranged scripts = .ok found) ↔ Distinct scripts := by
  simp only [arranged_eq_ok_iff]
  constructor
  · rintro ⟨found, hperm, hascending⟩
    exact hascending.distinct.perm hperm
  · intro h
    have hdistinct := h.perm (perm_sorted scripts).symm
    exact ⟨sorted scripts, perm_sorted scripts, (ordered_sorted scripts).ascending hdistinct⟩

theorem exists_of_arranged_eq_error (h : arranged scripts = .error failure) :
    ∃ first second, duplicate? (sorted scripts) = some (first, second) ∧
      failure = .duplicate first.version.display first.fileName second.fileName := by
  unfold arranged at h
  split at h
  · next first second hduplicate =>
    cases h
    exact ⟨first, second, hduplicate, rfl⟩
  · cases h

/-! ### Scripts read as migrations -/

/-- The record is the migration that the script makes available. Its checksum spells the digest of
the script's own content. -/
structure MakesAvailable (digest : Checksum.Digest) (script : Script) (record : Record) :
    Prop where
  isText : Files.IsText script.content
  version : record.version = script.version
  description : record.description = script.name.description
  kind : record.kind = .sql
  fileName : record.script = script.fileName
  checksum : ∃ text, record.checksum = some text ∧
    Checksum.bytes? text.toList = some (digest script.content).toList
  installedOn : record.installedOn = none
  duration : record.duration = none
  state : record.state = .pending

theorem toRecord_eq_ok_iff :
    script.toRecord digest = .ok record ↔ MakesAvailable digest script record := by
  unfold toRecord
  constructor
  · intro h
    split at h
    · next text htext =>
      cases h
      exact ⟨⟨text, Files.text_eq_ok_iff.mp htext⟩, rfl, rfl, rfl, rfl,
        ⟨_, rfl, Checksum.eq_text_iff.mp rfl⟩, rfl, rfl, rfl⟩
    · cases h
  · intro h
    obtain ⟨text, htext⟩ := h.isText
    obtain ⟨written, hchecksum, hspells⟩ := h.checksum
    rw [Checksum.eq_text_iff.mpr hspells] at hchecksum
    rw [Files.text_eq_ok_iff.mpr htext]
    cases record
    obtain ⟨-, rfl, rfl, rfl, rfl, -, rfl, rfl, rfl⟩ := h
    cases hchecksum
    rfl

theorem toRecord_eq_error_iff :
    script.toRecord digest = .error failure ↔
      ¬ Files.IsText script.content ∧ failure = .unreadableScript script.path .notText := by
  unfold toRecord
  constructor
  · intro h
    split at h
    · cases h
    · next error herror =>
      obtain ⟨htext, rfl⟩ := Files.text_eq_error_iff.mp herror
      cases h
      exact ⟨htext, rfl⟩
  · rintro ⟨htext, rfl⟩
    rw [Files.text_eq_error_iff.mpr ⟨htext, rfl⟩]

theorem exists_toRecord_iff :
    (∃ record, script.toRecord digest = .ok record) ↔ Files.IsText script.content := by
  constructor
  · rintro ⟨record, hrecord⟩
    exact (toRecord_eq_ok_iff.mp hrecord).isText
  · intro h
    cases hrecord : script.toRecord digest with
    | ok record => exact ⟨record, rfl⟩
    | error failure => exact absurd h (toRecord_eq_error_iff.mp hrecord).1

theorem records_eq_ok_iff {available : List Record} :
    records digest scripts = .ok available ↔
      List.Forall₂ (MakesAvailable digest) scripts available := by
  simp only [records, mapM_eq_ok_iff_forall₂, toRecord_eq_ok_iff]

theorem records_eq_error_iff :
    records digest scripts = .error failure ↔ ∃ before script after,
      scripts = before ++ script :: after ∧ (∀ earlier ∈ before, Files.IsText earlier.content) ∧
      ¬ Files.IsText script.content ∧ failure = .unreadableScript script.path .notText := by
  calc records digest scripts = .error failure
      ↔ scripts.findSome? (fun script => faultOf? id (script.toRecord digest)) = some failure := by
        rw [← faultOf?_mapM, faultOf?_eq_some_iff]
        simp [records]
    _ ↔ ∃ before script after, scripts = before ++ script :: after ∧
          script.toRecord digest = .error failure ∧
          ∀ earlier ∈ before, ∃ record, earlier.toRecord digest = .ok record := by
        rw [List.findSome?_eq_some_iff]
        simp [faultOf?_eq_some_iff, faultOf?_eq_none_iff]
    _ ↔ _ := by
        simp only [toRecord_eq_error_iff, exists_toRecord_iff, and_comm]

theorem ascending_of_makesAvailable {available : List Record}
    (hascending : Ascending scripts) (h : List.Forall₂ (MakesAvailable digest) scripts available) :
    Timeline.Ascending available := by
  have hversions : scripts.map Script.version = available.map Record.version := by
    rw [← List.forall₂_eq_eq_eq, List.forall₂_map_left_iff, List.forall₂_map_right_iff]
    exact h.imp fun script record havailable => havailable.version.symm
  have hsorted : (scripts.map Script.version).Pairwise (· < ·) := List.pairwise_map.mpr hascending
  rw [hversions] at hsorted
  exact List.pairwise_map.mp hsorted

/-! ### Folders in which every entry is a script -/

theorem scripts_textFiles_of_lists (h : List.Forall₂ (Lists folder) items scripts) :
    Script.scripts folder (textFiles items) = scripts := by
  rw [scripts_textFiles]
  induction h with
  | nil => rfl
  | cons hitem _ ih => rw [List.filterMap_cons_some (ofItem?_eq_some_iff.mpr hitem), ih]

theorem discover_of_lists (hlists : List.Forall₂ (Lists folder) items scripts)
    (hperm : found.Perm scripts) (hascending : Ascending found) :
    discover folder (some (.folder items)) = .ok found := by
  change arranged (Script.scripts folder (textFiles items)) = .ok found
  rw [scripts_textFiles_of_lists hlists]
  exact arranged_eq_ok_iff.mpr ⟨hperm, hascending⟩

/-- Where every entry of a folder is a script, the migrations are those that the scripts make
available. -/
theorem found_of_lists {records : List Record}
    (hlists : List.Forall₂ (Lists folder) items scripts) (hperm : found.Perm scripts)
    (hascending : Ascending found) (hmade : List.Forall₂ (MakesAvailable digest) found records) :
    Script.found digest folder (some (.folder items)) = .ok records := by
  have harranged : arranged (Script.scripts folder (textFiles items)) = .ok found :=
    discover_of_lists hlists hperm hascending
  rw [found_folder harranged, records_eq_ok_iff]
  exact hmade

end Script

end MigrationStatus
