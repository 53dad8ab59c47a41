import MigrationStatus.Proofs.ScriptFolder
import MigrationStatus.Proofs.ScriptName
/-!
# What a folder of scripts makes available

What is found in a folder is told here by the entries of the folder alone: where two of its files
are scripts of one version it is refused, and the two that are named have the lowest version that
occurs twice; otherwise every file with the name of a script is found once, whichever way the folder
is listed, and is read as the migration that it makes available.
-/

namespace MigrationStatus

namespace Script

open Migration

variable {digest : Checksum.Digest} {folder : String} {items : List Files.Item}
  {script : Script} {scripts found : List Script} {first second : Script} {failure : Failure}

/-! ### Scripts of one folder with one version -/

/-- Two files of the folder are scripts of one version. -/
structure Clash (folder : String) (items : List Files.Item) (first second : Script) : Prop where
  first_listed : ∃ item ∈ items, Lists folder item first
  second_listed : ∃ item ∈ items, Lists folder item second
  fileName_ne : first.fileName ≠ second.fileName
  same : first.version.same second.version = true

theorem distinct_iff_not_clash (hnames : (items.map Files.Item.name).Nodup) :
    Distinct (Script.scripts folder (textFiles items)) ↔
      ¬ ∃ first second, Clash folder items first second := by
  constructor
  · rintro h ⟨first, second, hclash⟩
    apply hclash.fileName_ne
    rw [h.eq_of_same (mem_scripts_textFiles_iff.mpr hclash.first_listed)
      (mem_scripts_textFiles_iff.mpr hclash.second_listed) hclash.same]
  · intro h
    apply (pairwise_fileName_ne hnames).imp_of_mem
    intro first second hfirst hsecond hne
    refine Bool.eq_false_iff.mpr fun hsame => h ⟨first, second, ?_⟩
    exact ⟨mem_scripts_textFiles_iff.mp hfirst, mem_scripts_textFiles_iff.mp hsecond, hne, hsame⟩

/-- The two scripts that are named clash, and no version below theirs occurs twice. -/
theorem exists_lowest_clash (hnames : (items.map Files.Item.name).Nodup)
    (h : arranged (Script.scripts folder (textFiles items)) = .error failure) :
    ∃ first second, Clash folder items first second ∧
      failure = .duplicate first.version.display first.fileName second.fileName ∧
      ∀ third fourth, Clash folder items third fourth → first.version ≤ third.version := by
  obtain ⟨first, second, hduplicate, rfl⟩ := exists_of_arranged_eq_error h
  obtain ⟨hsublist, hsame⟩ := sublist_of_duplicate? hduplicate
  have hperm := perm_sorted (Script.scripts folder (textFiles items))
  have hpair : [first, second].Pairwise fun first second => first.fileName ≠ second.fileName :=
    (hperm.symm.pairwise (pairwise_fileName_ne hnames) fun hne => hne.symm).sublist hsublist
  have hne := List.pairwise_pair.mp hpair
  refine ⟨first, second, ⟨?_, ?_, hne, hsame⟩, rfl, fun third fourth hclash => ?_⟩
  · exact mem_scripts_textFiles_iff.mp (hperm.subset (hsublist.subset (by simp)))
  · exact mem_scripts_textFiles_iff.mp (hperm.subset (hsublist.subset (by simp)))
  · have hthird := mem_scripts_textFiles_iff.mpr hclash.first_listed
    have hfourth := mem_scripts_textFiles_iff.mpr hclash.second_listed
    refine (ordered_sorted _).le_of_duplicate? hduplicate (hperm.symm.subset hthird)
      (hperm.symm.subset hfourth) ?_ hclash.same
    exact fun heq => hclash.fileName_ne (congrArg Script.fileName heq)

/-- The scripts of a folder: one for each of its files that has the name of a script, in strictly
ascending order. -/
structure Discovered (folder : String) (items : List Files.Item) (scripts : List Script) :
    Prop where
  ascending : Ascending scripts
  numbered : ∀ script ∈ scripts, script.version.isNumbered = true
  once : (scripts.map Script.fileName).Nodup
  mem_iff : ∀ script, script ∈ scripts ↔ ∃ item ∈ items, Lists folder item script

theorem arranged_textFiles_eq_ok_iff (hnames : (items.map Files.Item.name).Nodup) :
    arranged (Script.scripts folder (textFiles items)) = .ok scripts ↔
      Discovered folder items scripts := by
  have hfileNames : (Script.scripts folder (textFiles items)).Pairwise fun first second =>
      first.fileName ≠ second.fileName := pairwise_fileName_ne hnames
  rw [arranged_eq_ok_iff]
  constructor
  · rintro ⟨hperm, hascending⟩
    have hmem (script : Script) : script ∈ scripts ↔ ∃ item ∈ items, Lists folder item script :=
      hperm.mem_iff.trans mem_scripts_textFiles_iff
    refine ⟨hascending, fun script hscript => ?_, ?_, hmem⟩
    · obtain ⟨item, -, hlists⟩ := (hmem script).mp hscript
      exact Name.isNumbered_of_ofChars? hlists.name
    · exact List.pairwise_map.mpr (hperm.symm.pairwise hfileNames fun hne => hne.symm)
  · intro h
    refine ⟨?_, h.ascending⟩
    have hscripts : scripts.Nodup := .of_map _ h.once
    have hlisted : (Script.scripts folder (textFiles items)).Nodup :=
      .of_map fileName (List.pairwise_map.mpr hfileNames)
    rw [List.perm_ext_iff_of_nodup hscripts hlisted]
    intro script
    rw [h.mem_iff, mem_scripts_textFiles_iff]

/-- The order in which the folder is listed does not matter. -/
theorem Discovered.perm {others : List Files.Item} (h : Discovered folder items scripts)
    (hperm : others.Perm items) : Discovered folder others scripts where
  ascending := h.ascending
  numbered := h.numbered
  once := h.once
  mem_iff script := by simp only [h.mem_iff, hperm.mem_iff]

/-! ### A folder as a whole -/

theorem exists_duplicate_iff (hnames : (items.map Files.Item.name).Nodup) :
    (∃ version first second,
      discover folder (some (.folder items)) = .error (.duplicate version first second)) ↔
      ∃ first second, Clash folder items first second := by
  constructor
  · rintro ⟨version, first, second, h⟩
    obtain ⟨first, second, hclash, -⟩ := exists_lowest_clash hnames h
    exact ⟨first, second, hclash⟩
  · intro hclash
    cases h : discover folder (some (.folder items)) with
    | ok scripts =>
      have hdistinct := exists_arranged_iff.mp ⟨scripts, h⟩
      exact absurd hclash ((distinct_iff_not_clash hnames).mp hdistinct)
    | error failure =>
      obtain ⟨first, second, -, rfl⟩ := exists_of_arranged_eq_error h
      exact ⟨_, _, _, rfl⟩

theorem result_available {world : World} {entry : Files.Entry}
    (hfiles : world.files folder = some entry) :
    (Program.run world (available digest folder).run).result =
      (discover folder (some entry)).bind (records digest) := by
  rw [(reads_available digest world folder).gives, hfiles]
  rfl

/-- **The scripts of a folder.** -/
theorem discovery_by_files (digest : Checksum.Digest) {world : World}
    (hfiles : world.files folder = some (.folder items))
    (hnames : (items.map Files.Item.name).Nodup) :
    let found := discover folder (some (.folder items))
    let result := (Program.run world (available digest folder).run).result
    ((∃ version first second, found = .error (.duplicate version first second)) ↔
      ∃ first second, Clash folder items first second) ∧
    (∀ failure, found = .error failure → result = .error failure ∧
      ∃ first second, Clash folder items first second ∧
        failure = .duplicate first.version.display first.fileName second.fileName ∧
        ∀ third fourth, Clash folder items third fourth → first.version ≤ third.version) ∧
    (∀ scripts, found = .ok scripts ↔ Discovered folder items scripts) ∧
    (∀ scripts others, found = .ok scripts → others.Perm items →
      discover folder (some (.folder others)) = .ok scripts) ∧
    ∀ scripts, found = .ok scripts →
      (∀ records, result = .ok records ↔ List.Forall₂ (MakesAvailable digest) scripts records) ∧
      (∀ records, result = .ok records → Timeline.Ascending records) ∧
      ∀ failure, result = .error failure ↔ ∃ before script after,
        scripts = before ++ script :: after ∧
        (∀ earlier ∈ before, Files.IsText earlier.content) ∧
        ¬ Files.IsText script.content ∧ failure = .unreadableScript script.path .notText := by
  intro found result
  have hresult : result = found.bind (Script.records digest) := result_available hfiles
  refine ⟨exists_duplicate_iff hnames, ?_, ?_, ?_, ?_⟩
  · intro failure hfound
    refine ⟨?_, exists_lowest_clash hnames hfound⟩
    rw [hresult, hfound]
    rfl
  · intro scripts
    exact arranged_textFiles_eq_ok_iff hnames
  · intro scripts others hfound hperm
    have hothers : (others.map Files.Item.name).Nodup := (hperm.map _).nodup_iff.mpr hnames
    have hdiscovered := (arranged_textFiles_eq_ok_iff hnames).mp hfound
    exact (arranged_textFiles_eq_ok_iff hothers).mpr (hdiscovered.perm hperm)
  · intro scripts hfound
    have hdiscovered := (arranged_textFiles_eq_ok_iff hnames).mp hfound
    have hrecords : result = Script.records digest scripts := by
      rw [hresult, hfound]
      rfl
    rw [hrecords]
    refine ⟨fun records => records_eq_ok_iff, ?_, fun failure => records_eq_error_iff⟩
    intro records hread
    exact ascending_of_makesAvailable hdiscovered.ascending (records_eq_ok_iff.mp hread)

/-! ### Three folders -/

/-- A folder with two scripts of one version, listed around a file whose name is no text, with a
third script above them. -/
def clashingItems : List Files.Item :=
  [⟨"V3__c.sql".toUTF8, some "".toUTF8⟩, ⟨"V1_0__b.sql".toUTF8, some "".toUTF8⟩,
    ⟨[0x56, 0xFF].toByteArray, some "".toUTF8⟩, ⟨"V1__a.sql".toUTF8, some "".toUTF8⟩,
    ⟨"V3_0__d.sql".toUTF8, none⟩]

/-- A folder with two scripts, of which the later one has this content. -/
def pairedItems (content : ByteArray) : List Files.Item :=
  [⟨"V2__b.sql".toUTF8, some content⟩, ⟨"V1__a.sql".toUTF8, some "".toUTF8⟩]

def worldOf (items : List Files.Item) : World :=
  { World.ofServer (.ofTable none) with files := fun _ => some (.folder items) }

def fileScript (fileName : String) (parts : List UInt64) (text description : String)
    (content : ByteArray) : Script where
  path := Files.Path.joined "sql" fileName
  fileName := fileName
  name := ⟨.numbered (.ofList parts) text, description⟩
  content := content

theorem lists_fileScript {fileName text description : String} {parts : List UInt64}
    (hname : Name.parse? fileName = some ⟨.numbered (.ofList parts) text, description⟩)
    (content : ByteArray) :
    Lists "sql" ⟨fileName.toUTF8, some content⟩
      (fileScript fileName parts text description content) :=
  ⟨rfl, rfl, hname, rfl⟩

theorem clash_clashingItems :
    Clash "sql" clashingItems (fileScript "V1__a.sql" [1] "1" "a" "".toUTF8)
      (fileScript "V1_0__b.sql" [1, 0] "1.0" "b" "".toUTF8) where
  first_listed := ⟨⟨"V1__a.sql".toUTF8, some "".toUTF8⟩, by simp [clashingItems],
    lists_fileScript (by decide +kernel) _⟩
  second_listed := ⟨⟨"V1_0__b.sql".toUTF8, some "".toUTF8⟩, by simp [clashingItems],
    lists_fileScript (by decide +kernel) _⟩
  fileName_ne := by decide
  same := by decide

def pairedScripts (content : ByteArray) : List Script :=
  [fileScript "V1__a.sql" [1] "1" "a" "".toUTF8, fileScript "V2__b.sql" [2] "2" "b" content]

theorem discover_pairedItems (content : ByteArray) :
    discover "sql" (some (.folder (pairedItems content))) = .ok (pairedScripts content) := by
  have hfirst : Name.parse? "V1__a.sql" = some ⟨.numbered (.ofList [1]) "1", "a"⟩ := by
    decide +kernel
  have hsecond : Name.parse? "V2__b.sql" = some ⟨.numbered (.ofList [2]) "2", "b"⟩ := by
    decide +kernel
  have hlists : List.Forall₂ (Lists "sql") (pairedItems content)
      (pairedScripts content).reverse :=
    .cons (lists_fileScript hsecond content) (.cons (lists_fileScript hfirst _) .nil)
  have hlt : Version.numbered (.ofList [1]) "1" < .numbered (.ofList [2]) "2" := by decide
  exact discover_of_lists hlists (List.reverse_perm _).symm (List.pairwise_pair.mpr hlt)

theorem discovery_of_three_folders :
    let content := "SELECT 1;".toUTF8
    let broken := [0xFF].toByteArray
    let records := [Record.available (.ofParts [1]) "a" "V1__a.sql" (some Checksum.emptyChecksum),
      Record.available (.ofParts [2]) "b" "V2__b.sql"
        (some "71568061b2970a4b7c5160fe75356e10")]
    (clashingItems.map Files.Item.name).Nodup ∧ ((pairedItems content).map Files.Item.name).Nodup ∧
    ((pairedItems broken).map Files.Item.name).Nodup ∧
    (∃ version first second, discover "sql" (some (.folder clashingItems)) =
      .error (.duplicate version first second)) ∧
    (Program.run (worldOf (pairedItems content)) (available Checksum.md5 "sql").run).result =
      .ok records ∧
    (Program.run (worldOf (pairedItems broken)) (available Checksum.md5 "sql").run).result =
      .error (.unreadableScript "sql/V2__b.sql" .notText) := by
  intro content broken records
  have hclashing : (clashingItems.map Files.Item.name).Nodup := by decide +kernel
  have hpaired (content : ByteArray) : ((pairedItems content).map Files.Item.name).Nodup := by
    change ["V2__b.sql".toUTF8, "V1__a.sql".toUTF8].Nodup
    decide
  have hfiles (items : List Files.Item) : (worldOf items).files "sql" = some (.folder items) := rfl
  obtain ⟨hduplicate, -⟩ := discovery_by_files Checksum.md5 (hfiles clashingItems) hclashing
  obtain ⟨-, -, -, -, hread⟩ :=
    discovery_by_files Checksum.md5 (hfiles (pairedItems content)) (hpaired content)
  obtain ⟨-, -, -, -, hunread⟩ :=
    discovery_by_files Checksum.md5 (hfiles (pairedItems broken)) (hpaired broken)
  obtain ⟨hok, -, -⟩ := hread (pairedScripts content) (discover_pairedItems content)
  obtain ⟨-, -, herror⟩ := hunread (pairedScripts broken) (discover_pairedItems broken)
  refine ⟨hclashing, hpaired content, hpaired broken,
    hduplicate.mpr ⟨_, _, clash_clashingItems⟩, (hok records).mpr ?_, (herror _).mpr ?_⟩
  · have hcontent : Checksum.bytes? "71568061b2970a4b7c5160fe75356e10".toList =
        some (Checksum.md5 content).toList := by decide +kernel
    exact .cons
      ⟨⟨"", rfl⟩, rfl, rfl, rfl, rfl, ⟨_, rfl, Checksum.bytes?_emptyChecksum⟩, rfl, rfl, rfl⟩
      (.cons ⟨⟨"SELECT 1;", rfl⟩, rfl, rfl, rfl, rfl, ⟨_, rfl, hcontent⟩, rfl, rfl, rfl⟩ .nil)
  · have hpath : Files.Path.joined "sql" "V2__b.sql" = "sql/V2__b.sql" := by decide +kernel
    rw [← hpath]
    exact ⟨[(pairedScripts broken)[0]], (pairedScripts broken)[1], [], rfl, by decide +kernel,
      by decide +kernel, rfl⟩

end Script

end MigrationStatus
