import MigrationStatus.Command
import MigrationStatus.Proofs.Starting
import MigrationStatus.Proofs.VersionGrammar
/-!
# What counts of several layers

A layer is known by the sections it has and by its leaves (`Layer.ext_of_leaves`), and laying one
layer over another acts on each section and each leaf alone. So a leaf of many layers is that of the
last layer that gives it, a section is there if any layer has it, and a layer that gives nothing may
be put in anywhere.

Settings read nothing of a layer but its leaves, one leaf for each of their values. They fail by the
two leaves that are read as versions, and the version at which they let tracking begin is one that a
start accepts.
-/

namespace MigrationStatus

namespace Settings

/-- What a layer has or leaves out as a whole. -/
inductive Section where
  | database
  | directories
  | ledger
  /-- The part on the table, within the section on the ledger. -/
  | table
  deriving DecidableEq, Repr

namespace Layer

variable {left right : Layer} {layers : List Layer} {leaf : Leaf} {value : String}

def has (layer : Layer) : Section → Bool
  | .database => layer.database.isSome
  | .directories => layer.directories.isSome
  | .ledger => layer.ledger.isSome
  | .table => (layer.ledger.bind (·.table)).isSome

/-! ### Sections and leaves make a layer -/

theorem eq_of_isSome_eq {α : Type} {left right : Option α} (hsome : left.isSome = right.isSome)
    (h : ∀ lower upper, left = some lower → right = some upper → lower = upper) :
    left = right := by
  cases left with
  | none => exact (Option.isNone_iff_eq_none.mp (by simpa using hsome)).symm
  | some lower =>
    obtain ⟨upper, rfl⟩ := Option.isSome_iff_exists.mp hsome.symm
    rw [h lower upper rfl rfl]

theorem ext_of_leaves (hhas : ∀ part, left.has part = right.has part)
    (hleaf : ∀ leaf, left.leaf? leaf = right.leaf? leaf) : left = right := by
  have hdatabase : left.database = right.database := by
    refine eq_of_isSome_eq (hhas .database) fun lower upper hlower hupper => ?_
    have hurl := hleaf .url
    simp only [leaf?, hlower, hupper, Option.bind_some] at hurl
    rw [DatabaseSection.mk.injEq]
    exact hurl
  have hdirectories : left.directories = right.directories := by
    refine eq_of_isSome_eq (hhas .directories) fun lower upper hlower hupper => ?_
    have hmigrations := hleaf .migrations
    simp only [leaf?, hlower, hupper, Option.bind_some] at hmigrations
    rw [DirectoriesSection.mk.injEq]
    exact hmigrations
  have hledger : left.ledger = right.ledger := by
    refine eq_of_isSome_eq (hhas .ledger) fun lower upper hlower hupper => ?_
    have hpart := hhas .table
    simp only [has, hlower, hupper, Option.bind_some] at hpart
    have htable : lower.table = upper.table := by
      refine eq_of_isSome_eq hpart fun below above hbelow habove => ?_
      have hschema := hleaf .schema
      have hname := hleaf .tableName
      simp only [leaf?, hlower, hupper, hbelow, habove, Option.bind_some] at hschema hname
      rw [TableSection.mk.injEq]
      exact ⟨hschema, hname⟩
    have htarget := hleaf .target
    have hversion := hleaf .initVersion
    have hdescription := hleaf .initDescription
    simp only [leaf?, hlower, hupper, Option.bind_some] at htarget hversion hdescription
    rw [LedgerSection.mk.injEq]
    exact ⟨htable, htarget, hversion, hdescription⟩
  rw [mk.injEq]
  exact ⟨hdatabase, hdirectories, hledger⟩

theorem has_merge (lower upper : Layer) (part : Section) :
    (lower.merge upper).has part = (lower.has part || upper.has part) := by
  cases part with
  | table =>
    have htable : (lower.merge upper).ledger.bind (·.table) =
        Option.merge TableSection.merge (lower.ledger.bind (·.table))
          (upper.ledger.bind (·.table)) :=
      bind_merge (fun _ _ => rfl) _ _
    rw [has, htable, Option.isSome_merge]
    rfl
  | _ => exact Option.isSome_merge

theorem leaf?_empty (leaf : Leaf) : empty.leaf? leaf = none := by
  cases leaf <;> rfl

theorem has_empty (part : Section) : empty.has part = false := by
  cases part <;> rfl

theorem merge_assoc (first second third : Layer) :
    (first.merge second).merge third = first.merge (second.merge third) := by
  refine ext_of_leaves (fun part => ?_) fun leaf => ?_
  · simp only [has_merge, Bool.or_assoc]
  · simp only [leaf?_merge, Option.or_assoc]

theorem empty_merge (layer : Layer) : empty.merge layer = layer := by
  refine ext_of_leaves (fun part => ?_) fun leaf => ?_
  · rw [has_merge, has_empty, Bool.false_or]
  · rw [leaf?_merge, leaf?_empty, Option.or_none]

theorem merge_empty (layer : Layer) : layer.merge empty = layer := by
  refine ext_of_leaves (fun part => ?_) fun leaf => ?_
  · rw [has_merge, has_empty, Bool.or_false]
  · rw [leaf?_merge, leaf?_empty, Option.none_or]

/-! ### Many layers -/

/-- The value is that of the last layer that gives one. -/
def LastGives (layers : List Layer) (leaf : Leaf) (value : String) : Prop :=
  ∃ earlier layer later, layers = earlier ++ layer :: later ∧ layer.leaf? leaf = some value ∧
    ∀ other ∈ later, other.leaf? leaf = none

theorem mergeAll_append_singleton (layers : List Layer) (layer : Layer) :
    mergeAll (layers ++ [layer]) = (mergeAll layers).merge layer := by
  simp [mergeAll]

theorem leaf?_mergeAll (layers : List Layer) (leaf : Leaf) :
    (mergeAll layers).leaf? leaf = layers.reverse.findSome? (·.leaf? leaf) := by
  induction layers using List.reverseRecOn with
  | nil => exact leaf?_empty leaf
  | append_singleton layers layer ih =>
    rw [mergeAll_append_singleton, leaf?_merge, ih, List.reverse_concat, List.findSome?_cons]
    cases layer.leaf? leaf <;> rfl

theorem has_mergeAll (layers : List Layer) (part : Section) :
    (mergeAll layers).has part = layers.any (·.has part) := by
  induction layers using List.reverseRecOn with
  | nil => exact has_empty part
  | append_singleton layers layer ih =>
    rw [mergeAll_append_singleton, has_merge, ih, List.any_append, List.any_cons, List.any_nil,
      Bool.or_false]

theorem leaf?_mergeAll_eq_some_iff :
    (mergeAll layers).leaf? leaf = some value ↔ LastGives layers leaf value := by
  rw [leaf?_mergeAll, List.findSome?_eq_some_iff]
  constructor
  · rintro ⟨later, layer, earlier, hlayers, hvalue, hlater⟩
    refine ⟨earlier.reverse, layer, later.reverse, ?_, hvalue, by simpa using hlater⟩
    simpa using congrArg List.reverse hlayers
  · rintro ⟨earlier, layer, later, rfl, hvalue, hlater⟩
    exact ⟨later.reverse, layer, earlier.reverse, by simp, hvalue, by simpa using hlater⟩

/-- The layer gives no value, whether its sections are missing or stand empty. -/
structure Silent (layer : Layer) : Prop where
  database : ∀ part, layer.database = some part → part.url = none
  directories : ∀ part, layer.directories = some part → part.migrations = none
  ledger : ∀ part, layer.ledger = some part →
    part.target = none ∧ part.initVersion = none ∧ part.initDescription = none
  table : ∀ part table, layer.ledger = some part → part.table = some table →
    table.schema = none ∧ table.name = none

theorem leaf?_of_silent {layer : Layer} (h : layer.Silent) (leaf : Leaf) :
    layer.leaf? leaf = none := by
  rw [Option.eq_none_iff_forall_ne_some]
  intro value hvalue
  cases leaf with
  | url =>
    obtain ⟨part, hpart, hurl⟩ := Option.bind_eq_some_iff.mp hvalue
    simp [h.database part hpart] at hurl
  | migrations =>
    obtain ⟨part, hpart, hmigrations⟩ := Option.bind_eq_some_iff.mp hvalue
    simp [h.directories part hpart] at hmigrations
  | schema =>
    obtain ⟨table, htable, hschema⟩ := Option.bind_eq_some_iff.mp hvalue
    obtain ⟨part, hpart, htable⟩ := Option.bind_eq_some_iff.mp htable
    simp [h.table part table hpart htable] at hschema
  | tableName =>
    obtain ⟨table, htable, hname⟩ := Option.bind_eq_some_iff.mp hvalue
    obtain ⟨part, hpart, htable⟩ := Option.bind_eq_some_iff.mp htable
    simp [h.table part table hpart htable] at hname
  | target =>
    obtain ⟨part, hpart, htarget⟩ := Option.bind_eq_some_iff.mp hvalue
    simp [h.ledger part hpart] at htarget
  | initVersion =>
    obtain ⟨part, hpart, hversion⟩ := Option.bind_eq_some_iff.mp hvalue
    simp [h.ledger part hpart] at hversion
  | initDescription =>
    obtain ⟨part, hpart, hdescription⟩ := Option.bind_eq_some_iff.mp hvalue
    simp [h.ledger part hpart] at hdescription

theorem leaf?_mergeAll_of_silent {layer : Layer} (h : layer.Silent) (earlier later : List Layer)
    (leaf : Leaf) :
    (mergeAll (earlier ++ layer :: later)).leaf? leaf =
      (mergeAll (earlier ++ later)).leaf? leaf := by
  rw [leaf?_mergeAll, leaf?_mergeAll]
  simp [List.findSome?_append, leaf?_of_silent h]

end Layer

/-! ### The leaves that settings read -/

variable {environmentUrl text : Option String} {layer : Layer} {settings : Settings}
  {error : Error} {version otherwise : Version}

/-- The value that counts for a leaf: that of the command line before that of the file, and for the
address of the database the one that the environment names, where neither gives one. -/
def effective? (environmentUrl : Option String) (file commandLine : Layer) (leaf : Leaf) :
    Option String :=
  (commandLine.leaf? leaf).or
    ((file.leaf? leaf).or (if leaf = .url then environmentUrl else none))

/-- The version that a text is read as, or another one where there is no text. -/
inductive Chosen (otherwise : Version) : Option String → Version → Prop where
  | absent : Chosen otherwise none otherwise
  | given {text : String} {version : Version} (h : Version.parse text = .ok version) :
    Chosen otherwise (some text) version

/-- Settings in terms of the values that count, one for each of theirs. -/
structure Resolves (value? : Leaf → Option String) (settings : Settings) : Prop where
  url : settings.url = value? .url
  migrations : settings.migrations = (value? .migrations).getD "migrations"
  schema : settings.table.schema = (value? .schema).getD "public"
  name : settings.table.name = (value? .tableName).getD "schema_version"
  target : Chosen .latest (value? .target) settings.target
  initVersion : Chosen (.ofParts [1]) (value? .initVersion) settings.initVersion
  isNumbered : settings.initVersion.isNumbered = true
  initDescription : settings.initDescription = (value? .initDescription).getD "<< Init >>"

/-- Why the values that count make no settings. -/
inductive Fails (value? : Leaf → Option String) : Error → Prop where
  | target {text : String} {error : Version.ParseError} (htext : value? .target = some text)
    (h : Version.parse text = .error error) : Fails value? (.target error)
  | initVersion {target : Version} {text : String} {error : Version.ParseError}
    (htarget : Chosen .latest (value? .target) target) (htext : value? .initVersion = some text)
    (h : Version.parse text = .error error) : Fails value? (.initVersion error)
  | initUnbounded {target : Version} {text : String}
    (htarget : Chosen .latest (value? .target) target) (htext : value? .initVersion = some text)
    (h : Version.IsLatestText text) : Fails value? (.initUnbounded "<< Latest >>")

/-- The value of a leaf of one layer, with the address that the environment names. -/
def leafOr? (environmentUrl : Option String) (layer : Layer) (leaf : Leaf) : Option String :=
  (layer.leaf? leaf).or (if leaf = .url then environmentUrl else none)

theorem leafOr?_mergeAll (environmentUrl : Option String) (file commandLine : Layer) :
    leafOr? environmentUrl (.mergeAll [file, commandLine]) =
      effective? environmentUrl file commandLine := by
  funext leaf
  rw [leafOr?, effective?, Layer.leaf?_mergeAll, ← Option.or_assoc]
  cases hupper : commandLine.leaf? leaf <;> simp [hupper]

theorem versionOf_eq_ok_iff :
    versionOf text otherwise = .ok version ↔ Chosen otherwise text version := by
  constructor
  · intro h
    cases text with
    | none =>
      obtain rfl : otherwise = version := Except.ok.inj h
      exact .absent
    | some text => exact .given h
  · rintro (_ | h)
    · rfl
    · exact h

theorem versionOf_of_error {written : String} {error : Version.ParseError} (otherwise : Version)
    (htext : text = some written) (h : Version.parse written = .error error) :
    versionOf text otherwise = .error error := by
  rw [htext]
  exact h

theorem isNumbered_of_chosen (h : Chosen (.ofParts [1]) text version) :
    version.isNumbered = true ∨
      ∃ written, text = some written ∧ Version.IsLatestText written ∧ version = .latest := by
  cases h with
  | absent => exact .inl rfl
  | @given written _ h =>
    cases version with
    | empty => exact absurd rfl (Version.spelling_of_parse h).1
    | numbered parts shown => exact .inl rfl
    | latest => exact .inr ⟨written, rfl, Version.parse_eq_latest_iff.mp h, rfl⟩

/-- The settings that a layer gives, once both of its versions are read. -/
theorem ofLayer_of_chosen {target : Version}
    (htarget : Chosen .latest (layer.leaf? .target) target)
    (hversion : Chosen (.ofParts [1]) (layer.leaf? .initVersion) version) :
    ofLayer environmentUrl layer =
      if version.isNumbered then
        .ok {
          url := (layer.leaf? .url).or environmentUrl
          migrations := (layer.leaf? .migrations).getD "migrations"
          table :=
            { schema := (layer.leaf? .schema).getD "public"
              name := (layer.leaf? .tableName).getD "schema_version" }
          target
          initVersion := version
          initDescription := (layer.leaf? .initDescription).getD "<< Init >>" }
      else .error (.initUnbounded version.display) := by
  have htarget : versionOf (layer.leaf? .target) default.target = .ok target :=
    versionOf_eq_ok_iff.mpr htarget
  have hversion : versionOf (layer.leaf? .initVersion) default.initVersion = .ok version :=
    versionOf_eq_ok_iff.mpr hversion
  simp only [ofLayer, htarget, hversion, Except.mapError, bind, Except.bind]
  cases version.isNumbered <;> rfl

theorem leafOr?_url (environmentUrl : Option String) (layer : Layer) :
    leafOr? environmentUrl layer .url = (layer.leaf? .url).or environmentUrl := rfl

theorem leafOr?_of_ne {leaf : Leaf} (h : leaf ≠ .url) (environmentUrl : Option String)
    (layer : Layer) : leafOr? environmentUrl layer leaf = layer.leaf? leaf := by
  rw [leafOr?, if_neg h, Option.or_none]

theorem ofLayer_of_resolves (h : Resolves (leafOr? environmentUrl layer) settings) :
    ofLayer environmentUrl layer = .ok settings := by
  have hleaf (leaf : Leaf) (h : leaf ≠ .url) := leafOr?_of_ne h environmentUrl layer
  have htarget := h.target
  have hversion := h.initVersion
  rw [hleaf _ (by decide)] at htarget hversion
  rw [ofLayer_of_chosen htarget hversion, if_pos h.isNumbered, ← leafOr?_url, ← h.url,
    ← hleaf .migrations (by decide), ← h.migrations,
    ← hleaf .schema (by decide), ← h.schema,
    ← hleaf .tableName (by decide), ← h.name,
    ← hleaf .initDescription (by decide), ← h.initDescription]

theorem ofLayer_of_fails (h : Fails (leafOr? environmentUrl layer) error) :
    ofLayer environmentUrl layer = .error error := by
  have hleaf {leaf : Leaf} (h : leaf ≠ .url) := leafOr?_of_ne h environmentUrl layer
  cases h with
  | target htext h =>
    rw [hleaf (by decide)] at htext
    have htarget := versionOf_of_error default.target htext h
    simp only [ofLayer, htarget]
    rfl
  | initVersion htarget htext h =>
    rw [hleaf (by decide)] at htarget htext
    have htarget : versionOf (layer.leaf? .target) default.target = .ok _ :=
      versionOf_eq_ok_iff.mpr htarget
    have hversion := versionOf_of_error default.initVersion htext h
    simp only [ofLayer, htarget, hversion]
    rfl
  | initUnbounded htarget htext h =>
    rw [hleaf (by decide)] at htarget htext
    have hversion : Chosen (.ofParts [1]) (layer.leaf? .initVersion) .latest := by
      rw [htext]
      exact .given (Version.parse_of_isLatestText h)
    rw [ofLayer_of_chosen htarget hversion]
    rfl

theorem exists_resolves_or_fails (value? : Leaf → Option String) :
    (∃ settings, Resolves value? settings) ∨ ∃ error, Fails value? error := by
  have hread (otherwise : Version) (text : Option String) :
      (∃ version, Chosen otherwise text version) ∨
        ∃ written error, text = some written ∧ Version.parse written = .error error := by
    cases text with
    | none => exact .inl ⟨otherwise, .absent⟩
    | some written =>
      cases hparse : Version.parse written with
      | ok version => exact .inl ⟨version, .given hparse⟩
      | error error => exact .inr ⟨written, error, rfl, hparse⟩
  obtain ⟨target, htarget⟩ | ⟨text, error, htext, herror⟩ := hread .latest (value? .target)
  · obtain ⟨version, hversion⟩ | ⟨text, error, htext, herror⟩ :=
      hread (.ofParts [1]) (value? .initVersion)
    · obtain hnumbered | ⟨text, htext, hlatest, -⟩ := isNumbered_of_chosen hversion
      · exact .inl ⟨⟨_, _, ⟨_, _⟩, target, version, _⟩,
          ⟨rfl, rfl, rfl, rfl, htarget, hversion, hnumbered, rfl⟩⟩
      · exact .inr ⟨_, .initUnbounded htarget htext hlatest⟩
    · exact .inr ⟨_, .initVersion htarget htext herror⟩
  · exact .inr ⟨_, .target htext herror⟩

theorem ofLayer_eq_ok_iff :
    ofLayer environmentUrl layer = .ok settings ↔
      Resolves (leafOr? environmentUrl layer) settings := by
  refine ⟨fun h => ?_, ofLayer_of_resolves⟩
  obtain ⟨found, hfound⟩ | ⟨error, herror⟩ :=
    exists_resolves_or_fails (leafOr? environmentUrl layer)
  · obtain rfl : found = settings := Except.ok.inj ((ofLayer_of_resolves hfound).symm.trans h)
    exact hfound
  · cases (ofLayer_of_fails herror).symm.trans h

theorem ofLayer_eq_error_iff :
    ofLayer environmentUrl layer = .error error ↔ Fails (leafOr? environmentUrl layer) error := by
  refine ⟨fun h => ?_, ofLayer_of_fails⟩
  obtain ⟨found, hfound⟩ | ⟨other, hother⟩ :=
    exists_resolves_or_fails (leafOr? environmentUrl layer)
  · cases (ofLayer_of_resolves hfound).symm.trans h
  · obtain rfl : other = error := Except.error.inj ((ofLayer_of_fails hother).symm.trans h)
    exact hother

/-- Settings see nothing of a layer but its leaves. -/
theorem ofLayer_congr {left right : Layer} (h : ∀ leaf, left.leaf? leaf = right.leaf? leaf) :
    ofLayer environmentUrl left = ofLayer environmentUrl right := by
  simp only [ofLayer, h]

end Settings

/-! ### The words of a command -/

/-- The value that the words of a command give for a leaf. -/
def Command.given? : Command → Settings.Leaf → Option String
  | info _ options, leaf | validate options, leaf => optionOf options leaf
  | init version description options, leaf =>
    match leaf with
    | .migrations => none
    | .initVersion => version
    | .initDescription => description
    | leaf => optionOf options leaf
where
  /-- The option that gives the leaf. -/
  optionOf (options : Settings.Options) : Settings.Leaf → Option String
    | .url => options.databaseUrl
    | .migrations => options.migrations
    | .schema => options.schema
    | .tableName => options.tableName
    | .target => options.target
    | .initVersion | .initDescription => none

/-- A command has empty sections in its layer, and they give nothing that its words do not. -/
theorem Command.leaf?_layer (command : Command) (leaf : Settings.Leaf) :
    command.layer.leaf? leaf = command.given? leaf := by
  have htable (options : Settings.Options) :
      options.table.bind (·.schema) = options.schema ∧
        options.table.bind (·.name) = options.tableName := by
    obtain ⟨url, migrations, schema, name, target⟩ := options
    cases schema <;> cases name <;> exact ⟨rfl, rfl⟩
  cases leaf with
  | schema => cases command <;> exact (htable _).1
  | tableName => cases command <;> exact (htable _).2
  | _ => cases command <;> rfl

namespace Settings

/-- **What counts of several layers**, and what settings make of it. -/
theorem settings_by_layers :
    (∀ layers : List Layer,
      (∀ leaf value, (Layer.mergeAll layers).leaf? leaf = some value ↔
        Layer.LastGives layers leaf value) ∧
      ∀ part, (Layer.mergeAll layers).has part = true ↔ ∃ layer ∈ layers, layer.has part = true) ∧
    (∀ first second third : Layer,
      (first.merge second).merge third = first.merge (second.merge third)) ∧
    (∀ layer : Layer, Layer.empty.merge layer = layer ∧ layer.merge .empty = layer) ∧
    (∀ (environmentUrl : Option String) (earlier later : List Layer) (layer : Layer), layer.Silent →
      ofLayer environmentUrl (.mergeAll (earlier ++ layer :: later)) =
        ofLayer environmentUrl (.mergeAll (earlier ++ later))) ∧
    (∀ (command : Command) (leaf : Leaf), command.layer.leaf? leaf = command.given? leaf) ∧
    ∀ (environmentUrl : Option String) (file commandLine : Layer),
      let value? := effective? environmentUrl file commandLine
      let resolved := ofLayer environmentUrl (.mergeAll [file, commandLine])
      (∀ settings, resolved = .ok settings ↔ Resolves value? settings) ∧
      (∀ error, resolved = .error error ↔ Fails value? error) ∧
      ∀ settings, resolved = .ok settings →
        ∀ (world : World) (table : Ledger.Table) (description shown : String),
          (Program.run world (Ledger.start table settings.initVersion description).run).result ≠
            .error (.unmarkable shown) := by
  refine ⟨fun layers => ⟨fun leaf value => Layer.leaf?_mergeAll_eq_some_iff, fun part => ?_⟩,
    Layer.merge_assoc, fun layer => ⟨layer.empty_merge, layer.merge_empty⟩,
    fun environmentUrl earlier later layer hsilent => ?_, Command.leaf?_layer,
    fun environmentUrl file commandLine => ?_⟩
  · rw [Layer.has_mergeAll, List.any_eq_true]
  · exact ofLayer_congr (Layer.leaf?_mergeAll_of_silent hsilent earlier later)
  · rw [← leafOr?_mergeAll]
    refine ⟨fun settings => ofLayer_eq_ok_iff, fun error => ofLayer_eq_error_iff,
      fun settings hsettings world table description shown hunmarkable => ?_⟩
    have hnumbered := (ofLayer_eq_ok_iff.mp hsettings).isNumbered
    have hwithin := Ledger.within_start table settings.initVersion description
    have hbound := (Program.of_within hwithin world).2 _ hunmarkable shown rfl
    rw [hnumbered] at hbound
    cases hbound

/-- The file names the table, the command line gives it another name within the same schema, and a
layer of empty sections stands between them. -/
theorem settings_by_layers_of_renamed_table :
    let file : Layer := ⟨none, some ⟨none⟩, some ⟨some ⟨some "internal", some "history"⟩, some "3",
      some "latest", none⟩⟩
    let empty : Layer := ⟨some ⟨none⟩, none, some ⟨some ⟨none, none⟩, none, none, none⟩⟩
    let command : Command := .init (some "v2_0") none { Options.none with tableName := some "runs" }
    let settings : Settings := ⟨some "postgres://", "migrations", ⟨"internal", "runs"⟩,
      .ofParts [3], .ofParts [2, 0], "<< Init >>"⟩
    empty.Silent ∧
      ofLayer (some "postgres://") (.mergeAll [file, empty, command.layer]) = .ok settings ∧
      ∀ (world : World) (table : Ledger.Table) (description shown : String),
        (Program.run world (Ledger.start table settings.initVersion description).run).result ≠
          .error (.unmarkable shown) := by
  intro file empty command settings
  have hempty : empty.Silent := {
    database := by rintro _ ⟨⟩; rfl
    directories := nofun
    ledger := by rintro _ ⟨⟩; exact ⟨rfl, rfl, rfl⟩
    table := by rintro _ _ ⟨⟩ ⟨⟩; exact ⟨rfl, rfl⟩ }
  obtain ⟨-, -, -, hsilent, -, hresolved⟩ := settings_by_layers
  obtain ⟨hok, -, hstart⟩ := hresolved (some "postgres://") file command.layer
  have hsettings := (hok settings).mpr
    ⟨rfl, rfl, rfl, rfl, .given (by decide), .given (by decide), rfl, rfl⟩
  refine ⟨hempty, ?_, hstart settings hsettings⟩
  exact (hsilent (some "postgres://") [file] [command.layer] empty hempty).trans hsettings

end Settings

end MigrationStatus
