import PageScript.CommandLine.Request
import PageScript.Proofs.Settings.Sources

namespace PageScript.Settings

open Validation

/-!
# Which source decides a setting

A setting has the value of the highest source that states it: what a caller states goes
over the environment, the environment over the settings text, and the settings text over
the default.  The command line states every flag, whether or not it is given.  So no
variable and no settings text ever shows a flag that is not given, and sections alone
are left to them.
-/

/-! ## Settings -/

/-- A setting: its section, if it has one, its name, and how it is checked and held. -/
structure Setting where
  type : Type
  sectionName? : Option String
  name : String
  default : type
  check : Value → Checked type
  held : Settings → type

namespace Setting

/-- A setting that is a flag. -/
def flag (name : String) (held : Settings → Bool) : Setting :=
  ⟨Bool, none, name, false, truth, held⟩

/-- The flags. -/
def flags : List Setting :=
  [flag "json_output" (·.jsonOutput), flag "quiet" (·.quiet), flag "verbose" (·.verbose),
   flag "log_json" (·.logJson)]

/-- The fields of sections. -/
def fields : List Setting :=
  [⟨String, some "build", "entry", "Mist.hsx", text, (·.build.entry)⟩,
   ⟨Option World.Path, some "build", "base_dir", none, optionalPath, (·.build.baseDirectory)⟩,
   ⟨String, some "loader", "block_tag", "hsx", text, (·.loader.blockTag)⟩,
   ⟨List String, some "loader", "clone_tags", ["img", "video", "canvas", "div"], list text,
     (·.loader.cloneTags)⟩,
   ⟨Float, some "loader", "timeout", 10.0, number, (·.loader.timeout)⟩,
   ⟨Bool, some "plugins", "enabled", true, truth, (·.plugins.enabled)⟩,
   ⟨String, some "plugins", "local_dir", ".hsx/plugins", text, (·.plugins.localDirectory)⟩]

/-- What a layer states for a setting. -/
def stated? (setting : Setting) (layer : Value) : Option Value :=
  match setting.sectionName? with
  | none => entry? setting.name layer.entries
  | some sectionName => fieldOf? setting.name ( entry? sectionName layer.entries)

/-- What the first layer that states a setting makes of it, or its default. -/
def decided (setting : Setting) (layers : List Value) : Checked setting.type :=
  match layers.findSome? setting.stated? with
  | some value => setting.check value
  | none => .ok setting.default

end Setting

/-! ## Checks that succeed -/

section Checks

variable {α β γ : Type}

theorem both_eq_ok_iff
    {combine : α → β → γ}
    {first : Checked α}
    {second : Checked β}
    {result : γ} :
    Checked.both combine first second = .ok result ↔
      ∃ left right, first = .ok left ∧ second = .ok right ∧ combine left right = result := by
  cases first <;> cases second <;> simp [Checked.both]

theorem apply_eq_ok_iff
    {function : Checked (α → β)}
    {argument : Checked α}
    {result : β} :
    Checked.apply function argument = .ok result ↔
      ∃ left right, function = .ok left ∧ argument = .ok right ∧ left right = result :=
  both_eq_ok_iff

theorem mapError_eq_ok_iff
    {ε δ : Type}
    {outcome : Except ε α}
    {change : ε → δ}
    {result : α} :
    outcome.mapError change = .ok result ↔ outcome = .ok result := by
  cases outcome <;> simp [Except.mapError]

/-- A field with a default is what its entry is checked to be, or the default. -/
theorem optional_eq_ok_iff
    {name : String}
    {default result : α}
    {check : Value → Checked α}
    {entries : List (Value × Value)} :
    optional name default check entries = .ok result ↔
      (match entry? name entries with
        | some value => check value
        | none => .ok default) = .ok result :=
  mapError_eq_ok_iff

end Checks

/-- The settings that are accepted hold what each field is checked to be. -/
theorem fields_of_ofEntries
    {entries : List (Value × Value)}
    {settings : Settings}
    (accepted : ofEntries entries = .ok settings) :
    (optional "json_output" false truth entries = .ok settings.jsonOutput ∧
        optional "quiet" false truth entries = .ok settings.quiet ∧
        optional "verbose" false truth entries = .ok settings.verbose ∧
        optional "log_json" false truth entries = .ok settings.logJson) ∧
      optional "build" {} buildSection entries = .ok settings.build ∧
      optional "loader" {} loaderSection entries = .ok settings.loader ∧
      optional "plugins" {} pluginSection entries = .ok settings.plugins := by
  simp only [ofEntries, both_eq_ok_iff, apply_eq_ok_iff] at accepted
  obtain
    ⟨_, _, ⟨_, _, ⟨_, _, ⟨_, _, ⟨_, _, ⟨_, _, ⟨_, _, ⟨_, _, ⟨_, _, -, -, rfl⟩,
      jsonOutput, rfl⟩, quiet, rfl⟩, verbose, rfl⟩, logJson, rfl⟩, build, rfl⟩,
      loader, rfl⟩, plugins, rfl⟩, -, rfl⟩ :=
    accepted
  exact ⟨⟨jsonOutput, quiet, verbose, logJson⟩, build, loader, plugins⟩

/-- A flag is read from its own entry. -/
theorem flag_of_ofEntries
    {entries : List (Value × Value)}
    {settings : Settings}
    (accepted : ofEntries entries = .ok settings) :
    ∀ setting ∈ Setting.flags,
      setting.sectionName? = none ∧
        optional setting.name setting.default setting.check entries =
          .ok (setting.held settings) := by
  obtain ⟨⟨jsonOutput, quiet, verbose, logJson⟩, -⟩ := fields_of_ofEntries accepted
  simp only [Setting.flags, List.forall_mem_cons]
  exact ⟨⟨rfl, jsonOutput⟩, ⟨rfl, quiet⟩, ⟨rfl, verbose⟩, ⟨rfl, logJson⟩, nofun⟩

/-- A section is a record whose bindings are accepted, or it is missing. -/
inductive SectionIs
    (accepted : List (Value × Value) → Prop)
    (missing : Prop) :
    Option Value → Prop where
  | stated {value : Value} :
      value.isRecord = true → accepted value.entries → SectionIs accepted missing (some value)
  | missing :
      missing → SectionIs accepted missing none

theorem SectionIs.imp
    {accepted accepted' : List (Value × Value) → Prop}
    {missing missing' : Prop}
    {stated? : Option Value}
    (found : SectionIs accepted missing stated?)
    (stated : ∀ entries, accepted entries → accepted' entries)
    (absent : missing → missing') :
    SectionIs accepted' missing' stated? := by
  cases found with
  | stated isRecord holds =>
      exact .stated isRecord (stated _ holds)
  | missing holds =>
      exact .missing (absent holds)

/-- A section that is accepted is a record or missing. -/
theorem sectionIs_of_optional
    {α : Type}
    {name typeName : String}
    {default result : α}
    {check : List (Value × Value) → Checked α}
    {entries : List (Value × Value)}
    (accepted : optional name default (asSection typeName check) entries = .ok result) :
    SectionIs (fun inner => check inner = .ok result) (result = default)
      ( entry? name entries) := by
  have read := optional_eq_ok_iff.mp accepted
  split at read
  · next value found =>
      rw [asSection] at read
      split at read
      · next isRecord =>
          rw [found]
          exact .stated isRecord read
      · cases read
  · next absent =>
      rw [absent]
      exact .missing (Except.ok.inj read).symm

/-- A field is read from its section, or has its default where there is no section. -/
theorem field_of_ofEntries
    {entries : List (Value × Value)}
    {settings : Settings}
    (accepted : ofEntries entries = .ok settings) :
    ∀ setting ∈ Setting.fields, ∀ sectionName, setting.sectionName? = some sectionName →
      SectionIs
        (fun inner =>
          optional setting.name setting.default setting.check inner =
            .ok (setting.held settings))
        (setting.held settings = setting.default) ( entry? sectionName entries) := by
  obtain ⟨-, build, loader, plugins⟩ := fields_of_ofEntries accepted
  have buildIs := sectionIs_of_optional build
  have loaderIs := sectionIs_of_optional loader
  have pluginsIs := sectionIs_of_optional plugins
  simp only [both_eq_ok_iff, apply_eq_ok_iff] at buildIs loaderIs pluginsIs
  simp only [Setting.fields, List.forall_mem_cons, Option.some.injEq, forall_eq']
  refine ⟨?_, ?_, ?_, ?_, ?_, ?_, ?_, nofun⟩
  · refine buildIs.imp ?_ (congrArg BuildSettings.entry)
    rintro inner ⟨_, _, entry, -, same⟩
    rw [← same]
    exact entry
  · refine buildIs.imp ?_ (congrArg BuildSettings.baseDirectory)
    rintro inner ⟨_, _, -, baseDirectory, same⟩
    rw [← same]
    exact baseDirectory
  · refine loaderIs.imp ?_ (congrArg LoaderSettings.blockTag)
    rintro inner ⟨_, _, ⟨_, _, blockTag, -, rfl⟩, -, same⟩
    rw [← same]
    exact blockTag
  · refine loaderIs.imp ?_ (congrArg LoaderSettings.cloneTags)
    rintro inner ⟨_, _, ⟨_, _, -, cloneTags, rfl⟩, -, same⟩
    rw [← same]
    exact cloneTags
  · refine loaderIs.imp ?_ (congrArg LoaderSettings.timeout)
    rintro inner ⟨_, _, ⟨_, _, -, -, rfl⟩, timeout, same⟩
    rw [← same]
    exact timeout
  · refine pluginsIs.imp ?_ (congrArg PluginSettings.enabled)
    rintro inner ⟨_, _, enabled, -, same⟩
    rw [← same]
    exact enabled
  · refine pluginsIs.imp ?_ (congrArg PluginSettings.localDirectory)
    rintro inner ⟨_, _, -, localDirectory, same⟩
    rw [← same]
    exact localDirectory

/-! ## Layers that decide -/

/-- No setting can be a table. -/
theorem Setting.check_table
    {setting : Setting}
    (member : setting ∈ Setting.flags ++ Setting.fields)
    (entries : List (Value × Value)) :
    ∃ issues, setting.check (.table entries) = .error issues := by
  simp only [Setting.flags, Setting.fields, List.mem_append, List.mem_cons,
    List.not_mem_nil, or_false] at member
  rcases member with (rfl | rfl | rfl | rfl) | rfl | rfl | rfl | rfl | rfl | rfl | rfl <;>
    exact ⟨_, rfl⟩

/-- What layers state over each other is what the first of them states, if it is no table. -/
theorem findSome?_eq_of_foldr
    {layers : List Value}
    {states : Value → Option Value}
    {stated? : Option Value}
    (found : (layers.map states).foldr laidOver? none = stated?)
    (plain : ∀ stated, stated? = some stated → ¬ IsTable stated) :
    layers.findSome? states = stated? := by
  induction layers with
  | nil =>
      exact found
  | cons layer rest inductionHypothesis =>
      rw [List.map_cons, List.foldr_cons] at found
      rw [List.findSome?_cons]
      rcases here : states layer with _ | value
      · rw [here] at found
        exact inductionHypothesis found
      · rw [here] at found
        cases stated? with
        | none =>
            cases (laidOver?_eq_none found).1
        | some stated =>
            exact or_eq_of_laidOver? found (plain stated rfl)

/-- A setting that is checked in what the layers state over each other is decided by the first. -/
theorem Setting.decided_of_foldr
    {setting : Setting}
    {layers : List Value}
    {result : setting.type}
    (member : setting ∈ Setting.flags ++ Setting.fields)
    (accepted :
      (match (layers.map setting.stated?).foldr laidOver? none with
        | some value => setting.check value
        | none => .ok setting.default) = .ok result) :
    setting.decided layers = .ok result := by
  rw [Setting.decided, findSome?_eq_of_foldr rfl, accepted]
  intro stated same
  rintro ⟨entries, rfl⟩
  rw [same] at accepted
  obtain ⟨issues, refused⟩ := Setting.check_table member entries
  cases refused.symm.trans accepted

/-- The first layer that states a flag decides it. -/
theorem decided_flag
    {setting : Setting}
    {layers : List Value}
    {result : setting.type}
    (member : setting ∈ Setting.flags)
    (areLayers : ∀ layer ∈ layers, IsLayer layer)
    (outside : setting.sectionName? = none)
    (read :
      optional setting.name setting.default setting.check (merged layers).entries =
        .ok result) :
    setting.decided layers = .ok result := by
  refine Setting.decided_of_foldr (List.mem_append_left _ member) ?_
  have states : setting.stated? = fun layer => entry? setting.name layer.entries := by
    funext layer
    rw [Setting.stated?, outside]
  rw [states, ← entry?_merged areLayers]
  exact optional_eq_ok_iff.mp read

/-- The first of two layers that states a field of a section decides it. -/
theorem decided_field
    {setting : Setting}
    {sectionName : String}
    {first second third : Value}
    {result : setting.type}
    (member : setting ∈ Setting.fields)
    (inSection : setting.sectionName? = some sectionName)
    (areLayers : ∀ layer ∈ [first, second, third], IsLayer layer)
    (silent : entry? sectionName first.entries = none)
    (apart :
      ∀ stated, entry? sectionName second.entries = some stated → KeysApart stated.entries)
    (read :
      SectionIs
        (fun inner =>
          optional setting.name setting.default setting.check inner = .ok result)
        (result = setting.default)
        ( entry? sectionName (merged [first, second, third]).entries)) :
    setting.decided [first, second, third] = .ok result := by
  refine Setting.decided_of_foldr (List.mem_append_right _ member) ?_
  rw [entry?_merged areLayers] at read
  simp only [List.map_cons, List.map_nil, List.foldr_cons, List.foldr_nil, laidOver?_none,
    Setting.stated?, inSection, silent] at read ⊢
  generalize found :
    laidOver? ( entry? sectionName second.entries) ( entry? sectionName third.entries) =
      stated? at read
  cases read with
  | missing absent =>
      obtain ⟨fromSecond, fromThird⟩ := laidOver?_eq_none found
      rw [fromSecond, fromThird]
      exact congrArg Except.ok absent.symm
  | stated isRecord field =>
      have field := optional_eq_ok_iff.mp field
      rwa [entry?_of_laidOver? apart found isRecord] at field

/-! ## Loading -/

section Loading

variable {request : Request} {settings : Settings}

/-- A caller states for a setting what its flags are, beside the two places. -/
theorem stated?_requestLayer
    (request : Request)
    (root : World.Path)
    (configPath : Option World.Path)
    {setting : Setting}
    (member : setting ∈ Setting.flags ++ Setting.fields) :
    setting.stated? (request.layer root configPath) =
      setting.stated? (Value.record request.flags) := by
  have same :
      ∀ name, name ≠ "project_root" → name ≠ "config_path" →
        entry? name (request.layer root configPath).entries =
          entry? name (Value.record request.flags).entries :=
    fun name notRoot notPath => entry?_requestLayer request root configPath notRoot notPath
  simp only [Setting.flags, Setting.fields, List.mem_append, List.mem_cons,
    List.not_mem_nil, or_false] at member
  rcases member with (rfl | rfl | rfl | rfl) | rfl | rfl | rfl | rfl | rfl | rfl | rfl <;>
    simp [Setting.stated?, Setting.flag, same]

/-- A caller who states flags states no section. -/
theorem entry?_requestLayer_eq_none
    {request : Request}
    {name : String}
    (states : request.StatesFlags)
    (root : World.Path)
    (configPath : Option World.Path)
    (isSection : name ∈ sections.map (·.1)) :
    entry? name (request.layer root configPath).entries = none := by
  have outside :
      ∀ name ∈ sections.map (·.1),
        name ≠ "project_root" ∧ name ≠ "config_path" ∧ name ∉ flagNames := by
    decide
  obtain ⟨notRoot, notPath, noFlag⟩ := outside name isSection
  rw [entry?_requestLayer request root configPath notRoot notPath]
  have bound :
      (Value.record request.flags).entries.map (·.1) =
        (request.flags.map (·.1)).map Value.text := by
    simp [Value.record, Value.entries]
  exact entry?_eq_none_of_names bound fun listed => noFlag (states.known listed)

/-- A field belongs to a section that the environment can give, and has no mark in its name. -/
theorem Setting.exists_section
    {setting : Setting}
    (member : setting ∈ Setting.fields) :
    ∃ sectionName known,
      setting.sectionName? = some sectionName ∧
        (sectionName, known) ∈ sections ∧
        splitNesting (setting.name.toList.length + 1) [] setting.name.toList =
          [setting.name] := by
  simp only [Setting.fields, List.mem_cons, List.not_mem_nil, or_false] at member
  rcases member with rfl | rfl | rfl | rfl | rfl | rfl | rfl
  · exact ⟨"build", _, rfl, List.mem_cons_self, by decide⟩
  · exact ⟨"build", _, rfl, List.mem_cons_self, by decide⟩
  · exact ⟨"loader", _, rfl, .tail _ List.mem_cons_self, by decide⟩
  · exact ⟨"loader", _, rfl, .tail _ List.mem_cons_self, by decide⟩
  · exact ⟨"loader", _, rfl, .tail _ List.mem_cons_self, by decide⟩
  · exact ⟨"plugins", _, rfl, .tail _ (.tail _ List.mem_cons_self), by decide⟩
  · exact ⟨"plugins", _, rfl, .tail _ (.tail _ List.mem_cons_self), by decide⟩

/--
Whenever settings are loaded for a caller who states flags, each setting is what the first
of these makes of it that states it: the flags of the caller, the environment, and the
settings text in effect; and otherwise it has its default.  The environment states a flag
by the variable of its name.  It states a field of a section by the variable that joins
both names, if no variable gives the section as a whole.  The command line states all
flags, so that a flag holds exactly if it is given there.
-/
theorem highest_source_decides_settings
    (surroundings : World.Surroundings)
    (request : Request)
    (settings : Settings)
    (states : request.StatesFlags)
    (loaded : load surroundings request = .ok settings) :
    ∃ configPath fromText fromEnvironment,
      request.findPath surroundings = .ok configPath ∧
        textLayer surroundings configPath = .ok fromText ∧
        environmentLayer surroundings.environment = .ok fromEnvironment ∧
        (∀ setting ∈ Setting.flags ++ Setting.fields,
          setting.decided [Value.record request.flags, fromEnvironment, fromText] =
            .ok (setting.held settings)) ∧
        (∀ setting ∈ Setting.flags,
          setting.stated? fromEnvironment =
            ((smallVariables surroundings.environment).get?
              (namePrefix ++ setting.name)).map Value.text) ∧
        (∀ setting ∈ Setting.fields, ∀ sectionName value,
          setting.sectionName? = some sectionName →
            (smallVariables surroundings.environment).get? (namePrefix ++ sectionName) =
                none →
              ¬ IsTable value →
                (setting.stated? fromEnvironment = some value ↔
                  ∃ text,
                    (smallVariables surroundings.environment).get?
                          (fieldVariable sectionName setting.name) =
                        some text ∧
                      nestedValue sectionName [setting.name] text = .ok value)) ∧
        ∀ reading : CommandLine.Reading,
          request = reading.settingsRequest →
            settings.jsonOutput = reading.has "json" ∧
              settings.quiet = reading.has "quiet" ∧
              settings.verbose = reading.has "verbose" ∧
              settings.logJson = reading.has "log-json" := by
  obtain ⟨configPath, found, loaded⟩ := exists_of_bind_eq_ok loaded
  obtain ⟨fromText, textRead, loaded⟩ := exists_of_bind_eq_ok loaded
  obtain ⟨fromEnvironment, environmentRead, loaded⟩ := exists_of_bind_eq_ok loaded
  have accepted := mapError_eq_ok_iff.mp loaded
  obtain ⟨environmentIsLayer, plain, sectionsRead⟩ :=
    isLayer_of_environmentLayer environmentRead
  have areLayers :
      ∀ layer ∈
        [request.layer (request.projectRoot.getD (projectRootOf surroundings configPath))
            configPath, fromEnvironment, fromText],
        IsLayer layer := by
    simp only [List.forall_mem_cons]
    exact ⟨states.isLayer _ _, environmentIsLayer, isLayer_of_textLayer textRead, nofun⟩
  have decided :
      ∀ setting ∈ Setting.flags ++ Setting.fields,
        setting.decided [Value.record request.flags, fromEnvironment, fromText] =
          .ok (setting.held settings) := by
    intro setting member
    have sameAsFlags := stated?_requestLayer request
      (request.projectRoot.getD (projectRootOf surroundings configPath)) configPath member
    have decidedByLayers :
        setting.decided
            [request.layer (request.projectRoot.getD (projectRootOf surroundings configPath))
              configPath, fromEnvironment, fromText] =
          .ok (setting.held settings) := by
      rcases List.mem_append.mp member with isFlag | isField
      · obtain ⟨outside, read⟩ := flag_of_ofEntries accepted setting isFlag
        exact decided_flag isFlag areLayers outside read
      · obtain ⟨sectionName, known, inSection, isSection, -⟩ :=
          Setting.exists_section isField
        have read := field_of_ofEntries accepted setting isField sectionName inSection
        refine decided_field isField inSection areLayers ?_ ?_ read
        · exact entry?_requestLayer_eq_none states _ _ (List.mem_map_of_mem isSection)
        · intro stated given
          have sectionRead := sectionsRead _ isSection
          rw [given] at sectionRead
          exact keysApart_sectionValue? sectionRead
    simpa only [Setting.decided, List.findSome?_cons, sameAsFlags] using decidedByLayers
  refine
    ⟨configPath, fromText, fromEnvironment, found, textRead, environmentRead, decided, ?_, ?_,
      ?_⟩
  · simp only [Setting.flags, List.forall_mem_cons]
    exact
      ⟨plain _ (by decide), plain _ (by decide), plain _ (by decide), plain _ (by decide),
        nofun⟩
  · intro setting member sectionName value inSection unset notTable
    obtain ⟨_, known, same, isSection, splits⟩ := Setting.exists_section member
    obtain rfl := Option.some.inj (same.symm.trans inSection)
    rw [Setting.stated?, inSection]
    exact
      fieldOf?_sectionValue?_iff splits (nodup_keys_smallVariables _)
        (fun _ => isSmall_of_mem_smallVariables) unset (sectionsRead _ isSection) notTable
  · rintro reading rfl
    have decidedFlag :
        ∀ setting ∈ Setting.flags,
          setting.decided
              [Value.record reading.settingsRequest.flags, fromEnvironment, fromText] =
            .ok (setting.held settings) :=
      fun setting member => decided setting (List.mem_append_left _ member)
    simp only [Setting.flags, List.forall_mem_cons] at decidedFlag
    obtain ⟨jsonOutput, quiet, verbose, logJson, -⟩ := decidedFlag
    exact
      ⟨(Except.ok.inj jsonOutput).symm, (Except.ok.inj quiet).symm,
        (Except.ok.inj verbose).symm, (Except.ok.inj logJson).symm⟩

end Loading

/-- The command line states flags. -/
theorem statesFlags_settingsRequest
    (reading : CommandLine.Reading) :
    reading.settingsRequest.StatesFlags :=
  ⟨List.Subset.refl flagNames, (by decide : flagNames.Nodup)⟩

/-- Surroundings without files, and with variables for a flag and for a field of a section. -/
def surroundingsOfVariables : World.Surroundings :=
  { files := ⟨⟨[]⟩⟩
    directory := []
    home := "/"
    environment := ⟨[("HSX_JSON_OUTPUT", "true"), ("hsx_Build__entry", "app.hsx")]⟩
    pages := ⟨[]⟩ }

/-- What is read from a command line without a flag. -/
def readingWithoutFlags : CommandLine.Reading :=
  { others := ["parse", "a.hsx"] }

/-- The settings of a command line without a flag in these surroundings. -/
def settingsWithoutFlags : Settings :=
  { projectRoot := World.Path.ofLocation []
    build := { entry := "app.hsx" } }

/-- The variable of the section decides its field, and the flag does not hold. -/
theorem highest_source_decides_settings_of_variables :
    readingWithoutFlags.settingsRequest.StatesFlags ∧
      load surroundingsOfVariables readingWithoutFlags.settingsRequest =
        .ok settingsWithoutFlags ∧
      ∃ configPath fromText fromEnvironment,
        textLayer surroundingsOfVariables configPath = .ok fromText ∧
          environmentLayer surroundingsOfVariables.environment = .ok fromEnvironment ∧
          (∀ setting ∈ Setting.flags ++ Setting.fields,
            setting.decided
                [Value.record readingWithoutFlags.settingsRequest.flags, fromEnvironment,
                  fromText] =
              .ok (setting.held settingsWithoutFlags)) ∧
          settingsWithoutFlags.jsonOutput = readingWithoutFlags.has "json" := by
  have states := statesFlags_settingsRequest readingWithoutFlags
  have loaded :
      load surroundingsOfVariables readingWithoutFlags.settingsRequest =
        .ok settingsWithoutFlags :=
    rfl
  obtain ⟨configPath, fromText, fromEnvironment, -, textRead, environmentRead, decided, -, -,
      commandLine⟩ :=
    highest_source_decides_settings surroundingsOfVariables
      readingWithoutFlags.settingsRequest settingsWithoutFlags states loaded
  exact
    ⟨states, loaded, configPath, fromText, fromEnvironment, textRead, environmentRead, decided,
      (commandLine readingWithoutFlags rfl).1⟩

/--
A variable gives a flag that the command line does not give, and nothing else does.  It
would decide the flag, but the flag does not hold.
-/
theorem variable_of_flag_is_hidden :
    CommandLine.programRule.read ["parse", "a.hsx"] = .ok readingWithoutFlags ∧
      readingWithoutFlags.has "json" = false ∧
      readingWithoutFlags.settingsRequest.findPath surroundingsOfVariables = .ok none ∧
      (∃ fromEnvironment,
        environmentLayer surroundingsOfVariables.environment = .ok fromEnvironment ∧
          (Setting.flag "json_output" (·.jsonOutput)).decided
              [Value.record [], fromEnvironment, .table []] =
            .ok true) ∧
      load surroundingsOfVariables readingWithoutFlags.settingsRequest =
        .ok settingsWithoutFlags ∧
      settingsWithoutFlags.jsonOutput = false :=
  ⟨rfl, rfl, rfl, ⟨_, rfl, rfl⟩, rfl, rfl⟩

end PageScript.Settings
