import Mathlib.Data.String.Basic
import PageScript.Proofs.Plugin.Registering

namespace PageScript.Plugin

open World

/-!
# Discovering plugins

A discovery registers the classes of plugin files that implement something and can be
constructed, the files in the order of their names and the classes of a file in
alphabetical order.  Nothing in the files stops it.  Of several classes that would be
registered under one name only the first one is, and this happens in one place only:
a class of a file without a name before its ending, and one of a file whose name
before its ending is that ending again.
-/

/-! ## What plugin files offer -/

/-- A class of a plugin file. -/
structure FileClass where
  file : String
  plugin : PluginClass

namespace FileClass

/-- The name that the class of a file is registered under. -/
def registrationName (offer : FileClass) : String :=
  "hsxctl_local_plugin_" ++ Manager.stem offer.file ++ "." ++ offer.plugin.name

/-- What is listed of an object of the class. -/
def listed (offer : FileClass) : Listed :=
  ⟨offer.registrationName, offer.plugin, false⟩

/-- The order in which classes of files are registered. -/
def Precedes (first second : FileClass) : Prop :=
  first.file < second.file ∨
    first.file = second.file ∧ first.plugin.name < second.plugin.name

end FileClass

/--
A file of a directory offers a class: the name of the file is that of a plugin file, it can
be loaded, and the class implements something and can be constructed.
-/
structure Offered
    (catalog : Catalog)
    (files : FileTree)
    (place : Location)
    (offer : FileClass) :
    Prop where
  listed : offer.file ∈ files.namesIn place
  ends : ".py".toList <:+ offer.file.toList
  starts : offer.file.toList.head? ≠ some '_'
  readable : files.entry? (place ++ [offer.file]) ≠ some .directory
  loads :
    ∃ classes,
      catalog.get? (place ++ [offer.file]) = some (.classes classes) ∧
        offer.plugin ∈ classes
  implements : offer.plugin.hasHooks = true
  constructs : offer.plugin.constructorFails = false

/-- The place of the directory that a discovery looks into. -/
def LeadsTo (surroundings : Surroundings) (directory : Option Path) (place : Location) : Prop :=
  ∃ path,
    directory = some path ∧ path.hasNull = false ∧
      surroundings.files.find surroundings.directory path = .ok (place, .directory)

/-- The names of plugin files in a directory, in order. -/
def pluginNames (files : FileTree) (place : Location) : List String :=
  ((files.namesIn place).filter Manager.isPluginName).mergeSort fun a b => decide (a ≤ b)

/-- The classes that a plugin file offers, in order. -/
def fileClasses (catalog : Catalog) (files : FileTree) (place : Location) (file : String) :
    List FileClass :=
  match files.entry? (place ++ [file]), catalog.get? (place ++ [file]) with
  | some .directory, _ => []
  | _, some (.classes classes) =>
      ((classes.mergeSort fun a b => decide (a.name ≤ b.name)).filter
        PluginClass.isRegistrable).map (⟨file, ·⟩)
  | _, _ => []

/-- The classes that the plugin files of a directory offer, in order. -/
def placeClasses (catalog : Catalog) (files : FileTree) (place : Location) : List FileClass :=
  (pluginNames files place).flatMap (fileClasses catalog files place)

/-! ## Loading files -/

section Loading

variable
  {manager : Manager}
  {catalog : Catalog}

theorem name_below
    (directory : Path)
    (file : String) :
    Path.name { directory with parts := directory.parts ++ [file] } = file := by
  rw [Path.name, List.getLast?_concat]
  rfl

/-- A manager gains the classes of files that are enlisted by their names. -/
def Manager.Loads (manager after : Manager) (offers : List FileClass) : Prop :=
  manager.Gains after
    ((enlist FileClass.registrationName manager.names offers).map FileClass.listed)

theorem Manager.Loads.trans
    {after last : Manager}
    {first second : List FileClass}
    (loads : manager.Loads after first)
    (further : after.Loads last second) :
    manager.Loads last (first ++ second) := by
  have names :
      after.names =
        manager.names ++
          (enlist FileClass.registrationName manager.names first).map
            FileClass.registrationName := by
    rw [loads.names, List.map_map]
    rfl
  rw [Manager.Loads, names] at further
  rw [Manager.Loads, enlist_append, List.map_append]
  exact Manager.Gains.trans loads further

/-- Of a plugin file the offered classes are registered that are enlisted by their names. -/
theorem yields_loadFile
    (sound : manager.Sound)
    (surroundings : Surroundings)
    (place : Location)
    (directory : Path)
    (file : String) :
    Yields
      (manager.loadFile catalog (place ++ [file])
        { directory with parts := directory.parts ++ [file] })
      surroundings
      fun after => manager.Loads after (fileClasses catalog surroundings.files place file) := by
  have failed :
      Yields
        (do
          log .warning
            ("Failed to load local plugin " ++
              Path.toString { directory with parts := directory.parts ++ [file] })
            failureMark
          pure manager)
        surroundings
        fun after => manager.Loads after [] :=
    .log_bind fun _ => .pure sound.gains_nil
  have registered :
      ∀ classes : List PluginClass,
        Yields
          (manager.registerClasses
            ("hsxctl_local_plugin_" ++
              Manager.stem (Path.name { directory with parts := directory.parts ++ [file] }))
            (Path.toString { directory with parts := directory.parts ++ [file] }) classes)
          surroundings
          fun after =>
            manager.Loads after
              ((classes.filter PluginClass.isRegistrable).map (⟨file, ·⟩)) := by
    intro classes
    refine (yields_registerClasses _ _ classes sound surroundings).weaken fun after gains => ?_
    rw [name_below] at gains
    rw [Manager.Loads, enlist_map, List.map_map]
    exact gains
  rw [Manager.loadFile]
  refine .get_bind ?_
  rw [fileClasses]
  rcases surroundings.files.entry? (place ++ [file]) with _ | _ | bytes
  · rcases catalog.get? (place ++ [file]) with _ | _ | classes
    · exact .pure sound.gains_nil
    · exact failed
    · exact registered _
  · rcases catalog.get? (place ++ [file]) with _ | _ | classes <;>
      exact failed
  · rcases catalog.get? (place ++ [file]) with _ | _ | classes
    · exact .pure sound.gains_nil
    · exact failed
    · exact registered _

/-- Of several plugin files the offered classes are registered that are enlisted. -/
theorem yields_loadFiles
    (sound : manager.Sound)
    (surroundings : Surroundings)
    (place : Location)
    (directory : Path)
    (files : List String) :
    Yields
      (manager.loadFiles catalog
        (files.map fun file =>
          (place ++ [file], { directory with parts := directory.parts ++ [file] })))
      surroundings
      fun after =>
        manager.Loads after
          (files.flatMap (fileClasses catalog surroundings.files place)) := by
  induction files generalizing manager surroundings with
  | nil =>
      exact .pure sound.gains_nil
  | cons file rest inductionHypothesis =>
      rw [List.map_cons, Manager.loadFiles, List.flatMap_cons]
      refine (yields_loadFile sound surroundings place directory file).bind ?_
      intro loaded log loads
      refine (inductionHypothesis loads.sound _).weaken fun after further => ?_
      exact loads.trans further

/-! ## Looking into a directory -/

/-- Whether there is a directory to look into, or why that cannot be told. -/
theorem directory_cases
    (surroundings : Surroundings)
    (path : Path) :
    (∃ fault, surroundings.isDirectory path = .error fault) ∨
      surroundings.isDirectory path = .ok false ∨
        surroundings.isDirectory path = .ok true ∧
          ∃ place,
            path.hasNull = false ∧
              surroundings.files.find surroundings.directory path =
                .ok (place, .directory) := by
  rw [Surroundings.isDirectory]
  cases path.hasNull with
  | true =>
      exact .inr (.inl rfl)
  | false =>
      rw [if_neg Bool.false_ne_true, Surroundings.named, FileTree.isDirectory?]
      split
      · next place found => exact .inr (.inr ⟨rfl, place, rfl, found⟩)
      · exact .inr (.inl rfl)
      · exact .inr (.inl rfl)
      · exact .inr (.inl rfl)
      · exact .inl ⟨_, rfl⟩

/-- The directory that a discovery looks into stands in one place. -/
theorem LeadsTo.unique
    {surroundings : Surroundings}
    {directory : Option Path}
    {place other : Location}
    (first : LeadsTo surroundings directory place)
    (second : LeadsTo surroundings directory other) :
    place = other := by
  obtain ⟨path, rfl, -, found⟩ := first
  obtain ⟨path, given, -, foundToo⟩ := second
  cases given
  rw [found] at foundToo
  cases foundToo
  rfl

/-- The classes that the plugin files of a directory offer, if there is one. -/
def HasOffers
    (catalog : Catalog)
    (surroundings : Surroundings)
    (directory : Option Path)
    (offers : List FileClass) :
    Prop :=
  (∃ place,
      LeadsTo surroundings directory place ∧
        offers = placeClasses catalog surroundings.files place) ∨
    (∀ place, ¬LeadsTo surroundings directory place) ∧ offers = []

/-- The fault that keeps a discovery from looking into its directory. -/
def StopsDiscovery (surroundings : Surroundings) (directory : Option Path) (fault : Fault) :
    Prop :=
  ∃ path, directory = some path ∧ surroundings.isDirectory path = .error fault

/-- What looking into a directory comes to: a fault, or what its files offer is loaded. -/
def Manager.Looks
    (manager : Manager)
    (catalog : Catalog)
    (surroundings : Surroundings)
    (directory : Option Path)
    (outcome : Except Fault Manager) :
    Prop :=
  (∃ fault, StopsDiscovery surroundings directory fault ∧ outcome = .error fault) ∨
    (∀ fault, ¬StopsDiscovery surroundings directory fault) ∧
      ∃ after offers,
        outcome = .ok after ∧ HasOffers catalog surroundings directory offers ∧
          manager.Loads after offers

theorem Manager.Sound.looks_nowhere
    (sound : manager.Sound)
    (surroundings : Surroundings) :
    manager.Looks catalog surroundings none (.ok manager) := by
  refine .inr ⟨?_, manager, [], rfl, .inr ⟨?_, rfl⟩, sound.gains_nil⟩
  · rintro fault ⟨path, given, -⟩
    cases given
  · rintro place ⟨path, given, -⟩
    cases given

/-- Looking into a directory stops only if it cannot be told whether it is one. -/
theorem yields_loadDirectory
    (sound : manager.Sound)
    (surroundings : Surroundings)
    (path : Path) :
    Yields (manager.loadDirectory catalog path) surroundings
      (manager.Looks catalog surroundings (some path)) := by
  have unstopped :
      ∀ holds,
        surroundings.isDirectory path = .ok holds →
          ∀ fault, ¬StopsDiscovery surroundings (some path) fault := by
    rintro holds known fault ⟨_, given, refused⟩
    cases given
    rw [known] at refused
    cases refused
  rw [Manager.loadDirectory]
  refine .get_bind ?_
  rcases directory_cases surroundings path with
    ⟨fault, refused⟩ | other | ⟨isDirectory, place, noNull, found⟩
  · rw [refused]
    exact .pure (.inl ⟨fault, ⟨path, rfl, refused⟩, rfl⟩)
  · rw [other]
    refine .pure (.inr ⟨unstopped _ other, _, [], rfl, .inr ⟨?_, rfl⟩, sound.gains_nil⟩)
    rintro place ⟨_, given, noNull, found⟩
    cases given
    rw [Surroundings.isDirectory, noNull, if_neg Bool.false_ne_true, Surroundings.named,
      FileTree.isDirectory?, found] at other
    cases other
  · rw [isDirectory, found]
    refine (yields_loadFiles sound surroundings place path _).bind fun loaded log loads => ?_
    exact
      .pure (.inr ⟨unstopped _ isDirectory, loaded, _, rfl,
        .inl ⟨place, ⟨path, rfl, noNull, found⟩, rfl⟩, loads⟩)

/-- What a discovery leaves: the plugins with registered classes replaced, and what it found. -/
def Manager.Discovers
    (manager : Manager)
    (catalog : Catalog)
    (surroundings : Surroundings)
    (directory : Option Path)
    (ended : Manager × Except Fault Unit) :
    Prop :=
  (∃ fault,
      StopsDiscovery surroundings directory fault ∧ ended.2 = .error fault ∧
        ended.1.listing = manager.staying ++ manager.replacements ∧
        ended.1.discovered = manager.discovered) ∨
    (∀ fault, ¬StopsDiscovery surroundings directory fault) ∧ ended.2 = .ok () ∧
      ended.1.discovered = true ∧
        ∃ offers,
          HasOffers catalog surroundings directory offers ∧
            ended.1.listing =
              manager.staying ++ manager.replacements ++
                (enlist FileClass.registrationName
                  ((manager.staying ++ manager.replacements).map (·.name))
                  offers).map FileClass.listed

theorem yields_discover
    (sound : manager.Sound)
    (surroundings : Surroundings)
    (directory : Option Path) :
    Yields (manager.discover catalog directory) surroundings fun ended =>
      ended.1.Sound ∧ manager.Discovers catalog surroundings directory ended := by
  rw [Manager.discover]
  refine (yields_replaced sound surroundings).bind ?_
  rintro objects log ⟨objectsSound, kept, listed⟩
  have names : objects.names = (manager.staying ++ manager.replacements).map (·.name) := by
    rw [names_eq, listed]
  extract_lets conclude
  have finish :
      ∀ outcome later,
        objects.Looks catalog surroundings directory outcome →
          Yields (conclude outcome) { surroundings with log := later } fun ended =>
            ended.1.Sound ∧ manager.Discovers catalog surroundings directory ended := by
    rintro outcome later (⟨fault, stops, rfl⟩ | ⟨goesOn, after, offers, rfl, has, loads⟩)
    · exact .pure ⟨objectsSound, .inl ⟨fault, stops, rfl, listed, kept⟩⟩
    · refine .pure ⟨⟨loads.sound.nodup, loads.sound.known⟩,
        .inr ⟨goesOn, rfl, rfl, offers, has, ?_⟩⟩
      rw [← names, ← listed]
      exact loads.listing
  cases directory with
  | none =>
      exact finish _ log (objectsSound.looks_nowhere surroundings)
  | some path =>
      exact (yields_loadDirectory objectsSound _ path).bind finish

end Loading

/-! ## The order of discovery -/

/-- Names that are distinct are sorted strictly. -/
theorem pairwise_mergeSort_of_nodup
    {β : Type}
    {nameOf : β → String}
    {items : List β}
    (distinct : (items.map nameOf).Nodup) :
    (items.mergeSort fun first second => decide (nameOf first ≤ nameOf second)).Pairwise
      fun first second => nameOf first < nameOf second := by
  have sorted :
      (items.mergeSort fun first second => decide (nameOf first ≤ nameOf second)).Pairwise
        fun first second => decide (nameOf first ≤ nameOf second) = true := by
    refine List.pairwise_mergeSort ?_ ?_ items
    · intro first second third before after
      rw [decide_eq_true_eq] at before after ⊢
      exact before.trans after
    · intro first second
      rw [Bool.or_eq_true, decide_eq_true_eq, decide_eq_true_eq]
      exact le_total _ _
  have apart :
      (items.mergeSort fun first second => decide (nameOf first ≤ nameOf second)).Pairwise
        fun first second => nameOf first ≠ nameOf second := by
    refine List.pairwise_map.mp (?_ : List.Nodup _)
    exact ((List.mergeSort_perm items _).map nameOf).nodup_iff.mpr distinct
  refine (sorted.and apart).imp fun ⟨before, differs⟩ => ?_
  exact lt_of_le_of_ne (of_decide_eq_true before) differs

/-- A catalog of files whose classes have distinct names, as the names of a module have. -/
structure Catalog.WellFormed (catalog : Catalog) : Prop where
  distinct :
    ∀ place classes,
      catalog.get? place = some (.classes classes) → (classes.map (·.name)).Nodup
  /-- A name is an identifier, so there is no dot in it. -/
  undotted :
    ∀ place classes,
      catalog.get? place = some (.classes classes) →
        ∀ plugin ∈ classes, '.' ∉ plugin.name.toList

section Ordering

variable
  {catalog : Catalog}
  {files : FileTree}
  {place : Location}
  {offer other : FileClass}

theorem FileClass.not_precedes_self
    (offer : FileClass) :
    ¬offer.Precedes offer := by
  rintro (before | ⟨-, before⟩) <;> exact lt_irrefl _ before

theorem FileClass.Precedes.asymm
    (before : offer.Precedes other) :
    ¬other.Precedes offer := by
  rintro (after | ⟨same, after⟩) <;>
    rcases before with before | ⟨sameToo, before⟩
  · exact lt_asymm before after
  · exact lt_irrefl _ (sameToo ▸ after)
  · exact lt_irrefl _ (same ▸ before)
  · exact lt_asymm before after

/-- A directory lists no name twice. -/
theorem nodup_namesIn
    (nodup : files.entries.keys.Nodup)
    (place : Location) :
    (files.namesIn place).Nodup := by
  rw [FileTree.namesIn]
  have apart : files.entries.entries.Pairwise fun first second => first.1 ≠ second.1 :=
    List.pairwise_map.mp nodup
  refine apart.filterMap _ ?_
  rintro ⟨first, _⟩ ⟨second, _⟩ differs name given other givenToo rfl
  dsimp only at given givenToo differs
  split at given
  next firstLast =>
    split at givenToo
    next secondLast =>
      split at given
      · split at givenToo
        · next inFirst inSecond =>
            cases given
            cases givenToo
            -- The names and the places above them are the same, so the locations are.
            refine differs ?_
            rw [← List.dropLast_append_getLast? _ firstLast,
              ← List.dropLast_append_getLast? _ secondLast, eq_of_beq inFirst,
              eq_of_beq inSecond]
        · cases givenToo
      · cases given
    next => cases givenToo
  next => cases given

theorem mem_fileClasses
    {file : String} :
    offer ∈ fileClasses catalog files place file ↔
      offer.file = file ∧
        files.entry? (place ++ [file]) ≠ some .directory ∧
        (∃ classes,
          catalog.get? (place ++ [file]) = some (.classes classes) ∧
            offer.plugin ∈ classes) ∧
        offer.plugin.isRegistrable = true := by
  have classesOf :
      ∀ classes : List PluginClass,
        offer ∈
            ((classes.mergeSort fun first second =>
              decide (first.name ≤ second.name)).filter
                PluginClass.isRegistrable).map (⟨file, ·⟩) ↔
          offer.file = file ∧ offer.plugin ∈ classes ∧ offer.plugin.isRegistrable = true := by
    intro classes
    rw [List.mem_map]
    constructor
    · rintro ⟨plugin, member, rfl⟩
      rw [List.mem_filter, List.mem_mergeSort] at member
      exact ⟨rfl, member⟩
    · rintro ⟨rfl, member, registrable⟩
      exact
        ⟨offer.plugin,
          List.mem_filter.mpr ⟨List.mem_mergeSort.mpr member, registrable⟩, rfl⟩
  rw [fileClasses]
  split
  · next directory =>
      simp [directory]
  · next classes loads readable =>
      rw [classesOf, loads]
      constructor
      · rintro ⟨same, member, registrable⟩
        exact ⟨same, readable, ⟨classes, rfl, member⟩, registrable⟩
      · rintro ⟨same, -, ⟨_, given, member⟩, registrable⟩
        cases given
        exact ⟨same, member, registrable⟩
  · next noClasses =>
      refine ⟨fun member => (List.not_mem_nil member).elim, ?_⟩
      rintro ⟨-, readable, ⟨classes, loads, -⟩, -⟩
      exact (noClasses classes loads).elim

/-- The classes of plugin files are those that the files offer. -/
theorem mem_placeClasses :
    offer ∈ placeClasses catalog files place ↔ Offered catalog files place offer := by
  rw [placeClasses, List.mem_flatMap]
  constructor
  · rintro ⟨file, listed, member⟩
    obtain ⟨rfl, readable, loads, registrable⟩ := mem_fileClasses.mp member
    rw [pluginNames, List.mem_mergeSort, List.mem_filter, Manager.isPluginName,
      Bool.and_eq_true] at listed
    rw [PluginClass.isRegistrable, Bool.and_eq_true, Bool.not_eq_true'] at registrable
    exact
      { listed := listed.1
        ends := List.isSuffixOf_iff_suffix.mp listed.2.1
        starts := bne_iff_ne.mp listed.2.2
        readable := readable
        loads := loads
        implements := registrable.1
        constructs := registrable.2 }
  · intro offered
    refine ⟨offer.file, ?_, mem_fileClasses.mpr ⟨rfl, offered.readable, offered.loads, ?_⟩⟩
    · rw [pluginNames, List.mem_mergeSort, List.mem_filter, Manager.isPluginName,
        Bool.and_eq_true]
      exact
        ⟨offered.listed, List.isSuffixOf_iff_suffix.mpr offered.ends,
          bne_iff_ne.mpr offered.starts⟩
    · rw [PluginClass.isRegistrable, offered.implements, offered.constructs]
      rfl

/-- The classes of plugin files are registered in their order. -/
theorem pairwise_placeClasses
    (wellFormed : catalog.WellFormed)
    (nodup : files.entries.keys.Nodup) :
    (placeClasses catalog files place).Pairwise FileClass.Precedes := by
  refine List.pairwise_flatMap.mpr ⟨fun file _ => ?_, ?_⟩
  · rw [fileClasses]
    split
    · exact .nil
    · next loads _ =>
        refine List.pairwise_map.mpr (List.Pairwise.filter _ ?_)
        exact
          (pairwise_mergeSort_of_nodup (wellFormed.distinct _ _ loads)).imp
            fun before => .inr ⟨rfl, before⟩
    · exact .nil
  · have distinct :
        (((files.namesIn place).filter Manager.isPluginName).map fun name => name).Nodup := by
      rw [List.map_id']
      exact (nodup_namesIn nodup place).filter _
    refine (pairwise_mergeSort_of_nodup distinct).imp fun before first isFirst second isSecond => ?_
    rw [FileClass.Precedes, (mem_fileClasses.mp isFirst).1, (mem_fileClasses.mp isSecond).1]
    exact .inl before

end Ordering

/-! ## Names that are taken -/

/-- A text is divided at its last dot in one way. -/
theorem eq_of_append_dot
    {first second firstRest secondRest : List Char}
    (firstUndotted : '.' ∉ firstRest)
    (secondUndotted : '.' ∉ secondRest)
    (same : first ++ '.' :: firstRest = second ++ '.' :: secondRest) :
    first = second ∧ firstRest = secondRest := by
  rcases List.append_eq_append_iff.mp same with ⟨between, rfl, rest⟩ | ⟨between, rfl, rest⟩
  · rcases between with _ | ⟨head, tail⟩
    · exact ⟨(List.append_nil _).symm, (List.cons.inj rest).2⟩
    · rw [(List.cons.inj rest).2] at firstUndotted
      exact (firstUndotted (List.mem_append_right _ List.mem_cons_self)).elim
  · rcases between with _ | ⟨head, tail⟩
    · exact ⟨List.append_nil _, (List.cons.inj rest).2.symm⟩
    · rw [(List.cons.inj rest).2] at secondUndotted
      exact (secondUndotted (List.mem_append_right _ List.mem_cons_self)).elim

/-- The name of a plugin file before its ending. -/
theorem toList_stem
    {file : String}
    (ends : ".py".toList <:+ file.toList) :
    file = ".py" ∧ Manager.stem file = ".py" ∨
      file ≠ ".py" ∧ file.toList = (Manager.stem file).toList ++ ".py".toList := by
  rw [Manager.stem]
  split
  · next isEnding =>
      exact .inl ⟨eq_of_beq isEnding, eq_of_beq isEnding⟩
  · next differs =>
      obtain ⟨front, written⟩ := ends
      have front_eq : file.toList.dropLast.dropLast.dropLast = front := by
        rw [← written, show ".py".toList = ['.', 'p', 'y'] from rfl]
        simp
      rw [front_eq, String.toList_ofList, written]
      exact .inr ⟨fun isEnding => differs (beq_iff_eq.mpr isEnding), rfl⟩

/-- Two plugin files are told apart by their names before the ending, with one exception. -/
theorem files_of_same_stem
    {first second : String}
    (firstEnds : ".py".toList <:+ first.toList)
    (secondEnds : ".py".toList <:+ second.toList)
    (same : Manager.stem first = Manager.stem second) :
    first = second ∨ first = ".py" ∧ second = ".py.py" ∨ first = ".py.py" ∧ second = ".py" := by
  have twice : ∀ file : String, file.toList = ".py".toList ++ ".py".toList → file = ".py.py" :=
    fun file written => String.toList_inj.mp written
  rcases toList_stem firstEnds with ⟨firstIs, firstStem⟩ | ⟨-, firstWritten⟩ <;>
    rcases toList_stem secondEnds with ⟨secondIs, secondStem⟩ | ⟨-, secondWritten⟩
  · exact .inl (firstIs.trans secondIs.symm)
  · rw [← same, firstStem] at secondWritten
    exact .inr (.inl ⟨firstIs, twice second secondWritten⟩)
  · rw [same, secondStem] at firstWritten
    exact .inr (.inr ⟨twice first firstWritten, secondIs⟩)
  · rw [same, ← secondWritten] at firstWritten
    exact .inl (String.toList_inj.mp firstWritten)

/-- A registration name has a dot before the name of the class. -/
theorem toList_registrationName
    (offer : FileClass) :
    offer.registrationName.toList =
      "hsxctl_local_plugin_".toList ++
        ((Manager.stem offer.file).toList ++ '.' :: offer.plugin.name.toList) := by
  unfold FileClass.registrationName
  generalize Manager.stem offer.file = stem
  simp only [String.toList_append, List.append_assoc]
  rfl

section Clashes

variable
  {catalog : Catalog}
  {files : FileTree}
  {place : Location}
  {offer other : FileClass}

/--
Two classes that would be registered under one name are the same, or have one name in the
two files that are not told apart.
-/
theorem offers_of_same_name
    (wellFormed : catalog.WellFormed)
    (first : Offered catalog files place offer)
    (second : Offered catalog files place other)
    (same : offer.registrationName = other.registrationName) :
    offer = other ∨
      offer.plugin.name = other.plugin.name ∧
        (offer.file = ".py" ∧ other.file = ".py.py" ∨
          offer.file = ".py.py" ∧ other.file = ".py") := by
  obtain ⟨firstClasses, firstLoads, firstMember⟩ := first.loads
  obtain ⟨secondClasses, secondLoads, secondMember⟩ := second.loads
  have written := congrArg String.toList same
  rw [toList_registrationName, toList_registrationName] at written
  obtain ⟨stems, names⟩ :=
    eq_of_append_dot
      (wellFormed.undotted _ _ firstLoads _ firstMember)
      (wellFormed.undotted _ _ secondLoads _ secondMember)
      (List.append_cancel_left written)
  have sameName : offer.plugin.name = other.plugin.name :=
    String.toList_inj.mp names
  rcases files_of_same_stem first.ends second.ends (String.toList_inj.mp stems) with
    sameFile | apart
  · left
    rw [← sameFile, firstLoads] at secondLoads
    cases secondLoads
    have samePlugin : offer.plugin = other.plugin :=
      List.inj_on_of_nodup_map (wellFormed.distinct _ _ firstLoads) firstMember
        secondMember sameName
    rcases offer with ⟨file, plugin⟩
    rcases other with ⟨otherFile, otherPlugin⟩
    exact FileClass.mk.injEq .. ▸ ⟨sameFile, samePlugin⟩
  · exact .inr ⟨sameName, apart⟩

end Clashes

/-! ## What a discovery finds -/

section Finding

variable
  {manager : Manager}
  {catalog : Catalog}
  {surroundings : Surroundings}
  {directory : Option Path}
  {offer : FileClass}

/-- A discovery is offered a class. -/
def IsOffered
    (catalog : Catalog)
    (surroundings : Surroundings)
    (directory : Option Path)
    (offer : FileClass) :
    Prop :=
  ∃ place,
    LeadsTo surroundings directory place ∧ Offered catalog surroundings.files place offer

/--
What a discovery that is not stopped registers: behind the plugins that were there, where
registered classes are replaced by objects, it lists the classes that it is offered, in
their order.  It leaves out those whose name is taken, which are none where no registered
name is of the form of theirs and no two files are not told apart.
-/
structure Manager.Finds
    (manager : Manager)
    (catalog : Catalog)
    (surroundings : Surroundings)
    (directory : Option Path)
    (objects : List Listed)
    (found : List FileClass)
    (left : Manager) :
    Prop where
  listing : left.listing = manager.staying ++ objects ++ found.map FileClass.listed
  replacing : objects.Perm manager.replacements
  ordered : found.Pairwise FileClass.Precedes
  mem_iff :
    ∀ offer,
      offer ∈ found ↔
        IsOffered catalog surroundings directory offer ∧
          (∀ listed ∈ manager.staying ++ objects,
            listed.name ≠ offer.registrationName) ∧
          ∀ other,
            IsOffered catalog surroundings directory other → other.Precedes offer →
              other.registrationName ≠ offer.registrationName
  complete :
    (∀ listed ∈ manager.staying ++ objects,
        ¬"hsxctl_local_plugin_".toList <+: listed.name.toList) →
      (∀ place,
        LeadsTo surroundings directory place →
          ".py" ∈ surroundings.files.namesIn place →
            ".py.py" ∉ surroundings.files.namesIn place) →
        ∀ offer, offer ∈ found ↔ IsOffered catalog surroundings directory offer

theorem HasOffers.mem_iff
    {offers : List FileClass}
    (has : HasOffers catalog surroundings directory offers) :
    offer ∈ offers ↔ IsOffered catalog surroundings directory offer := by
  rcases has with ⟨place, leads, rfl⟩ | ⟨nowhere, rfl⟩
  · rw [mem_placeClasses]
    constructor
    · exact fun offered => ⟨place, leads, offered⟩
    · rintro ⟨other, leadsToo, offered⟩
      exact leads.unique leadsToo ▸ offered
  · refine ⟨fun member => (List.not_mem_nil member).elim, ?_⟩
    rintro ⟨place, leads, -⟩
    exact (nowhere place leads).elim

theorem HasOffers.pairwise
    {offers : List FileClass}
    (has : HasOffers catalog surroundings directory offers)
    (wellFormed : catalog.WellFormed)
    (nodup : surroundings.files.entries.keys.Nodup) :
    offers.Pairwise FileClass.Precedes := by
  rcases has with ⟨place, -, rfl⟩ | ⟨-, rfl⟩
  · exact pairwise_placeClasses wellFormed nodup
  · exact .nil

/-- What a discovery is offered and enlists is what it finds. -/
theorem HasOffers.finds
    {offers : List FileClass}
    {left : Manager}
    (has : HasOffers catalog surroundings directory offers)
    (wellFormed : catalog.WellFormed)
    (nodup : surroundings.files.entries.keys.Nodup)
    (listing :
      left.listing =
        manager.staying ++ manager.replacements ++
          (enlist FileClass.registrationName
            ((manager.staying ++ manager.replacements).map (·.name))
            offers).map FileClass.listed) :
    manager.Finds catalog surroundings directory manager.replacements
      (enlist FileClass.registrationName
        ((manager.staying ++ manager.replacements).map (·.name)) offers)
      left := by
  have ordered := has.pairwise wellFormed nodup
  have mem_iff :
      ∀ offer,
        offer ∈
            enlist FileClass.registrationName
              ((manager.staying ++ manager.replacements).map (·.name)) offers ↔
          IsOffered catalog surroundings directory offer ∧
            (∀ listed ∈ manager.staying ++ manager.replacements,
              listed.name ≠ offer.registrationName) ∧
            ∀ other,
              IsOffered catalog surroundings directory other → other.Precedes offer →
                other.registrationName ≠ offer.registrationName := by
    intro offer
    rw [mem_enlist ordered FileClass.not_precedes_self fun _ _ => FileClass.Precedes.asymm,
      has.mem_iff, List.mem_map, not_exists]
    simp only [not_and, has.mem_iff, ne_eq]
  refine ⟨listing, .refl _, ordered.sublist (enlist_sublist _ _), mem_iff, ?_⟩
  intro free apart offer
  rw [mem_iff offer]
  refine ⟨And.left, fun offered => ⟨offered, ?_, ?_⟩⟩
  · intro listed member same
    refine free listed member ?_
    rw [same, toList_registrationName]
    exact List.prefix_append _ _
  · rintro other ⟨place, leads, otherOffered⟩ before same
    obtain ⟨offerPlace, offerLeads, offerOffered⟩ := offered
    obtain rfl := leads.unique offerLeads
    rcases offers_of_same_name wellFormed otherOffered offerOffered same with
      rfl | ⟨-, ⟨first, second⟩ | ⟨first, second⟩⟩
    · exact other.not_precedes_self before
    · exact
        apart place leads (first ▸ otherOffered.listed) (second ▸ offerOffered.listed)
    · exact
        apart place leads (second ▸ offerOffered.listed) (first ▸ otherOffered.listed)

/--
How a discovery ends.  It is stopped exactly where the directory cannot be looked at, and
has then replaced the registered classes; otherwise it registers what it finds.
-/
structure Manager.EndsDiscovery
    (manager : Manager)
    (catalog : Catalog)
    (surroundings : Surroundings)
    (directory : Option Path)
    (ended : Manager × Except Fault Unit) :
    Prop where
  error_iff :
    ∀ fault, ended.2 = .error fault ↔ StopsDiscovery surroundings directory fault
  stopped :
    ∀ fault,
      ended.2 = .error fault →
        ended.1.listing = manager.staying ++ manager.replacements ∧
          ended.1.discovered = manager.discovered
  finished :
    ended.2 = .ok () →
      ended.1.discovered = true ∧
        ∃ objects found,
          manager.Finds catalog surroundings directory objects found ended.1

/-- Nothing but a directory that cannot be looked at stops a discovery. -/
theorem yields_endsDiscovery
    (sound : manager.Sound)
    (wellFormed : catalog.WellFormed)
    (nodup : surroundings.files.entries.keys.Nodup)
    (directory : Option Path) :
    Yields (manager.discover catalog directory) surroundings
      (manager.EndsDiscovery catalog surroundings directory) := by
  refine (yields_discover sound surroundings directory).weaken ?_
  rintro ⟨left, outcome⟩
    ⟨-, ⟨fault, stops, rfl, listing, undiscovered⟩ |
      ⟨unstopped, rfl, discovered, offers, has, listing⟩⟩
  · refine ⟨fun other => ⟨?_, fun stopsToo => ?_⟩, fun _ _ => ⟨listing, undiscovered⟩, ?_⟩
    · rintro ⟨⟩
      exact stops
    · obtain ⟨path, given, refused⟩ := stops
      obtain ⟨same, givenToo, refusedToo⟩ := stopsToo
      cases given.symm.trans givenToo
      cases refused.symm.trans refusedToo
      rfl
    · rintro ⟨⟩
  · refine ⟨fun fault => ⟨?_, fun stops => absurd stops (unstopped fault)⟩, ?_, fun _ => ?_⟩
    · rintro ⟨⟩
    · rintro fault ⟨⟩
    · exact ⟨discovered, _, _, has.finds wellFormed nodup listing⟩

end Finding

/-! ## Managers that can come about -/

/-- A manager that a program can come to. -/
inductive Manager.Reachable : Manager → Prop where
  | started
      (builtins : Bool)
      (surroundings : Surroundings) :
      Reachable ((Manager.start builtins).run surroundings).1
  | instantiated
      {manager : Manager}
      (reachable : Reachable manager)
      (plugin : PluginClass)
      (isClass : Bool) :
      Reachable (manager.instantiate plugin isClass).1
  | registered
      {manager added : Manager}
      {plugin : Instance}
      {name : Option String}
      {surroundings : Surroundings}
      (reachable : Reachable manager)
      (made : plugin.identity < manager.nextIdentity)
      (accepted : ((manager.register plugin name).run surroundings).1 = .ok added) :
      Reachable added
  | unregistered
      {manager left : Manager}
      {identity : Nat}
      (reachable : Reachable manager)
      (removed : manager.unregister identity = .ok left) :
      Reachable left
  | discovered
      {manager : Manager}
      (reachable : Reachable manager)
      (catalog : Catalog)
      (directory : Option Path)
      (surroundings : Surroundings) :
      Reachable ((manager.discover catalog directory).run surroundings).1.1

/-- The manager that a session starts with is sound. -/
theorem yields_start
    (builtins : Bool)
    (surroundings : Surroundings) :
    Yields (Manager.start builtins) surroundings Manager.Sound := by
  have empty : Manager.Sound {} := ⟨List.nodup_nil, List.forall_mem_nil _⟩
  have grows :
      ∀ (manager : Manager) plugin name log,
        manager.Sound → name ≠ "" →
          Yields (manager.registerNew plugin name) { surroundings with log := log }
            fun outcome => (outcome.toOption.getD manager).Sound := by
    intro manager plugin name log sound named
    refine (yields_registerNew sound named plugin _).weaken ?_
    rintro outcome (⟨-, rfl⟩ | ⟨-, added, rfl, gains⟩)
    · exact sound
    · exact gains.sound
  cases builtins with
  | true =>
      refine (grows {} _ _ surroundings.log empty (by decide)).bind fun first log sound => ?_
      exact (grows _ _ _ log sound (by decide)).bind fun second _ last => .pure last
  | false =>
      exact .pure empty

/-- A reachable manager has distinct names, and made every object that it holds. -/
theorem Manager.Reachable.sound
    {manager : Manager}
    (reachable : manager.Reachable) :
    manager.Sound := by
  induction reachable with
  | started builtins surroundings =>
      obtain ⟨manager, events, run, sound⟩ := yields_start builtins surroundings
      rw [run]
      exact sound
  | instantiated _ plugin isClass sound =>
      exact sound.instantiate plugin isClass
  | @registered manager added plugin name surroundings _ made accepted sound =>
      unfold Manager.register at accepted
      extract_lets resolved at accepted
      cases outcome : manager.add resolved plugin with
      | error error =>
          rw [outcome] at accepted
          cases accepted
      | ok grown =>
          rw [outcome] at accepted
          cases accepted
          exact sound.add made outcome
  | @unregistered manager left identity _ removed sound =>
      rw [Manager.unregister] at removed
      split at removed
      · cases removed
      · cases removed
        exact sound.sublist (List.filter_sublist ..)
  | discovered _ catalog directory surroundings sound =>
      obtain ⟨ended, events, run, after, -⟩ := yields_discover sound surroundings directory
      rw [run]
      exact after

end PageScript.Plugin
