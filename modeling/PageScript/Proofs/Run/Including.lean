import PageScript.Plugin.Manager
import PageScript.Proofs.Run.Keeping
import PageScript.Proofs.Table

namespace PageScript.Run

open Script

/-!
# Including a framework

A build includes a framework with the loader that it has for the name in small letters.
The loader is called for a framework that is not remembered, and what it gives is
remembered and reported; a remembered framework stays as it is, and a loader that fails
changes nothing but what it changes itself.  No other command concerns the frameworks.
-/

/-! ## What an include comes to -/

/-- The log event of an include. -/
def includeEvent (name requested version : String) (fresh : Bool) : World.LogEvent :=
  ⟨.info, buildLogger, "framework.include",
    [("framework", .text name), ("requested", .text requested),
     ("version", .text version), ("loaded", .truth fresh)]⟩

/-- The log event that notes that another version is loaded. -/
def ignoredEvent (name requested version : String) : World.LogEvent :=
  ⟨.debug, "hsxctl.infrastructure.frameworks",
    "Framework " ++ name ++ " already loaded (v" ++ version ++ "); ignoring v" ++
      requested,
    []⟩

/-- A scene in which a framework has been loaded and reported. -/
def Scene.withFramework (scene : Scene) (framework : LoadedFramework) : Scene :=
  { scene.logged
      (includeEvent framework.name framework.version framework.version true) with
    cache := scene.cache.remember framework
    record :=
      { scene.record with
        frameworks :=
          scene.record.frameworks ++ [(framework.name, framework.version)] } }

/--
The framework that an include loads: one that is known and not remembered, if its loader
succeeds.
-/
def loadedBy?
    (loaders : String → Option (String → Action Value))
    (name version : String)
    (scene : Scene) :
    Option LoadedFramework :=
  match loaders (frameworkKey name), scene.cache.get? name with
  | some load, none =>
      match (outcome (load version) scene).1 with
      | .ok handle => some ⟨name, version, handle⟩
      | .error _ => none
  | _, _ => none

section Including

variable
  {loaders : String → Option (String → Action Value)}
  {load : String → Action Value}
  {name version : String}
  {scene reached : Scene}
  {framework : LoadedFramework}
  {handle : Value}
  {fault : Fault}

/-- An unknown framework leaves a warning. -/
theorem outcome_executeIncludeFrom_of_unknown
    (unknown : loaders (frameworkKey name) = none) :
    outcome (executeIncludeFrom loaders name version) scene =
      outcome (diagnose ("Unknown framework: " ++ name)) scene := by
  rw [executeIncludeFrom, unknown]

/-- A framework that is remembered is not loaded again, whatever its loader would do. -/
theorem outcome_executeIncludeFrom_of_remembered
    (known : loaders (frameworkKey name) = some load)
    (remembered : scene.cache.get? name = some framework) :
    outcome (executeIncludeFrom loaders name version) scene =
      (.ok (),
        (scene.logged (ignoredEvent name version framework.version)).logged
          (includeEvent name version framework.version false)) := by
  have included :
      outcome (includeFrameworkBy load name version) scene =
        (.ok (framework, false),
          scene.logged (ignoredEvent name version framework.version)) := by
    rw [includeFrameworkBy, outcome_get_bind, remembered]
    rfl
  rw [executeIncludeFrom, known]
  exact outcome_bind_ok included

/-- A loader that fails stops the command, with the scene as the loader leaves it. -/
theorem outcome_executeIncludeFrom_of_fault
    (known : loaders (frameworkKey name) = some load)
    (absent : scene.cache.get? name = none)
    (failed : outcome (load version) scene = (.error fault, reached)) :
    outcome (executeIncludeFrom loaders name version) scene =
      (.error fault, reached) := by
  have stopped :
      outcome (includeFrameworkBy load name version) scene =
        (.error fault, reached) := by
    rw [includeFrameworkBy, outcome_get_bind, absent]
    exact outcome_bind_error failed
  rw [executeIncludeFrom, known]
  exact outcome_bind_error stopped

/-- What a loader gives is remembered and reported. -/
theorem outcome_executeIncludeFrom_of_load
    (known : loaders (frameworkKey name) = some load)
    (absent : scene.cache.get? name = none)
    (loaded : outcome (load version) scene = (.ok handle, reached)) :
    outcome (executeIncludeFrom loaders name version) scene =
      (.ok (), reached.withFramework ⟨name, version, handle⟩) := by
  have included :
      outcome (includeFrameworkBy load name version) scene =
        (.ok (⟨name, version, handle⟩, true),
          { reached with
            cache := reached.cache.remember ⟨name, version, handle⟩ }) := by
    rw [includeFrameworkBy, outcome_get_bind, absent]
    exact outcome_bind_ok loaded
  rw [executeIncludeFrom, known]
  exact outcome_bind_ok included

end Including

/--
What including a framework comes to: the framework that is loaded, if any, and the
outcome.
-/
inductive Included
    (loaders : String → Option (String → Action Value))
    (name version : String)
    (scene : Scene) :
    Option LoadedFramework → Except Fault Unit × Scene → Prop where
  /-- The framework is unknown. -/
  | unknown
      (unknown : loaders (frameworkKey name) = none) :
      Included loaders name version scene none
        (outcome (diagnose ("Unknown framework: " ++ name)) scene)
  /-- The framework is remembered. -/
  | remembered
      {load : String → Action Value}
      {framework : LoadedFramework}
      (known : loaders (frameworkKey name) = some load)
      (remembered : scene.cache.get? name = some framework) :
      Included loaders name version scene none
        (.ok (),
          (scene.logged (ignoredEvent name version framework.version)).logged
            (includeEvent name version framework.version false))
  /-- The loader fails. -/
  | fault
      {load : String → Action Value}
      {fault : Fault}
      {reached : Scene}
      (known : loaders (frameworkKey name) = some load)
      (absent : scene.cache.get? name = none)
      (ended : outcome (load version) scene = (.error fault, reached)) :
      Included loaders name version scene none (.error fault, reached)
  /-- The loader succeeds. -/
  | load
      {load : String → Action Value}
      {handle : Value}
      {reached : Scene}
      (known : loaders (frameworkKey name) = some load)
      (absent : scene.cache.get? name = none)
      (ended : outcome (load version) scene = (.ok handle, reached)) :
      Included loaders name version scene (some ⟨name, version, handle⟩)
        (.ok (), reached.withFramework ⟨name, version, handle⟩)

/-- An include comes to one of these, and it loads what is loaded there. -/
theorem included_executeIncludeFrom
    (loaders : String → Option (String → Action Value))
    (name version : String)
    (scene : Scene) :
    Included loaders name version scene
      (loadedBy? loaders name version scene)
      (outcome (executeIncludeFrom loaders name version) scene) := by
  cases known : loaders (frameworkKey name) with
  | none =>
      rw [loadedBy?, known, outcome_executeIncludeFrom_of_unknown known]
      exact .unknown known
  | some load =>
      cases remembered : scene.cache.get? name with
      | some framework =>
          rw [loadedBy?, known, remembered,
            outcome_executeIncludeFrom_of_remembered known remembered]
          exact .remembered known remembered
      | none =>
          rw [loadedBy?, known, remembered]
          dsimp only
          rcases ended : outcome (load version) scene with ⟨fault | handle, reached⟩
          · rw [outcome_executeIncludeFrom_of_fault known remembered ended]
            exact .fault known remembered ended
          · rw [outcome_executeIncludeFrom_of_load known remembered ended]
            exact .load known remembered ended

/-- The frameworks of a scene after one more is loaded, if one is. -/
def Scene.frameworksWith (scene : Scene) :
    Option LoadedFramework → FrameworkCache × List (String × String)
  | none => scene.frameworks
  | some framework =>
      (scene.cache.remember framework,
        scene.record.frameworks ++ [(framework.name, framework.version)])

namespace Included

variable
  {loaders : String → Option (String → Action Value)}
  {name version : String}
  {scene : Scene}
  {ended : Except Fault Unit × Scene}

/-- The framework that is loaded is remembered and reported, and nothing else is. -/
theorem frameworks
    {loaded : Option LoadedFramework}
    (included : Included loaders name version scene loaded ended)
    (keeps :
      ∀ load,
        loaders (frameworkKey name) = some load →
          Keeps Scene.frameworks (load version)) :
    ended.2.frameworks = scene.frameworksWith loaded := by
  cases included with
  | unknown unknown =>
      exact Keeps.warnAs _ _ scene
  | remembered known remembered =>
      rfl
  | fault known absent ended =>
      have kept := keeps _ known scene
      rw [ended] at kept
      exact kept
  | load known absent ended =>
      -- The loader may change the scene, but not what the new framework is added to.
      have kept := keeps _ known scene
      rw [ended] at kept
      obtain ⟨sameCache, sameReport⟩ := Prod.mk.inj kept
      exact
        Prod.ext (congrArg (FrameworkCache.remember · _) sameCache)
          (congrArg (· ++ [_]) sameReport)

/-- What is loaded was known and not remembered, and its loader succeeded. -/
theorem loaded
    {framework : LoadedFramework}
    (included : Included loaders name version scene (some framework) ended) :
    ended.1 = .ok () ∧
      scene.cache.get? name = none ∧
      ∃ load handle,
        loaders (frameworkKey name) = some load ∧
          (outcome (load version) scene).1 = .ok handle ∧
          framework = ⟨name, version, handle⟩ := by
  cases included with
  | load known absent ended =>
      exact ⟨rfl, absent, _, _, known, by rw [ended], rfl⟩

/-- An include that stops nothing loads a framework that is known and not remembered. -/
theorem exists_loaded
    {loaded : Option LoadedFramework}
    (included : Included loaders name version scene loaded ended)
    (known : (loaders (frameworkKey name)).isSome)
    (absent : scene.cache.get? name = none)
    (done : ended.1 = .ok ()) :
    ∃ framework, loaded = some framework := by
  cases included with
  | unknown unknown =>
      rw [unknown] at known
      cases known
  | remembered known remembered =>
      rw [absent] at remembered
      cases remembered
  | fault known absent ended =>
      cases done
  | load known absent ended =>
      exact ⟨_, rfl⟩

end Included

/-! ## Builds with any loaders -/

/-- A framework loader: it may do anything but change what is remembered or reported. -/
structure Loader where
  load : String → Action Value
  keeps : ∀ version, Keeps Scene.frameworks (load version)

/-- The loader that a plugin gives. -/
def FrameworkLoader.loader (loader : FrameworkLoader) : Loader where
  load version := loader.run version
  keeps version := .runLoader version loader

/-- What a build is set up with; the loaders may be given under names in any letters. -/
structure Builder where
  baseDirectory : World.Path
  backends : Table String Backend
  loaders : Table String Loader

/-- A change of all loaders shows under the names in small letters. -/
theorem get?_smallNames_mapValues
    {α β : Type}
    (change : α → β)
    (loaders : Table String α)
    (key : String) :
    (Plugin.Manager.smallNames (loaders.mapValues change)).get? key =
      ((Plugin.Manager.smallNames loaders).get? key).map change := by
  rw [Plugin.Manager.smallNames, Plugin.Manager.smallNames, Table.get?_ofList,
    Table.get?_ofList]
  simp [Table.mapValues, List.filter_map, List.getLast?_map, Function.comp_def]

namespace Builder

/-- What loads the framework of a name in small letters. -/
def load? (builder : Builder) (key : String) : Option (String → Action Value) :=
  ((Plugin.Manager.smallNames builder.loaders).get? key).map Loader.load

/-- Execute a command of a build. -/
def execute (builder : Builder) (placed : PlacedCommand) : Action Unit :=
  match placed.command with
  | .includeFramework name version => do
      report .debug "hsxctl.services.interpreter" "command.execute" placed.summary
      executeIncludeFrom builder.load? name version
  | _ => Run.execute (.build ⟨builder.baseDirectory, builder.backends, ⟨[]⟩⟩) placed

/-- The framework that a command loads, if it loads one. -/
def loaded? (builder : Builder) (placed : PlacedCommand) (scene : Scene) :
    Option LoadedFramework :=
  match placed.command with
  | .includeFramework name version =>
      loadedBy? builder.load? name version (scene.logged (announcement placed))
  | _ => none

/-- A single loader is found under its name in small letters. -/
theorem load?_of_single
    {baseDirectory : World.Path}
    {backends : Table String Backend}
    {name key : String}
    {loader : Loader}
    (spells : frameworkKey name = key) :
    load? ⟨baseDirectory, backends, ⟨[(name, loader)]⟩⟩ key = some loader.load := by
  rw [load?, Plugin.Manager.smallNames, Table.get?_ofList]
  simp [spells]

/-- With the loaders of plugins, commands are executed as in a workshop. -/
theorem execute_eq
    (baseDirectory : World.Path)
    (backends : Table String Backend)
    (loaders : Table String FrameworkLoader)
    (placed : PlacedCommand) :
    execute
        ⟨baseDirectory, backends, loaders.mapValues FrameworkLoader.loader⟩
        placed =
      Run.execute
        (.build ⟨baseDirectory, backends, Plugin.Manager.smallNames loaders⟩)
        placed := by
  rcases placed with ⟨command, line⟩
  cases command with
  | includeFramework name version =>
      -- The loaders are changed before their names are, in the workshop only afterwards.
      have same :
          load?
              ⟨baseDirectory, backends,
                loaders.mapValues FrameworkLoader.loader⟩ =
            fun key =>
              ((Plugin.Manager.smallNames loaders).get? key).map
                fun loader version => loader.run version := by
        funext key
        rw [load?, get?_smallNames_mapValues, Option.map_map]
        rfl
      rw [execute]
      dsimp only
      rw [same]
      rfl
  | _ =>
      rfl

theorem keeps_of_load?
    {builder : Builder}
    {key : String}
    {load : String → Action Value}
    (known : builder.load? key = some load)
    (version : String) :
    Keeps Scene.frameworks (load version) := by
  obtain ⟨loader, -, rfl⟩ := Option.map_eq_some_iff.mp known
  exact loader.keeps version

/--
A command remembers and reports the framework that it loads, and leaves the others; one
that loads none leaves all as they are.
-/
theorem frameworks_execute
    (builder : Builder)
    (placed : PlacedCommand)
    (scene : Scene) :
    (outcome (builder.execute placed) scene).2.frameworks =
      scene.frameworksWith (builder.loaded? placed scene) := by
  rcases placed with ⟨command, line⟩
  cases command with
  | includeFramework name version =>
      exact
        (included_executeIncludeFrom builder.load? name version _).frameworks
          fun _ known => keeps_of_load? known version
  | _ =>
      exact Keeps.execute_build _ _ (by rintro ⟨⟩) scene

/-- A command that loads a framework includes it, and its loader succeeds. -/
theorem exists_of_loaded?
    {builder : Builder}
    {placed : PlacedCommand}
    {scene : Scene}
    {framework : LoadedFramework}
    (loads : builder.loaded? placed scene = some framework) :
    placed.command = .includeFramework framework.name framework.version ∧
      (outcome (builder.execute placed) scene).1 = .ok () ∧
      scene.cache.get? framework.name = none ∧
      (builder.load? (frameworkKey framework.name)).isSome := by
  rcases placed with ⟨command, line⟩
  cases command with
  | includeFramework name version =>
      have included :=
        included_executeIncludeFrom builder.load? name version
          (scene.logged (announcement ⟨.includeFramework name version, line⟩))
      rw [loaded?] at loads
      dsimp only at loads
      rw [loads] at included
      obtain ⟨done, absent, load, handle, known, -, rfl⟩ := included.loaded
      exact ⟨rfl, done, absent, by rw [known]; rfl⟩
  | _ =>
      cases loads

end Builder

end PageScript.Run
