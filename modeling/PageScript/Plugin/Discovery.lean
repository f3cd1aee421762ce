import PageScript.Plugin.Manager
import PageScript.World.Access

namespace PageScript.Plugin

/-!
# Discovering plugins

Discovery first replaces registered classes by their objects, and then loads the
plugin files of a directory in the order of their names.  Of every file the classes
that implement something are registered, in alphabetical order.  Nothing that goes
wrong with a file or a class stops the discovery; only a directory whose path is too
long to be looked at does.
-/

open World

namespace Manager

/-- Replace one registered class by an object of it, or drop it when there is none. -/
def replaceClass (manager : Manager) (name : String) (plugin : Instance) : Logged Manager := do
  let without := { manager with plugins := manager.plugins.erase name }
  if plugin.plugin.constructorFails then do
    log .warning ("Failed to instantiate entry-point plugin " ++ name) failureMark
    pure without
  else do
    let made := without.instantiate plugin.plugin false
    log .debug ("Instantiated entry-point plugin: " ++ name) []
    pure { made.1 with plugins := made.1.plugins.insert name made.2 }

/-- Replace registered classes that implement something by their objects. -/
def replaceClasses (manager : Manager) : List (String × Instance) → Logged Manager
  | [] => pure manager
  | (name, plugin) :: rest =>
      if plugin.isClass && plugin.plugin.hasHooks then do
        let replaced ← manager.replaceClass name plugin
        replaced.replaceClasses rest
      else
        manager.replaceClasses rest

/-- The name of a plugin file without its ending. -/
def stem (fileName : String) : String :=
  if fileName == ".py" then fileName else String.ofList (fileName.toList.dropLast.dropLast.dropLast)

/-- Whether a file name is that of a plugin file. -/
def isPluginName (fileName : String) : Bool :=
  ".py".toList.isSuffixOf fileName.toList && fileName.toList.head? != some '_'

/-- Register objects of classes from a file, leaving out those that fail. -/
def registerClasses
    (manager : Manager)
    (moduleName filePath : String) :
    List PluginClass → Logged Manager
  | [] => pure manager
  | plugin :: rest =>
      if !plugin.hasHooks then
        manager.registerClasses moduleName filePath rest
      else do
        let failure :=
          "Failed to instantiate plugin class " ++ plugin.name ++ " from " ++ filePath
        let outcome ←
          if plugin.constructorFails then
            pure (.error .taken)
          else
            manager.registerNew plugin (moduleName ++ "." ++ plugin.name)
        match outcome with
        | .ok added => added.registerClasses moduleName filePath rest
        | .error _ => do
            log .warning failure failureMark
            manager.registerClasses moduleName filePath rest

/-- Load one plugin file. -/
def loadFile (manager : Manager) (catalog : Catalog) (location : Location) (path : Path) :
    Logged Manager := do
  let surroundings ← get
  let unreadable :=
    match surroundings.files.entry? location with
    | some .directory => true
    | _ => false
  match catalog.get? location, unreadable with
  | some (.classes plugins), false =>
      manager.registerClasses ("hsxctl_local_plugin_" ++ stem path.name) path.toString
        (plugins.mergeSort fun a b => decide (a.name ≤ b.name))
  | none, false => pure manager
  | _, _ => do
      log .warning ("Failed to load local plugin " ++ path.toString) failureMark
      pure manager

/-- Load plugin files in order. -/
def loadFiles (manager : Manager) (catalog : Catalog) :
    List (Location × Path) → Logged Manager
  | [] => pure manager
  | (location, path) :: rest => do
      let loaded ← manager.loadFile catalog location path
      loaded.loadFiles catalog rest

/-- Load the plugin files of a directory, if it is one. -/
def loadDirectory (manager : Manager) (catalog : Catalog) (directory : Path) :
    Logged (Except Fault Manager) := do
  let surroundings ← get
  match surroundings.isDirectory directory,
      surroundings.files.find surroundings.directory directory with
  | .error fault, _ => pure (.error fault)
  | .ok true, .ok (location, _) => do
      let names :=
        ((surroundings.files.namesIn location).filter isPluginName).mergeSort
          fun a b => decide (a ≤ b)
      let loaded ←
        manager.loadFiles catalog
          (names.map fun name =>
            (location ++ [name], { directory with parts := directory.parts ++ [name] }))
      pure (.ok loaded)
  | _, _ => pure (.ok manager)

/--
Discover plugins, in a directory if one is given.  Where the directory cannot be looked at,
the registered classes have been replaced all the same.
-/
def discover (manager : Manager) (catalog : Catalog) (directory : Option Path) :
    Logged (Manager × Except Fault Unit) := do
  let objects ← manager.replaceClasses manager.plugins.entries
  let loaded ←
    match directory with
    | none => pure (.ok objects)
    | some path => objects.loadDirectory catalog path
  match loaded with
  | .ok found => pure ({ found with discovered := true }, .ok ())
  | .error fault => pure (objects, .error fault)

end Manager

end PageScript.Plugin
