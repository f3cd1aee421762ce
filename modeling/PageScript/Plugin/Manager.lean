import PageScript.Plugin.Basic

namespace PageScript.Plugin

/-!
# The plugin manager

The manager keeps plugins by name in the order of their registration.  Tables are
merged in that order, so the last plugin that offers a name wins and the name keeps
its first place.  Events are told to the last registered plugin first, and a
failure keeps them from the others.  A plugin that fails to offer a table is left
out with a warning.
-/

open World Run

/-- The registered plugins by name, in order. -/
structure Manager where
  plugins : Table String Instance := ⟨[]⟩
  discovered : Bool := false
  nextIdentity : Nat := 0

/-- Why a registration or its removal is refused. -/
inductive RegistrationError where
  /-- The name or the plugin is registered already. -/
  | taken
  /-- The plugin is not registered. -/
  | notRegistered
  deriving Repr, DecidableEq

/-- The logger of the manager. -/
def managerLogger : String :=
  "hsxctl.plugins.manager"

/-- The field that marks a log event with a failure. -/
def failureMark : List (String × Value) :=
  [("exc_info", .truth true)]

/-- A step that may write to the log and record calls. -/
abbrev Logged (α : Type) := StateM Surroundings α

/-- Write a log event. -/
def log (level : LogLevel) (event : String) (fields : List (String × Value)) : Logged Unit :=
  modify fun surroundings => surroundings.report ⟨level, managerLogger, event, fields⟩

namespace Manager

/-- Make an object of a class, or stand for the class itself. -/
def instantiate (manager : Manager) (plugin : PluginClass) (isClass : Bool) : Manager × Instance :=
  ({ manager with nextIdentity := manager.nextIdentity + 1 },
    ⟨manager.nextIdentity, plugin, isClass⟩)

/-- The name of a registered plugin. -/
def nameOf? (manager : Manager) (identity : Nat) : Option String :=
  (manager.plugins.entries.find? fun entry => entry.2.identity == identity).map (·.1)

/-- Add a plugin under a name; neither may be registered already. -/
def add (manager : Manager) (name : String) (plugin : Instance) : Except RegistrationError Manager :=
  if manager.plugins.contains name || (manager.nameOf? plugin.identity).isSome then
    .error .taken
  else
    .ok { manager with plugins := manager.plugins.insert name plugin }

/-- The name that a plugin has when none is given. -/
def defaultName (plugin : Instance) : String :=
  if plugin.isClass then "type" else plugin.plugin.name

/-- Register a plugin; an empty name counts as none. -/
def register (manager : Manager) (plugin : Instance) (name : Option String) :
    Logged (Except RegistrationError Manager) := do
  let resolved :=
    match name with
    | some "" => defaultName plugin
    | some given => given
    | none => defaultName plugin
  match manager.add resolved plugin with
  | .error error => pure (.error error)
  | .ok added => do
      log .debug ("Registered plugin: " ++ resolved) []
      pure (.ok added)

/-- Remove a plugin. -/
def unregister (manager : Manager) (identity : Nat) : Except RegistrationError Manager :=
  match manager.nameOf? identity with
  | none => .error .notRegistered
  | some name => .ok { manager with plugins := manager.plugins.erase name }

/-- The names of the registered plugins in order. -/
def names (manager : Manager) : List String :=
  manager.plugins.keys

/-- Register an object of a class under a name; a taken name leaves the manager as it is. -/
def registerNew (manager : Manager) (plugin : PluginClass) (name : String) :
    Logged (Except RegistrationError Manager) :=
  let made := manager.instantiate plugin false
  made.1.register made.2 (some name)

/-- The manager with the built-in plugins. -/
def withBuiltins : Logged Manager := do
  let backends ← registerNew {} PluginClass.builtinBackends "builtin-backends"
  let first := backends.toOption.getD {}
  let functions ← first.registerNew PluginClass.builtinFunctions "builtin-functions"
  pure (functions.toOption.getD first)

/-- The manager that a session starts with. -/
def start (builtins : Bool) : Logged Manager :=
  if builtins then withBuiltins else pure {}

/-- Merge what plugins offer, in order. -/
def collect
    {α : Type}
    (hookName : String)
    (offer : PluginClass → Option (Offer α))
    (merged : Table String α) :
    List (String × Instance) → Logged (Table String α)
  | [] => pure merged
  | (name, plugin) :: rest =>
      match offer plugin.plugin with
      | none => collect hookName offer merged rest
      | some answer =>
          if plugin.isClass then do
            log .warning ("Plugin " ++ name ++ " failed in " ++ hookName) failureMark
            collect hookName offer merged rest
          else
            match answer with
            | .table entries => collect hookName offer (merged.insertAll entries) rest
            | .nothing => collect hookName offer merged rest
            | .fails => do
                log .warning ("Plugin " ++ name ++ " failed in " ++ hookName) failureMark
                collect hookName offer merged rest
            | .noTable => do
                log .warning ("Plugin " ++ name ++ " returned non-dict from " ++ hookName) []
                collect hookName offer merged rest

/-- The merged backends. -/
def backends (manager : Manager) : Logged (Table String Backend) :=
  collect Hook.registerBackends.name PluginClass.backends ⟨[]⟩ manager.plugins.entries

/-- Framework loaders under names in small letters, in the order of a table. -/
def smallNames {α : Type} (loaders : Table String α) : Table String α :=
  Table.ofList (loaders.entries.map fun entry => (frameworkKey entry.1, entry.2))

/-- The merged framework loaders, under names in small letters. -/
def frameworks (manager : Manager) : Logged (Table String FrameworkLoader) := do
  let merged ←
    collect Hook.registerFrameworks.name PluginClass.frameworks ⟨[]⟩ manager.plugins.entries
  pure (smallNames merged)

/-- The merged functions. -/
def functions (manager : Manager) : Logged (Table String Function) :=
  collect Hook.registerFunctions.name PluginClass.functions ⟨[]⟩ manager.plugins.entries

/-- The plugins that a hook reaches, first the last registered one. -/
def listeners (manager : Manager) (hook : Hook) : List (Instance × HookBehaviour) :=
  (manager.plugins.entries.filterMap fun entry =>
    (entry.2.plugin.behaviour? hook).map fun behaviour => (entry.2, behaviour)).reverse

/--
Why a hook of a class itself cannot be called: the first argument takes the place of
the object, so the last one is missing.
-/
def unboundHook (plugin : PluginClass) (hook : Hook) : Fault :=
  .missingArguments (plugin.name ++ "." ++ hook.name) [hook.parameters.getLast?.getD "self"]

/-- Let a hook reach plugins, up to the first that fails. -/
def tellPlugins (hook : Hook) (arguments : List Value) :
    List (Instance × HookBehaviour) → Logged (Except Fault Unit)
  | [] => pure (.ok ())
  | (plugin, behaviour) :: rest =>
      if plugin.isClass then
        pure (.error (unboundHook plugin.plugin hook))
      else do
        if behaviour.records then
          modify fun surroundings =>
            surroundings.record (.hook plugin.plugin.name hook.name arguments)
        if behaviour.fails then
          pure (.error (.collaborator "hook failed"))
        else
          tellPlugins hook arguments rest

/-- Let a hook reach all plugins. -/
def dispatch (manager : Manager) (hook : Hook) (arguments : List Value) :
    Logged (Except Fault Unit) :=
  tellPlugins hook arguments (manager.listeners hook)

/-- The first argument of a hook that fields do not give. -/
def unprovided? (hook : Hook) (fields : Value) : Option String :=
  hook.parameters.find? fun name => (fields.field? name).isNone

/-- Let a hook reach all plugins with the fields of a record as its arguments. -/
def dispatchFields (manager : Manager) (hook : Hook) (fields : Value) :
    Logged (Except Fault Unit) :=
  match unprovided? hook fields, manager.listeners hook with
  | some name, _ :: _ => pure (.error (.unprovided name))
  | _, _ => manager.dispatch hook (hook.parameters.map fields.field)

end Manager

end PageScript.Plugin
