import PageScript.Run.Context

namespace PageScript.Plugin

/-!
# Plugins

A plugin is a class that may offer backends, framework loaders and functions, and
may want to be told when a build or a load is over.  What it offers is a table, or
an offer that fails, or something that is no table.
-/

open Run

/-- What a plugin answers when it is asked for a table. -/
inductive Offer (α : Type) where
  /-- A table. -/
  | table (entries : List (String × α))
  /-- Asking fails. -/
  | fails
  /-- Something that is no table. -/
  | noTable
  /-- Nothing. -/
  | nothing

/-- What a plugin does when a hook reaches it. -/
inductive HookBehaviour where
  /-- Answer. -/
  | answer
  /-- Record the call. -/
  | record
  /-- Fail. -/
  | fail
  /-- Record the call and fail. -/
  | recordAndFail
  deriving Repr, DecidableEq

/-- Whether a behaviour records the call. -/
def HookBehaviour.records : HookBehaviour → Bool
  | record => true
  | recordAndFail => true
  | _ => false

/-- Whether a behaviour fails. -/
def HookBehaviour.fails : HookBehaviour → Bool
  | fail => true
  | recordAndFail => true
  | _ => false

/-- What plugins can be asked for or told about. -/
inductive Hook where
  | registerBackends
  | registerFrameworks
  | registerFunctions
  | postBuild
  | postLoad
  deriving Repr, DecidableEq

namespace Hook

/-- All hooks. -/
def all : List Hook :=
  [registerBackends, registerFrameworks, registerFunctions, postBuild, postLoad]

/-- The name of a hook. -/
def name : Hook → String
  | registerBackends => "register_build_backends"
  | registerFrameworks => "register_frameworks"
  | registerFunctions => "register_async_functions"
  | postBuild => "post_build"
  | postLoad => "post_load"

/-- The hook with a name. -/
def ofName? (name : String) : Option Hook :=
  all.find? fun hook => hook.name == name

/-- The names of the arguments of a hook. -/
def parameters : Hook → List String
  | postBuild => ["source", "commands_run"]
  | postLoad => ["url", "commands_run", "failures"]
  | _ => []

end Hook

/-- A plugin class; an absent part means that the class does not implement it. -/
structure PluginClass where
  name : String
  constructorFails : Bool := false
  backends : Option (Offer Backend) := none
  frameworks : Option (Offer FrameworkLoader) := none
  functions : Option (Offer Function) := none
  postBuild : Option HookBehaviour := none
  postLoad : Option HookBehaviour := none

namespace PluginClass

/-- Whether a class implements anything. -/
def hasHooks (plugin : PluginClass) : Bool :=
  plugin.backends.isSome || plugin.frameworks.isSome || plugin.functions.isSome ||
    plugin.postBuild.isSome || plugin.postLoad.isSome

/-- What being asked for a table comes to when the table is not used. -/
def askedFor {α : Type} : Offer α → HookBehaviour
  | .fails => .fail
  | _ => .answer

/-- What a class does when a hook reaches it. -/
def behaviour? (plugin : PluginClass) : Hook → Option HookBehaviour
  | .registerBackends => plugin.backends.map askedFor
  | .registerFrameworks => plugin.frameworks.map askedFor
  | .registerFunctions => plugin.functions.map askedFor
  | .postBuild => plugin.postBuild
  | .postLoad => plugin.postLoad

/-- The plugin with the built-in backends and framework. -/
def builtinBackends : PluginClass :=
  { name := "BuildBackendsPlugin"
    backends :=
      some (.table
        [("vite", .announce "Vite"), ("babel", .announce "Babel"),
         ("esbuild", .announce "ESBuild")])
    frameworks := some (.table [("strike", .strike)]) }

/-- The plugin with the built-in functions. -/
def builtinFunctions : PluginClass :=
  { name := "FunctionsPlugin"
    functions := some (.table [("sleep", .sleep), ("log", .log), ("update", .update)]) }

end PluginClass

/-- A plugin that is registered: an object of a class, or the class itself. -/
structure Instance where
  identity : Nat
  plugin : PluginClass
  isClass : Bool := false

/-- What a plugin file holds. -/
inductive PluginFile where
  /-- The file cannot be loaded. -/
  | broken
  /-- The classes of the file. -/
  | classes (plugins : List PluginClass)

/-- The plugin files by location. -/
abbrev Catalog := Table World.Location PluginFile

end PageScript.Plugin
