import PageScript.Plugin.Manager
import PageScript.World.Description

namespace PageScript.Plugin

/-!
# Plugins from descriptions

A record describes a plugin class: its name, what it offers, and what it does when
it is told that something is over.  Every offered name is described by a word for
its behaviour, and the word can be read back from it.
-/

open Run World

/-- The words for the behaviour of functions. -/
def functionWords : List (String × FunctionBehaviour) :=
  [("echo", .echo), ("aecho", .echoLater), ("fail", .fail), ("afail", .failLater),
   ("one", .single), ("define", .define), ("warn", .warn)]

/-- The words for the behaviour of backends. -/
def backendWords : List (String × BackendBehaviour) :=
  [("ok", .succeed), ("async", .succeedLater), ("fail", .fail), ("afail", .failLater)]

/-- The words for the behaviour of framework loaders. -/
def loaderWords : List (String × LoaderBehaviour) :=
  [("ok", .succeed), ("async", .succeedLater), ("fail", .fail), ("none", .giveNothing)]

/-- The behaviour that a word stands for. -/
def behaviourOf {β : Type} (words : List (String × β)) (word : String) : Option β :=
  (words.find? fun entry => entry.1 == word).map (·.2)

/-- The word that stands for a behaviour. -/
def wordOf {β : Type} [BEq β] (words : List (String × β)) (behaviour : β) : String :=
  ((words.find? fun entry => entry.2 == behaviour).map (·.1)).getD ""

/-- A described function. -/
def describedFunction (owner name word : String) : Function :=
  .described owner name ((behaviourOf functionWords word).getD .warn)

/-- A described backend. -/
def describedBackend (owner name word : String) : Backend :=
  .described owner name ((behaviourOf backendWords word).getD .failLater)

/-- A described framework loader. -/
def describedLoader (owner name word : String) : FrameworkLoader :=
  .described owner name ((behaviourOf loaderWords word).getD .giveNothing)

/-- Where a function comes from and how it behaves. -/
def functionLabel : Function → String
  | .described owner _ behaviour => owner ++ ":" ++ wordOf functionWords behaviour
  | _ => "builtin"

/-- Where a backend comes from and how it behaves. -/
def backendLabel : Backend → String
  | .described owner _ behaviour => owner ++ ":" ++ wordOf backendWords behaviour
  | _ => "builtin"

/-- Where a framework loader comes from and how it behaves. -/
def loaderLabel : FrameworkLoader → String
  | .described owner _ behaviour => owner ++ ":" ++ wordOf loaderWords behaviour
  | _ => "builtin"

/-- The entries of a described table. -/
def describedTable
    {α : Type}
    (make : String → String → String → α)
    (owner : String)
    (description : Value) :
    List (String × α) :=
  description.fields.map fun field => (field.1, make owner field.1 field.2.asText)

/-- A described offer: a table, or a word for what happens instead. -/
def describedOffer
    {α : Type}
    (make : String → String → String → α)
    (owner : String) :
    Value → Offer α
  | .text "raise" => .fails
  | .text "list" => .noTable
  | .text _ => .nothing
  | .null => .nothing
  | description => .table (describedTable make owner description)

/-- What a described plugin does when it is told that something is over. -/
def describedHook : Value → HookBehaviour
  | .text "raise" => .recordAndFail
  | _ => .record

/-- A described plugin class. -/
def PluginClass.ofDescription (description : Value) : PluginClass :=
  let name := description.textField "class" ""
  { name := name
    constructorFails := description.textField? "ctor" == some "raise"
    backends := (description.field? "backends").map (describedOffer describedBackend name)
    frameworks := (description.field? "frameworks").map (describedOffer describedLoader name)
    functions := (description.field? "functions").map (describedOffer describedFunction name)
    postBuild := (description.field? "post_build").map describedHook
    postLoad := (description.field? "post_load").map describedHook }

/-- A described plugin file; of several classes with one name the last one counts. -/
def PluginFile.ofDescription (description : Value) : PluginFile :=
  match description.field? "broken" with
  | some _ => .broken
  | none =>
      let classes := (description.itemsOf "classes").map PluginClass.ofDescription
      .classes (Table.ofList (classes.map fun plugin => (plugin.name, plugin))).values

/-- The location of a described plugin file. -/
def describedPlace (top : Location) (description file : Value) : Location :=
  Location.below top (description.textField "plugin_dir" ".hsx/plugins") ++
    [file.textField "file" ""]

/-- The described plugin files. -/
def Catalog.ofDescription (top : Location) (description : Value) : Catalog :=
  Table.ofList ((description.itemsOf "plugin_files").map fun file =>
    (describedPlace top description file, PluginFile.ofDescription file))

/-- Described surroundings with the described plugin files in their place. -/
def surroundingsOfDescription (top : Location) (description : Value) : Surroundings :=
  let surroundings := Surroundings.ofDescription top description
  { surroundings with
    files :=
      (description.itemsOf "plugin_files").foldl
        (fun tree file => tree.putFile (describedPlace top description file) ByteArray.empty)
        surroundings.files }

namespace Manager

/-- Register an object of each described class in order; one that is refused is left out. -/
def registerDescribed (manager : Manager) : List Value → Logged Manager
  | [] => pure manager
  | description :: rest => do
      let made := manager.instantiate (PluginClass.ofDescription description) false
      match ← made.1.register made.2 (description.textField? "name") with
      | .ok added => added.registerDescribed rest
      | .error _ => made.1.registerDescribed rest

/-- A manager with the described plugins. -/
def ofDescription (description : Value) : Logged Manager := do
  let first ← start (description.truthField "builtins" true)
  first.registerDescribed (description.itemsOf "plugins")

end Manager

end PageScript.Plugin
