import PageScript.Run.Function
import PageScript.Script.Decoding

namespace PageScript.Run

/-!
# Executing commands

Two hosts execute commands.  The runtime host works on the page alone and reports
commands of a build as unsupported.  The build host uses files, backends and
framework loaders, reports media elements as unsupported, and goes on when the
value of a variable cannot be evaluated.  Variables, components and calls mean the
same to both.
-/

open World Script

/-- What a build host works with. -/
structure Workshop where
  baseDirectory : Path
  backends : Table String Backend := ⟨[]⟩
  frameworks : Table String FrameworkLoader := ⟨[]⟩

/-- Who executes the commands. -/
inductive Host where
  /-- A page that is loaded. -/
  | runtime
  /-- A build. -/
  | build (workshop : Workshop)

/-- The name of a host in reports. -/
def Host.name : Host → String
  | runtime => "RuntimeExecutor"
  | build _ => "BuildExecutor"

/-- The token that stands for a variable in a template. -/
def placeholder (name : String) : String :=
  "\x7b\x7b" ++ name ++ "\x7d\x7d"

/-- Bind the value of an expression to a name. -/
def executeSet (name expression : String) (reactive : Bool) : Action Unit := do
  let value ← evaluate expression
  setVariable (.text name) value reactive
  report .info "hsxctl.services.interpreter" "variable.set"
    [("name", .text name), ("reactive", .truth reactive), ("value", value)]

/-- Bind the places below an element that hold the token of one variable; their number. -/
def bindVariable
    (target : Document.NodeId)
    (name : Value) :
    Action Nat := do
  let scene ← get
  match name with
  | .text text => do
      let token := placeholder text
      let slots := scene.context.page.forest.slots token target
      if slots.isEmpty then
        pure 0
      else do
        subscribe name (.substitution token slots)
        pure slots.length
  | other => throw (.notText other.typeName)

/-- Bind the places of several variables; the number of places. -/
def bindVariables (target : Document.NodeId) : List Value → Action Nat
  | [] => pure 0
  | name :: rest => do
      let first ← bindVariable target name
      let others ← bindVariables target rest
      pure (first + others)

/-- Bind the places below an element to the reactive variables whose tokens they hold. -/
def bindReactivity (target : Document.NodeId) : Action Nat := do
  let scene ← get
  bindVariables target (scene.context.store.reactives.map (·.1))

/-- Write a template into an element; one that is no text leaves the element empty. -/
def writeTemplate (target : Document.NodeId) : Value → Action Unit
  | .text markup => setContent target markup
  | other => do
      setContent target ""
      throw (.notText other.typeName)

/-- Write a template into the element that a selector selects; both may be missing. -/
def renderInto (name selector : String) : Action (Option Document.NodeId) := do
  let scene ← get
  match scene.context.store.components.get? (.text name) with
  | none => do
      warnAs "hsxctl.domain.components" ("Component not found: " ++ name)
      pure none
  | some component => do
      match ← resolve selector with
      | none => do
          warnAs "hsxctl.domain.components" ("Render target not found: " ++ selector)
          pure none
      | some target => do
          writeTemplate target component.content
          pure (some target)

/-- Render a component and bind its tokens. -/
def executeRender (name selector : String) : Action Unit := do
  match ← renderInto name selector with
  | none => pure ()
  | some target => do
      let _ ← bindReactivity target
      report .info "hsxctl.services.interpreter" "component.render"
        [("name", .text name), ("selector", .text selector)]

/-- Store a template. -/
def executeDefine (name content : String) : Action Unit := do
  defineComponent (.text name) (.text content)
  report .info "hsxctl.services.interpreter" "component.define" [("name", .text name)]

/-- Call a function, given what functions do. -/
def executeCall (meaning : Meaning) (code : String) : Action Unit := do
  report .info "hsxctl.services.interpreter" "async.run" [("code", .text code)]
  let _ ← callBy meaning code

/-- Add a media element to an element, or to the body when none is selected. -/
def executeMedia (mediaType url selector : String) : Action Unit := do
  let logger := "hsxctl.services.runtime"
  let scene ← get
  let target ←
    match ← resolve selector with
    | some target => pure target
    | none => do
        report .debug logger "media.fallback" [("selector", .text selector)]
        pure scene.context.page.body
  changeContext fun context =>
    { context with page := (context.page.appendElement target mediaType [("src", url)]).1 }
  report .info logger "media.load" [("media_type", .text mediaType), ("url", .text url)]

/-- The logger of build commands. -/
def buildLogger : String :=
  "hsxctl.services.build"

/-- Require that a file exists. -/
def executeImport (workshop : Workshop) (category file : String) : Action Unit := do
  report .info buildLogger "import.check" [("category", .text category), ("file", .text file)]
  let scene ← get
  let location ←
    require id (scene.surroundings.resolveExisting file (some workshop.baseDirectory))
  modify fun scene =>
    { scene with
      record :=
        { scene.record with
          imports := scene.record.imports ++ [Surroundings.locationText location] } }

/-- Run a backend. -/
def Backend.run (baseDirectory : String) : Backend → Action Unit
  | .announce tool =>
      report .info "hsxctl.plugins.builtins.backends" "backend.build"
        [("tool", .text tool), ("base_dir", .text baseDirectory)]
  | .described _ name behaviour => do
      recordCall (.backend name baseDirectory)
      match behaviour with
      | .succeed => pure ()
      | .succeedLater => pure ()
      | .fail => throw (.collaborator ("backend " ++ name ++ " failed"))
      | .failLater => throw (.collaborator ("backend " ++ name ++ " failed"))

/-- Run the backend of a target. -/
def executeTarget (workshop : Workshop) (target : String) : Action Unit := do
  match workshop.backends.get? target with
  | none => diagnose ("Unknown build target: " ++ target)
  | some backend => do
      report .info buildLogger "build.target" [("target", .text target)]
      backend.run workshop.baseDirectory.toString
      modify fun scene =>
        { scene with record := { scene.record with targets := scene.record.targets ++ [target] } }

/-- What a loader returns for a version. -/
def FrameworkLoader.run (version : String) : FrameworkLoader → Action Value
  | .strike => do
      report .info "hsxctl.plugins.builtins.backends" "framework.load"
        [("framework", .text "Strike"), ("version", .text version)]
      pure (Value.record [("name", .text "Strike"), ("version", .text version)])
  | .described _ _ .giveNothing => pure .null
  | .described _ name behaviour => do
      recordCall (.framework name version)
      match behaviour with
      | .fail => throw (.collaborator ("framework " ++ name ++ " failed"))
      | _ => pure (.text (name ++ "@" ++ version))

/-- Load a framework unless it is loaded; whether it was loaded now. -/
def includeFrameworkBy (load : String → Action Value) (name version : String) :
    Action (LoadedFramework × Bool) := do
  let scene ← get
  match scene.cache.get? name with
  | some existing => do
      report .debug "hsxctl.infrastructure.frameworks"
        ("Framework " ++ name ++ " already loaded (v" ++ existing.version ++ "); ignoring v" ++
          version) []
      pure (existing, false)
  | none => do
      let handle ← load version
      let framework : LoadedFramework := ⟨name, version, handle⟩
      modify fun scene => { scene with cache := scene.cache.remember framework }
      pure (framework, true)

/-- Load a framework with a loader of a plugin unless it is loaded. -/
def includeFramework (name version : String) (loader : FrameworkLoader) :
    Action (LoadedFramework × Bool) :=
  includeFrameworkBy (fun version => loader.run version) name version

/-- Include a framework, given what loads the frameworks of names in small letters. -/
def executeIncludeFrom
    (loaders : String → Option (String → Action Value))
    (framework version : String) :
    Action Unit := do
  match loaders (frameworkKey framework) with
  | none => diagnose ("Unknown framework: " ++ framework)
  | some load => do
      let (loaded, fresh) ← includeFrameworkBy load framework version
      report .info buildLogger "framework.include"
        [("framework", .text framework), ("requested", .text version),
         ("version", .text loaded.version), ("loaded", .truth fresh)]
      if fresh then
        modify fun scene =>
          { scene with
            record :=
              { scene.record with
                frameworks := scene.record.frameworks ++ [(loaded.name, loaded.version)] } }

/-- Include a framework of a workshop. -/
def executeInclude (workshop : Workshop) : String → String → Action Unit :=
  executeIncludeFrom fun key =>
    (workshop.frameworks.get? key).map fun loader version => loader.run version

/-- Copy a file. -/
def executeCopy (workshop : Workshop) (source destination : String) : Action Unit := do
  let scene ← get
  let outcome :=
    scene.surroundings.copyFile source destination (some workshop.baseDirectory)
  changeSurroundings fun _ => outcome.1
  let location ← require id outcome.2
  report .info buildLogger "file.copy"
    [("source", .text source), ("destination", .text (Surroundings.locationText location))]
  modify fun scene =>
    { scene with
      record := { scene.record with copies := scene.record.copies ++ [(source, destination)] } }

/-- Bind a variable in a build: an expression without a value is reported and nothing is bound. -/
def executeSetInBuild (line : Int) (name expression : String) (reactive : Bool) : Action Unit :=
  tryCatch (executeSet name expression reactive) fun fault =>
    if fault.isEvaluation then
      diagnose
        ("Line " ++ toString line ++ ": variable " ++ name ++ " not set: " ++ fault.message)
    else
      throw fault

/-- Report a command that a host does not support. -/
def unsupported (host : Host) (placed : PlacedCommand) : Action Unit :=
  diagnose
    ("Line " ++ toString placed.line ++ ": " ++ placed.command.kind.name ++
      " is not supported by " ++ host.name)

/-- Execute a command of a build, given what functions do. -/
def executeInBuild (meaning : Meaning) (workshop : Workshop) (placed : PlacedCommand) :
    Action Unit :=
  match placed.command with
  | .existImport category file => executeImport workshop category file
  | .fileImportAll destination =>
      report .info buildLogger "import.all" [("destination", .text destination)]
  | .fileRename source target =>
      report .info buildLogger "file.rename" [("source", .text source), ("target", .text target)]
  | .buildTarget target => executeTarget workshop target
  | .includeFramework framework version => executeInclude workshop framework version
  | .transform file plugin =>
      report .info buildLogger "file.transform" [("file", .text file), ("plugin", .text plugin)]
  | .copy source destination => executeCopy workshop source destination
  | .runAsync code => executeCall meaning code
  | .defineComponent name content => executeDefine name content
  | .renderComponent name selector => executeRender name selector
  | .setVariable name value reactive => executeSetInBuild placed.line name value reactive
  | .mediaLoad .. => unsupported (.build workshop) placed

/-- Execute a command while a page is loaded, given what functions do. -/
def executeAtRuntime (meaning : Meaning) (placed : PlacedCommand) : Action Unit :=
  match placed.command with
  | .setVariable name value reactive => executeSet name value reactive
  | .defineComponent name content => executeDefine name content
  | .renderComponent name selector => executeRender name selector
  | .mediaLoad mediaType url selector => executeMedia mediaType url selector
  | .runAsync code => executeCall meaning code
  | _ => unsupported .runtime placed

/-- A way to execute commands. -/
abbrev Executor := PlacedCommand → Action Unit

/-- Execute one command to its end, given what functions do. -/
def executeBy (meaning : Meaning) (host : Host) : Executor := fun placed => do
  report .debug "hsxctl.services.interpreter" "command.execute"
    (placed.summary)
  match host with
  | .runtime => executeAtRuntime meaning placed
  | .build workshop => executeInBuild meaning workshop placed

/-- Execute one command to its end. -/
def execute : Host → Executor :=
  executeBy Function.apply

/-- How a run of commands ends: how many were executed, and the command that stopped it, if any. -/
structure RunEnd where
  executed : Nat
  stopped : Option (PlacedCommand × Fault)

/-- Execute commands in order, up to the first that stops with a fault. -/
def runAll (executor : Executor) : Nat → List PlacedCommand → StateM Scene RunEnd
  | executed, [] => pure ⟨executed, none⟩
  | executed, placed :: rest => do
      match ← (executor placed).run with
      | .ok () => runAll executor (executed + 1) rest
      | .error fault => pure ⟨executed, some (placed, fault)⟩

/-- Execute commands on a host. -/
def runCommands (host : Host) : Nat → List PlacedCommand → StateM Scene RunEnd :=
  runAll (execute host)

/-- The text that reports the command that stopped a build. -/
def failureMessage (placed : PlacedCommand) (fault : Fault) : String :=
  "Line " ++ toString placed.line ++ " (" ++ placed.command.kind.name ++ "): " ++ fault.message

end PageScript.Run
