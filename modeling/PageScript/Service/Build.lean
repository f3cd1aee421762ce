import PageScript.Run.Host
import PageScript.Service.Project

namespace PageScript.Service

/-!
# Building

A build parses a source with the build grammar and executes its commands up to the
first that fails.  What commands render goes into a page of its own, which can be
written to a file.
-/

open World

/-- What a caller asks of a build. -/
structure BuildRequest where
  /-- The source as it is written; the settings name one otherwise. -/
  source : Option String := none
  /-- The directory that paths in the source are seen from. -/
  baseDirectory : Option Path := none
  /-- Where the page is written. -/
  output : Option Path := none

/-- The code of the error of a build that stops with a fault. -/
def buildErrorCode (fault : Fault) : String :=
  if fault.isMissingFile then "FILE_NOT_FOUND"
  else if fault.isEvaluation then "EVALUATION_FAILED"
  else "BUILD_FAILED"

/--
The number of commands before one of them, or of all commands if it is none of them.  The
commands of a source are told apart by their lines, so a repetition does not count.
-/
def progress (commands : List Script.PlacedCommand) (stopped : Script.PlacedCommand) : Nat :=
  commands.findIdx fun placed => placed = stopped

/-- The warnings of a build: the lines that are no commands, and those of its commands. -/
def buildWarnings (parsed : Script.Parsed) (scene : Run.Scene) : List Value :=
  parsed.unknown.map (fun unknown => Value.text unknown.message) ++ scene.context.warnings

/-- The report of a build that a command stopped. -/
def stoppedBuild
    (warnings : List String)
    (executed : Nat)
    (placed : Script.PlacedCommand)
    (fault : Fault) :
    Report :=
  { succeeded := false
    operation := "build"
    warnings := warnings
    error :=
      some
        ⟨buildErrorCode fault, Run.failureMessage placed fault,
          [("line", .integer placed.line), ("kind", .text placed.command.kind.name),
           ("executed", Value.count executed)]⟩ }

/-- A list of pairs of texts as records with the given field names. -/
def pairRecords (first second : String) (pairs : List (String × String)) : Value :=
  .list (pairs.map fun pair => Value.record [(first, .text pair.1), (second, .text pair.2)])

/-- What a build that was executed to its end leaves behind. -/
structure Built where
  executed : Nat
  scene : Run.Scene
  output : Option Path

/-- The data of the report of a build. -/
def Built.data (built : Built) (source : String) (baseDirectory : Path) :
    List (String × Value) :=
  let store := built.scene.context.store
  let record := built.scene.record
  [("source", .text source), ("base_dir", .text baseDirectory.toString),
   ("commands", Value.count built.executed), ("imports", Value.texts record.imports),
   ("copies", pairRecords "from" "to" record.copies), ("targets", Value.texts record.targets),
   ("frameworks", pairRecords "name" "version" record.frameworks),
   ("variables", .table store.snapshot), ("components", .list store.components.keys)] ++
    (built.output.map fun path => ("html", Value.text path.toString)).toList

namespace Project

/-- The directory that paths in a source are seen from. -/
def baseDirectory (project : Project) (request : BuildRequest) (source : Path) : Attempt Path :=
  match request.baseDirectory, project.settings.build.baseDirectory with
  | some given, _ => pure given
  | none, some configured => project.locate configured.toString
  | none, none => pure source.parent

/-- Parse the source of a build as a phase. -/
def parsePhase (source : Path) : Attempt Script.Parsed :=
  attemptPhase "parse" fun recorded => do
    let parsed ← parseSource source .build
    noteIf recorded
      [("commands", Value.count parsed.commands.length),
       ("skipped", Value.count parsed.unknown.length)]
    pure parsed

/-- Write the page of a build, if that is asked for. -/
def emit (request : BuildRequest) (page : Document.Page) : Attempt Unit :=
  match request.output with
  | none => pure ()
  | some path =>
      attemptPhase "emit" fun _ => writeOutput path (page.markup?.getD "")

/-- What the commands of a build leave behind, or the report when one of them failed. -/
def finishBuild
    (request : BuildRequest)
    (parsed : Script.Parsed)
    (finish : Run.RunEnd)
    (scene : Run.Scene) :
    Attempt (Except Report Built) :=
  match finish.stopped with
  | some (placed, fault) => do
      let warnings ← Report.checkedWarnings (buildWarnings parsed scene)
      pure (.error (stoppedBuild warnings (progress parsed.commands placed) placed fault))
  | none => do
      emit request scene.context.page
      pure (.ok ⟨finish.executed, scene, request.output⟩)

/-- Execute the commands of a build as a phase. -/
def executeBuild
    (request : BuildRequest)
    (functions : Table String Run.Function)
    (workshop : Run.Workshop)
    (parsed : Script.Parsed) :
    Attempt (Except Report Built) :=
  attemptPhase "execute" fun _ => do
    let (finish, scene) ←
      inScene functions (Run.runCommands (.build workshop) 0 parsed.commands)
    finishBuild request parsed finish scene

/-- The report of a build that was executed, to its end or up to a command that stopped it. -/
def reportBuild (project : Project) (source base : Path) (parsed : Script.Parsed) :
    Except Report Built → Attempt Report
  | .error stopped => pure stopped
  | .ok built => do
      let place : Value := .text source.toString
      let executed := Value.count built.executed
      logEvent .info Run.buildLogger "build.finish" [("source", place), ("executed", executed)]
      let warnings ←
        project.tell .postBuild [place, executed] (buildWarnings parsed built.scene)
      let shown ← project.display source
      let checked ← Report.checkedWarnings warnings
      pure
        { succeeded := true
          operation := "build"
          data := built.data shown base
          warnings := checked }

/-- The report of a build whose source exists. -/
def buildSource (project : Project) (request : BuildRequest) (source : Path) : Attempt Report := do
  let parsed ← parsePhase source
  let base ← project.baseDirectory request source
  let functions ← consult project.plugins.functions
  let backends ← consult project.plugins.backends
  let frameworks ← consult project.plugins.frameworks
  logEvent .info Run.buildLogger "build.start"
    [("source", .text source.toString), ("commands", Value.count parsed.commands.length)]
  let executed ← executeBuild request functions ⟨base, backends, frameworks⟩ parsed
  project.reportBuild source base parsed executed

/-- Build a source. -/
def build (project : Project) (request : BuildRequest) : Attempt Report :=
  tracedReport "BuildService.build"
    (project.withSource "build" (request.source.getD project.settings.build.entry)
      (project.buildSource request))

end Project

end PageScript.Service
