import PageScript.Plugin.Manager
import PageScript.Service.Report
import PageScript.Service.Session
import PageScript.Settings.Basic

namespace PageScript.Service

/-!
# Projects

The services of a project work with its settings and its plugins.  This module holds
what they have in common: finding a source, running in a fresh context, and telling
plugins that an operation is over.
-/

open World

/-- What services work with. -/
structure Project where
  settings : Settings
  plugins : Plugin.Manager

/-- Run a traced operation that answers with a report. -/
def tracedReport (name : String) (step : Attempt Report) : Attempt Report :=
  ExceptT.mk
    (traced name (fun outcome => outcome.toOption.isSome)
      (fun spans outcome => outcome.map (Report.withSpans spans)) step.run)

/-- Run a step in a fresh context: what it answers and what it leaves behind. -/
def inScene
    {α : Type}
    (functions : Table String Run.Function)
    (step : StateM Run.Scene α) :
    Stage (α × Run.Scene) := fun session =>
  let outcome :=
    step.run
      { context := { page := Document.Page.blank, functions := functions }
        surroundings := session.surroundings
        cache := session.cache }
  (outcome,
    { session with surroundings := outcome.2.surroundings, cache := outcome.2.cache })

namespace Project

/-- The report of an operation whose source does not exist. -/
def missingSource (operation : String) (path : Path) : Report :=
  { succeeded := false
    operation := operation
    error := some ⟨"SOURCE_NOT_FOUND", "HSX source not found: " ++ path.toString, []⟩ }

/-- The path of a source as it is written, seen from the project. -/
def locate (project : Project) (written : String) : Attempt Path := do
  let location ←
    attempt fun surroundings => surroundings.resolve written (some project.settings.projectRoot)
  pure (Path.ofLocation location)

/-- Answer with what a written path leads to, if that is a file. -/
def withSource
    (project : Project)
    (operation written : String)
    (body : Path → Attempt Report) :
    Attempt Report := do
  let source ← project.locate written
  if ← attempt fun surroundings => surroundings.isFile source then
    body source
  else
    pure (missingSource operation source)

/-- The path of a source as reports show it. -/
def display (project : Project) (path : Path) : Attempt String := do
  let session ← get
  pure (session.surroundings.displayPath path (some project.settings.projectRoot))

/-- Parse a source; lines that are no commands are logged. -/
def parseSource (source : Path) (grammar : Script.Grammar) : Attempt Script.Parsed := do
  let text ← attempt fun surroundings => surroundings.readText source
  let parsed := Script.parse grammar text
  parsed.unknown.forM fun unknown =>
    ExceptT.lift (logEvent .warning "hsxctl.domain.grammar" unknown.message [])
  pure parsed

/-- Tell plugins that an operation is over; a failure becomes a warning. -/
def tell
    (project : Project)
    (hook : Plugin.Hook)
    (arguments warnings : List Value) :
    Stage (List Value) := do
  match ← outside (project.plugins.dispatch hook arguments) with
  | .ok () => pure warnings
  | .error _ => do
      let message := "Event dispatch failed for " ++ hook.name
      logEvent .debug "hsxctl.services.base" message Plugin.failureMark
      pure (warnings ++ [.text message])

/-- Make the directory that holds a path; directories made before a failure stay. -/
def prepareParent (path : Path) : Attempt Unit := do
  let outcome ← consult do
    let (prepared, outcome) := (← get).makeParent path
    set prepared
    pure outcome
  MonadExcept.ofExcept outcome

/-- Write a text to a file, making the directories above it. -/
def writeOutput (path : Path) (text : String) : Attempt Unit := do
  prepareParent path
  let written ← attempt fun surroundings => surroundings.writeText path text
  modify fun current => { current with surroundings := written }

end Project

end PageScript.Service
