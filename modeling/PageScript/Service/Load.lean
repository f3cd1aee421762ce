import PageScript.Run.Loading
import PageScript.Service.Project

namespace PageScript.Service

/-!
# Loading

A load fetches a page, runs its script block against a page of its own, and reports
the lines that failed.  A page that cannot be fetched or has no block fails the
load.
-/

open World

/-- The report of a load that failed at an address. -/
def failedLoad (url code message : String) : Report :=
  { succeeded := false
    operation := "load"
    error := some ⟨code, message, [("url", .text url)]⟩ }

/-- Whether a fault says that a page cannot be fetched. -/
def isFetchFailure : Fault → Bool
  | .unreachable _ => true
  | .errorStatus .. => true
  | fault => fault.isMissingFile

/-- The failure of a line as a record. -/
def failureRecord (failure : Run.LineFailure) : Value :=
  Value.record
    [("line", .integer failure.line), ("text", .text failure.text), ("error", .text failure.error)]

/-- The failure of a line as a warning. -/
def failureWarning (failure : Run.LineFailure) : Value :=
  .text ("Line " ++ toString failure.line ++ ": " ++ failure.error)

/-- The data of the report of a load, apart from where its page goes. -/
def loadData (url : String) (report : Run.LoadReport) : List (String × Value) :=
  [("url", .text url), ("commands", Value.count report.executed),
   ("failures", .list (report.failures.map failureRecord)),
   ("scripts", Value.count report.scripts), ("cloned", Value.count report.cloned)]

/-- Fetch a page: its text, or the report when that fails. -/
def fetchPage (timeout : Value) (url : String) : Attempt (Except Report String) :=
  attemptPhase "fetch" fun _ => do
    match ← consult (fun surroundings => (surroundings.fetch url timeout).swap) with
    | .ok text => pure (.ok text)
    | .error fault =>
        if isFetchFailure fault then
          pure
            (.error
              (failedLoad url "FETCH_FAILED"
                ("Could not fetch " ++ url ++ ": " ++ fault.message)))
        else
          throw fault

/-- What the block of a page did and leaves behind, or the report when there is none. -/
def finishPage
    (url : String)
    (recorded : Bool)
    (outcome : Except Fault Run.LoadReport)
    (scene : Run.Scene) :
    Attempt (Except Report (Run.LoadReport × Run.Scene)) :=
  match outcome with
  | .ok report => do
      noteIf recorded
        [("executed", Value.count report.executed),
         ("failed", Value.count report.failures.length)]
      pure (.ok (report, scene))
  | .error (.noBlock tag) =>
      pure (.error (failedLoad url "NO_HSX_BLOCK" (Fault.noBlock tag).message))
  | .error fault => throw fault

/-- Run the block of a page as a phase. -/
def runPage
    (options : Run.LoadOptions)
    (functions : Table String Run.Function)
    (url text : String) :
    Attempt (Except Report (Run.LoadReport × Run.Scene)) :=
  attemptPhase "run" fun recorded => do
    let (outcome, scene) ← inScene functions (Run.loadText options url text).run
    finishPage url recorded outcome scene

namespace Project

/-- How the project loads pages. -/
def loadOptions (project : Project) : Run.LoadOptions :=
  { blockTag := project.settings.loader.blockTag
    cloneTags := project.settings.loader.cloneTags }

/-- The report of a load whose block was run. -/
def loadedReport
    (project : Project)
    (url : String)
    (output : Option Path)
    (report : Run.LoadReport)
    (scene : Run.Scene) :
    Attempt Report := do
  let markup := scene.context.page.markup?.getD ""
  let warnings ←
    project.tell .postLoad
      [.text url, Value.count report.executed, Value.count report.failures.length]
      (scene.context.warnings ++ report.failures.map failureWarning)
  let place ←
    match output with
    | some path => do
        writeOutput path markup
        pure ("output", Value.text path.toString)
    | none => pure ("html", Value.text markup)
  let checked ← Report.checkedWarnings warnings
  pure
    { succeeded := true
      operation := "load"
      data := loadData url report ++ [place]
      warnings := checked }

/-- The report of a load whose page was fetched. -/
def loadFetched
    (project : Project)
    (functions : Table String Run.Function)
    (url : String)
    (output : Option Path) :
    Except Report String → Attempt Report
  | .error failed => pure failed
  | .ok text => do
      match ← runPage project.loadOptions functions url text with
      | .error failed => pure failed
      | .ok (report, scene) => project.loadedReport url output report scene

/-- Load a page; its markup is written to a file if one is given. -/
def load (project : Project) (url : String) (output : Option Path) : Attempt Report :=
  tracedReport "LoadService.load" do
    let functions ← consult project.plugins.functions
    let fetched ← fetchPage (.number project.settings.loader.timeout) url
    project.loadFetched functions url output fetched

end Project

end PageScript.Service
