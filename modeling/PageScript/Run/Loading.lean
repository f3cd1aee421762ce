import PageScript.Run.Host
import PageScript.Script.Block

namespace PageScript.Run

/-!
# Loading pages

Loading a page runs its script block against a document.  The scripts of the
block are added to the body first, then its lines are executed one by one, where a
line that fails is reported and the next one still runs, and at last copies of its
media and division elements are added to the body.
-/

open Markup World

mutual

/-- The elements of a tree whose tags pass a test, in document order. -/
def elementsOf (wanted : String → Bool) : Tree → List Tree
  | .text _ => []
  | .element tag attributes children =>
      if wanted tag then
        .element tag attributes children :: elementsOfAll wanted children
      else
        elementsOfAll wanted children

/-- The elements of neighbouring trees whose tags pass a test, in document order. -/
def elementsOfAll (wanted : String → Bool) : List Tree → List Tree
  | [] => []
  | tree :: rest => elementsOf wanted tree ++ elementsOfAll wanted rest

end

/-- The script that a script of a block is hoisted as: its source, its type and its text. -/
def hoistedScript : Tree → Tree
  | .text data => .text data
  | .element _ attributes children =>
      let kept := ["src", "type"].filterMap fun name =>
        (attributes.get? name).map fun value => (name, value)
      let content := String.ofList (treesTextContent children)
      .element "script" ⟨kept⟩ (if content.isEmpty then [] else [.text content])

/-- The scripts that the trees of a block are hoisted as. -/
def hoistedScripts (block : List Tree) : List Tree :=
  (elementsOfAll (· == "script") block).map hoistedScript

/-- The elements of a block that are copied into the body. -/
def clonedElements (cloneTags : List String) (block : List Tree) : List Tree :=
  elementsOfAll (fun tag => cloneTags.contains tag) block

/-- Add trees at the end of the body. -/
def appendToBody (trees : List Tree) : Action Unit :=
  changeContext fun context =>
    { context with
      page :=
        { context.page with
          forest := context.page.forest.appendTrees context.page.body trees } }

/-- A line that is no command or whose command failed. -/
structure LineFailure where
  line : Int
  text : String
  error : String

/-- What loading a page did. -/
structure LoadReport where
  executed : Nat := 0
  failures : List LineFailure := []
  scripts : Nat := 0
  cloned : Nat := 0

/-- How the failure of a line is reported. -/
def lineError : Fault → String
  | .unknownLine unknown => unknown.message
  | fault => fault.kind ++ ": " ++ fault.message

/-- Execute one line: whether there was a command, unless it fails. -/
def executeLine (executor : Executor) (line : Int) (text : List Char) : Action Bool := do
  match Script.parseLine .runtime line text with
  | .error unknown => throw (.unknownLine unknown)
  | .ok none => pure false
  | .ok (some placed) => do
      executor placed
      pure true

/-- The logger of loads. -/
def loadLogger : String :=
  "hsxctl.services.loader"

/-- Note the failure of a line. -/
def noteFailure (report : LoadReport) (line : Int) (text : List Char) (fault : Fault) :
    StateM Scene LoadReport := do
  let error := lineError fault
  modify fun scene =>
    { scene with
      surroundings :=
        scene.surroundings.report
          ⟨.warning, loadLogger, "load.line_failed",
            [("line", .integer line), ("error", .text error)]⟩ }
  pure
    { report with
      failures := report.failures ++ [⟨line, String.ofList (Text.trim text), error⟩] }

/-- Execute lines in order, whatever becomes of each. -/
def executeLines (executor : Executor) (report : LoadReport) :
    Int → List (List Char) → StateM Scene LoadReport
  | _, [] => pure report
  | line, text :: rest => do
      match ← (executeLine executor line text).run with
      | .ok true =>
          executeLines executor { report with executed := report.executed + 1 } (line + 1) rest
      | .ok false => executeLines executor report (line + 1) rest
      | .error fault => do
          let noted ← noteFailure report line text fault
          executeLines executor noted (line + 1) rest

/-- How pages are loaded. -/
structure LoadOptions where
  blockTag : String := "hsx"
  cloneTags : List String := ["img", "video", "canvas", "div"]

/-- Clone tags are compared in small letters. -/
def LoadOptions.smallCloneTags (options : LoadOptions) : List String :=
  options.cloneTags.map fun tag => String.ofList (Text.lower tag.toList)

/-- Run the block of a page text with an executor; `url` names the page in the log. -/
def loadTextBy (executor : Executor) (options : LoadOptions) (url text : String) :
    Action LoadReport := do
  match Script.extractBlock? options.blockTag text with
  | none => throw (.noBlock options.blockTag)
  | some block => do
      let trees ← require .markup (parseTrees block)
      let scripts := hoistedScripts trees
      appendToBody scripts
      let executed ←
        liftM (executeLines executor { scripts := scripts.length } 1 (Text.lines block.toList))
      let clones := clonedElements options.smallCloneTags trees
      appendToBody clones
      let finished := { executed with cloned := clones.length }
      report .info loadLogger "load.finish"
        [("url", .text url), ("executed", .integer finished.executed),
         ("failures", .integer finished.failures.length), ("scripts", .integer finished.scripts),
         ("cloned", .integer finished.cloned)]
      pure finished

/-- Run the block of a page text while the page is loaded. -/
def loadText : LoadOptions → String → String → Action LoadReport :=
  loadTextBy (execute .runtime)

/-- Fetch a page and run its block. -/
def loadPage (options : LoadOptions) (timeout : Value) (url : String) : Action LoadReport := do
  let scene ← get
  let fetched := scene.surroundings.fetch url timeout
  changeSurroundings fun _ => fetched.1
  let text ← require id fetched.2
  loadText options url text

end PageScript.Run
