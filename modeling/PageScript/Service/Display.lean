import PageScript.Console.Grid
import PageScript.Console.Printing
import PageScript.Json.Pretty
import PageScript.Json.Writer
import PageScript.Script.Command
import PageScript.Service.Report
import PageScript.Service.Subject

namespace PageScript.Service

/-!
# Showing reports

A report is shown as data, in one line, or for people.  People see a status line, the
fields that matter for the operation, and grids of failures or commands.  In detail
they also see the further entries of the report, with its spans as a tree.
-/

open Console

/-- How a report is shown. -/
inductive DisplayMode where
  /-- As a data text. -/
  | json
  /-- In one line. -/
  | quiet
  /-- For people. -/
  | plain
  /-- For people, in detail. -/
  | detailed
  deriving Repr, DecidableEq

/-- Lines that may be impossible to show. -/
abbrev Shown := Except Fault (List (List Char))

/-- Print pieces at once. -/
def display (pieces : List Piece) : Shown :=
  (printed pieces).mapError .styleTag

/-- An empty line. -/
def gap : Shown :=
  .ok [[]]

/-- Lines one after the other. -/
def inOrder (sections : List Shown) : Shown :=
  (sections.mapM id).map List.flatten

/-- The name of the style of a kind of command, by what acts on it. -/
def kindStyle (kind : String) : String :=
  match Script.CommandKind.ofName? kind with
  | some .mediaLoad => "hsx.kind.runtime"
  | some known => if known.isRuntime then "hsx.kind.shared" else "hsx.kind.build"
  | none => "hsx.kind.build"

/-- The status line of an operation that succeeded. -/
def statusLines (operation : String) : Shown :=
  display [.literal "OK", .literal ("  " ++ operation)]

/-- Whether a field is shown as the text of its value. -/
def showsPlainText (name : String) : Bool :=
  ["source", "base_dir", "html", "output"].contains name || "_path".toList.isSuffixOf name.toList

/-- The text of the value of a field. -/
def fieldText (name : String) (value : Value) : String :=
  if showsPlainText name then
    value.displayString
  else
    match value with
    | .list _ => String.ofList (Json.compact value)
    | .table _ => String.ofList (Json.compact value)
    | _ => value.displayString

/-- The line of a field. -/
def fieldLines (name : String) (value : Value) : Shown :=
  display [.literal ("  " ++ name ++ ": "), .literal (fieldText name value)]

/-- The lines of those of the named fields that the report has. -/
def givenFields (report : Report) (names : List String) : List Shown :=
  names.filterMap fun name => (report.field? name).map (fieldLines name)

/-- The lines for a field that counts as true. -/
def whenTruthy (report : Report) (name : String) (lines : Value → List Shown) : List Shown :=
  match report.field? name with
  | some value => if value.isTruthy then lines value else []
  | none => []

/-- The line of a name and a value, a number of blanks further in. -/
def entryLines (indent : Nat) (name text : String) : Shown :=
  display [.markup (String.ofList (List.replicate indent ' ') ++ name ++ ": " ++ text)]

/-! ### Spans -/

/-- The style of a duration in milliseconds. -/
def durationStyle (duration : Float) : String :=
  if duration > 1000.0 then "bold red" else if duration > 100.0 then "yellow" else "dim"

/-- The text of a duration, filled up to eight cells. -/
def durationText (duration : Float) : String :=
  let written := Decimal.fixed 2 duration
  String.ofList (List.replicate (8 - written.length) ' ' ++ written) ++ "ms"

/-- The notes of a span behind its name. -/
def notesText (notes : Value) : Except Fault String := do
  if notes.isTruthy then
    let entries ← bindings notes
    let texts := entries.map fun entry => entry.1.displayString ++ "=" ++ entry.2.displayString
    pure ("  (" ++ String.intercalate ", " texts ++ ")")
  else
    pure ""

/-- The line of a span. -/
def spanLine (indent : Nat) (span : Value) : Shown := do
  let name ← lookedUp span "name"
  let measured ← lookedUp span "duration_ms"
  let duration ← durationOf (measured.getD (.number 0.0))
  let notes ← notesText (span.field "notes")
  let style := durationStyle duration
  display
    [.markup
      (String.ofList (List.replicate indent ' ') ++ "[" ++ style ++ "]" ++ durationText duration ++
        "[/" ++ style ++ "]  " ++ (name.getD (.text "?")).displayString ++ notes)]

/-- The lines of a span and of the spans inside it; the depth of the value is fuel enough. -/
def spanTree : Nat → Nat → Value → Shown
  | 0, _, _ => .ok []
  | fuel + 1, indent, span => do
      let own ← spanLine indent span
      let children ← iterated ((span.field? "children").getD (.list []))
      let inner ← inOrder (children.map (spanTree fuel (indent + 2)))
      pure (own ++ inner)

/-- The lines of the further entries of a report. -/
def extraLines (report : Report) : List Shown :=
  match report.extra with
  | none => []
  | some [] => []
  | some entries =>
      [gap, display [.literal "  meta:"]] ++
        entries.map fun entry =>
          if entry.1 == "telemetry" then
            spanTree (entry.2.depth + 1) 4 entry.2
          else
            entryLines 4 entry.1 entry.2.displayString

/-! ### Builds -/

/-- The line of a field of texts. -/
def joinedLines (name : String) (value : Value) : List Shown :=
  [do fieldLines name (.text (← joined value))]

/-- The name and the version of a framework. -/
def frameworkText (framework : Value) : Except Fault String := do
  let name ← indexed framework "name"
  let version ← indexed framework "version"
  pure (name.displayString ++ " " ++ version.displayString)

/-- The line of the frameworks. -/
def frameworkLines (value : Value) : List Shown :=
  [do
    let frameworks ← iterated value
    let texts ← frameworks.mapM frameworkText
    fieldLines "frameworks" (.text (String.intercalate ", " texts))]

/-- The line of a copy. -/
def copyLine (copy : Value) : Shown := do
  let source ← indexed copy "from"
  let destination ← indexed copy "to"
  display [.markup ("    " ++ source.displayString ++ " -> " ++ destination.displayString)]

/-- The lines of the copies: their number and, in detail, all of them. -/
def copyLines (detailed : Bool) (value : Value) : List Shown :=
  [do fieldLines "copies" (Value.count (← itemCount value)),
   if detailed then do inOrder ((← iterated value).map copyLine) else .ok []]

/-- The lines of a build. -/
def buildLines (detailed : Bool) (report : Report) : List Shown :=
  givenFields report ["source", "base_dir", "commands"] ++
    whenTruthy report "targets" (joinedLines "targets") ++
    whenTruthy report "frameworks" frameworkLines ++
    whenTruthy report "copies" (copyLines detailed) ++
    whenTruthy report "components" (joinedLines "components") ++
    whenTruthy report "variables" (fun value => [fieldLines "variables" value]) ++
    givenFields report ["html"]

/-! ### Loads -/

/-- The grid of failures. -/
def failureColumns : List Column :=
  [{ title := "Line", alignment := .right }, { title := "Text", wraps := false },
   { title := "Error" }]

/-- The number of a line, which is shown as markup. -/
def lineNumber (entry : Value) : Except Fault Value :=
  indexed entry "line"

/-- A row of a number, which is markup, and literal texts. -/
def rowOf (number : Value) (texts : List String) : Except Fault (List (List Char)) := do
  let shown ← (shownText number.display).mapError Fault.styleTag
  pure (shown :: texts.map String.toList)

/-- The lines of a grid behind an empty line. -/
def gridLines (columns : List Column) (rows : List (Value × List String)) : Shown := do
  let cells ← rows.mapM fun row => rowOf row.1 row.2
  let grid : Grid := ⟨columns, cells⟩
  pure ([] :: grid.lines consoleWidth)

/-- The number and the texts of the row of a failure. -/
def failureRow (failure : Value) : Except Fault (Value × List String) := do
  let number ← lineNumber failure
  let text ← asLiteral (← indexed failure "text")
  let error ← asLiteral (← indexed failure "error")
  pure (number, [text, error])

/-- The lines of the failures. -/
def failureLines (value : Value) : List Shown :=
  [do
    let failures ← iterated value
    gridLines failureColumns (← failures.mapM failureRow)]

/-- The lines of where the page of a load is: its file, or the page itself. -/
def pageLines (report : Report) : List Shown :=
  match report.field? "output", report.field? "html" with
  | some output, _ => [fieldLines "output" output]
  | none, some page => [gap, do display [.literal (← asLiteral page)]]
  | none, none => []

/-- The lines of a load. -/
def loadLines (report : Report) : List Shown :=
  givenFields report ["url", "commands", "scripts", "cloned"] ++
    whenTruthy report "failures" failureLines ++ pageLines report

/-! ### Parses -/

/-- The grid of commands. -/
def commandColumns : List Column :=
  [{ title := "Line", alignment := .right }, { title := "Kind" }, { title := "Arguments" }]

/-- An argument of a command with its name. -/
def argumentText (entry : Value × Value) : String :=
  entry.1.displayString ++ "=" ++ entry.2.quotedText

/-- The number and the texts of the row of a command. -/
def commandRow (command : Value) : Except Fault (Value × List String) := do
  let kind ← indexed command "kind"
  let payload :=
    command.entries.filter fun entry =>
      !(entry.1.same (.text "kind") || entry.1.same (.text "line"))
  let number ← lineNumber command
  pure (number, [kind.displayString, String.intercalate ", " (payload.map argumentText)])

/-- The lines of the commands. -/
def commandLines (value : Value) : List Shown :=
  [do
    let commands ← iterated value
    gridLines commandColumns (← commands.mapM commandRow)]

/-- The lines of a parse. -/
def parseLines (report : Report) : List Shown :=
  givenFields report ["source", "grammar", "count"] ++
    whenTruthy report "commands" commandLines

/-! ### Reports -/

/-- The lines of the data of a report. -/
def dataLines (detailed : Bool) (report : Report) : List Shown :=
  match report.operation with
  | "build" => buildLines detailed report
  | "load" => loadLines report
  | "parse" => parseLines report
  | _ => report.data.map fun field => fieldLines field.1 field.2

/-- The message of the error of a report. -/
def Report.errorMessage (report : Report) : String :=
  (report.error.map ReportError.message).getD "Unknown error"

/-- The detail of the error of a report. -/
def Report.errorDetail (report : Report) : List (String × Value) :=
  (report.error.map ReportError.detail).getD []

/-- The lines of an operation that failed. -/
def errorLines (detailed : Bool) (report : Report) : List Shown :=
  display
      [.literal "ERROR", .literal ("  " ++ report.operation), .literal " — ",
       .markup report.errorMessage] ::
    if detailed && !report.errorDetail.isEmpty then
      display [.literal "  detail:"] ::
        report.errorDetail.map fun entry => entryLines 4 entry.1 entry.2.displayString
    else
      []

/-- The lines of a report for people. -/
def reportLines (detailed : Bool) (report : Report) : List Shown :=
  if report.succeeded then
    statusLines report.operation :: dataLines detailed report ++
      if detailed then extraLines report else []
  else
    errorLines detailed report

/-- Lines as one text, without empty lines at the end. -/
def joinedText (lines : List (List Char)) : String :=
  let written := Text.joinWith ['\n'] lines
  String.ofList ((written.reverse.dropWhile (· = '\n')).reverse)

/-- A report for people. -/
def Report.plainText (detailed : Bool) (report : Report) : Except Fault String :=
  (inOrder (reportLines detailed report)).map joinedText

/-- A report in one line; the page of a load stands for itself. -/
def Report.quietText (report : Report) : String :=
  if report.succeeded then
    match report.operation, report.field? "html" with
    | "load", some page => page.displayString
    | operation, _ => "OK: " ++ operation
  else
    "ERROR: " ++ report.operation ++ " — " ++ report.errorMessage

/-- The greatest depth of a field that is written as data. -/
def depthLimit : Nat :=
  255

/-- A report as a data text; its fields must not be nested too deep. -/
def Report.dataText (report : Report) : Except Fault String :=
  let fields := report.data ++ report.errorDetail ++ report.extra.getD []
  if fields.all fun field => field.2.depth ≤ depthLimit then
    .ok (String.ofList (Json.pretty 0 report.record))
  else
    .error .nestedTooDeep

/-- The text of a report in a mode. -/
def Report.text (report : Report) : DisplayMode → Except Fault String
  | .json => report.dataText
  | .quiet => .ok report.quietText
  | .plain => report.plainText false
  | .detailed => report.plainText true

end PageScript.Service
