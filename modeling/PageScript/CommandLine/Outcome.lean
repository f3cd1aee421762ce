import PageScript.CommandLine.Help
import PageScript.Service.Display
import PageScript.Settings.Basic
import PageScript.World.Basic

namespace PageScript.CommandLine

/-!
# Outcomes of the command line

Reports of operations that succeeded go to the output and their warnings to the
errors.  Reports of operations that failed go to the errors, and the run ends with
the code one.  A wrong command line ends with the code two.
-/

open Service World

/-- What a run leaves behind. -/
structure Outcome where
  exitCode : Nat := 0
  output : String := ""
  errors : String := ""
  /-- The fault that stopped the run, if it is told as such. -/
  fault : Option Fault := none
  /-- The log events that are important enough to be shown. -/
  log : List LogEvent := []

namespace Outcome

/-- The outcome that shows lines. -/
def ofLines (lines : List String) : Outcome :=
  { output := linesText lines }

/-- The outcome of a wrong command line. -/
def ofUsage (rule : Rule) (error : UsageError) : Outcome :=
  { exitCode := 2, errors := error.report rule }

/-- The outcome of a run that a fault stopped; a fault of the settings text is an ordinary error. -/
def ofFault : Fault → Outcome
  | .settingsText path reason =>
      { exitCode := 1
        errors := linesText ["Error: " ++ (Fault.settingsText path reason).message] }
  | fault => { exitCode := 1, fault := some fault }

end Outcome

/-- How reports are shown. -/
def displayMode (settings : Settings) : DisplayMode :=
  if settings.jsonOutput then .json
  else if settings.quiet then .quiet
  else if settings.verbose then .detailed
  else .plain

/-- The lines that warn of what a report warns of. -/
def warningLines (settings : Settings) (report : Report) : List String :=
  if settings.jsonOutput || settings.quiet then
    []
  else
    report.warnings.map fun warning => "WARNING: " ++ warning

/-- The outcome that shows a report. -/
def Outcome.ofReport (settings : Settings) (report : Report) : Except Fault Outcome :=
  (report.text (displayMode settings)).map fun text =>
    if report.succeeded then
      { output := linesText [text], errors := linesText (warningLines settings report) }
    else
      { exitCode := 1, errors := linesText [text] }

end PageScript.CommandLine
