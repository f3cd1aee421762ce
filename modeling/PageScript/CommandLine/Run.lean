import PageScript.CommandLine.Outcome
import PageScript.CommandLine.Request
import PageScript.Plugin.Discovery
import PageScript.Service.Load
import PageScript.Service.Parse

namespace PageScript.CommandLine

/-!
# Running the command line

A run reads the words behind the name of the program, loads the settings, asks a
service, and shows its report.  The words behind the name of a command are read with
the settings in place, and plugins are loaded only when a service is asked.
-/

open Service World

/-- The plugins of a project, with those of its plugin directory if that is enabled. -/
def loadPlugins (settings : Settings) (catalog : Plugin.Catalog) : Attempt Plugin.Manager :=
  ExceptT.mk <| outside do
    let manager ← Plugin.Manager.start true
    if settings.plugins.enabled then do
      let (found, outcome) ← manager.discover catalog (some settings.pluginDirectory)
      pure (outcome.map fun _ => found)
    else
      pure (.ok manager)

/-- Ask a service. -/
def Order.carryOut (project : Project) : Order → Attempt Report
  | .build request => project.build request
  | .load url output => project.load url output
  | .parse source grammar => project.parse source grammar

/-- Carry out an order and show its report. -/
def Order.run (settings : Settings) (catalog : Plugin.Catalog) (order : Order) :
    Attempt Outcome := do
  let plugins ← loadPlugins settings catalog
  let report ← order.carryOut ⟨settings, plugins⟩
  match Outcome.ofReport settings report with
  | .ok outcome => pure outcome
  | .error fault => throw fault

/-- Run a command with the words behind its name. -/
def Subcommand.run
    (command : Subcommand)
    (settings : Settings)
    (catalog : Plugin.Catalog)
    (words : List String) :
    Attempt Outcome := do
  match command.rule.read words with
  | .error error => pure (Outcome.ofUsage command.rule error)
  | .ok reading =>
      match reading.page? with
      | some page => pure (Outcome.ofLines (command.rule.pageLines page))
      | none => do
          let session ← get
          match command.order session.surroundings reading with
          | .error (.usage error) => pure (Outcome.ofUsage command.rule error)
          | .error (.fault fault) => throw fault
          | .ok order => order.run settings catalog

/-- The log events of a session that are important enough to be shown. -/
def shownLog (settings : Settings) (session : Session) : List LogEvent :=
  let threshold := LogLevel.threshold settings.verbose settings.quiet
  session.surroundings.log.filter fun event => threshold.rank ≤ event.level.rank

/-- Run a step with the settings that the options of the program ask for. -/
def withSettings (reading : Reading) (step : Settings → Attempt Outcome) : Stage Outcome := do
  let session ← get
  match Settings.load session.surroundings reading.settingsRequest with
  | .error fault => pure (Outcome.ofFault fault)
  | .ok settings => do
      if settings.verbose then
        changeRecorder fun recorder => recorder.switch true
      let outcome ← (step settings).run
      let after ← get
      let told :=
        match outcome with
        | .ok outcome => outcome
        | .error fault => Outcome.ofFault fault
      pure { told with log := shownLog settings after }

/--
The outcome for a word that names no command: options among it and the next words are read
first.
-/
def unknownCommand (name : String) (words : List String) : Outcome :=
  match programRule.read (name :: words) with
  | .error error => Outcome.ofUsage programRule error
  | .ok reading =>
      match reading.page? with
      | some page => Outcome.ofLines (programRule.pageLines page)
      | none =>
          Outcome.ofUsage programRule
            (.unknownCommand name (closeMatches name (Subcommand.all.map Subcommand.name)))

/-- Run the program with the words behind its name. -/
def run (catalog : Plugin.Catalog) (words : List String) : Stage Outcome := do
  changeRecorder fun recorder => recorder.switch false
  match programRule.read words with
  | .error error => pure (Outcome.ofUsage programRule error)
  | .ok reading =>
      match reading.page?, reading.others with
      | some page, _ => pure (Outcome.ofLines (programRule.pageLines page))
      | none, [] =>
          withSettings reading fun _ => pure (Outcome.ofLines programRule.help)
      | none, name :: rest =>
          match Subcommand.ofName? name with
          | none => pure (unknownCommand name rest)
          | some command =>
              withSettings reading fun settings => command.run settings catalog rest

end PageScript.CommandLine
