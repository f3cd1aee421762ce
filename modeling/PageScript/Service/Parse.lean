import PageScript.Script.Grammar
import PageScript.Service.Project

namespace PageScript.Service.Project

/-!
# Parsing

A source can be parsed without executing it, to see which commands it holds.
-/

open World

/-- The report of the commands of a source that exists. -/
def reportSource (project : Project) (grammar : Script.Grammar) (source : Path) :
    Attempt Report := do
  let parsed ← parseSource source grammar
  let shown ← project.display source
  pure
    { succeeded := true
      operation := "parse"
      data :=
        [("source", .text shown), ("grammar", .text grammar.name),
         ("count", Value.count parsed.commands.length),
         ("commands", .list (parsed.commands.map fun placed => Value.record placed.summary))]
      warnings := parsed.unknown.map fun unknown => unknown.message }

/-- Parse a source with a grammar. -/
def parse (project : Project) (written : String) (grammar : Script.Grammar) : Attempt Report :=
  tracedReport "ParseService.parse"
    (project.withSource "parse" written (project.reportSource grammar))

end PageScript.Service.Project
