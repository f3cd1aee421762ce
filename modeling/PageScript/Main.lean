import PageScript.CommandLine.Run
import PageScript.Plugin.Description

/-!
# The program

The program runs its command line in the surroundings that the first line of its
input describes: files, environment, answers of servers, and plugins.  What it leaves
in the file tree stays part of these surroundings.
-/

open PageScript

/--
The surroundings of a line of input; a line that describes none counts as an empty
description.
-/
def descriptionOf (line : String) : Value :=
  (Json.read? line.toList).getD (.table [])

/-- The text of a fault that stopped a run. -/
def faultLine (fault : Fault) : String :=
  fault.kind ++ ": " ++ fault.message ++ "\n"

/-- Run the command line. -/
def main (words : List String) : IO UInt32 := do
  let description := descriptionOf (← (← IO.getStdin).getLine)
  let top : World.Location := ["project"]
  let session : Service.Session :=
    { surroundings := Plugin.surroundingsOfDescription top description }
  let catalog := Plugin.Catalog.ofDescription top description
  let outcome := ((CommandLine.run catalog words).run session).1
  (← IO.getStdout).putStr outcome.output
  (← IO.getStderr).putStr (outcome.errors ++ (outcome.fault.map faultLine).getD "")
  pure (UInt32.ofNat outcome.exitCode)
