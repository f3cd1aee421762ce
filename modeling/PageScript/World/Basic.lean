import PageScript.Value
import PageScript.World.Files

namespace PageScript.World

/-!
# The surroundings of a run

A run reads and writes files, fetches pages, calls collaborators and reports what
it does.  All of this is part of a value: the file tree, the pages that can be
fetched, the calls so far, and the log so far.
-/

/-- How important a log event is. -/
inductive LogLevel where
  | debug
  | info
  | warning
  | error
  deriving Repr, DecidableEq

/-- The rank of a level; events below a threshold are not shown. -/
def LogLevel.rank : LogLevel → Nat
  | debug => 10
  | info => 20
  | warning => 30
  | error => 40

/-- The least level of the log events that are shown; detail goes before silence. -/
def LogLevel.threshold (detailed quiet : Bool) : LogLevel :=
  if detailed then debug else if quiet then error else warning

/-- The name of a level. -/
def LogLevel.name : LogLevel → String
  | debug => "debug"
  | info => "info"
  | warning => "warning"
  | error => "error"

/-- One entry of the log, with its own fields. -/
structure LogEvent where
  level : LogLevel
  logger : String
  event : String
  fields : List (String × Value) := []

/-- A call that left the program, as a collaborator sees it. -/
inductive Call where
  | backend (name baseDirectory : String)
  | framework (name version : String)
  | function (name : String) (arguments : List Value)
  | hook (owner hook : String) (arguments : List Value)
  | fetch (url : String) (timeout : Value)
  | subscriber (label : String) (value : Value)

/-- The answer of a server. -/
structure Response where
  status : Nat
  reason : String
  text : String

/-- Everything outside the program that a run can see or change. -/
structure Surroundings where
  files : FileTree
  directory : Location
  home : String
  environment : Table String String
  pages : Table String Response
  calls : List Call := []
  log : List LogEvent := []

namespace Surroundings

/-- Record a call. -/
def record (surroundings : Surroundings) (call : Call) : Surroundings :=
  { surroundings with calls := surroundings.calls ++ [call] }

/-- Record a log event. -/
def report (surroundings : Surroundings) (event : LogEvent) : Surroundings :=
  { surroundings with log := surroundings.log ++ [event] }

end Surroundings

end PageScript.World
