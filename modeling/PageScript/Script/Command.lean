import PageScript.Value

namespace PageScript.Script

/-!
# Commands

A command is one step of a page script.  Every kind of command has its own
fields, and a placed command remembers the line it was written on.  The line is
provenance only: placed commands are compared by their commands.
-/

/-- The kinds of commands. -/
inductive CommandKind where
  | existImport
  | fileImportAll
  | fileRename
  | buildTarget
  | includeFramework
  | transform
  | copy
  | runAsync
  | defineComponent
  | renderComponent
  | setVariable
  | mediaLoad
  deriving Repr, DecidableEq

namespace CommandKind

/-- All kinds of commands. -/
def all : List CommandKind :=
  [.existImport, .fileImportAll, .fileRename, .buildTarget, .includeFramework, .transform,
   .copy, .runAsync, .defineComponent, .renderComponent, .setVariable, .mediaLoad]

/-- The name of a kind in reports. -/
def name : CommandKind → String
  | .existImport => "exist-import"
  | .fileImportAll => "file-import-all"
  | .fileRename => "file-rename"
  | .buildTarget => "build-target"
  | .includeFramework => "include-framework"
  | .transform => "transform"
  | .copy => "copy"
  | .runAsync => "run-async"
  | .defineComponent => "define-component"
  | .renderComponent => "render-component"
  | .setVariable => "set-variable"
  | .mediaLoad => "media-load"

/-- The kind with a given name. -/
def ofName? (name : String) : Option CommandKind :=
  all.find? fun kind => kind.name == name

/-- The kinds that can be acted on while a page is loaded. -/
def isRuntime : CommandKind → Bool
  | .setVariable => true
  | .defineComponent => true
  | .renderComponent => true
  | .mediaLoad => true
  | .runAsync => true
  | _ => false

/-- The names of the kinds that are missing from a list, in alphabetical order. -/
def missingNames (handled : List CommandKind) : List String :=
  ((all.filter fun kind => !handled.contains kind).map name).mergeSort fun a b => decide (a ≤ b)

end CommandKind

/-- One step of a page script. -/
inductive Command where
  /-- Require that a file exists. -/
  | existImport (category file : String)
  /-- Announce that all files are imported. -/
  | fileImportAll (destination : String)
  /-- Announce that a file is renamed. -/
  | fileRename (source target : String)
  /-- Run a build backend. -/
  | buildTarget (target : String)
  /-- Load a framework unless it is loaded already. -/
  | includeFramework (framework version : String)
  /-- Announce that a file is transformed. -/
  | transform (file plugin : String)
  /-- Copy a file. -/
  | copy (source destination : String)
  /-- Call a function. -/
  | runAsync (code : String)
  /-- Store a template under a name. -/
  | defineComponent (name content : String)
  /-- Write a template into an element of the document. -/
  | renderComponent (name selector : String)
  /-- Bind a variable to the value of an expression. -/
  | setVariable (name value : String) (reactive : Bool)
  /-- Add a media element to an element of the document. -/
  | mediaLoad (mediaType url selector : String)
  deriving Repr, DecidableEq

namespace Command

/-- The kind of a command. -/
def kind : Command → CommandKind
  | existImport .. => .existImport
  | fileImportAll .. => .fileImportAll
  | fileRename .. => .fileRename
  | buildTarget .. => .buildTarget
  | includeFramework .. => .includeFramework
  | transform .. => .transform
  | copy .. => .copy
  | runAsync .. => .runAsync
  | defineComponent .. => .defineComponent
  | renderComponent .. => .renderComponent
  | setVariable .. => .setVariable
  | mediaLoad .. => .mediaLoad

/-- The fields of a command by name, in the order of its kind. -/
def payload : Command → List (String × Value)
  | existImport category file => [("category", .text category), ("file", .text file)]
  | fileImportAll destination => [("destination", .text destination)]
  | fileRename source target => [("source", .text source), ("target", .text target)]
  | buildTarget target => [("target", .text target)]
  | includeFramework framework version =>
      [("framework", .text framework), ("version", .text version)]
  | transform file plugin => [("file", .text file), ("plugin", .text plugin)]
  | copy source destination => [("source", .text source), ("destination", .text destination)]
  | runAsync code => [("code", .text code)]
  | defineComponent name content => [("name", .text name), ("content", .text content)]
  | renderComponent name selector => [("name", .text name), ("selector", .text selector)]
  | setVariable name value reactive =>
      [("name", .text name), ("value", .text value), ("reactive", .truth reactive)]
  | mediaLoad mediaType url selector =>
      [("media_type", .text mediaType), ("url", .text url), ("selector", .text selector)]

end Command

/-- A command with the number of the line it was written on. -/
structure PlacedCommand where
  command : Command
  line : Int := 0
  deriving Repr, DecidableEq

/-- Placed commands are the same when their commands are, wherever they were written. -/
def PlacedCommand.same (left right : PlacedCommand) : Bool :=
  left.command == right.command

/-- The hash of a placed command, from a hash for kinds with fields; the line does not count. -/
def PlacedCommand.hashWith
    (hash : CommandKind × List (String × Value) → UInt64)
    (placed : PlacedCommand) :
    UInt64 :=
  hash (placed.command.kind, placed.command.payload)

/-- The kind, line and fields of a placed command, as a report shows them. -/
def PlacedCommand.summary (placed : PlacedCommand) : List (String × Value) :=
  ("kind", .text placed.command.kind.name) :: ("line", .integer placed.line) ::
    placed.command.payload

end PageScript.Script
