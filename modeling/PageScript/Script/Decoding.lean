import PageScript.Script.Command
import PageScript.Validation.Coercion

namespace PageScript.Script

/-!
# Commands from data

A command can be given as a table with its kind, its line and its fields.  The
kind selects the fields that are required, other entries are ignored, and every
field that does not fit is reported.
-/

open Validation

/-- A command with one text field. -/
def oneTextField
    (build : String → Command)
    (first : String)
    (entries : List (Value × Value)) :
    Checked Command :=
  (required first text entries).map build

/-- A command with two text fields. -/
def twoTextFields
    (build : String → String → Command)
    (first second : String)
    (entries : List (Value × Value)) :
    Checked Command :=
  Checked.both build (required first text entries) (required second text entries)

/-- A command with a name, which is not empty, and a text field. -/
def nameAndTextField
    (build : String → String → Command)
    (second : String)
    (entries : List (Value × Value)) :
    Checked Command :=
  Checked.both build (required "name" filledText entries) (required second text entries)

/-- The command of a given kind with the fields that a table binds. -/
def Command.ofEntries (kind : CommandKind) (entries : List (Value × Value)) : Checked Command :=
  match kind with
  | .existImport => twoTextFields .existImport "category" "file" entries
  | .fileImportAll => oneTextField .fileImportAll "destination" entries
  | .fileRename => twoTextFields .fileRename "source" "target" entries
  | .buildTarget => oneTextField .buildTarget "target" entries
  | .includeFramework => twoTextFields .includeFramework "framework" "version" entries
  | .transform => twoTextFields .transform "file" "plugin" entries
  | .copy => twoTextFields .copy "source" "destination" entries
  | .runAsync => oneTextField .runAsync "code" entries
  | .defineComponent => nameAndTextField .defineComponent "content" entries
  | .renderComponent => nameAndTextField .renderComponent "selector" entries
  | .setVariable =>
      Checked.both (fun fields reactive => .setVariable fields.1 fields.2 reactive)
        (Checked.both Prod.mk (required "name" filledText entries) (required "value" text entries))
        (optional "reactive" false truth entries)
  | .mediaLoad =>
      Checked.both (fun fields selector => .mediaLoad fields.1 fields.2 selector)
        (Checked.both Prod.mk (required "media_type" text entries) (required "url" text entries))
        (required "selector" text entries)

/-- The placed command that a value describes. -/
def PlacedCommand.ofValue (value : Value) : Checked PlacedCommand :=
  match value with
  | .table entries =>
      match entry? "kind" entries with
      | none => refuse (.noTag "kind")
      | some tag =>
          let kind :=
            match tag with
            | .text name => CommandKind.ofName? name
            | _ => none
          match kind with
          | none =>
              refuse (.unknownTag tag.displayString "kind" (CommandKind.all.map CommandKind.name))
          | some kind =>
              Checked.within kind.name
                (Checked.both (fun line command => ⟨command, line⟩)
                  (optional "line" 0 integer entries) (Command.ofEntries kind entries))
  | _ => refuse .notRecord

end PageScript.Script
