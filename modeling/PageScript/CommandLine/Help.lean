import PageScript.CommandLine.Reading
import PageScript.Text.Blank

namespace PageScript.CommandLine

/-!
# Help and usage texts

Help starts with a usage line and a summary.  Options and commands follow in two
columns, and their sentences are broken so that no line is wider than eighty cells.
-/

/-- The number of cells of a line of help. -/
def helpWidth : Nat :=
  80

/-- The placeholder for the value of an option. -/
def ValueForm.placeholder : ValueForm → String
  | .text => "TEXT"
  | .directory => "DIRECTORY"
  | .file => "FILE"

/-- The forms of an option with the placeholder for its value. -/
def OptionRule.heading (option : OptionRule) : String :=
  let forms := String.intercalate ", " option.forms
  match option.role with
  | .value form => forms ++ " " ++ form.placeholder
  | _ => forms

/-- The words that fill lines of at most a width, where `line` is the open line. -/
def fill (width : Nat) (line : String) : List String → List String
  | [] => [line]
  | word :: rest =>
      if line.isEmpty then
        fill width word rest
      else if line.length + 1 + word.length ≤ width then
        fill width (line ++ " " ++ word) rest
      else
        line :: fill width word rest

/-- A sentence in lines of at most a width. -/
def wrapped (width : Nat) (sentence : String) : List String :=
  fill width "" ((Text.words sentence.toList).map String.ofList)

/-- A number of blanks. -/
def blanks (count : Nat) : String :=
  String.ofList (List.replicate count ' ')

/-- The width of the first column of rows. -/
def firstColumn (rows : List (String × String)) : Nat :=
  (rows.map fun row => row.1.length).foldl max 0 + 2

/-- The lines of a row: its heading, and its sentence behind the first column. -/
def rowText (column : Nat) (row : String × String) : List String :=
  match wrapped (helpWidth - column - 2) row.2 with
  | [] => ["  " ++ row.1]
  | first :: others =>
      ("  " ++ row.1 ++ blanks (column - row.1.length) ++ first) ::
        others.map fun line => blanks (column + 2) ++ line

/-- The lines of a titled list of rows, behind an empty line. -/
def titledRows (title : String) (rows : List (String × String)) : List String :=
  if rows.isEmpty then
    []
  else
    "" :: (title ++ ":") :: rows.flatMap (rowText (firstColumn rows))

namespace Rule

/-- The words that lead to a command, as one text. -/
def pathText (rule : Rule) : String :=
  String.intercalate " " rule.path

/-- What stands for the arguments in the usage line. -/
def argumentTexts (rule : Rule) : List String :=
  match rule.argument with
  | some argument =>
      [if argument.required then argument.placeholder else "[" ++ argument.placeholder ++ "]"]
  | none => if rule.commands.isEmpty then [] else ["[COMMAND]", "[ARGS]..."]

/-- The usage line. -/
def usage (rule : Rule) : String :=
  "Usage: " ++ String.intercalate " " (rule.path ++ ["[OPTIONS]"] ++ rule.argumentTexts)

/-- The lines of help. -/
def help (rule : Rule) : List String :=
  [rule.usage, "", "  " ++ rule.summary] ++
    titledRows "Options" (rule.options.map fun option => (option.heading, option.help)) ++
    titledRows "Commands" rule.commands

/-- The lines of a page. -/
def pageLines (rule : Rule) : Page → List String
  | .version => [versionText]
  | .examples =>
      ("Examples for '" ++ rule.pathText ++ "':") :: "" :: rule.examples.map fun line => "  " ++ line
  | .help => rule.help

end Rule

/-- Lines as a text, each with its line end. -/
def linesText (lines : List String) : String :=
  String.join (lines.map fun line => line ++ "\n")

namespace UsageError

/-- What is suggested in place of a word that is not known. -/
def suggestionText (kind : String) (suggestions : List String) : String :=
  match suggestions with
  | [] => ""
  | [only] => " Did you mean " ++ Text.quotedString only ++ "?"
  | _ =>
      let sorted := suggestions.mergeSort fun a b => decide (a ≤ b)
      " (Possible " ++ kind ++ ": " ++
        String.intercalate ", " (sorted.map Text.quotedString) ++ ")"

/-- The forms of an option as error texts name it. -/
def optionName (option : OptionRule) : String :=
  String.intercalate " / " (option.forms.map fun form => "'" ++ form ++ "'")

/-- The text of an error. -/
def message : UsageError → String
  | unknownOption name suggestions =>
      "No such option " ++ Text.quotedString name ++ "." ++ suggestionText "options" suggestions
  | withoutValue name => "Option " ++ Text.quotedString name ++ " requires an argument."
  | unwantedValue name => "Option " ++ Text.quotedString name ++ " does not take a value."
  | unknownCommand name suggestions =>
      "No such command " ++ Text.quotedString name ++ "." ++ suggestionText "commands" suggestions
  | missingArgument placeholder => "Missing argument '" ++ placeholder ++ "'."
  | extraArguments arguments =>
      "Got unexpected extra argument" ++ (if arguments.length = 1 then "" else "s") ++ " (" ++
        String.intercalate " " arguments ++ ")"
  | isFile option value =>
      "Invalid value for " ++ optionName option ++ ": Directory " ++ Text.quotedString value ++
        " is a file."
  | isDirectory option value =>
      "Invalid value for " ++ optionName option ++ ": File " ++ Text.quotedString value ++
        " is a directory."

/-- Whether an error is shown below the usage line. -/
def showsUsage : UsageError → Bool
  | withoutValue _ => false
  | unwantedValue _ => false
  | _ => true

/-- The text that tells of an error. -/
def report (rule : Rule) (error : UsageError) : String :=
  let usage :=
    if error.showsUsage then
      [rule.usage, "Try '" ++ rule.pathText ++ " --help' for help.", ""]
    else
      []
  linesText (usage ++ ["Error: " ++ error.message])

end UsageError

end PageScript.CommandLine
