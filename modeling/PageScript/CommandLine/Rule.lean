namespace PageScript.CommandLine

/-!
# The rules of the command line

The program takes options of its own and then a command with its options and its
argument.  An option is a flag, takes a value, or shows a page and ends the run.
-/

/-- The pages that an option can show. -/
inductive Page where
  | version
  | examples
  | help
  deriving Repr, DecidableEq

/-- What the value of an option names. -/
inductive ValueForm where
  | text
  | directory
  | file
  deriving Repr, DecidableEq

/-- What an option is for. -/
inductive OptionRole where
  /-- It holds when it is given. -/
  | flag
  /-- It takes a value. -/
  | value (form : ValueForm)
  /-- It shows a page. -/
  | page (page : Page)
  deriving Repr, DecidableEq

/-- An option: its long name, its letter, what it is for, and a sentence about it. -/
structure OptionRule where
  name : String
  letter : Option Char := none
  role : OptionRole := .flag
  help : String
  deriving Repr, DecidableEq

/-- An argument without a name. -/
structure ArgumentRule where
  placeholder : String
  required : Bool := true
  deriving Repr, DecidableEq

/-- What can be written behind the name of a program or of a command. -/
structure Rule where
  /-- The words that lead here. -/
  path : List String
  summary : String
  options : List OptionRule
  argument : Option ArgumentRule := none
  /-- Commands with a sentence about each. -/
  commands : List (String × String) := []
  examples : List String

/-- The option that shows examples. -/
def examplesOption : OptionRule :=
  { name := "examples", role := .page .examples, help := "Show usage examples." }

/-- The option that shows help. -/
def helpOption : OptionRule :=
  { name := "help", role := .page .help, help := "Show this message and exit." }

/-- The commands of the program. -/
inductive Subcommand where
  | build
  | load
  | parse
  deriving Repr, DecidableEq

namespace Subcommand

/-- All commands. -/
def all : List Subcommand :=
  [.build, .load, .parse]

/-- The name of a command. -/
def name : Subcommand → String
  | .build => "build"
  | .load => "load"
  | .parse => "parse"

/-- The command with a given name. -/
def ofName? (name : String) : Option Subcommand :=
  all.find? fun command => command.name == name

/-- A sentence about a command. -/
def summary : Subcommand → String
  | .build => "Execute an HSX source with the build grammar."
  | .load => "Run a document's <hsx> block against a fresh headless page."
  | .parse => "Parse an HSX source without executing it."

/-- The options of a command, apart from those that all have. -/
def ownOptions : Subcommand → List OptionRule
  | .build =>
      [{ name := "base-dir", role := .value .directory,
         help := "Resolve relative paths from here (default: the source's directory)." },
       { name := "emit-html", role := .value .file,
         help := "Write the rendered headless document to this file." }]
  | .load =>
      [{ name := "output", letter := some 'o', role := .value .file,
         help := "Write the resulting HTML here instead of printing it." }]
  | .parse => [{ name := "runtime", help := "Use the runtime grammar." }]

/-- The argument of a command. -/
def argument : Subcommand → ArgumentRule
  | .build => { placeholder := "SOURCE", required := false }
  | .load => { placeholder := "URL" }
  | .parse => { placeholder := "SOURCE" }

/-- Examples for a command. -/
def examples : Subcommand → List String
  | .build =>
      ["hsxctl build", "hsxctl build app/Mist.hsx", "hsxctl build Mist.hsx --base-dir ./src",
       "hsxctl build Mist.hsx --emit-html dist/index.html", "hsxctl --json build"]
  | .load =>
      ["hsxctl load page.html", "hsxctl load https://example.com/app.html",
       "hsxctl load page.html --output rendered.html", "hsxctl -q load page.html > rendered.html"]
  | .parse =>
      ["hsxctl parse Mist.hsx", "hsxctl parse block.hsx --runtime",
       "hsxctl --json parse Mist.hsx"]

/-- What can be written behind the name of a command. -/
def rule (command : Subcommand) : Rule :=
  { path := ["hsxctl", command.name]
    summary := command.summary
    options := command.ownOptions ++ [examplesOption, helpOption]
    argument := some command.argument
    examples := command.examples }

end Subcommand

/-- What can be written behind the name of the program. -/
def programRule : Rule :=
  { path := ["hsxctl"]
    summary := "hsxctl — build and run HSX command scripts."
    options :=
      [{ name := "version", role := .page .version, help := "Show the version and exit." },
       { name := "json", help := "Structured JSON output." },
       { name := "quiet", letter := some 'q', help := "Minimal output." },
       { name := "verbose", letter := some 'v', help := "Detailed output with debug info." },
       { name := "log-json", help := "Structured JSON log output to stderr." },
       { name := "config", letter := some 'c', role := .value .text,
         help := "Override config file path." },
       examplesOption, helpOption]
    commands := Subcommand.all.map fun command => (command.name, command.summary)
    examples :=
      ["hsxctl build", "hsxctl -v build Mist.hsx --emit-html out.html", "hsxctl load page.html",
       "hsxctl --json parse Mist.hsx"] }

/-- The version of the program. -/
def versionText : String :=
  "hsxctl, version 0.1.0"

end PageScript.CommandLine
