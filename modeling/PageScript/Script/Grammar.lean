import PageScript.Script.Command
import PageScript.Text.Line
import PageScript.Text.Word

namespace PageScript.Script

/-!
# The line grammar

A script has one command per line.  Every rule has a fixed opening phrase and
one form for the rest of the line, and no two rules share an opening.  A
separator between two fields splits at its last occurrence that leaves both
fields non-empty.  The build grammar reports every line that no rule accepts,
and the runtime grammar passes over lines without the command prefix.
-/

/-- The two ways to read a script. -/
inductive Grammar where
  /-- All commands except media elements. -/
  | build
  /-- All commands; lines without the command prefix are no commands. -/
  | runtime
  deriving Repr, DecidableEq

/-- The name of a grammar in reports. -/
def Grammar.name : Grammar → String
  | .build => "build"
  | .runtime => "runtime"

/-- The grammar with a given name. -/
def Grammar.ofName? (name : String) : Option Grammar :=
  [Grammar.build, Grammar.runtime].find? fun grammar => grammar.name == name

/-- The rest of a text after a literal phrase. -/
def afterPhrase? (phrase : String) (s : List Char) : Option (List Char) :=
  if phrase.toList.isPrefixOf s then some (s.drop phrase.toList.length) else none

/--
Split at the last occurrence of a separator that leaves text on both sides.
-/
def splitLast? (separator : List Char) : List Char → Option (List Char × List Char)
  | [] => none
  | c :: rest =>
      match splitLast? separator rest with
      | some (left, right) => some (c :: left, right)
      | none =>
          if separator.isPrefixOf rest && separator.length < rest.length then
            some ([c], rest.drop separator.length)
          else
            none

/-- A field without the blanks around it. -/
def fieldText (s : List Char) : String :=
  String.ofList (Text.trim s)

/-- The single field of a line. -/
def oneField? (s : List Char) : Option String :=
  if s.isEmpty then none else some (fieldText s)

/-- Two fields with a separator between them. -/
def twoFields? (separator : String) (s : List Char) : Option (String × String) :=
  (splitLast? separator.toList s).map fun parts => (fieldText parts.1, fieldText parts.2)

/-- The word at the start of a line, and the non-empty rest after a separator. -/
def wordThen? (separator : String) (s : List Char) : Option (String × List Char) :=
  let word := s.takeWhile Text.isWordChar
  if word.isEmpty then
    none
  else
    match afterPhrase? separator (s.dropWhile Text.isWordChar) with
    | none => none
    | some rest => if rest.isEmpty then none else some (fieldText word, rest)

/-- A word and a field with a separator between them. -/
def wordAndField? (separator : String) (s : List Char) : Option (String × String) :=
  (wordThen? separator s).map fun parts => (parts.1, fieldText parts.2)

/-- The categories of required files. -/
def importCategories : List String :=
  ["correct", "simple", "node module", "node built-in module"]

/-- A category of required files and the file. -/
def categoryAndFile? (s : List Char) : Option (String × String) :=
  importCategories.findSome? fun category =>
    match afterPhrase? (category ++ " file ") s with
    | none => none
    | some rest => (oneField? rest).map fun file => (category, file)

/-- A rule of the grammar: an opening phrase, and the command that the rest of the line gives. -/
structure Rule where
  opening : String
  commandOf? : List Char → Option Command

/-- The rules of both grammars. -/
def sharedRules : List Rule :=
  [⟨"hsx exist import ", fun s => (categoryAndFile? s).map fun f => .existImport f.1 f.2⟩,
   ⟨"hsx file import all to ", fun s => (oneField? s).map .fileImportAll⟩,
   ⟨"hsx file import/make/rename/", fun s => (twoFields? "-to-" s).map fun f => .fileRename f.1 f.2⟩,
   ⟨"hsx build target ", fun s => (oneField? s).map .buildTarget⟩,
   ⟨"hsx include framework ", fun s =>
      (twoFields? " version " s).map fun f => .includeFramework f.1 f.2⟩,
   ⟨"hsx transform ", fun s => (twoFields? " with " s).map fun f => .transform f.1 f.2⟩,
   ⟨"hsx copy ", fun s => (twoFields? " to " s).map fun f => .copy f.1 f.2⟩,
   ⟨"hsx run async ", fun s => (oneField? s).map .runAsync⟩,
   ⟨"hsx define component ", fun s =>
      (wordAndField? " " s).map fun f => .defineComponent f.1 f.2⟩,
   ⟨"hsx render component ", fun s =>
      (wordAndField? " to " s).map fun f => .renderComponent f.1 f.2⟩,
   ⟨"hsx set variable ", fun s =>
      (wordAndField? " = " s).map fun f => .setVariable f.1 f.2 false⟩,
   ⟨"hsx reactive variable ", fun s =>
      (wordAndField? " = " s).map fun f => .setVariable f.1 f.2 true⟩]

/-- The rules of the runtime grammar alone. -/
def runtimeOnlyRules : List Rule :=
  [⟨"hsx media load ", fun s =>
      match wordThen? " from " s with
      | none => none
      | some (mediaType, rest) =>
          (twoFields? " to " rest).map fun f => .mediaLoad mediaType f.1 f.2⟩]

/-- The rules of a grammar. -/
def Grammar.rules : Grammar → List Rule
  | .build => sharedRules
  | .runtime => sharedRules ++ runtimeOnlyRules

/--
The command that a rule gives for a line without blanks at its ends; no field holds a line
feed.
-/
def Rule.apply? (rule : Rule) (s : List Char) : Option Command :=
  if s.contains '\n' then
    none
  else
    match afterPhrase? rule.opening s with
    | none => none
    | some rest => rule.commandOf? rest

/-- A line that should be a command and is none. -/
structure UnknownLine where
  text : String
  line : Int
  deriving Repr, DecidableEq

/-- The text that reports an unknown line. -/
def UnknownLine.message (unknown : UnknownLine) : String :=
  if unknown.line = 0 then
    "Unknown HSX line: " ++ unknown.text
  else
    "Unknown HSX line " ++ toString unknown.line ++ ": " ++ unknown.text

/-- Blank lines and comments are never commands. -/
def isSkippable (s : List Char) : Bool :=
  s.isEmpty || ['/', '/'].isPrefixOf s

/-- Whether a line has the prefix of commands. -/
def hasCommandPrefix (s : List Char) : Bool :=
  ['h', 's', 'x', ' '].isPrefixOf s

/-- The command of one line, nothing for a line that is passed over, or the unknown line. -/
def parseLine
    (grammar : Grammar)
    (line : Int)
    (text : List Char) :
    Except UnknownLine (Option PlacedCommand) :=
  let s := Text.trim text
  if isSkippable s then
    .ok none
  else if grammar = .runtime ∧ !hasCommandPrefix s then
    .ok none
  else
    match grammar.rules.findSome? fun rule => rule.apply? s with
    | some command => .ok (some ⟨command, line⟩)
    | none => .error ⟨String.ofList s, line⟩

/-- The commands of a script and its unknown lines, both in the order of the lines. -/
structure Parsed where
  commands : List PlacedCommand
  unknown : List UnknownLine
  deriving Repr, DecidableEq

/-- Read lines, the first of which has the given number. -/
def parseLines (grammar : Grammar) : Int → List (List Char) → Parsed
  | _, [] => ⟨[], []⟩
  | line, text :: rest =>
      let later := parseLines grammar (line + 1) rest
      match parseLine grammar line text with
      | .ok none => later
      | .ok (some command) => ⟨command :: later.commands, later.unknown⟩
      | .error unknown => ⟨later.commands, unknown :: later.unknown⟩

/-- Read a script; its lines are numbered from one. -/
def parse (grammar : Grammar) (source : String) : Parsed :=
  parseLines grammar 1 (Text.lines source.toList)

end PageScript.Script
