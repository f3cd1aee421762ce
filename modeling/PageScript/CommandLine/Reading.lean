import PageScript.CommandLine.Rule
import PageScript.CommandLine.Similarity
import PageScript.Text.Quoted
import PageScript.Text.Search

namespace PageScript.CommandLine

/-!
# Reading the command line

Words that start with a dash are options, up to a word of two dashes.  A long option
may hold its value behind an equals sign, letters may share one dash, and otherwise
the value of an option is the next word.  A program with commands stops reading at
the first word that is no option, because the rest belongs to the command.
-/

/-- Why a command line is refused. -/
inductive UsageError where
  /-- An option is not known. -/
  | unknownOption (name : String) (suggestions : List String)
  /-- The value of an option is missing. -/
  | withoutValue (name : String)
  /-- A flag is given a value. -/
  | unwantedValue (name : String)
  /-- A command is not known. -/
  | unknownCommand (name : String) (suggestions : List String)
  /-- An argument is missing. -/
  | missingArgument (placeholder : String)
  /-- There are more arguments than the command takes. -/
  | extraArguments (arguments : List String)
  /-- The value of an option names a file in place of a directory. -/
  | isFile (option : OptionRule) (value : String)
  /-- The value of an option names a directory in place of a file. -/
  | isDirectory (option : OptionRule) (value : String)
  deriving Repr, DecidableEq

/-- An option as it is given, with its value if it takes one. -/
structure Given where
  option : OptionRule
  value : Option String
  deriving Repr, DecidableEq

/-- What was read: the options in order, and the other words. -/
structure Reading where
  given : List Given := []
  others : List String := []
  deriving Repr, DecidableEq

/-- An option whose value is the next word, and how it was written. -/
structure Waiting where
  option : OptionRule
  written : String

/-- The options that a word gives, and the one that waits for its value. -/
structure WordReading where
  given : List Given := []
  waiting : Option Waiting := none

namespace OptionRule

/-- Whether an option takes a value. -/
def takesValue (option : OptionRule) : Bool :=
  match option.role with
  | .value _ => true
  | _ => false

/-- The page that an option shows. -/
def page? (option : OptionRule) : Option Page :=
  match option.role with
  | .page page => some page
  | _ => none

/-- The long form of an option. -/
def longForm (option : OptionRule) : String :=
  "--" ++ option.name

/-- The forms in which an option can be given. -/
def forms (option : OptionRule) : List String :=
  (option.letter.map fun letter => String.ofList ['-', letter]).toList ++ [option.longForm]

end OptionRule

namespace Rule

/-- The option with a long form. -/
def longOption? (rule : Rule) (written : String) : Option OptionRule :=
  rule.options.find? fun option => option.longForm == written

/-- The option with a letter. -/
def letterOption? (rule : Rule) (letter : Char) : Option OptionRule :=
  rule.options.find? fun option => option.letter == some letter

/-- Read the letters behind a dash. -/
def readLetters (rule : Rule) : List Char → Except UsageError WordReading
  | [] => .ok {}
  | letter :: rest =>
      let written := String.ofList ['-', letter]
      match rule.letterOption? letter with
      | none => .error (.unknownOption written [])
      | some option =>
          if option.takesValue then
            if rest.isEmpty then
              .ok { waiting := some ⟨option, written⟩ }
            else
              .ok { given := [⟨option, some (String.ofList rest)⟩] }
          else
            (rule.readLetters rest).map fun read =>
              { read with given := ⟨option, none⟩ :: read.given }

/-- The long form and the value of a word with an equals sign, or the word alone. -/
def splitWord (word : String) : String × Option String :=
  match Text.cutAt? '=' word.toList with
  | some (before, behind) => (String.ofList before, some (String.ofList behind))
  | none => (word, none)

/-- Read a word that starts with a dash. -/
def readWord (rule : Rule) (word : String) : Except UsageError WordReading :=
  let (written, value) := splitWord word
  match rule.longOption? written, value with
  | some option, some found =>
      if option.takesValue then
        .ok { given := [⟨option, some found⟩] }
      else
        .error (.unwantedValue written)
  | some option, none =>
      if option.takesValue then
        .ok { waiting := some ⟨option, written⟩ }
      else
        .ok { given := [⟨option, none⟩] }
  | none, _ =>
      match word.toList with
      | '-' :: '-' :: _ =>
          .error
            (.unknownOption written
              (closeMatches written (rule.options.map OptionRule.longForm)))
      | letters => rule.readLetters (letters.drop 1)

/-- Whether a word gives options. -/
def isOptionWord (word : String) : Bool :=
  word.toList.head? == some '-' && 1 < word.length

/-- Read the words behind what was read so far, where an option may wait for its value. -/
def readFrom (rule : Rule) (read : Reading) (waiting : Option Waiting) :
    List String → Except UsageError Reading
  | [] =>
      match waiting with
      | some missing => .error (.withoutValue missing.written)
      | none => .ok read
  | word :: rest =>
      match waiting with
      | some option =>
          rule.readFrom { read with given := read.given ++ [⟨option.option, some word⟩] } none rest
      | none =>
          if word == "--" then
            .ok { read with others := read.others ++ rest }
          else if isOptionWord word then
            match rule.readWord word with
            | .error error => .error error
            | .ok found =>
                rule.readFrom { read with given := read.given ++ found.given } found.waiting rest
          else if rule.commands.isEmpty then
            rule.readFrom { read with others := read.others ++ [word] } none rest
          else
            .ok { read with others := read.others ++ word :: rest }

/-- Read the words behind the name of a program or a command. -/
def read (rule : Rule) (words : List String) : Except UsageError Reading :=
  rule.readFrom {} none words

end Rule

namespace Reading

/-- The page of the first option that shows one. -/
def page? (reading : Reading) : Option Page :=
  reading.given.findSome? fun given => given.option.page?

/-- Whether an option is given. -/
def has (reading : Reading) (name : String) : Bool :=
  reading.given.any fun given => given.option.name == name

/-- The value of an option, the last one if it is given several times. -/
def value? (reading : Reading) (name : String) : Option String :=
  (reading.given.reverse.find? fun given => given.option.name == name).bind (·.value)

/-- The options that are given, each one once, at its first place. -/
def options (reading : Reading) : List OptionRule :=
  (reading.given.map (·.option)).eraseDups

end Reading

end PageScript.CommandLine
