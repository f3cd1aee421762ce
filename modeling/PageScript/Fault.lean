import PageScript.Console.Markup
import PageScript.Markup.CharacterReference
import PageScript.Script.Expression
import PageScript.Script.Grammar
import PageScript.Selector.Basic
import PageScript.Validation.Issue
import PageScript.World.Address
import PageScript.World.Files

namespace PageScript

/-!
# Faults

A fault is the cause for which a command, a fetch or a service stops.  Its kind
and its message are what reports show.
-/

/-- Why something stopped. -/
inductive Fault where
  /-- An expression or a call has no value. -/
  | expression (error : Script.ExpressionError)
  /-- A line is no command. -/
  | unknownLine (unknown : Script.UnknownLine)
  /-- Markup is refused. -/
  | markup (error : Markup.MarkupError)
  /-- A selector is refused. -/
  | selector (error : Selector.SelectorError)
  /-- A variable or a component has no name. -/
  | emptyName (owner : String)
  /-- A collection is used as a name. -/
  | unusableName (typeName : String)
  /-- A name is not bound. -/
  | unboundName (name : Value)
  /-- A file that a script requires does not exist. -/
  | fileNotFound (path : String)
  /-- A page file does not exist. -/
  | documentNotFound (path : String)
  /-- The bytes of a file are no text. -/
  | undecodable
  /-- The system refuses a path. -/
  | system (error : World.SystemError) (path : String)
  /-- A file is copied onto itself. -/
  | sameFile (source destination : String)
  /-- A path holds the null character. -/
  | nullCharacter
  /-- A path starts with the name of a user without a home. -/
  | unknownHome
  /-- An address is refused. -/
  | address (error : World.AddressError)
  /-- No server answers. -/
  | unreachable (url : String)
  /-- A server answers with an error status. -/
  | errorStatus (status : Nat) (reason url : String)
  /-- A collaborator stopped with a message. -/
  | collaborator (message : String)
  /-- A collaborator looked for a key that is not there. -/
  | missingKey (arguments : List Value)
  /-- A function is called without some of its arguments. -/
  | missingArguments (function : String) (missing : List String)
  /-- A hook is called without an argument. -/
  | unprovided (argument : String)
  /-- A function is called with too many arguments, counted with the context. -/
  | excessArguments (function : String) (least most given : Nat)
  /-- A text does not write the number that a function needs. -/
  | unreadableNumber (text : String)
  /-- A value is not the number that a function needs. -/
  | notNumeric (typeName : String)
  /-- An integer is too large for a floating-point number. -/
  | tooLargeNumber
  /-- A page has no script block. -/
  | noBlock (tag : String)
  /-- Data does not have the expected form. -/
  | invalid (issues : List Validation.Issue)
  /-- The settings text at a path is refused. -/
  | settingsText (path reason : String)
  /-- The value of an environment variable for a setting cannot be read. -/
  | settingsValue (field : String)
  /-- An integer has too many digits. -/
  | tooManyDigits (count : Nat)
  /-- Markup for the console is refused. -/
  | styleTag (error : Console.TagError)
  /-- An item that is no text is joined with others. -/
  | unjoinable (position : Nat) (typeName : String)
  /-- A value that is no text is added to a text. -/
  | notText (typeName : String)
  /-- A value of a type without a member is asked for it. -/
  | withoutMember (typeName member : String)
  /-- A value without items is asked for them. -/
  | notIterable (typeName : String)
  /-- A value without items is joined to one text. -/
  | notJoinable
  /-- A value without items is asked for their number. -/
  | notCountable (typeName : String)
  /-- A value without fields is asked for one. -/
  | notIndexable (typeName : String)
  /-- A value that is no number is compared with one. -/
  | notComparable (typeName : String)
  /-- A value is nested too deep to be written as data. -/
  | nestedTooDeep

namespace Fault

/-- The number of a system error. -/
def systemNumber : World.SystemError → Nat
  | .noEntry => 2
  | .alreadyExists => 17
  | .notDirectory => 20
  | .isDirectory => 21
  | .nameTooLong => 36

/-- The text of a system error. -/
def systemText : World.SystemError → String
  | .noEntry => "No such file or directory"
  | .alreadyExists => "File exists"
  | .notDirectory => "Not a directory"
  | .isDirectory => "Is a directory"
  | .nameTooLong => "File name too long"

/-- The name of the kind of a system error. -/
def systemKind : World.SystemError → String
  | .noEntry => "FileNotFoundError"
  | .alreadyExists => "FileExistsError"
  | .notDirectory => "NotADirectoryError"
  | .isDirectory => "IsADirectoryError"
  | .nameTooLong => "OSError"

/-- The name of the kind of a fault. -/
def kind : Fault → String
  | expression (.tooManyDigits _) => "ValueError"
  | expression _ => "EvaluationError"
  | unknownLine _ => "UnknownLineError"
  | markup (.tooManyDigits _) => "ValueError"
  | markup _ => "AssertionError"
  | selector _ => "ValueError"
  | emptyName _ => "ValueError"
  | unusableName _ => "TypeError"
  | unboundName _ => "KeyError"
  | fileNotFound _ => "FileNotFoundError"
  | documentNotFound _ => "FileNotFoundError"
  | undecodable => "UnicodeDecodeError"
  | system error _ => systemKind error
  | sameFile .. => "SameFileError"
  | nullCharacter => "ValueError"
  | unknownHome => "RuntimeError"
  | address _ => "ValueError"
  | unreachable _ => "ConnectionError"
  | errorStatus .. => "HTTPError"
  | collaborator _ => "RuntimeError"
  | missingKey _ => "KeyError"
  | missingArguments .. => "TypeError"
  | unprovided _ => "HookCallError"
  | excessArguments .. => "TypeError"
  | unreadableNumber _ => "ValueError"
  | notNumeric _ => "TypeError"
  | tooLargeNumber => "OverflowError"
  | noBlock _ => "NoBlockError"
  | invalid _ => "ValidationError"
  | settingsText .. => "ClickException"
  | settingsValue _ => "SettingsError"
  | tooManyDigits _ => "ValueError"
  | styleTag (.colourPart _) => "ValueError"
  | styleTag _ => "MarkupError"
  | unjoinable .. => "TypeError"
  | notText _ => "TypeError"
  | withoutMember .. => "AttributeError"
  | notIterable _ => "TypeError"
  | notJoinable => "TypeError"
  | notCountable _ => "TypeError"
  | notIndexable _ => "TypeError"
  | notComparable _ => "TypeError"
  | nestedTooDeep => "PydanticSerializationError"

/-- The text of a markup error. -/
def markupMessage : Markup.MarkupError → String
  | .sectionWithoutName context => "expected name token at " ++ context
  | .unknownSection keyword => "unknown status keyword " ++ keyword ++ " in marked section"
  | .tooManyDigits count => Script.tooManyDigitsMessage count

/-- The text of a selector error. -/
def selectorMessage : Selector.SelectorError → String
  | .unsupported text => "Unsupported selector: " ++ Text.quotedString text
  | .invalidPosition position =>
      "invalid literal for int() with base 10: " ++ Text.quotedString position
  | .tooManyDigits count => Script.tooManyDigitsMessage count

/-- Names in quotes, the last one joined by a word. -/
def enumerated : List String → String
  | [] => ""
  | [name] => Text.quotedString name
  | [first, second] => Text.quotedString first ++ " and " ++ Text.quotedString second
  | name :: rest => Text.quotedString name ++ ", " ++ enumerated rest

/-- The text of a key that was not found, or of several. -/
def keyText : List Value → String
  | [] => ""
  | [argument] => argument.quotedText
  | arguments => "(" ++ String.intercalate ", " (arguments.map Value.quotedText) ++ ")"

/-- How many arguments a function takes. -/
def arityText (least most : Nat) : String :=
  if least = most then toString most else "from " ++ toString least ++ " to " ++ toString most

/-- Why a value of a type without fields has no field. -/
def indexMessage (typeName : String) : String :=
  if typeName == "str" then "string indices must be integers, not 'str'"
  else if typeName == "list" then "list indices must be integers or slices, not str"
  else "'" ++ typeName ++ "' object is not subscriptable"

/-- The text of a fault. -/
def message : Fault → String
  | expression error => error.message
  | unknownLine unknown => unknown.message
  | markup error => markupMessage error
  | selector error => selectorMessage error
  | emptyName owner => owner ++ " name must not be empty"
  | unusableName typeName => "unhashable type: '" ++ typeName ++ "'"
  | unboundName name => name.quotedText
  | fileNotFound path => "File not found: " ++ path
  | documentNotFound path => "Document not found: " ++ path
  | undecodable => "the bytes are no text"
  | system error path =>
      "[Errno " ++ toString (systemNumber error) ++ "] " ++ systemText error ++ ": " ++
        Text.quotedString path
  | sameFile source destination =>
      "PosixPath(" ++ Text.quotedString source ++ ") and PosixPath(" ++
        Text.quotedString destination ++ ") are the same file"
  | nullCharacter => "embedded null byte"
  | unknownHome => "Could not determine home directory."
  | address error => error.message
  | unreachable url => "unreachable: " ++ url
  | errorStatus status reason url =>
      toString status ++ (if status < 500 then " Client Error: " else " Server Error: ") ++ reason ++
        " for url: " ++ url
  | collaborator message => message
  | missingKey arguments => keyText arguments
  | missingArguments function missing =>
      function ++ "() missing " ++ toString missing.length ++ " required positional argument" ++
        (if missing.length = 1 then "" else "s") ++ ": " ++ enumerated missing
  | unprovided argument => "hook call must provide argument " ++ Text.quotedString argument
  | excessArguments function least most given =>
      function ++ "() takes " ++ arityText least most ++ " positional arguments but " ++
        toString given ++ " were given"
  | unreadableNumber text => "could not convert string to float: " ++ Text.quotedString text
  | notNumeric typeName =>
      "float() argument must be a string or a real number, not '" ++ typeName ++ "'"
  | tooLargeNumber => "int too large to convert to float"
  | noBlock tag => "No <" ++ tag ++ "> block found"
  | invalid _ => "the data does not have the expected form"
  | settingsText path reason => "Invalid TOML in " ++ path ++ ": " ++ reason
  | settingsValue field =>
      "error parsing value for field \"" ++ field ++ "\" from source \"EnvSettingsSource\""
  | tooManyDigits count => Script.tooManyDigitsMessage count
  | styleTag error => error.message
  | unjoinable position typeName =>
      "sequence item " ++ toString position ++ ": expected str instance, " ++ typeName ++ " found"
  | notText typeName => "can only concatenate str (not \"" ++ typeName ++ "\") to str"
  | withoutMember typeName member =>
      "'" ++ typeName ++ "' object has no attribute '" ++ member ++ "'"
  | notIterable typeName => "'" ++ typeName ++ "' object is not iterable"
  | notJoinable => "can only join an iterable"
  | notCountable typeName => "object of type '" ++ typeName ++ "' has no len()"
  | notIndexable typeName => indexMessage typeName
  | notComparable typeName =>
      "'>' not supported between instances of '" ++ typeName ++ "' and 'int'"
  | nestedTooDeep =>
      "Error serializing to JSON: ValueError: Maximum serialization depth exceeded"

/-- Whether a fault says that some file does not exist. -/
def isMissingFile (fault : Fault) : Bool :=
  fault.kind == "FileNotFoundError"

/-- Whether a fault comes from an expression that the grammar refuses. -/
def isEvaluation (fault : Fault) : Bool :=
  fault.kind == "EvaluationError"

end Fault

end PageScript
