import PageScript.Decimal.Reading
import PageScript.Text.Word
import PageScript.Value

namespace PageScript.Script

/-!
# Value expressions

A value expression is a quoted text, a number, one of three keywords, or the
name of a variable.  Nothing else has a value.  Which form an expression has is
decided in this order, so a keyword is never read as a variable.
-/

/-- Why an expression or a call has no value. -/
inductive ExpressionError where
  /-- There is nothing but blanks. -/
  | empty
  /-- A name is not bound. -/
  | unknownVariable (name : String)
  /-- The text has none of the forms of an expression. -/
  | unsupported (text : String)
  /-- A quoted text among the arguments has no closing quote. -/
  | unterminatedText (arguments : String)
  /-- An argument is blank. -/
  | emptyArgument (arguments : String)
  /-- The text has not the form of a call. -/
  | notACall (code : String)
  /-- A function is not in the function table. -/
  | unknownFunction (name : String)
  /-- An integer literal has too many digits. -/
  | tooManyDigits (count : Nat)
  deriving Repr, DecidableEq

/-- The text of the error for an integer literal with too many digits. -/
def tooManyDigitsMessage (count : Nat) : String :=
  "Exceeds the limit (4300 digits) for integer string conversion: value has " ++ toString count ++
    " digits; use sys.set_int_max_str_digits() to increase the limit"

/-- The text of an expression error. -/
def ExpressionError.message : ExpressionError → String
  | .empty => "Empty expression"
  | .unknownVariable name => "Unknown variable: " ++ name
  | .unsupported text => "Unsupported expression: " ++ text
  | .unterminatedText arguments => "Unterminated string in arguments: " ++ arguments
  | .emptyArgument arguments => "Empty argument in: " ++ arguments
  | .notACall code => "Not a function call: " ++ code
  | .unknownFunction name => "Unknown async function: " ++ name
  | .tooManyDigits count => tooManyDigitsMessage count

/--
The characters between an opening quote, which has been read, and a closing
quote that ends the text.  A backslash takes the next character with it.
-/
def quotedBody? (quote : Char) : List Char → Option (List Char)
  | [] => none
  | '\\' :: c :: rest => (quotedBody? quote rest).map fun body => '\\' :: c :: body
  | c :: rest =>
      if c = quote then
        if rest.isEmpty then some [] else none
      else if c = '\\' then
        none
      else
        (quotedBody? quote rest).map (c :: ·)

/-- The character that an escape stands for, for the escapes that have a meaning. -/
def escapedChar? (c : Char) : Option Char :=
  if c = 'n' then some '\n'
  else if c = 't' then some '\t'
  else if c = '\\' || c = '\x22' || c = '\x27' then some c
  else none

/-- Replace the escapes of a quoted text; an escape without a meaning stays as it is. -/
def unescape : List Char → List Char
  | [] => []
  | '\\' :: c :: rest =>
      match escapedChar? c with
      | some plain => plain :: unescape rest
      | none => '\\' :: c :: unescape rest
  | c :: rest => c :: unescape rest

/-- The text that a quoted expression stands for. -/
def quotedLiteral? : List Char → Option (List Char)
  | [] => none
  | quote :: rest =>
      if quote = '\x22' || quote = '\x27' then (quotedBody? quote rest).map unescape else none

/-- The value of a keyword. -/
def keyword? (s : List Char) : Option Value :=
  if s = ['t', 'r', 'u', 'e'] then some (.truth true)
  else if s = ['f', 'a', 'l', 's', 'e'] then some (.truth false)
  else if s = ['n', 'u', 'l', 'l'] then some .null
  else none

/-- The value of an expression without blanks at its ends. -/
def evaluateTrimmed
    (lookup : String → Option Value)
    (s : List Char) :
    Except ExpressionError Value :=
  if s.isEmpty then
    .error .empty
  else
    match quotedLiteral? s with
    | some body => .ok (.text (String.ofList body))
    | none =>
        match Decimal.integerLiteral? s with
        | some (negative, digits) =>
            match Decimal.integerOfDigits negative digits with
            | .ok value => .ok (.integer value)
            | .error count => .error (.tooManyDigits count)
        | none =>
            match Decimal.decimalLiteral? s with
            | some value => .ok (.number value)
            | none =>
                match keyword? s with
                | some value => .ok value
                | none =>
                    if Text.isIdentifier s then
                      match lookup (String.ofList s) with
                      | some value => .ok value
                      | none => .error (.unknownVariable (String.ofList s))
                    else
                      .error (.unsupported (String.ofList s))

/-- The value of an expression, where `lookup` gives the values of variables. -/
def evaluate
    (lookup : String → Option Value)
    (expression : String) :
    Except ExpressionError Value :=
  evaluateTrimmed lookup (Text.trim expression.toList)

end PageScript.Script
