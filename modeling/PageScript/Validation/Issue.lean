import PageScript.Record

namespace PageScript.Validation

/-!
# Issues of data

Data that does not have the expected form is reported as a list of issues.  Each
issue has a cause and the place where it was found, given by field names and
positions from the outside in.
-/

/-- Why a part of some data is refused. -/
inductive Cause where
  | missing
  | extraField
  | notText
  | textTooShort
  | notTruth
  | unreadableTruth
  | notInteger
  | unreadableInteger
  | integerTextTooLong
  | fractionalInteger
  | notFinite
  | notNumber
  | unreadableNumber
  | notTable
  | notList
  | notPath
  | notSection (name : String)
  | notRecord
  | noTag (discriminator : String)
  | unknownTag (tag discriminator : String) (expected : List String)
  deriving Repr, DecidableEq

/-- The short name of a cause. -/
def Cause.code : Cause → String
  | missing => "missing"
  | extraField => "extra_forbidden"
  | notText => "string_type"
  | textTooShort => "string_too_short"
  | notTruth => "bool_type"
  | unreadableTruth => "bool_parsing"
  | notInteger => "int_type"
  | unreadableInteger => "int_parsing"
  | integerTextTooLong => "int_parsing_size"
  | fractionalInteger => "int_from_float"
  | notFinite => "finite_number"
  | notNumber => "float_type"
  | unreadableNumber => "float_parsing"
  | notTable => "dict_type"
  | notList => "list_type"
  | notPath => "path_type"
  | notSection _ => "model_type"
  | notRecord => "model_attributes_type"
  | noTag _ => "union_tag_not_found"
  | unknownTag .. => "union_tag_invalid"

/-- The text of a cause. -/
def Cause.message : Cause → String
  | missing => "Field required"
  | extraField => "Extra inputs are not permitted"
  | notText => "Input should be a valid string"
  | textTooShort => "String should have at least 1 character"
  | notTruth => "Input should be a valid boolean"
  | unreadableTruth => "Input should be a valid boolean, unable to interpret input"
  | notInteger => "Input should be a valid integer"
  | unreadableInteger => "Input should be a valid integer, unable to parse string as an integer"
  | integerTextTooLong => "Unable to parse input string as an integer, exceeded maximum size"
  | fractionalInteger => "Input should be a valid integer, got a number with a fractional part"
  | notFinite => "Input should be a finite number"
  | notNumber => "Input should be a valid number"
  | unreadableNumber => "Input should be a valid number, unable to parse string as a number"
  | notTable => "Input should be a valid dictionary"
  | notList => "Input should be a valid list"
  | notPath => "Input is not a valid path for <class 'pathlib.Path'>"
  | notSection name => "Input should be a valid dictionary or instance of " ++ name
  | notRecord => "Input should be a valid dictionary or object to extract fields from"
  | noTag discriminator =>
      "Unable to extract tag using discriminator " ++ Text.quotedString discriminator
  | unknownTag tag discriminator expected =>
      "Input tag '" ++ tag ++ "' found using " ++ Text.quotedString discriminator ++
        " does not match any of the expected tags: " ++
        String.intercalate ", " (expected.map Text.quotedString)

/-- A cause and the place where it was found. -/
structure Issue where
  cause : Cause
  location : List String
  deriving Repr, DecidableEq

/-- An issue seen from one level further out. -/
def Issue.within (name : String) (issue : Issue) : Issue :=
  { issue with location := name :: issue.location }

/-- An issue as a record of its code, its place and its text. -/
def Issue.record (issue : Issue) : Value :=
  Value.record
    [("type", .text issue.cause.code), ("loc", Value.texts issue.location),
     ("msg", .text issue.cause.message)]

/-- The outcome of a check: a checked value, or at least one issue. -/
abbrev Checked (α : Type) := Except (List Issue) α

/-- Refuse with one cause at the place itself. -/
def refuse {α : Type} (cause : Cause) : Checked α :=
  .error [⟨cause, []⟩]

/-- An outcome seen from one level further out. -/
def Checked.within {α : Type} (name : String) (outcome : Checked α) : Checked α :=
  outcome.mapError fun issues => issues.map (Issue.within name)

/-- Combine two outcomes, so that the issues of both are reported. -/
def Checked.both {α β γ : Type} (combine : α → β → γ) : Checked α → Checked β → Checked γ
  | .ok a, .ok b => .ok (combine a b)
  | .ok _, .error issues => .error issues
  | .error issues, .ok _ => .error issues
  | .error first, .error second => .error (first ++ second)

/-- Apply a checked function to a checked value. -/
def Checked.apply {α β : Type} (function : Checked (α → β)) (argument : Checked α) : Checked β :=
  Checked.both (fun f a => f a) function argument

end PageScript.Validation
