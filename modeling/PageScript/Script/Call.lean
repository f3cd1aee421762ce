import PageScript.Script.Expression

namespace PageScript.Script

/-!
# Function calls

A call is a name, alone or with arguments between parentheses.  Arguments are
separated by the commas that stand outside quoted texts, and none of them may be
blank.
-/

/-- A function name with the expressions of its arguments. -/
structure Call where
  name : String
  arguments : List String
  deriving Repr, DecidableEq

/-- Where a scan of an argument list stands with respect to quoted texts. -/
inductive QuoteState where
  /-- Outside every quoted text. -/
  | outside
  /-- Inside a quoted text with this quote. -/
  | inside (quote : Char)
  /-- Inside a quoted text, after a backslash. -/
  | escaped (quote : Char)
  deriving Repr, DecidableEq

/-- The state after one more character. -/
def QuoteState.next (state : QuoteState) (c : Char) : QuoteState :=
  match state with
  | .outside => if c = '\x22' || c = '\x27' then .inside c else .outside
  | .inside quote =>
      if c = '\\' then .escaped quote else if c = quote then .outside else .inside quote
  | .escaped quote => .inside quote

/-- The segments between the commas outside quoted texts, and the state at the end. -/
def segments (state : QuoteState) : List Char → List (List Char) × QuoteState
  | [] => ([[]], state)
  | c :: rest =>
      if state = .outside ∧ c = ',' then
        let parts := segments .outside rest
        ([] :: parts.1, parts.2)
      else
        let parts := segments (state.next c) rest
        match parts.1 with
        | [] => ([[c]], parts.2)
        | first :: others => ((c :: first) :: others, parts.2)

/-- The arguments of an argument list, without the blanks around them. -/
def splitArguments (arguments : String) : Except ExpressionError (List String) :=
  if Text.isBlankText arguments.toList then
    .ok []
  else
    let parts := segments .outside arguments.toList
    let trimmed := parts.1.map Text.trim
    if parts.2 ≠ .outside then
      .error (.unterminatedText arguments)
    else if trimmed.any List.isEmpty then
      .error (.emptyArgument arguments)
    else
      .ok (trimmed.map String.ofList)

/-- The text between an opening parenthesis at the start and a closing one at the end. -/
def parenthesised? : List Char → Option (List Char)
  | '(' :: rest =>
      match rest.reverse with
      | ')' :: body => some body.reverse
      | _ => none
  | _ => none

/-- The call that a text writes. -/
def parseCall (code : String) : Except ExpressionError Call :=
  let s := Text.trim code.toList
  let name := s.takeWhile Text.isWordChar
  let rest := Text.trimStart (s.dropWhile Text.isWordChar)
  if !Text.isIdentifier name then
    .error (.notACall (String.ofList s))
  else if rest.isEmpty then
    .ok ⟨String.ofList name, []⟩
  else
    match parenthesised? rest with
    | none => .error (.notACall (String.ofList s))
    | some body => (splitArguments (String.ofList body)).map fun arguments =>
        ⟨String.ofList name, arguments⟩

end PageScript.Script
