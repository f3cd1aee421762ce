import PageScript.Text.Quoted

namespace PageScript.Toml

/-!
# Refusals of settings texts

A refusal names its reason and the place by the number of characters that were not
read, so that the line and the column follow from the whole text.
-/

/-- Why a text is refused. -/
inductive Failure where
  /-- The text breaks a rule at some place, before the last `remaining` characters. -/
  | refused (reason : String) (remaining : Nat)
  /-- An integer has too many digits. -/
  | tooManyDigits (count : Nat)
  deriving Repr, DecidableEq

/-- What is read at the start of a text, and the rest. -/
abbrev Reading (α : Type) := Except Failure (α × List Char)

/-- Refuse a text before some rest of it. -/
def refuse {α : Type} (reason : String) (rest : List Char) : Except Failure α :=
  .error (.refused reason rest.length)

/-- The line and the column behind some characters, both counted from one. -/
def placeBehind (before : List Char) : Nat × Nat :=
  (before.count '\n' + 1, (before.reverse.takeWhile (· ≠ '\n')).length + 1)

/-- The place before the last characters of a text. -/
def placeText (source : List Char) (remaining : Nat) : String :=
  if remaining = 0 then
    "end of document"
  else
    let place := placeBehind (source.take (source.length - remaining))
    "line " ++ toString place.1 ++ ", column " ++ toString place.2

/-- The reason of a refusal with its place. -/
def refusalText (source : List Char) (reason : String) (remaining : Nat) : String :=
  reason ++ " (at " ++ placeText source remaining ++ ")"

/-- Whether a character is a control character. -/
def isControl (c : Char) : Bool :=
  c < ' ' || c = '\x7f'

/-- Whether a character is not allowed within one line. -/
def isIllegalInLine (c : Char) : Bool :=
  isControl c && c ≠ '\t'

/-- Whether a character is not allowed in a text of several lines. -/
def isIllegalInBlock (c : Char) : Bool :=
  isControl c && c ≠ '\t' && c ≠ '\n'

/-- Whether a character is a blank within a line. -/
def isSpace (c : Char) : Bool :=
  c = ' ' || c = '\t'

/-- Whether a character is a blank or a line end. -/
def isSpaceOrLineEnd (c : Char) : Bool :=
  isSpace c || c = '\n'

/-- A text without its leading blanks. -/
def skipSpace (s : List Char) : List Char :=
  s.dropWhile isSpace

/-- The quoted form of one character. -/
def characterText (c : Char) : String :=
  String.ofList (Text.quoted [c])

/-- The characters before the first occurrence of a token, and the rest from there. -/
def splitBefore (token : List Char) : List Char → Option (List Char × List Char)
  | [] => if token.isEmpty then some ([], []) else none
  | c :: rest =>
      if token.isPrefixOf (c :: rest) then
        some ([], c :: rest)
      else
        (splitBefore token rest).map fun parts => (c :: parts.1, parts.2)

/-- Take characters up to the place `after`, none of which may be illegal. -/
def takeLegal (illegal : Char → Bool) (s taken after : List Char) : Reading (List Char) :=
  match s.dropWhile (fun c => !illegal c), taken.find? illegal with
  | place, some c => refuse ("Found invalid character " ++ characterText c) place
  | _, none => .ok (taken, after)

/-- The rest of a text after a comment, if one starts here. -/
def skipComment : List Char → Except Failure (List Char)
  | '#' :: rest =>
      (takeLegal isIllegalInLine rest (rest.takeWhile (· ≠ '\n'))
        (rest.dropWhile (· ≠ '\n'))).map (·.2)
  | s => .ok s

end PageScript.Toml
