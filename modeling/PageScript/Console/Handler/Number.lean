import PageScript.Console.Handler.Lexeme

namespace PageScript.Console.Handler

/-!
# Numbers in expressions

A number has a base of two, eight, ten or sixteen, and single underscores may stand
between its digits.  In base ten it may have a fraction, an exponent and the mark of an
imaginary number.  What follows a number must not look like a name, except for a few
keywords.  Every function gives the rest of the text behind what it reads.
-/

/-- The rest behind a part of a number, or why the number is broken. -/
abbrev NumberRest := Except LexicalFault (List Char)

/-- Whether a character is a digit in base ten. -/
def isDigit (c : Char) : Bool :=
  '0' ≤ c && c ≤ '9'

/-- A base that a number can be marked with. -/
structure Base where
  name : String
  mark : Char
  hasDigit : Char → Bool

/-- The bases that numbers are marked with. -/
def bases : List Base :=
  [⟨"hexadecimal", 'x', fun c => isDigit c || ('a' ≤ c && c ≤ 'f') || ('A' ≤ c && c ≤ 'F')⟩,
   ⟨"octal", 'o', fun c => '0' ≤ c && c ≤ '7'⟩,
   ⟨"binary", 'b', fun c => c = '0' || c = '1'⟩]

/-- The keywords that may follow a number without a blank, if they end there. -/
def followers : List String :=
  ["and", "else", "for", "or", "not"]

/-- The keywords that may follow a number without a blank, whatever comes behind them. -/
def openFollowers : List String :=
  ["if", "in", "is"]

/-- Whether a text starts with a keyword that may follow a number. -/
def startsFollower (s : List Char) : Bool :=
  openFollowers.any (fun word => word.toList.isPrefixOf s) ||
    followers.any fun word =>
      word.toList.isPrefixOf s && !((s.drop word.length).head?.map looksLikeName).getD false

/-- Check what follows a number. -/
def ended (base : String) (s : List Char) : NumberRest :=
  match s with
  | [] => .ok []
  | c :: _ => if isPlainNameChar c && !startsFollower s then .error (.brokenNumber base) else .ok s

/-- The fault of a digit that is missing, where `found` stands in its place. -/
def Base.fault (base : Base) (found : Option Char) : LexicalFault :=
  match found with
  | some c => if isDigit c then .foreignDigit c base.name else .brokenNumber base.name
  | none => .brokenNumber base.name

/-- Read digits of a marked number; `started` says whether a digit stands before. -/
def Base.digits (base : Base) (started : Bool) : List Char → NumberRest
  | [] => if started then .ok [] else .error (base.fault none)
  | '_' :: [] => .error (base.fault none)
  | '_' :: c :: rest =>
      if base.hasDigit c then base.digits true rest else .error (base.fault (some c))
  | c :: rest =>
      if base.hasDigit c then base.digits true rest
      else if started && !isDigit c then .ok (c :: rest)
      else .error (base.fault (some c))

/-- Read digits in base ten behind a digit. -/
def decimalDigits : List Char → NumberRest
  | '_' :: c :: rest =>
      if isDigit c then decimalDigits rest else .error (.brokenNumber "decimal")
  | '_' :: [] => .error (.brokenNumber "decimal")
  | c :: rest => if isDigit c then decimalDigits rest else .ok (c :: rest)
  | [] => .ok []

/-- Read digits in base ten, if there are any. -/
def optionalDigits : List Char → NumberRest
  | [] => .ok []
  | c :: rest => if isDigit c then decimalDigits rest else .ok (c :: rest)

/-- Read the zeros at the start of a number, behind the first of them. -/
def leadingZeros : List Char → NumberRest
  | '_' :: c :: rest =>
      if c = '0' then leadingZeros rest
      else if isDigit c then .ok (c :: rest)
      else .error (.brokenNumber "decimal")
  | '_' :: [] => .error (.brokenNumber "decimal")
  | c :: rest => if c = '0' then leadingZeros rest else .ok (c :: rest)
  | [] => .ok []

/-- Read the mark of an imaginary number, if there is one, and check what follows. -/
def afterExponent : List Char → NumberRest
  | [] => .ok []
  | c :: rest =>
      if c = 'j' || c = 'J' then ended "imaginary" rest else ended "decimal" (c :: rest)

/-- Read an exponent behind its letter: a sign, if there is one, and digits. -/
def exponentDigits : List Char → Option NumberRest
  | [] => none
  | c :: rest =>
      if c = '+' || c = '-' then
        match rest with
        | [] => some (.error (.brokenNumber "decimal"))
        | d :: more =>
            some (if isDigit d then decimalDigits more else .error (.brokenNumber "decimal"))
      else if isDigit c then
        some (decimalDigits rest)
      else
        none

/-- Read an exponent, if there is one, and what may follow it. -/
def afterFraction : List Char → NumberRest
  | [] => .ok []
  | c :: rest =>
      if c = 'e' || c = 'E' then
        match exponentDigits rest with
        | some digits => digits.bind afterExponent
        | none => ended "decimal" (c :: rest)
      else
        afterExponent (c :: rest)

/-- Read a fraction behind its point, and what may follow it. -/
def afterPoint (s : List Char) : NumberRest :=
  (optionalDigits s).bind afterFraction

/-- Read what may follow the digits before a point. -/
def afterWhole : List Char → NumberRest
  | '.' :: rest => afterPoint rest
  | s => afterFraction s

/-- Whether a character makes a number with zeros in front of it more than an integer. -/
def marksNumber (c : Char) : Bool :=
  c = '.' || c = 'e' || c = 'E' || c = 'j' || c = 'J'

/-- Read a number that starts with a zero and has no base, behind the zero. -/
def afterZero (s : List Char) : NumberRest := do
  let significant ← leadingZeros s
  let rest ← optionalDigits significant
  let isInteger := !(rest.head?.map marksNumber).getD false
  if isInteger && rest.length ≠ significant.length then
    .error .leadingZeros
  else
    afterWhole rest

/-- Read a number, which starts with a digit or with a point and a digit. -/
def numberRest : List Char → NumberRest
  | '.' :: rest => afterPoint rest
  | '0' :: rest =>
      match rest with
      | [] => .ok []
      | mark :: digits =>
          match bases.find? fun base => base.mark = mark.toLower with
          | some base => (base.digits false digits).bind (ended base.name)
          | none => afterZero rest
  | _ :: rest => (decimalDigits rest).bind afterWhole
  | [] => .ok []

/-- Whether a number starts at a text. -/
def startsNumber : List Char → Bool
  | '.' :: c :: _ => isDigit c
  | c :: _ => isDigit c
  | [] => false

end PageScript.Console.Handler
