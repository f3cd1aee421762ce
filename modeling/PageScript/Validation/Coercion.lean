import PageScript.Decimal.Reading
import PageScript.Text.LowerCase
import PageScript.Validation.Issue

namespace PageScript.Validation

/-!
# Reading values as fields

A field has a type, and some values of other types are accepted for it: numbers
and words for truth values, digits and whole numbers for integers, and numerals
for numbers.  Texts are taken from texts only.
-/

/-- A text field. -/
def text : Value → Checked String
  | .text value => .ok value
  | _ => refuse .notText

/-- A text field with at least one character. -/
def filledText (value : Value) : Checked String :=
  match text value with
  | .ok "" => refuse .textTooShort
  | outcome => outcome

/-- The words for true. -/
def trueWords : List String :=
  ["1", "t", "y", "on", "yes", "true"]

/-- The words for false. -/
def falseWords : List String :=
  ["0", "f", "n", "no", "off", "false"]

/-- A text with the capitals of the basic block made small. -/
def plainLower (s : String) : String :=
  String.ofList (s.toList.map Char.toLower)

/-- Whether an integer fits into a signed word of 64 bits. -/
def fitsWord (value : Int) : Bool :=
  let bound : Int := Nat.pow 2 63
  value < bound && -bound ≤ value

/--
The integer that a floating-point number equals, if its size is below 2 to the power
of 63.  The least word itself is left out.
-/
def wordOfNumber? (value : Float) : Option Int :=
  (Decimal.integer? value).filter fun whole => whole.natAbs < Nat.pow 2 63

/-- The truth value that an integer stands for. -/
def truthOfInteger (value : Int) : Checked Bool :=
  if value = 0 then .ok false
  else if value = 1 then .ok true
  else if fitsWord value then refuse .unreadableTruth
  else refuse .notTruth

/-- A truth field. -/
def truth : Value → Checked Bool
  | .truth holds => .ok holds
  | .integer value => truthOfInteger value
  | .number value =>
      match wordOfNumber? value with
      | some whole => truthOfInteger whole
      | none => refuse .notTruth
  | .text word =>
      if trueWords.contains (plainLower word) then .ok true
      else if falseWords.contains (plainLower word) then .ok false
      else refuse .unreadableTruth
  | _ => refuse .notTruth

/-- A text without the white space at its ends. -/
def trimmed (s : List Char) : List Char :=
  ((s.dropWhile Text.isWhiteSpace).reverse.dropWhile Text.isWhiteSpace).reverse

/-- Whether two underscores follow each other. -/
def hasDoubleUnderscore : List Char → Bool
  | '_' :: '_' :: _ => true
  | _ :: rest => hasDoubleUnderscore rest
  | [] => false

/--
A numeral without its underscores.  A text with an underscore at an end, or with
two in a row, stays as it is.
-/
def withoutUnderscores (s : List Char) : List Char :=
  if s.head? == some '_' || s.getLast? == some '_' || hasDoubleUnderscore s then
    s
  else
    s.filter (· ≠ '_')

/-- A numeral whose leading zero, the character `last` before it, has been passed. -/
def afterLeadingZero? (last : Char) : List Char → Option (List Char)
  | [] => some [last]
  | c :: rest =>
      if c = '0' || c = '_' then
        afterLeadingZero? c rest
      else if ('1' ≤ c && c ≤ '9') || c = '-' then
        some (c :: rest)
      else if c = '.' then
        some (last :: c :: rest)
      else
        none

/--
A numeral without the zeros in front of it, and without underscores among them.
One zero stays when nothing or a point follows, and zeros may stand before a minus sign.
-/
def withoutLeadingZeros? : List Char → Option (List Char)
  | [] => none
  | c :: rest =>
      if c = '0' then
        afterLeadingZero? c rest
      else if ('1' ≤ c && c ≤ '9') || c = '-' then
        some (c :: rest)
      else
        none

/-- A numeral without a point that only zeros follow, of which there is at least one. -/
def withoutZeroFraction (s : List Char) : List Char :=
  match Text.cutAt? '.' s with
  | some (whole, fraction) =>
      if !fraction.isEmpty && fraction.all (· = '0') then whole else s
  | none => s

/-- A numeral without a plus sign, if it has one. -/
def withoutPlus? : List Char → Option (List Char)
  | '+' :: '-' :: _ => none
  | '+' :: rest => some rest
  | s => some s

/-- The part of a text that decides its integer: no sign, no needless zero, no fraction of zeros. -/
def cleanedNumeral? (s : List Char) : Option (List Char) :=
  ((withoutPlus? (trimmed s)).bind withoutLeadingZeros?).map fun numeral =>
    withoutUnderscores (withoutZeroFraction numeral)

/-- Whether a character is a digit of the basic block. -/
def isPlainDigit (c : Char) : Bool :=
  '0' ≤ c && c ≤ '9'

/-- What is known about the integer of a numeral. -/
inductive NumeralReading where
  /-- The numeral writes an integer. -/
  | integer (value : Int)
  /-- The numeral has too many characters. -/
  | tooLong
  /-- The text is no numeral. -/
  | unreadable
  deriving Repr, DecidableEq

/--
Read a numeral: digits of the basic block behind an optional minus sign, which counts as a
character.
-/
def readNumeral (s : List Char) : NumeralReading :=
  let negative := s.head? == some '-'
  let unsigned := if negative then s.tail else s
  let digits := unsigned.takeWhile isPlainDigit
  if Decimal.digitLimit < digits.length + (if negative then 1 else 0) then
    .tooLong
  else if digits.isEmpty || digits.length ≠ unsigned.length then
    .unreadable
  else
    let size : Int := Text.digitsValue digits
    .integer (if negative then -size else size)

/-- Read a text as it is; zeros in front are not yet understood. -/
def readRawNumeral (s : List Char) : NumeralReading :=
  if s.head? == some '0' then .unreadable else readNumeral s

/-- The integer that a text writes; a text that is no numeral as it is gets cleaned first. -/
def integerOfText (s : String) : Checked Int :=
  let reading :=
    match readRawNumeral s.toList with
    | .unreadable => ((cleanedNumeral? s.toList).map readNumeral).getD .unreadable
    | reading => reading
  match reading with
  | .integer value => .ok value
  | .tooLong => refuse .integerTextTooLong
  | .unreadable => refuse .unreadableInteger

/-- The integer that a floating-point number equals; its size is below 2 to the power of 63. -/
def integerOfNumber (value : Float) : Checked Int :=
  match Decimal.integer? value, wordOfNumber? value with
  | some _, some whole => .ok whole
  | some _, none => refuse .integerTextTooLong
  | none, _ => refuse (if Decimal.isFinite value then .fractionalInteger else .notFinite)

/-- An integer field. -/
def integer : Value → Checked Int
  | .truth holds => .ok (if holds then 1 else 0)
  | .integer value => .ok value
  | .number value => integerOfNumber value
  | .text s => integerOfText s
  | _ => refuse .notInteger

/--
The floating-point number nearest to an integer; an integer beyond the greatest of them has
none.
-/
def numberOfInteger (value : Int) : Checked Float :=
  let nearest := Decimal.nearestFloat (value < 0) value.natAbs 0
  if Decimal.isFinite nearest then .ok nearest else refuse .notNumber

/-- The number that a numeral of the basic block or a word for an infinity writes. -/
def plainNumber? (s : List Char) : Option Float :=
  let signed := Decimal.takeSign s
  let word := plainLower (String.ofList signed.2)
  if word == "inf" || word == "infinity" then
    some (if signed.1 then -1.0 / 0.0 else 1.0 / 0.0)
  else if word == "nan" then
    some (0.0 / 0.0)
  else if s.all (fun c => c.toNat < 0x80) then
    Decimal.decimalLiteral? s
  else
    none

/-- The number that a text writes, white space at its ends or underscores left out, but not both. -/
def numberOfText (s : String) : Checked Float :=
  match (plainNumber? (trimmed s.toList)).or (plainNumber? (withoutUnderscores s.toList)) with
  | some value => .ok value
  | none => refuse .unreadableNumber

/-- A number field. -/
def number : Value → Checked Float
  | .truth holds => .ok (if holds then 1.0 else 0.0)
  | .integer value => numberOfInteger value
  | .number value => .ok value
  | .text s => numberOfText s
  | _ => refuse .notNumber

/-- The entries of a table field. -/
def table : Value → Checked (List (Value × Value))
  | .table entries => .ok entries
  | _ => refuse .notTable

/-- The items of a list, each checked, with the positions of issues. -/
def items {α : Type} (check : Value → Checked α) : Nat → List Value → Checked (List α)
  | _, [] => .ok []
  | position, item :: rest =>
      Checked.both (· :: ·) (Checked.within (toString position) (check item))
        (items check (position + 1) rest)

/-- A list field whose items are checked. -/
def list {α : Type} (check : Value → Checked α) : Value → Checked (List α)
  | .list values => items check 0 values
  | _ => refuse .notList

/-- The value of a named entry. -/
def entry? (name : String) (entries : List (Value × Value)) : Option Value :=
  entries.findSome? fun entry =>
    match entry.1 with
    | .text key => if key == name then some entry.2 else none
    | _ => none

/-- A field that has to be there. -/
def required
    {α : Type}
    (name : String)
    (check : Value → Checked α)
    (entries : List (Value × Value)) :
    Checked α :=
  Checked.within name
    (match entry? name entries with
    | some value => check value
    | none => refuse .missing)

/-- A field with a default. -/
def optional
    {α : Type}
    (name : String)
    (default : α)
    (check : Value → Checked α)
    (entries : List (Value × Value)) :
    Checked α :=
  Checked.within name
    (match entry? name entries with
    | some value => check value
    | none => .ok default)

end PageScript.Validation
