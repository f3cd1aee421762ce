import PageScript.Decimal.Reading
import PageScript.Record
import PageScript.Text.Digit
import PageScript.Toml.Failure

namespace PageScript.Toml

/-!
# Numbers and moments

Digits of a number may be grouped by single underscores.  A moment is a date, a
time of day or both.  No setting holds a moment, so of a moment only its text is
kept, in a table that is no record.
-/

/-- Whether a character is a digit of the basic block. -/
def isDigit (c : Char) : Bool :=
  '0' ≤ c && c ≤ '9'

/-- The longest run of digits with single underscores between digits. -/
def groupedRun (digit : Char → Bool) : List Char → List Char
  | [] => []
  | '_' :: c :: rest => if digit c then '_' :: c :: groupedRun digit rest else []
  | c :: rest => if digit c then c :: groupedRun digit rest else []

/--
The run of grouped digits at the start of a text, which starts with a digit if the run is
not empty.
-/
def digitRun (digit : Char → Bool) (s : List Char) : List Char :=
  match s with
  | c :: _ => if digit c then groupedRun digit s else []
  | [] => []

/-- Digits without underscores. -/
def plainDigits (run : List Char) : List Char :=
  run.filter (· ≠ '_')

/-- The value of digits in a base of at most sixteen. -/
def valueInBase (base : Nat) (digits : List Char) : Nat :=
  digits.foldl
    (fun value c =>
      let digit :=
        if isDigit c then c.toNat - 0x30
        else if 'a' ≤ c then c.toNat - 0x57
        else c.toNat - 0x37
      value * base + digit)
    0

/-- The bases that a letter after a zero selects, with their digits. -/
def bases : List (Char × Nat × (Char → Bool)) :=
  [('x', 16, fun c => isDigit c || ('a' ≤ c && c ≤ 'f') || ('A' ≤ c && c ≤ 'F')),
   ('b', 2, fun c => c = '0' || c = '1'),
   ('o', 8, fun c => '0' ≤ c && c ≤ '7')]

/-- The integer in a base other than ten at the start of a text. -/
def basedInteger? : List Char → Option (Value × List Char)
  | '0' :: letter :: rest =>
      match bases.find? fun entry => entry.1 = letter with
      | none => none
      | some (_, base, digit) =>
          let run := digitRun digit rest
          if run.isEmpty then
            none
          else
            some (Value.count (valueInBase base (plainDigits run)), rest.drop run.length)
  | _ => none

/-- The digits before the point of a number: a zero alone, or a run that does not start with one. -/
def wholeRun (s : List Char) : List Char :=
  match s with
  | '0' :: _ => ['0']
  | _ => digitRun isDigit s

/-- The digits behind a point, if a point and a digit follow. -/
def fractionRun : List Char → List Char
  | '.' :: rest => digitRun isDigit rest
  | _ => []

/-- The exponent behind an exponent mark, and the characters that it takes. -/
def exponentRun (s : List Char) : Int × Nat :=
  match s with
  | c :: rest =>
      if c = 'e' || c = 'E' then
        let signed := Decimal.takeSign rest
        let run := digitRun isDigit signed.2
        if run.isEmpty then
          (0, 0)
        else
          let size : Int := Text.digitsValue (plainDigits run)
          (if signed.1 then -size else size, 1 + (rest.length - signed.2.length) + run.length)
      else
        (0, 0)
  | [] => (0, 0)

/-- The number in base ten at the start of a text, if there is one. -/
def decimalNumber? (s : List Char) : Option (Reading Value) :=
  let signed := Decimal.takeSign s
  let whole := wholeRun signed.2
  if whole.isEmpty then
    none
  else
    let afterWhole := signed.2.drop whole.length
    let fraction := fractionRun afterWhole
    let afterFraction :=
      if fraction.isEmpty then afterWhole else afterWhole.drop (fraction.length + 1)
    let exponent := exponentRun afterFraction
    some
      (if fraction.isEmpty && exponent.2 = 0 then
        match Decimal.integerOfDigits signed.1 (plainDigits whole) with
        | .ok value => .ok (.integer value, afterWhole)
        | .error count => .error (.tooManyDigits count)
      else
        let digits := plainDigits whole ++ plainDigits fraction
        .ok
          (.number
            (Decimal.nearestFloat signed.1 (Text.digitsValue digits)
              (exponent.1 - (plainDigits fraction).length)),
            afterFraction.drop exponent.2))

/-- The names of numbers without digits. -/
def namedNumbers : List (String × Value) :=
  [("inf", .number (1.0 / 0.0)), ("nan", .number (0.0 / 0.0)), ("-inf", .number (-1.0 / 0.0)),
   ("+inf", .number (1.0 / 0.0)), ("-nan", .number (0.0 / 0.0)), ("+nan", .number (0.0 / 0.0))]

/-- The value that a name at the start of a text stands for. -/
def named? (names : List (String × Value)) (s : List Char) : Option (Value × List Char) :=
  names.findSome? fun entry =>
    if entry.1.toList.isPrefixOf s then some (entry.2, s.drop entry.1.length) else none

/-- Whether characters fit a pattern, in which `0` stands for a digit. -/
def fits (pattern : String) (s : List Char) : Bool :=
  pattern.length ≤ s.length &&
    (pattern.toList.zip s).all fun pair =>
      if pair.1 = '0' then isDigit pair.2 else pair.1 = pair.2

/-- The number that the digits at a position write. -/
def numberAt (position count : Nat) (s : List Char) : Nat :=
  Text.digitsValue ((s.drop position).take count)

/-- The length of the time of day at the start of a text, if there is one. -/
def timeLength? (s : List Char) : Option Nat :=
  if fits "00:00:00" s && numberAt 0 2 s < 24 && numberAt 3 2 s < 60 && numberAt 6 2 s < 60 then
    match s.drop 8 with
    | '.' :: rest =>
        let digits := rest.takeWhile isDigit
        some (if digits.isEmpty then 8 else 9 + digits.length)
    | _ => some 8
  else
    none

/-- The length of the distance from universal time at the start of a text. -/
def offsetLength : List Char → Nat
  | 'Z' :: _ => 1
  | 'z' :: _ => 1
  | c :: rest =>
      if (c = '+' || c = '-') && fits "00:00" rest && numberAt 0 2 rest < 24 &&
          numberAt 3 2 rest < 60 then
        6
      else
        0
  | [] => 0

/-- The number of days of a month. -/
def monthLength (year month : Nat) : Nat :=
  if month = 2 then
    if year % 4 = 0 ∧ (year % 100 ≠ 0 ∨ year % 400 = 0) then 29 else 28
  else if month = 4 ∨ month = 6 ∨ month = 9 ∨ month = 11 then
    30
  else
    31

/-- The length of the date, with a time of day if one follows, at the start of a text. -/
def dateLength? (s : List Char) : Option Nat :=
  if fits "0000-00-00" s && 1 ≤ numberAt 5 2 s && numberAt 5 2 s ≤ 12 && 1 ≤ numberAt 8 2 s &&
      numberAt 8 2 s ≤ 31 then
    match s.drop 10 with
    | c :: rest =>
        if c = 'T' || c = 't' || c = ' ' then
          match timeLength? rest with
          | some length => some (11 + length + offsetLength (rest.drop length))
          | none => some 10
        else
          some 10
    | [] => some 10
  else
    none

/-- A moment as a table that is no record. -/
def moment (text : List Char) : Value :=
  .table [(.null, .text (String.ofList text))]

/--
The moment at the start of a text, if there is one; a day that its month does not have is
refused.
-/
def moment? (s : List Char) : Option (Reading Value) :=
  match dateLength? s with
  | some length =>
      let year := numberAt 0 4 s
      if year = 0 || monthLength year (numberAt 5 2 s) < numberAt 8 2 s then
        some (refuse "Invalid date or datetime" s)
      else
        some (.ok (moment (s.take length), s.drop length))
  | none => (timeLength? s).map fun length => .ok (moment (s.take length), s.drop length)

/-- The number or moment at the start of a text. -/
def scalar (s : List Char) : Reading Value :=
  match moment? s with
  | some reading => reading
  | none =>
      match basedInteger? s with
      | some read => .ok read
      | none =>
          match decimalNumber? s with
          | some reading => reading
          | none =>
              match named? namedNumbers s with
              | some read => .ok read
              | none => refuse "Invalid value" s

end PageScript.Toml
