import PageScript.Decimal.Shortest
import PageScript.Text.Digit

namespace PageScript.Decimal

/-!
# Reading numbers

An integer literal has at most 4300 digits; a longer one is refused.  A decimal
literal becomes the nearest floating-point number, an infinity when it is too
large.
-/

/-- The greatest number of digits of an integer literal. -/
def digitLimit : Nat :=
  4300

/--
The value of the digits of an integer literal, or the number of digits when there are too
many.
-/
def integerOfDigits (negative : Bool) (digits : List Char) : Except Nat Int :=
  if digitLimit < digits.length then
    .error digits.length
  else
    let size : Int := Text.digitsValue digits
    .ok (if negative then -size else size)

/-- The floating-point number nearest to `mantissa * 10 ^ exponent`. -/
def nearestFloat (negative : Bool) (mantissa : Nat) (exponent : Int) : Float :=
  let size : Float :=
    if mantissa = 0 then
      0.0
    else
      let place := (digitCount mantissa : Int) + exponent
      if 400 < place then
        1.0 / 0.0
      else if place < -400 then
        0.0
      else if 0 ≤ exponent then
        Float.ofScientific (mantissa * Nat.pow 10 exponent.toNat) false 0
      else
        Float.ofScientific mantissa true (-exponent).toNat
  if negative then -size else size

/-- A sign in front of a number, and the rest. -/
def takeSign : List Char → Bool × List Char
  | '-' :: rest => (true, rest)
  | '+' :: rest => (false, rest)
  | s => (false, s)

/-- The digits of an integer literal with its sign: an optional sign and at least one digit. -/
def integerLiteral? (s : List Char) : Option (Bool × List Char) :=
  let signed := takeSign s
  if !signed.2.isEmpty && signed.2.all Text.isDecimalDigit then some signed else none

/--
A numeral without the underscores between its digits; an underscore anywhere else
is refused.  `afterDigit` says whether the character before is a digit.
-/
def ungrouped? (afterDigit : Bool) : List Char → Option (List Char)
  | [] => some []
  | '_' :: c :: rest =>
      if afterDigit && Text.isDecimalDigit c then
        (ungrouped? true rest).map (c :: ·)
      else
        none
  | c :: rest =>
      if c = '_' then none else (ungrouped? (Text.isDecimalDigit c) rest).map (c :: ·)

/-- The exponent part of a decimal literal: nothing, or `e` with an integer literal. -/
def exponentPart? : List Char → Option Int
  | [] => some 0
  | c :: rest =>
      if c = 'e' || c = 'E' then
        (integerLiteral? rest).map fun signed =>
          let size : Int := Text.digitsValue signed.2
          if signed.1 then -size else size
      else
        none

/--
The number that a decimal literal writes: an optional sign, digits with at most
one point among them, and an optional exponent.
-/
def decimalLiteral? (s : List Char) : Option Float :=
  let signed := takeSign s
  let whole := signed.2.takeWhile Text.isDecimalDigit
  let afterWhole := signed.2.dropWhile Text.isDecimalDigit
  let parts : List Char × List Char :=
    match afterWhole with
    | '.' :: rest => (rest.takeWhile Text.isDecimalDigit, rest.dropWhile Text.isDecimalDigit)
    | rest => ([], rest)
  if whole.isEmpty && parts.1.isEmpty then
    none
  else
    (exponentPart? parts.2).map fun exponent =>
      nearestFloat signed.1 (Text.digitsValue (whole ++ parts.1)) (exponent - parts.1.length)

end PageScript.Decimal
