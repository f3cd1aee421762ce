import PageScript.Decimal.Shortest

namespace PageScript.Decimal

/-!
# Writing numbers

A layout says how the digits of a floating-point number are arranged: when a
power of ten is split off, how its exponent is written, and what stands for the
numbers that have no digits.
-/

/-- How floating-point numbers are written. -/
structure Layout where
  /-- The least decimal exponent that is written without a power of ten. -/
  leastPositional : Int
  /-- The first decimal exponent above the ones written without a power of ten. -/
  positionalEnd : Int
  /-- The least number of digits of an exponent. -/
  exponentWidth : Nat
  /-- Whether a positive exponent has a plus sign. -/
  plusSign : Bool
  /-- The text of a number that is none. -/
  nan : String
  /-- The text of the positive infinity. -/
  infinity : String
  /-- The text of the negative infinity. -/
  negativeInfinity : String

/-- A number in base ten with at least `width` digits. -/
def padded (width : Nat) (n : Nat) : List Char :=
  let digits := Nat.toDigits 10 n
  List.replicate (width - digits.length) '0' ++ digits

/-- The digits with a point after the first `place` of them, filled up by zeros. -/
def positional (digits : List Char) (place : Int) : List Char :=
  if place ≤ 0 then
    '0' :: '.' :: (List.replicate (-place).toNat '0' ++ digits)
  else if digits.length ≤ place.toNat then
    digits ++ List.replicate (place.toNat - digits.length) '0' ++ ['.', '0']
  else
    digits.take place.toNat ++ '.' :: digits.drop place.toNat

/-- The digits with a point after the first of them, and a power of ten. -/
def Layout.scientific (layout : Layout) (digits : List Char) (exponent : Int) : List Char :=
  let mantissa :=
    match digits with
    | [] => ['0']
    | [d] => [d]
    | d :: rest => d :: '.' :: rest
  let sign := if exponent < 0 then ['-'] else if layout.plusSign then ['+'] else []
  mantissa ++ 'e' :: (sign ++ padded layout.exponentWidth exponent.natAbs)

/-- The text of a floating-point number. -/
def Layout.write (layout : Layout) (x : Float) : List Char :=
  match Binary.ofFloat x with
  | .nan => layout.nan.toList
  | .infinite negative => (if negative then layout.negativeInfinity else layout.infinity).toList
  | .finite negative mantissa exponent =>
      let decimal := shortest mantissa exponent
      let digits := Nat.toDigits 10 decimal.digits
      let place : Int := digits.length + decimal.exponent
      let body :=
        if layout.leastPositional ≤ place - 1 ∧ place - 1 < layout.positionalEnd then
          positional digits place
        else
          layout.scientific digits (place - 1)
      if negative then '-' :: body else body

/-- The layout of values in texts and reports. -/
def plain : Layout :=
  { leastPositional := -4
    positionalEnd := 16
    exponentWidth := 2
    plusSign := true
    nan := "nan"
    infinity := "inf"
    negativeInfinity := "-inf" }

/-- The plain layout with the names that data files use for numbers without digits. -/
def dataLayout : Layout :=
  { plain with
    nan := "NaN"
    infinity := "Infinity"
    negativeInfinity := "-Infinity" }

/-- Divide and round to the nearest integer, a half to the even neighbour. -/
def roundedQuotient (numerator denominator : Nat) : Nat :=
  let quotient := numerator / denominator
  let remainder := numerator % denominator
  if 2 * remainder < denominator then quotient
  else if denominator < 2 * remainder then quotient + 1
  else if quotient % 2 = 0 then quotient
  else quotient + 1

/-- A finite number in units of `10 ^ -places`, rounded to the nearest unit. -/
def scaled (places : Nat) (mantissa : Nat) (exponent : Int) : Nat :=
  let fraction := Fraction.ofBinary mantissa exponent
  roundedQuotient (fraction.numerator * Nat.pow 10 places) fraction.denominator

/-- The text of a number with a fixed number of places after the point. -/
def fixed (places : Nat) (x : Float) : List Char :=
  match Binary.ofFloat x with
  | .nan => "nan".toList
  | .infinite negative => (if negative then "-inf" else "inf").toList
  | .finite negative mantissa exponent =>
      let digits := padded (places + 1) (scaled places mantissa exponent)
      let whole := digits.take (digits.length - places)
      let body :=
        if places = 0 then whole else whole ++ '.' :: digits.drop (digits.length - places)
      if negative then '-' :: body else body

end PageScript.Decimal
