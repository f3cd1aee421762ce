namespace PageScript.Decimal

/-!
# Binary floating-point numbers as exact fractions

A finite number is a sign and a mantissa times a power of two.  Decoding is
exact, so decimal text is computed in integer arithmetic only.
-/

/-- A floating-point number, taken apart. -/
inductive Binary where
  /-- Not a number. -/
  | nan
  /-- An infinity with its sign. -/
  | infinite (negative : Bool)
  /-- The number `mantissa * 2 ^ exponent`, with its sign. -/
  | finite (negative : Bool) (mantissa : Nat) (exponent : Int)
  deriving Repr, DecidableEq

/-- Take a floating-point number apart. -/
def Binary.ofFloat (x : Float) : Binary :=
  let bits : Nat := x.toBits.toNat
  let negative := bits / Nat.pow 2 63 == 1
  let exponent : Nat := bits / Nat.pow 2 52 % Nat.pow 2 11
  let fraction : Nat := bits % Nat.pow 2 52
  if exponent = 2047 then
    if fraction = 0 then .infinite negative else .nan
  else if exponent = 0 then
    .finite negative fraction (-1074)
  else
    .finite negative (Nat.pow 2 52 + fraction) ((exponent : Int) - 1075)

/-- A non-negative fraction. -/
structure Fraction where
  numerator : Nat
  denominator : Nat

/-- The fraction `mantissa * 2 ^ exponent`. -/
def Fraction.ofBinary (mantissa : Nat) (exponent : Int) : Fraction :=
  if 0 ≤ exponent then
    ⟨mantissa * Nat.pow 2 exponent.toNat, 1⟩
  else
    ⟨mantissa, Nat.pow 2 (-exponent).toNat⟩

/-- The integer that a floating-point number equals, if it is one. -/
def integer? (x : Float) : Option Int :=
  match Binary.ofFloat x with
  | .finite negative mantissa exponent =>
      let fraction := Fraction.ofBinary mantissa exponent
      if fraction.numerator % fraction.denominator = 0 then
        let size : Int := fraction.numerator / fraction.denominator
        some (if negative then -size else size)
      else
        none
  | _ => none

/-- Whether a floating-point number is neither infinite nor undefined. -/
def isFinite (x : Float) : Bool :=
  match Binary.ofFloat x with
  | .finite .. => true
  | _ => false

/-!
# The shortest decimal that reads back

Every finite binary number owns an interval of reals that round to it.  The
shortest decimal is found on the decimal grids with 1, 2, … 17 digits: the first
grid with a point in the interval wins, and of two such points the nearer one.
-/

/-- The decimal number `digits * 10 ^ exponent`. -/
structure Digits where
  digits : Nat
  exponent : Int
  deriving Repr, DecidableEq

/-- The reals that round to a number, as numerators over one denominator. -/
structure RoundingInterval where
  low : Nat
  value : Nat
  high : Nat
  denominator : Nat
  closed : Bool

/-- The rounding interval of `mantissa * 2 ^ exponent`. -/
def RoundingInterval.ofBinary (mantissa : Nat) (exponent : Int) : RoundingInterval :=
  let fraction := Fraction.ofBinary mantissa exponent
  let unit := if 0 ≤ exponent then Nat.pow 2 exponent.toNat else 1
  let below := if mantissa = Nat.pow 2 52 ∧ exponent ≠ -1074 then unit else 2 * unit
  { low := 4 * fraction.numerator - below
    value := 4 * fraction.numerator
    high := 4 * fraction.numerator + 2 * unit
    denominator := 4 * fraction.denominator
    closed := mantissa % 2 == 0 }

/-- The number of decimal digits of a natural number, one for zero. -/
def digitCount (n : Nat) : Nat :=
  (Nat.toDigits 10 n).length

/-- The `place` with `10 ^ (place - 1) ≤ numerator / denominator < 10 ^ place`. -/
def leadingPlace (numerator denominator : Nat) : Int :=
  let estimate : Int := (digitCount numerator : Int) - digitCount denominator
  let reached :=
    if 0 ≤ estimate then
      denominator * Nat.pow 10 estimate.toNat ≤ numerator
    else
      denominator ≤ numerator * Nat.pow 10 (-estimate).toNat
  if reached then estimate + 1 else estimate

/-- The grid point of the interval that is nearest to its value, on the grid of `10 ^ exponent`. -/
def gridPoint? (interval : RoundingInterval) (exponent : Int) : Option Nat :=
  let up := Nat.pow 10 exponent.toNat
  let down := Nat.pow 10 (-exponent).toNat
  let unit := interval.denominator * up
  let below := interval.value * down / unit
  let inside (point : Nat) : Bool :=
    let position := point * unit
    if interval.closed then
      interval.low * down ≤ position && position ≤ interval.high * down
    else
      interval.low * down < position && position < interval.high * down
  let above := below + 1
  match inside below, inside above with
  | true, true =>
      let lower := interval.value * down - below * unit
      let upper := above * unit - interval.value * down
      if lower < upper then some below
      else if upper < lower then some above
      else some (if below % 2 = 0 then below else above)
  | true, false => some below
  | false, true => some above
  | false, false => none

/-- The first grid with at least `count` digits that has a point in the interval, within `grids`. -/
def firstGrid (interval : RoundingInterval) (place : Int) : Nat → Nat → Digits
  | 0, _ => ⟨interval.value / interval.denominator, 0⟩
  | grids + 1, count =>
      let exponent := place - count
      match gridPoint? interval exponent with
      | some point => ⟨point, exponent⟩
      | none => firstGrid interval place grids (count + 1)

/-- Drop trailing zeros, at most `limit` of them. -/
def Digits.withoutTrailingZeros : Nat → Digits → Digits
  | 0, d => d
  | limit + 1, d =>
      if d.digits ≠ 0 ∧ d.digits % 10 = 0 then
        withoutTrailingZeros limit ⟨d.digits / 10, d.exponent + 1⟩
      else
        d

/-- The shortest decimal that reads back as `mantissa * 2 ^ exponent`. -/
def shortest (mantissa : Nat) (exponent : Int) : Digits :=
  if mantissa = 0 then
    ⟨0, 0⟩
  else
    let interval := RoundingInterval.ofBinary mantissa exponent
    let place := leadingPlace interval.value interval.denominator
    (firstGrid interval place 17 1).withoutTrailingZeros 18

end PageScript.Decimal
