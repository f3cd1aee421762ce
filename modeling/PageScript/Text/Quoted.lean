import PageScript.Text.UnprintableRanges

namespace PageScript.Text

/-!
# Quoted texts

A quoted text stands between single quotes, or between double quotes when it
holds a single quote and no double one.  The quote, the backslash and every
character without a visible form are written as escapes.
-/

/-- Whether a character shows itself in a quoted text. -/
def isPrintable (c : Char) : Bool :=
  if c.toNat < 0x80 then
    ' ' ≤ c && c ≤ '~'
  else
    !covers unprintableRanges c

/-- A number in base sixteen with small letters and at least `width` digits. -/
def hexDigits (width : Nat) (n : Nat) : List Char :=
  let digits := Nat.toDigits 16 n
  List.replicate (width - digits.length) '0' ++ digits

/-- The written form of one character between quotes. -/
def quotedChar (quote : Char) (c : Char) : List Char :=
  if c = quote || c = '\\' then
    ['\\', c]
  else if c = '\n' then
    ['\\', 'n']
  else if c = '\r' then
    ['\\', 'r']
  else if c = '\t' then
    ['\\', 't']
  else if isPrintable c then
    [c]
  else if c.toNat < 0x100 then
    '\\' :: 'x' :: hexDigits 2 c.toNat
  else if c.toNat < 0x10000 then
    '\\' :: 'u' :: hexDigits 4 c.toNat
  else
    '\\' :: 'U' :: hexDigits 8 c.toNat

/-- The quote that a text is written with. -/
def quoteFor (s : List Char) : Char :=
  if s.contains '\x27' && !s.contains '\x22' then '\x22' else '\x27'

/-- A text between quotes, with escapes. -/
def quoted (s : List Char) : List Char :=
  let quote := quoteFor s
  quote :: s.flatMap (quotedChar quote) ++ [quote]

/-- The quoted form of a string. -/
def quotedString (s : String) : String :=
  String.ofList (quoted s.toList)

end PageScript.Text
