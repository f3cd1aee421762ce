import PageScript.Decimal.Reading
import PageScript.Json.Reader
import PageScript.Markup.CapitalNames
import PageScript.Markup.SmallNames

namespace PageScript.Markup

/-!
# Named characters

The names that markup itself needs come first, and the other names follow in
alphabetical order.  No name occurs twice.
-/

/-- The names of the characters that markup itself uses. -/
def basicNamedCharacters : List (String × String) :=
  [("amp;", "\x26"), ("lt;", "\x3c"), ("gt;", "\x3e"), ("quot;", "\x22"), ("apos;", "\x27"),
   ("nbsp;", "\xa0")]

/-- All named characters. -/
def namedCharacters : List (String × String) :=
  basicNamedCharacters ++ capitalNamesAToD ++ capitalNamesEToK ++ capitalNamesLToQ ++
    capitalNamesRToZ ++ smallNamesAToB ++ smallNamesCToD ++ smallNamesEToG ++ smallNamesHToK ++
    smallNamesL ++ smallNamesMToN ++ smallNamesOToQ ++ smallNamesR ++ smallNamesS ++
    smallNamesTToU ++ smallNamesVToZ

/-- The text that a name stands for. -/
def namedText? (name : List Char) : Option (List Char) :=
  (namedCharacters.lookup (String.ofList name)).map String.toList

/-!
# Character references

A reference starts with an ampersand and names a character by its code point or
by its name.  `decode` replaces the references of a text, and `escapeText` and
`escapeAttribute` write a text so that decoding gives it back.
-/

/-- Why markup is refused. -/
inductive MarkupError where
  /-- A marked section starts with no name; the text that starts there is shown. -/
  | sectionWithoutName (context : String)
  /-- A marked section has a name without a meaning. -/
  | unknownSection (keyword : String)
  /-- A reference by code point has too many digits. -/
  | tooManyDigits (count : Nat)
  deriving Repr, DecidableEq

/-- The characters that stand for the control characters from 0x80 to 0x9F in references. -/
def upperControlCharacters : List Nat :=
  [0x20AC, 0x0081, 0x201A, 0x0192, 0x201E, 0x2026, 0x2020, 0x2021,
   0x02C6, 0x2030, 0x0160, 0x2039, 0x0152, 0x008D, 0x017D, 0x008F,
   0x0090, 0x2018, 0x2019, 0x201C, 0x201D, 0x2022, 0x2013, 0x2014,
   0x02DC, 0x2122, 0x0161, 0x203A, 0x0153, 0x009D, 0x017E, 0x0178]

/-- Control characters and code points that are no characters; a reference to one is dropped. -/
def isDroppedCode (code : Nat) : Bool :=
  (0x01 ≤ code && code ≤ 0x08) || code == 0x0B || (0x0E ≤ code && code ≤ 0x1F) ||
    (0x7F ≤ code && code ≤ 0x9F) || (0xFDD0 ≤ code && code ≤ 0xFDEF) ||
    (code % 0x10000 == 0xFFFE || code % 0x10000 == 0xFFFF)

/-- The text that a reference to a code point stands for. -/
def codeText (code : Nat) : List Char :=
  if code = 0 then
    ['\ufffd']
  else if 0x80 ≤ code ∧ code ≤ 0x9F then
    [Char.ofNat (upperControlCharacters.getD (code - 0x80) code)]
  else if (0xD800 ≤ code ∧ code ≤ 0xDFFF) ∨ 0x10FFFF < code then
    ['\ufffd']
  else if isDroppedCode code then
    []
  else
    [Char.ofNat code]

/-- The digits of the basic block at the start of a text. -/
def isPlainDecimal (c : Char) : Bool :=
  '0' ≤ c && c ≤ '9'

/-- Whether a character is a digit in base sixteen. -/
def isHexDigit (c : Char) : Bool :=
  (Json.hexDigit? c).isSome

/-- The number that digits in base sixteen write. -/
def hexValue (digits : List Char) : Nat :=
  digits.foldl (fun total c => total * 16 + (Json.hexDigit? c).getD 0) 0

/-- A text without the semicolon at its start, if there is one. -/
def skipSemicolon : List Char → List Char
  | ';' :: rest => rest
  | s => s

/-- Characters that may stand in the name of a reference. -/
def isReferenceNameChar (c : Char) : Bool :=
  !(c = '\t' || c = '\n' || c = '\x0c' || c = ' ' || c = '<' || c = '&' || c = '#' || c = ';')

/-- The greatest number of characters of a reference name, its semicolon not counted. -/
def referenceNameLimit : Nat :=
  32

/--
The text of the longest name among the first `count` characters of a name, and
the characters after it; names are at least two characters long.
-/
def longestName? (name : List Char) : Nat → Option (List Char)
  | 0 => none
  | count + 1 =>
      if count + 1 < 2 then
        none
      else
        match namedText? (name.take (count + 1)) with
        | some text => some (text ++ name.drop (count + 1))
        | none => longestName? name count

/-- The text that a reference by name stands for; an unknown name stands for itself. -/
def nameText (name : List Char) : List Char :=
  match namedText? name with
  | some text => text
  | none => (longestName? name (name.length - 1)).getD ('&' :: name)

/-- The text of a reference whose ampersand has been read, and the rest. -/
def referenceText? (s : List Char) : Except MarkupError (Option (List Char × List Char)) :=
  match s with
  | '#' :: x :: rest =>
      let digits := (x :: rest).takeWhile isPlainDecimal
      if !digits.isEmpty then
        match Decimal.integerOfDigits false digits with
        | .error count => .error (.tooManyDigits count)
        | .ok code =>
            .ok (some (codeText code.toNat,
              skipSemicolon ((x :: rest).dropWhile isPlainDecimal)))
      else if x = 'x' || x = 'X' then
        let hex := rest.takeWhile isHexDigit
        if hex.isEmpty then
          .ok none
        else
          .ok (some (codeText (hexValue hex), skipSemicolon (rest.dropWhile isHexDigit)))
      else
        .ok none
  | _ =>
      let bare := (s.takeWhile isReferenceNameChar).take referenceNameLimit
      if bare.isEmpty then
        .ok none
      else
        match s.drop bare.length with
        | ';' :: rest => .ok (some (nameText (bare ++ [';']), rest))
        | rest => .ok (some (nameText bare, rest))

/-- Replace the references of a text, with `fuel` bounding the characters read. -/
def decodeWithin : Nat → List Char → Except MarkupError (List Char)
  | 0, s => .ok s
  | _ + 1, [] => .ok []
  | fuel + 1, c :: rest =>
      if c = '&' then
        match referenceText? rest with
        | .error error => .error error
        | .ok (some (text, after)) => (decodeWithin fuel after).map (text ++ ·)
        | .ok none => (decodeWithin fuel rest).map ('&' :: ·)
      else
        (decodeWithin fuel rest).map (c :: ·)

/-- Replace the references of a text. -/
def decode (s : List Char) : Except MarkupError (List Char) :=
  decodeWithin s.length s

/-- A character of a text between tags. -/
def escapeTextChar (c : Char) : List Char :=
  if c = '&' then ['&', 'a', 'm', 'p', ';']
  else if c = '<' then ['&', 'l', 't', ';']
  else if c = '>' then ['&', 'g', 't', ';']
  else [c]

/-- A character of an attribute value between quotes. -/
def escapeAttributeChar (c : Char) : List Char :=
  if c = '\x22' then ['&', 'q', 'u', 'o', 't', ';']
  else if c = '\x27' then ['&', '#', 'x', '2', '7', ';']
  else escapeTextChar c

/-- A text between tags. -/
def escapeText (s : List Char) : List Char :=
  s.flatMap escapeTextChar

/-- An attribute value between quotes. -/
def escapeAttribute (s : List Char) : List Char :=
  s.flatMap escapeAttributeChar

end PageScript.Markup
