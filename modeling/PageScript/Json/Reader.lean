import PageScript.Decimal.Reading
import PageScript.Table
import PageScript.Value

namespace PageScript.Json

/-!
# Reading data texts

The reader takes one value of the usual data notation: `null`, truth values,
numbers, quoted texts, lists and objects, with the names `NaN`, `Infinity` and
`-Infinity` as numbers.  Of two members with one name the last one counts.  Each
step consumes characters, so the length of the text bounds the nesting.
-/

/-- Characters that may stand between the parts of a data text. -/
def isSpace (c : Char) : Bool :=
  c = ' ' || c = '\t' || c = '\n' || c = '\r'

/-- A text without its leading spaces. -/
def skipSpace (s : List Char) : List Char :=
  s.dropWhile isSpace

/-- The value of a digit in base sixteen. -/
def hexDigit? (c : Char) : Option Nat :=
  if '0' ≤ c ∧ c ≤ '9' then some (c.toNat - 0x30)
  else if 'a' ≤ c ∧ c ≤ 'f' then some (c.toNat - 0x57)
  else if 'A' ≤ c ∧ c ≤ 'F' then some (c.toNat - 0x37)
  else none

/-- The number that four digits in base sixteen write, and the rest. -/
def hexFour? : List Char → Option (Nat × List Char)
  | a :: b :: c :: d :: rest =>
      match hexDigit? a, hexDigit? b, hexDigit? c, hexDigit? d with
      | some w, some x, some y, some z => some (((w * 16 + x) * 16 + y) * 16 + z, rest)
      | _, _, _, _ => none
  | _ => none

/-- The character of a code unit, the replacement character for half of a pair. -/
def unitChar (code : Nat) : Char :=
  if 0xD800 ≤ code ∧ code ≤ 0xDFFF then '\ufffd' else Char.ofNat code

/--
The character that an escape with a code unit writes, joined with a second unit if both form
a pair.
-/
def unicodeEscape? (s : List Char) : Option (Char × List Char) :=
  match hexFour? s with
  | none => none
  | some (high, rest) =>
      if 0xD800 ≤ high ∧ high ≤ 0xDBFF then
        match rest with
        | '\\' :: 'u' :: after =>
            match hexFour? after with
            | some (low, rest2) =>
                if 0xDC00 ≤ low ∧ low ≤ 0xDFFF then
                  some (Char.ofNat (0x10000 + (high - 0xD800) * 0x400 + (low - 0xDC00)), rest2)
                else
                  some (unitChar high, rest)
            | none => some (unitChar high, rest)
        | _ => some (unitChar high, rest)
      else
        some (unitChar high, rest)

/-- The characters that stand for themselves or another one after a backslash. -/
def simpleEscape? (c : Char) : Option Char :=
  if c = '\x22' || c = '\\' || c = '/' then some c
  else if c = 'b' then some '\x08'
  else if c = 'f' then some '\x0c'
  else if c = 'n' then some '\n'
  else if c = 'r' then some '\r'
  else if c = 't' then some '\t'
  else none

/--
The rest of a quoted text after its opening quote, with `done` holding the characters read,
last first.
-/
def readText : Nat → List Char → List Char → Option (List Char × List Char)
  | 0, _, _ => none
  | fuel + 1, done, s =>
      match s with
      | [] => none
      | '\\' :: 'u' :: rest =>
          match unicodeEscape? rest with
          | some (c, after) => readText fuel (c :: done) after
          | none => none
      | '\\' :: c :: rest =>
          match simpleEscape? c with
          | some plain => readText fuel (plain :: done) rest
          | none => none
      | c :: rest =>
          if c = '\x22' then some (done.reverse, rest)
          else if c.toNat < 0x20 then none
          else readText fuel (c :: done) rest

/-- The digits of the basic block at the start of a text, and the rest. -/
def takeDigits (s : List Char) : List Char × List Char :=
  (s.takeWhile fun c => '0' ≤ c && c ≤ '9', s.dropWhile fun c => '0' ≤ c && c ≤ '9')

/-- The digits after a point, if a point and a digit follow. -/
def takeFraction (s : List Char) : List Char × List Char :=
  match s with
  | '.' :: rest =>
      let taken := takeDigits rest
      if taken.1.isEmpty then ([], s) else taken
  | _ => ([], s)

/-- The exponent, if an exponent mark and a digit follow. -/
def takeExponent (s : List Char) : Option Int × List Char :=
  match s with
  | c :: rest =>
      if c = 'e' || c = 'E' then
        let signed := Decimal.takeSign rest
        let taken := takeDigits signed.2
        if taken.1.isEmpty then
          (none, s)
        else
          let size : Int := Text.digitsValue taken.1
          (some (if signed.1 then -size else size), taken.2)
      else
        (none, s)
  | [] => (none, s)

/-- The number at the start of a text, after its sign. -/
def readNumber (negative : Bool) (s : List Char) : Option (Value × List Char) :=
  let leading := takeDigits s
  let whole : List Char × List Char :=
    match leading.1 with
    | '0' :: more => (['0'], more ++ leading.2)
    | _ => leading
  if whole.1.isEmpty then
    none
  else
    let fraction := takeFraction whole.2
    let exponent := takeExponent fraction.2
    if fraction.1.isEmpty && exponent.1.isNone then
      match Decimal.integerOfDigits negative whole.1 with
      | .ok value => some (.integer value, whole.2)
      | .error _ => none
    else
      some
        (.number
          (Decimal.nearestFloat negative (Text.digitsValue (whole.1 ++ fraction.1))
            (exponent.1.getD 0 - fraction.1.length)),
          exponent.2)

/-- The rest of a text after a fixed word. -/
def afterWord? (word : String) (s : List Char) : Option (List Char) :=
  if word.toList.isPrefixOf s then some (s.drop word.length) else none

/-- The names that stand for values. -/
def namedValues : List (String × Value) :=
  [("null", .null), ("true", .truth true), ("false", .truth false),
   ("NaN", .number (0.0 / 0.0)), ("Infinity", .number (1.0 / 0.0)),
   ("-Infinity", .number (-1.0 / 0.0))]

/-- The value that a name at the start of a text stands for. -/
def readName (s : List Char) : Option (Value × List Char) :=
  namedValues.findSome? fun named => (afterWord? named.1 s).map fun rest => (named.2, rest)

mutual

/-- The value at the start of a text, and the rest. -/
def readValue : Nat → List Char → Option (Value × List Char)
  | 0, _ => none
  | fuel + 1, s =>
      match s with
      | [] => none
      | '[' :: rest =>
          match skipSpace rest with
          | ']' :: after => some (.list [], after)
          | after => (readItems fuel after).map fun read => (.list read.1, read.2)
      | '\x7b' :: rest =>
          match skipSpace rest with
          | '\x7d' :: after => some (.table [], after)
          | after =>
              (readMembers fuel after).map fun read =>
                (.table (Table.ofList read.1).entries, read.2)
      | '-' :: rest =>
          match readNumber true rest with
          | some read => some read
          | none => readName s
      | c :: rest =>
          if c = '\x22' then
            (readText (rest.length + 1) [] rest).map fun read =>
              (.text (String.ofList read.1), read.2)
          else
            match readNumber false s with
            | some read => some read
            | none => readName s

/-- The items of a list after its opening bracket, and the rest after its closing one. -/
def readItems : Nat → List Char → Option (List Value × List Char)
  | 0, _ => none
  | fuel + 1, s =>
      match readValue fuel (skipSpace s) with
      | none => none
      | some (item, rest) =>
          match skipSpace rest with
          | ']' :: after => some ([item], after)
          | ',' :: after =>
              (readItems fuel after).map fun read => (item :: read.1, read.2)
          | _ => none

/-- The members of an object after its opening brace, and the rest after its closing one. -/
def readMembers : Nat → List Char → Option (List (Value × Value) × List Char)
  | 0, _ => none
  | fuel + 1, s =>
      match skipSpace s with
      | [] => none
      | quote :: rest =>
          if quote ≠ '\x22' then
            none
          else
            match readText (rest.length + 1) [] rest with
            | none => none
            | some (name, afterName) =>
                match skipSpace afterName with
                | ':' :: afterColon =>
                    match readValue fuel (skipSpace afterColon) with
                    | none => none
                    | some (value, afterValue) =>
                        let member : Value × Value := (.text (String.ofList name), value)
                        match skipSpace afterValue with
                        | '\x7d' :: after => some ([member], after)
                        | ',' :: after =>
                            (readMembers fuel after).map fun read => (member :: read.1, read.2)
                        | _ => none
                | _ => none

end

/-- The value that a whole text writes, if it writes one. -/
def read? (s : List Char) : Option Value :=
  match readValue (2 * s.length + 2) (skipSpace s) with
  | some (value, rest) => if (skipSpace rest).isEmpty then some value else none
  | none => none

end PageScript.Json
