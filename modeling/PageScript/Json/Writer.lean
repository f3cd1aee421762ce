import PageScript.Value

namespace PageScript.Json

/-!
# Writing data texts on one line

Texts are written with characters of the basic block only: every other character
is written by its code units.  Keys that are no texts are written as the text of
their value.
-/

/-- One code unit as an escape. -/
def unitEscape (code : Nat) : List Char :=
  '\\' :: 'u' :: Text.hexDigits 4 code

/-- The escape of a character by its code units, one or two. -/
def characterEscape (c : Char) : List Char :=
  if c.toNat < 0x10000 then
    unitEscape c.toNat
  else
    let offset := c.toNat - 0x10000
    unitEscape (0xD800 + offset / 0x400) ++ unitEscape (0xDC00 + offset % 0x400)

/-- The short escape of a control character, a quote or a backslash. -/
def shortEscape? (c : Char) : Option (List Char) :=
  if c = '\x22' then some ['\\', '\x22']
  else if c = '\\' then some ['\\', '\\']
  else if c = '\n' then some ['\\', 'n']
  else if c = '\r' then some ['\\', 'r']
  else if c = '\t' then some ['\\', 't']
  else if c = '\x08' then some ['\\', 'b']
  else if c = '\x0c' then some ['\\', 'f']
  else none

/-- A character between quotes, in characters of the basic block. -/
def plainCharacter (c : Char) : List Char :=
  match shortEscape? c with
  | some escape => escape
  | none => if ' ' ≤ c ∧ c ≤ '~' then [c] else characterEscape c

/-- A text between quotes. -/
def quotedText (s : String) : List Char :=
  '\x22' :: s.toList.flatMap plainCharacter ++ ['\x22']

/-- The name of a member, as the text of its key. -/
def memberName : Value → String
  | .text name => name
  | .null => "null"
  | .truth true => "true"
  | .truth false => "false"
  | .number value => String.ofList (Decimal.dataLayout.write value)
  | key => key.displayString

mutual

/-- A value on one line without spaces. -/
def compact : Value → List Char
  | .null => "null".toList
  | .truth true => "true".toList
  | .truth false => "false".toList
  | .integer value => Value.integerText value
  | .number value => Decimal.dataLayout.write value
  | .text value => quotedText value
  | .list items => '[' :: compactItems items ++ [']']
  | .table entries => '\x7b' :: compactEntries entries ++ ['\x7d']

/-- The items of a list with commas between them. -/
def compactItems : List Value → List Char
  | [] => []
  | [item] => compact item
  | item :: next :: rest => compact item ++ ',' :: compactItems (next :: rest)

/-- The members of an object with commas between them. -/
def compactEntries : List (Value × Value) → List Char
  | [] => []
  | [(key, value)] => quotedText (memberName key) ++ ':' :: compact value
  | (key, value) :: next :: rest =>
      quotedText (memberName key) ++ ':' :: compact value ++ ',' :: compactEntries (next :: rest)

end

end PageScript.Json
