import PageScript.Json.Writer

namespace PageScript.Json

/-!
# Writing data texts on several lines

Every item and every member stands on a line of its own, two blanks further in than
what holds it.  Characters beyond the basic block stand for themselves, and numbers
without digits are written as the absent value.
-/

/-- The layout of numbers. -/
def prettyLayout : Decimal.Layout :=
  { Decimal.plain with
    leastPositional := -5
    exponentWidth := 1
    nan := "null"
    infinity := "null"
    negativeInfinity := "null" }

/-- A character between quotes. -/
def prettyCharacter (c : Char) : List Char :=
  match shortEscape? c with
  | some escape => escape
  | none => if c < ' ' then unitEscape c.toNat else [c]

/-- A text between quotes. -/
def prettyText (s : String) : List Char :=
  '\x22' :: s.toList.flatMap prettyCharacter ++ ['\x22']

/-- The name of a member, as the text of its key; a number without digits is named like no value. -/
def prettyName : Value → String
  | .truth true => "true"
  | .truth false => "false"
  | .number value => (if Decimal.isFinite value then Value.number value else .null).displayString
  | key => key.displayString

/-- The start of a line at some depth. -/
def lineAt (depth : Nat) : List Char :=
  '\n' :: List.replicate (2 * depth) ' '

mutual

/-- A value on several lines, at some depth. -/
def pretty (depth : Nat) : Value → List Char
  | .null => "null".toList
  | .truth true => "true".toList
  | .truth false => "false".toList
  | .integer value => Value.integerText value
  | .number value => prettyLayout.write value
  | .text value => prettyText value
  | .list [] => ['[', ']']
  | .list items => '[' :: prettyItems (depth + 1) items ++ lineAt depth ++ [']']
  | .table [] => ['\x7b', '\x7d']
  | .table entries => '\x7b' :: prettyEntries (depth + 1) entries ++ lineAt depth ++ ['\x7d']

/-- The items of a list on lines of their own. -/
def prettyItems (depth : Nat) : List Value → List Char
  | [] => []
  | [item] => lineAt depth ++ pretty depth item
  | item :: next :: rest =>
      lineAt depth ++ pretty depth item ++ ',' :: prettyItems depth (next :: rest)

/-- The members of an object on lines of their own. -/
def prettyEntries (depth : Nat) : List (Value × Value) → List Char
  | [] => []
  | [(key, value)] => lineAt depth ++ prettyText (prettyName key) ++ ':' :: ' ' :: pretty depth value
  | (key, value) :: next :: rest =>
      lineAt depth ++ prettyText (prettyName key) ++ ':' :: ' ' :: pretty depth value ++
        ',' :: prettyEntries depth (next :: rest)

end

end PageScript.Json
