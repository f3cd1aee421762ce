import PageScript.Decimal.Layout
import PageScript.Text.Quoted
import PageScript.Text.Search

namespace PageScript

/-!
# Values

Variables, arguments and report fields hold values of one dynamic type.  This
module gives the text of a value, its quoted form inside collections, and the
equality that keys and comparisons use: truth values and numbers are equal when
they have the same numeric value, and tables are equal when they bind equal keys
to equal values.
-/

/-- A dynamic value. -/
inductive Value where
  /-- The absent value. -/
  | null
  /-- A truth value. -/
  | truth (holds : Bool)
  /-- An integer of any size. -/
  | integer (value : Int)
  /-- A floating-point number. -/
  | number (value : Float)
  /-- A text. -/
  | text (value : String)
  /-- A list of values. -/
  | list (items : List Value)
  /-- Bindings of keys to values in order. -/
  | table (entries : List (Value × Value))
  deriving Inhabited

namespace Value

/-- A table whose keys are texts. -/
def record (fields : List (String × Value)) : Value :=
  .table (fields.map fun field => (.text field.1, field.2))

/--
The text of an integer in base ten, however many digits it has.  The limit of 4300 digits,
beyond which an integer has no text, is not modelled.
-/
def integerText (value : Int) : List Char :=
  (toString value).toList

mutual

/-- The form of a value inside a collection, where texts are quoted. -/
def quoted : Value → List Char
  | .null => "None".toList
  | .truth true => "True".toList
  | .truth false => "False".toList
  | .integer value => integerText value
  | .number value => Decimal.plain.write value
  | .text value => Text.quoted value.toList
  | .list items => '[' :: Text.joinWith ", ".toList (quotedItems items) ++ [']']
  | .table entries => '\x7b' :: Text.joinWith ", ".toList (quotedEntries entries) ++ ['\x7d']

/-- The quoted forms of the items of a list. -/
def quotedItems : List Value → List (List Char)
  | [] => []
  | item :: rest => quoted item :: quotedItems rest

/-- The quoted forms of the bindings of a table. -/
def quotedEntries : List (Value × Value) → List (List Char)
  | [] => []
  | (key, value) :: rest => (quoted key ++ ':' :: ' ' :: quoted value) :: quotedEntries rest

end

/-- The text of a value, where a text stands for itself. -/
def display : Value → List Char
  | .text value => value.toList
  | value => quoted value

/-- The text of a value as a string. -/
def displayString (value : Value) : String :=
  String.ofList value.display

/-- The quoted form of a value as a string. -/
def quotedText (value : Value) : String :=
  String.ofList value.quoted

/-- Whether a value counts as true: neither absent, nor zero, nor empty. -/
def isTruthy : Value → Bool
  | .null => false
  | .truth holds => holds
  | .integer value => value != 0
  | .number value => !(value == 0.0)
  | .text value => !value.isEmpty
  | .list items => !items.isEmpty
  | .table entries => !entries.isEmpty

/-- Whether a value can be a key: collections cannot. -/
def isKey : Value → Bool
  | .list _ => false
  | .table _ => false
  | _ => true

/-- The name of the type of a value, as error texts give it. -/
def typeName : Value → String
  | .null => "NoneType"
  | .truth _ => "bool"
  | .integer _ => "int"
  | .number _ => "float"
  | .text _ => "str"
  | .list _ => "list"
  | .table _ => "dict"

/-- The integer that a truth value or a number equals, if there is one. -/
def integer? : Value → Option Int
  | .truth holds => some (if holds then 1 else 0)
  | .integer value => some value
  | .number value => Decimal.integer? value
  | _ => none

mutual

/-- Equality of values by what they stand for. -/
def same : Value → Value → Bool
  | .null, .null => true
  | .number left, .number right => left == right
  | .text left, .text right => left == right
  | .list left, .list right => sameItems left right
  | .table left, .table right => left.length == right.length && sameEntries left right
  | left, right =>
      match left.integer?, right.integer? with
      | some i, some j => i == j
      | _, _ => false

/-- Equality of lists, item by item. -/
def sameItems : List Value → List Value → Bool
  | [], [] => true
  | left :: leftRest, right :: rightRest => same left right && sameItems leftRest rightRest
  | _, _ => false

/-- Whether every binding of the first table is found in the second. -/
def sameEntries : List (Value × Value) → List (Value × Value) → Bool
  | [], _ => true
  | (key, value) :: rest, others =>
      (others.any fun other => same key other.1 && same value other.2) && sameEntries rest others

end

instance : BEq Value :=
  ⟨same⟩

end Value

end PageScript
