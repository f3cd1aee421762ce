import PageScript.Value

namespace PageScript.Value

/-!
# Records

A record is a table whose keys are texts.  Reading a field of a value that is no
record, or of a record without that field, gives the absent value, and the readers
of typed fields give a stated value instead.
-/

/-- The bindings of a table, and none of any other value. -/
def entries : Value → List (Value × Value)
  | .table entries => entries
  | _ => []

/-- The items of a list, and none of any other value. -/
def items : Value → List Value
  | .list items => items
  | _ => []

/-- The characters of a text, and the empty text for any other value. -/
def asText : Value → String
  | .text value => value
  | _ => ""

/-- The name and the value of a binding whose key is a text. -/
def fieldOfEntry? : Value × Value → Option (String × Value)
  | (.text name, value) => some (name, value)
  | _ => none

/-- The fields of a record in order. -/
def fields (value : Value) : List (String × Value) :=
  value.entries.filterMap fieldOfEntry?

/-- A text, if the value is one. -/
def text? : Value → Option String
  | .text value => some value
  | _ => none

/-- Whether a value is a record: a table whose keys are texts. -/
def isRecord : Value → Bool
  | .table entries => entries.all fun entry => entry.1.text?.isSome
  | _ => false

/-- The value of a field, if the record has it. -/
def field? (value : Value) (name : String) : Option Value :=
  (value.fields.find? fun field => field.1 == name).map (·.2)

/-- The value of a field, absent when the record does not have it. -/
def field (value : Value) (name : String) : Value :=
  (value.field? name).getD .null

/-- The text of a field, if it has one. -/
def textField? (value : Value) (name : String) : Option String :=
  (value.field name).text?

/-- The text of a field, or another text when it has none. -/
def textField (value : Value) (name : String) (otherwise : String) : String :=
  (value.textField? name).getD otherwise

/-- The integer of a field, or another integer when it has none. -/
def integerField (value : Value) (name : String) (otherwise : Int) : Int :=
  match value.field name with
  | .integer found => found
  | _ => otherwise

/-- The truth value of a field, or another one when it has none. -/
def truthField (value : Value) (name : String) (otherwise : Bool) : Bool :=
  match value.field name with
  | .truth holds => holds
  | _ => otherwise

/-- The items of a field that is a list. -/
def itemsOf (value : Value) (name : String) : List Value :=
  (value.field name).items

/-- The fields of a field that is a record. -/
def fieldsOf (value : Value) (name : String) : List (String × Value) :=
  (value.field name).fields

/-- A list of texts. -/
def texts (items : List String) : Value :=
  .list (items.map .text)

/-- A number of things. -/
def count (size : Nat) : Value :=
  .integer size

/-- The text of something that may be missing. -/
def ofText? : Option String → Value
  | some value => .text value
  | none => .null

/-- A record with further fields behind its own. -/
def extended (value : Value) (fields : List (String × Value)) : Value :=
  .table (value.entries ++ (record fields).entries)

mutual

/-- How deep a value is nested; a value without others inside has the depth one. -/
def depth : Value → Nat
  | .list items => depthOfItems items + 1
  | .table entries => depthOfEntries entries + 1
  | _ => 1

/-- The greatest depth of some items. -/
def depthOfItems : List Value → Nat
  | [] => 0
  | item :: rest => max (depth item) (depthOfItems rest)

/-- The greatest depth of the values of some bindings. -/
def depthOfEntries : List (Value × Value) → Nat
  | [] => 0
  | (_, value) :: rest => max (depth value) (depthOfEntries rest)

end

end PageScript.Value
