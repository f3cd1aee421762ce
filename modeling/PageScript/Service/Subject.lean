import PageScript.Decimal.Reading
import PageScript.Fault
import PageScript.Record

namespace PageScript.Service

/-!
# Reading report data

The data of a report has no fixed form, so showing it may fail: a field can be
missing, and a value can be of a type without what is asked of it.
-/

/-- The items of a value: those of a list, the characters of a text, the keys of a table. -/
def itemsOf? : Value → Option (List Value)
  | .list items => some items
  | .text value => some (value.toList.map fun c => .text (String.ofList [c]))
  | .table entries => some (entries.map (·.1))
  | _ => none

/-- The items of a value that must have items. -/
def iterated (value : Value) : Except Fault (List Value) :=
  match itemsOf? value with
  | some items => .ok items
  | none => .error (.notIterable value.typeName)

/-- The number of items of a value that must have items. -/
def itemCount (value : Value) : Except Fault Nat :=
  match itemsOf? value with
  | some items => .ok items.length
  | none => .error (.notCountable value.typeName)

/-- The field of a value that must be a record with that field. -/
def indexed (value : Value) (name : String) : Except Fault Value :=
  match value with
  | .table _ =>
      match value.field? name with
      | some found => .ok found
      | none => .error (.missingKey [.text name])
  | _ => .error (.notIndexable value.typeName)

/-- The field of a value that must be a record, if it has the field. -/
def lookedUp (value : Value) (name : String) : Except Fault (Option Value) :=
  match value with
  | .table _ => .ok (value.field? name)
  | _ => .error (.withoutMember value.typeName "get")

/-- The bindings of a value that must be a table. -/
def bindings : Value → Except Fault (List (Value × Value))
  | .table entries => .ok entries
  | value => .error (.withoutMember value.typeName "items")

/-- A value that must be a text. -/
def asLiteral : Value → Except Fault String
  | .text value => .ok value
  | value => .error (.withoutMember value.typeName "translate")

/-- Texts from a position on, which must be texts. -/
def textsFrom (position : Nat) : List Value → Except Fault (List String)
  | [] => .ok []
  | .text value :: rest => (textsFrom (position + 1) rest).map (value :: ·)
  | value :: _ => .error (.unjoinable position value.typeName)

/-- The items of a value, which must be texts, with commas between them. -/
def joined (value : Value) : Except Fault String :=
  match itemsOf? value with
  | some items => (textsFrom 0 items).map (String.intercalate ", ")
  | none => .error .notJoinable

/-- A duration, which must be a number. -/
def durationOf : Value → Except Fault Float
  | .number value => .ok value
  | .truth holds => .ok (if holds then 1.0 else 0.0)
  | .integer value =>
      let nearest := Decimal.nearestFloat (value < 0) value.natAbs 0
      if Decimal.isFinite nearest then .ok nearest else .error .tooLargeNumber
  | value => .error (.notComparable value.typeName)

end PageScript.Service
