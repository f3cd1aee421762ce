import PageScript.Record
import PageScript.Table
import PageScript.Text.Search

namespace PageScript.Toml

/-!
# Namespaces of settings

The settings of a text form nested records.  A header declares a record once, dotted
names open the records on their way, and what stands between brackets or braces in
one statement is closed for later ones.
-/

/-- A dotted name. -/
abbrev Key := List String

/-- A name as reports show it. -/
def keyText (key : Key) : String :=
  match key with
  | [only] => "(" ++ Text.quotedString only ++ ",)"
  | parts => "(" ++ String.intercalate ", " (parts.map Text.quotedString) ++ ")"

/-- The entries of a record, and none of any other value. -/
abbrev Entries := List (Value × Value)

/-- Bind a name in a record. -/
def bindEntry (name : String) (value : Value) (entries : Entries) : Entries :=
  Table.insertEntry (.text name) value entries

/-- The value that a record binds a name to. -/
def entryAt? (name : String) (entries : Entries) : Option Value :=
  (Value.table entries).field? name

/--
Change the record behind a dotted name, making the records on the way.  The last
item of a list of records stands for the list if `throughLists` holds.  The result
is absent when something else is in the way, or when the change has no result.
-/
def changeAt
    (throughLists : Bool)
    (change : Entries → Option Entries) :
    Key → Entries → Option Entries
  | [], entries => change entries
  | name :: rest, entries =>
      match entryAt? name entries with
      | none =>
          (changeAt throughLists change rest []).map fun inner =>
            bindEntry name (.table inner) entries
      | some (.list items) =>
          if throughLists then
            match items.getLast? with
            | some (.table inner) =>
                (changeAt throughLists change rest inner).map fun changed =>
                  bindEntry name (.list (items.dropLast ++ [.table changed])) entries
            | _ => none
          else
            none
      | some value =>
          if value.isRecord then
            (changeAt throughLists change rest value.entries).map fun changed =>
              bindEntry name (.table changed) entries
          else
            none

/-- Bind a name that is not bound. -/
def bindNew (name : String) (value : Value) (entries : Entries) : Option Entries :=
  match entryAt? name entries with
  | none => some (bindEntry name value entries)
  | some _ => none

/-- Add a record to the list that a name is bound to. -/
def appendRecord (name : String) (entries : Entries) : Option Entries :=
  match entryAt? name entries with
  | none => some (bindEntry name (.list [.table []]) entries)
  | some (.list items) => some (bindEntry name (.list (items ++ [.table []])) entries)
  | some _ => none

/-- What the statements so far have settled. -/
structure Namespaces where
  /-- The settings so far. -/
  entries : Entries := []
  /-- The records that may not be declared by a header any more. -/
  declared : List Key := []
  /-- The places that nothing may be added to. -/
  closed : List Key := []
  /-- The records that the next header closes for declarations. -/
  pending : List Key := []
  /-- The record that statements are about. -/
  header : Key := []

namespace Namespaces

/-- Whether a record may not be declared. -/
def isDeclared (spaces : Namespaces) (key : Key) : Bool :=
  spaces.declared.contains key

/-- Whether a place is closed, or lies within a closed one. -/
def isClosed (spaces : Namespaces) (key : Key) : Bool :=
  spaces.closed.any fun place => place.isPrefixOf key

/-- Declare a record. -/
def declare (spaces : Namespaces) (key : Key) : Namespaces :=
  { spaces with declared := key :: spaces.declared }

/-- Close a place. -/
def close (spaces : Namespaces) (key : Key) : Namespaces :=
  { spaces with closed := key :: spaces.closed }

/-- Make the pending declarations. -/
def settle (spaces : Namespaces) : Namespaces :=
  { spaces with declared := spaces.pending ++ spaces.declared, pending := [] }

/-- Forget what is settled about a place and all within it. -/
def free (spaces : Namespaces) (key : Key) : Namespaces :=
  { spaces with
    declared := spaces.declared.filter fun place => !key.isPrefixOf place
    closed := spaces.closed.filter fun place => !key.isPrefixOf place }

/-- The reason that something is in the way. -/
def inTheWay : String :=
  "Cannot overwrite a value"

/-- Start the record of a header. -/
def startRecord (spaces : Namespaces) (key : Key) : Except String Namespaces :=
  if spaces.isDeclared key || spaces.isClosed key then
    .error ("Cannot declare " ++ keyText key ++ " twice")
  else
    match changeAt true some key spaces.entries with
    | none => .error inTheWay
    | some entries => .ok { spaces.declare key with entries := entries, header := key }

/-- Start a further record of a list. -/
def startItem (spaces : Namespaces) (key : Key) : Except String Namespaces :=
  if spaces.isClosed key then
    .error ("Cannot mutate immutable namespace " ++ keyText key)
  else
    match changeAt true (appendRecord (key.getLast?.getD "")) key.dropLast spaces.entries with
    | none => .error inTheWay
    | some entries => .ok { (spaces.free key).declare key with entries := entries, header := key }

/-- The records that a dotted name opens on its way, seen from the whole. -/
def opened (header key : Key) : List Key :=
  (List.range (key.length - 1)).map fun count => header ++ key.take (count + 1)

/-- Whether a value is closed once it is bound. -/
def isCollection : Value → Bool
  | .list _ => true
  | value => value.isRecord

/-- Bind a dotted name to a value. -/
def assign (spaces : Namespaces) (key : Key) (value : Value) : Except String Namespaces :=
  let place := spaces.header ++ key.dropLast
  match (opened spaces.header key).find? spaces.isDeclared with
  | some taken => .error ("Cannot redefine namespace " ++ keyText taken)
  | none =>
      if spaces.isClosed place then
        .error ("Cannot mutate immutable namespace " ++ keyText place)
      else
        match changeAt true (bindNew (key.getLast?.getD "") value) place spaces.entries with
        | none => .error inTheWay
        | some entries =>
            let bound :=
              { spaces with
                entries := entries
                pending := opened spaces.header key ++ spaces.pending }
            .ok (if isCollection value then bound.close (spaces.header ++ key) else bound)

/-- Bind a dotted name within a record between braces. -/
def assignInline (spaces : Namespaces) (key : Key) (value : Value) : Except String Namespaces :=
  if spaces.isClosed key then
    .error ("Cannot mutate immutable namespace " ++ keyText key)
  else
    match changeAt false some key.dropLast spaces.entries with
    | none => .error inTheWay
    | some entries =>
        let name := key.getLast?.getD ""
        match changeAt false (bindNew name value) key.dropLast entries with
        | none => .error ("Duplicate inline table key " ++ Text.quotedString name)
        | some bound => .ok { spaces with entries := bound }

end Namespaces

end PageScript.Toml
