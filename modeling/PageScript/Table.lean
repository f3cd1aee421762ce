namespace PageScript

/-!
# Tables in order of first insertion

A table binds keys to values.  Binding a key again replaces its value in place,
so the order of the keys is the order in which they were first bound.  Keys are
compared with `==`, and a key keeps the spelling it was first bound with.
-/

/-- Bindings of keys to values, in order of first insertion. -/
structure Table (κ : Type) (α : Type) where
  entries : List (κ × α) := []
  deriving Repr

namespace Table

variable {κ α : Type}

instance : Inhabited (Table κ α) :=
  ⟨⟨[]⟩⟩

/-- Bind `key` in a list of bindings. -/
def insertEntry [BEq κ] (key : κ) (value : α) : List (κ × α) → List (κ × α)
  | [] => [(key, value)]
  | (k, v) :: rest =>
      if k == key then (k, value) :: rest else (k, v) :: insertEntry key value rest

/-- The value that a key is bound to. -/
def get? [BEq κ] (table : Table κ α) (key : κ) : Option α :=
  (table.entries.find? fun entry => entry.1 == key).map (·.2)

/-- Whether a key is bound. -/
def contains [BEq κ] (table : Table κ α) (key : κ) : Bool :=
  table.entries.any fun entry => entry.1 == key

/-- Bind a key, in its old place if it has one and at the end otherwise. -/
def insert [BEq κ] (table : Table κ α) (key : κ) (value : α) : Table κ α :=
  ⟨insertEntry key value table.entries⟩

/-- Remove the binding of a key. -/
def erase [BEq κ] (table : Table κ α) (key : κ) : Table κ α :=
  ⟨table.entries.filter fun entry => !(entry.1 == key)⟩

/-- The keys in order of first insertion. -/
def keys (table : Table κ α) : List κ :=
  table.entries.map (·.1)

/-- The values in order of the keys. -/
def values (table : Table κ α) : List α :=
  table.entries.map (·.2)

/-- The number of bindings. -/
def size (table : Table κ α) : Nat :=
  table.entries.length

/-- Bind all keys of a list in order, so the last binding of a key wins. -/
def insertAll [BEq κ] (table : Table κ α) (entries : List (κ × α)) : Table κ α :=
  entries.foldl (fun grown entry => grown.insert entry.1 entry.2) table

/-- The table of a list of bindings. -/
def ofList [BEq κ] (entries : List (κ × α)) : Table κ α :=
  insertAll ⟨[]⟩ entries

/-- Apply a function to every value. -/
def mapValues {β : Type} (f : α → β) (table : Table κ α) : Table κ β :=
  ⟨table.entries.map fun entry => (entry.1, f entry.2)⟩

end Table

end PageScript
