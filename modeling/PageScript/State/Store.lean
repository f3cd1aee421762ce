import PageScript.Document.Slot
import PageScript.Record
import PageScript.State.Delivery
import PageScript.Table

namespace PageScript.State

/-!
# Variables and components

The store of a run binds variables to plain values or to reactive variables, and
names of components to their templates.  A later binding of a name replaces the
earlier one.  Variables and components may be named by any value that can be a key.
-/

/-- Who is told about a new value of a reactive variable. -/
inductive Subscriber where
  /-- Replace a token at places of the document. -/
  | substitution (token : String) (slots : List Document.Slot)
  /-- Report the value under a label, and fail if asked to. -/
  | probe (label : String) (fails : Bool)

/-- What a variable is bound to. -/
inductive Binding where
  /-- A value. -/
  | plain (value : Value)
  /-- A reactive variable. -/
  | reactive (cell : Reactive Subscriber)

/-- The current value of a binding. -/
def Binding.value : Binding → Value
  | plain value => value
  | reactive cell => cell.value

/-- The number of subscribers of a reactive variable. -/
def Binding.subscriberCount? : Binding → Option Nat
  | plain _ => none
  | reactive cell => some cell.subscribers.length

/-- A variable as a list of its name, its value and the number of its subscribers. -/
def Binding.listing (name : Value) (binding : Binding) : Value :=
  .list
    [name, binding.value,
     match binding.subscriberCount? with
     | some size => Value.count size
     | none => .null]

/-- A template with the name it was stored under last. -/
structure Component where
  name : Value
  content : Value

/-- The variables and the components of a run. -/
structure Store where
  bindings : Table Value Binding := ⟨[]⟩
  components : Table Value Component := ⟨[]⟩

/-- Why a store refuses an operation. -/
inductive StoreError where
  /-- A variable or a component has an empty name. -/
  | emptyName (owner : String)
  /-- A collection is used as a name. -/
  | unusableName (typeName : String)
  /-- A name is not bound. -/
  | unboundName (name : Value)

namespace Store

/-- Refuse a collection as a name. -/
def requireKey (name : Value) : Except StoreError Unit :=
  if name.isKey then .ok () else .error (.unusableName name.typeName)

/-- The variables as lists, in the order of their first binding. -/
def listing (store : Store) : Value :=
  .list (store.bindings.entries.map fun entry => entry.2.listing entry.1)

/-- Bind a variable. -/
def bind (store : Store) (name : Value) (binding : Binding) : Except StoreError Store :=
  if !name.isTruthy then
    .error (.emptyName "Variable")
  else
    match requireKey name with
    | .error error => .error error
    | .ok () => .ok { store with bindings := store.bindings.insert name binding }

/-- Bind a variable to a plain value, or to a new reactive variable. -/
def setVariable (store : Store) (name value : Value) (reactive : Bool) : Except StoreError Store :=
  store.bind name (if reactive then .reactive { value := value } else .plain value)

/-- The current value of a variable. -/
def value? (store : Store) (name : Value) : Except StoreError Value :=
  match requireKey name with
  | .error error => .error error
  | .ok () =>
      match store.bindings.get? name with
      | some binding => .ok binding.value
      | none => .error (.unboundName name)

/-- The value of a variable with a text as its name. -/
def lookup (store : Store) (name : String) : Option Value :=
  (store.bindings.get? (.text name)).map Binding.value

/-- The reactive variable that a name is bound to, if it is bound to one. -/
def reactive? (store : Store) (name : Value) : Except StoreError (Option (Reactive Subscriber)) :=
  match requireKey name with
  | .error error => .error error
  | .ok () =>
      match store.bindings.get? name with
      | some (.reactive cell) => .ok (some cell)
      | _ => .ok none

/-- The reactive variables by name, in order. -/
def reactives (store : Store) : List (Value × Reactive Subscriber) :=
  store.bindings.entries.filterMap fun entry =>
    match entry.2 with
    | .reactive cell => some (entry.1, cell)
    | .plain _ => none

/-- The current values by name, in order. -/
def snapshot (store : Store) : List (Value × Value) :=
  store.bindings.entries.map fun entry => (entry.1, entry.2.value)

/-- Store the template of a component. -/
def define (store : Store) (name content : Value) : Except StoreError Store :=
  if !name.isTruthy then
    .error (.emptyName "Component")
  else
    match requireKey name with
    | .error error => .error error
    | .ok () => .ok { store with components := store.components.insert name ⟨name, content⟩ }

/-- The component that a name stands for, if there is one. -/
def component? (store : Store) (name : Value) : Except StoreError (Option Component) :=
  match requireKey name with
  | .error error => .error error
  | .ok () => .ok (store.components.get? name)

/-- The store with nothing bound. -/
def clear (_ : Store) : Store :=
  {}

end Store

end PageScript.State
