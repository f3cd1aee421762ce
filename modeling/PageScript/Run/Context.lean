import PageScript.Fault
import PageScript.Run.Collaborator
import PageScript.Run.Framework
import PageScript.Selector.Matching
import PageScript.State.Store
import PageScript.World.Fetch

namespace PageScript.Run

/-!
# Contexts of runs

A context holds what the commands of one script work on: the page, the variables
and components, the functions that can be called, and the warnings so far.  A
scene adds the surroundings, the frameworks loaded so far and what a build has
done.  An action changes a scene and may stop with a fault; the changes made
before a fault stay.
-/

open World

/-- What the commands of one script work on. -/
structure Context where
  page : Document.Page
  store : State.Store := {}
  functions : Table String Function := ⟨[]⟩
  warnings : List Value := []
  closed : Bool := false

/-- What a build has done so far. -/
structure BuildRecord where
  imports : List String := []
  copies : List (String × String) := []
  targets : List String := []
  frameworks : List (String × String) := []

/-- Everything that an action can change. -/
structure Scene where
  context : Context
  surroundings : Surroundings
  cache : FrameworkCache := {}
  record : BuildRecord := {}

/-- A step that changes a scene and may stop with a fault. -/
abbrev Action (α : Type) := ExceptT Fault (StateM Scene) α

/-- Close a context: nothing is bound and nothing can be called any more. -/
def Context.close (context : Context) : Context :=
  { context with store := context.store.clear, functions := ⟨[]⟩, closed := true }

/-- The fault of an error of the store. -/
def faultOfStore : State.StoreError → Fault
  | .emptyName owner => .emptyName owner
  | .unusableName typeName => .unusableName typeName
  | .unboundName name => .unboundName name

/-- Change the context. -/
def changeContext (change : Context → Context) : Action Unit :=
  modify fun scene => { scene with context := change scene.context }

/-- Change the surroundings. -/
def changeSurroundings (change : Surroundings → Surroundings) : Action Unit :=
  modify fun scene => { scene with surroundings := change scene.surroundings }

/-- Write a log event. -/
def report (level : LogLevel) (logger event : String) (fields : List (String × Value)) :
    Action Unit :=
  changeSurroundings fun surroundings => surroundings.report ⟨level, logger, event, fields⟩

/-- Record a call. -/
def recordCall (call : Call) : Action Unit :=
  changeSurroundings fun surroundings => surroundings.record call

/-- Add a warning without a log event. -/
def warn (warning : Value) : Action Unit :=
  changeContext fun context => { context with warnings := context.warnings ++ [warning] }

/-- Report a warning under the name of a logger and add it to the warnings. -/
def warnAs (logger message : String) : Action Unit := do
  report .warning logger message []
  warn (.text message)

/-- Report something that is not fatal. -/
def diagnose (message : String) : Action Unit :=
  warnAs "hsxctl.services.context" message

/-- Take an outcome without an effect. -/
def require {ε α : Type} (fault : ε → Fault) : Except ε α → Action α
  | .ok value => pure value
  | .error error => throw (fault error)

/-- The value of an expression in the current variables. -/
def evaluate (expression : String) : Action Value := do
  let scene ← get
  require .expression (Script.evaluate scene.context.store.lookup expression)

/--
The text that a value leaves in the document; the absent value leaves nothing.  Every value
leaves a text: the limit of 4300 digits for the text of an integer is not modelled.
-/
def substitutionText : Value → String
  | .null => ""
  | value => value.displayString

/-- Tell one subscriber about a value. -/
def tellSubscriber (value : Value) : State.Subscriber → Action Unit
  | .substitution token slots =>
      changeContext fun context =>
        { context with
          page :=
            { context.page with
              forest :=
                context.page.forest.substituteAll token (substitutionText value) slots } }
  | .probe label fails => do
      recordCall (.subscriber label value)
      if fails then throw (.collaborator label)

/-- Tell subscribers in order, up to the first that fails. -/
def tellSubscribers (value : Value) : List State.Subscriber → Action Unit
  | [] => pure ()
  | subscriber :: rest => do
      tellSubscriber value subscriber
      tellSubscribers value rest

/-- Bind a variable to a plain value or to a new reactive variable. -/
def setVariable (name value : Value) (reactive : Bool) : Action Unit := do
  let scene ← get
  let store ← require faultOfStore (scene.context.store.setVariable name value reactive)
  changeContext fun context => { context with store := store }

/-- Set a reactive variable and tell its subscribers. -/
def setReactive (name value : Value) (cell : State.Reactive State.Subscriber) : Action Unit := do
  let scene ← get
  let store ← require faultOfStore (scene.context.store.bind name (.reactive (cell.store value)))
  changeContext fun context => { context with store := store }
  tellSubscribers value cell.subscribers

/--
Set a variable: a reactive one tells its subscribers, and any other is bound to a plain
value.
-/
def updateVariable (name value : Value) : Action Unit := do
  let scene ← get
  let found ← require faultOfStore (scene.context.store.reactive? name)
  match found with
  | some cell => setReactive name value cell
  | none => setVariable name value false

/-- Subscribe to a reactive variable; a name that is bound to none is left alone. -/
def subscribe (name : Value) (subscriber : State.Subscriber) : Action Unit := do
  let scene ← get
  match scene.context.store.reactive? name with
  | .ok (some cell) => do
      let store ←
        require faultOfStore
          (scene.context.store.bind name (.reactive (cell.subscribe subscriber)))
      changeContext fun context => { context with store := store }
  | _ => pure ()

/--
The first element that a selector selects; an unsupported selector is reported and selects
nothing.
-/
def resolve (selector : String) : Action (Option Document.NodeId) := do
  let scene ← get
  let page := scene.context.page
  match Selector.selectFirst page.forest page.root selector with
  | .ok found => pure found
  | .error _ => do
      report .warning "hsxctl.infrastructure.surface"
        ("Unsupported selector " ++ Text.quotedString selector) []
      pure none

/-- Replace the content of an element by markup. -/
def setContent (target : Document.NodeId) (markup : String) : Action Unit := do
  let scene ← get
  let outcome := scene.context.page.setContent target markup
  changeContext fun context => { context with page := outcome.1 }
  require .markup outcome.2

end PageScript.Run
