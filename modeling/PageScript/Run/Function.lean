import PageScript.Run.Context
import PageScript.Script.Call

namespace PageScript.Run

/-!
# Calling functions

A call names a function of the table and gives its arguments as expressions.  The
arguments are evaluated in order before the function is entered, and their number
has to fit.
-/

/-- Refuse a number of arguments that does not fit; counts include the context. -/
def checkArity (arity : Arity) (given : Nat) : Except Fault Unit :=
  match arity.most with
  | some most =>
      if most < given then
        .error (.excessArguments arity.name (arity.required.length + 1) (most + 1) (given + 1))
      else if given < arity.required.length then
        .error (.missingArguments arity.name (arity.required.drop given))
      else
        .ok ()
  | none => .ok ()

/-- The number of seconds that a value stands for. -/
def secondsOf : Value → Except Fault Float
  | .truth holds => .ok (if holds then 1.0 else 0.0)
  | .integer value =>
      let seconds := Decimal.nearestFloat (value < 0) value.natAbs 0
      if Decimal.isFinite seconds then .ok seconds else .error .tooLargeNumber
  | .number value => .ok value
  | .text text =>
      let s := Text.trim text.toList
      let signed := Decimal.takeSign s
      let word := String.ofList (signed.2.map Char.toLower)
      if word == "inf" || word == "infinity" || word == "nan" then
        .ok (1.0 / 0.0)
      else
        match (Decimal.ungrouped? false s).bind Decimal.decimalLiteral? with
        | some value => .ok value
        | none => .error (.unreadableNumber text)
  | value => .error (.notNumeric value.typeName)

/-- The texts of values with spaces between them. -/
def joinedText (values : List Value) : String :=
  String.intercalate " " (values.map Value.displayString)

/-- Store a component. -/
def defineComponent (name content : Value) : Action Unit := do
  let scene ← get
  let store ← require faultOfStore (scene.context.store.define name content)
  changeContext fun context => { context with store := store }

/-- Run a described function whose arguments fit. -/
def runDescribed (name : String) (arguments : List Value) : FunctionBehaviour → Action Value
  | .echo => do
      recordCall (.function name arguments)
      pure (.list arguments)
  | .echoLater => do
      recordCall (.function name arguments)
      pure (.list arguments)
  | .fail => do
      recordCall (.function name arguments)
      throw (.collaborator (joinedText arguments))
  | .failLater => do
      recordCall (.function name arguments)
      throw (.missingKey arguments)
  | .single => do
      recordCall (.function name arguments)
      pure (arguments.headD .null)
  | .define => do
      recordCall (.function name arguments)
      match arguments with
      | component :: content :: _ => do
          defineComponent component content
          pure .null
      | _ => pure .null
  | .warn => do
      warn (arguments.headD .null)
      pure .null

/-- Run a function whose arguments fit. -/
def Function.run (arguments : List Value) : Function → Action Value
  | .sleep => do
      match arguments with
      | [] => pure .null
      | seconds :: _ => do
          let _ ← require id (secondsOf seconds)
          pure .null
  | .log => do
      let message := joinedText arguments
      report .info "hsxctl.plugins.builtins.functions" "hsx.log" [("message", .text message)]
      pure (.text message)
  | .update => do
      match arguments with
      | name :: value :: _ => do
          updateVariable name value
          pure .null
      | _ => pure .null
  | .described _ name behaviour => runDescribed name arguments behaviour

/-- Run a function with arguments, whose number has to fit. -/
def Function.apply (function : Function) (arguments : List Value) : Action Value := do
  require id (checkArity function.arity arguments.length)
  function.run arguments

/-- Evaluate expressions in order. -/
def evaluateAll : List String → Action (List Value)
  | [] => pure []
  | expression :: rest => do
      let value ← evaluate expression
      let others ← evaluateAll rest
      pure (value :: others)

/-- What functions do when they are entered with arguments. -/
abbrev Meaning := Function → List Value → Action Value

/--
Run the call that a text writes, given what functions do, and give what the function
answers.
-/
def callBy (meaning : Meaning) (code : String) : Action Value := do
  let parsed ← require .expression (Script.parseCall code)
  let scene ← get
  match scene.context.functions.get? parsed.name with
  | none => throw (.expression (.unknownFunction parsed.name))
  | some function => do
      let arguments ← evaluateAll parsed.arguments
      meaning function arguments

/-- Run the call that a text writes, and give what the function answers. -/
def call : String → Action Value :=
  callBy Function.apply

end PageScript.Run
