import PageScript.Value

namespace PageScript.Run

/-!
# Collaborators

A script calls functions, build backends and framework loaders through tables.
Some of them are built in, and others are described by how they behave: whether
they answer at once or later, and whether they fail.
-/

/-- How a described function behaves. -/
inductive FunctionBehaviour where
  /-- Answer with the arguments. -/
  | echo
  /-- Answer with the arguments, later. -/
  | echoLater
  /-- Fail with the arguments as the message. -/
  | fail
  /-- Fail later for a missing key. -/
  | failLater
  /-- Answer with the single argument. -/
  | single
  /-- Store a component. -/
  | define
  /-- Add a warning. -/
  | warn
  deriving Repr, DecidableEq

/-- A function that scripts can call. -/
inductive Function where
  /-- Wait for some seconds. -/
  | sleep
  /-- Report a message. -/
  | log
  /-- Set a variable, and tell its subscribers when it is reactive. -/
  | update
  /-- A described function. -/
  | described (owner name : String) (behaviour : FunctionBehaviour)
  deriving Repr, DecidableEq

/-- How a described backend behaves. -/
inductive BackendBehaviour where
  | succeed
  | succeedLater
  | fail
  | failLater
  deriving Repr, DecidableEq

/-- A build backend. -/
inductive Backend where
  /-- Report that a tool builds. -/
  | announce (tool : String)
  /-- A described backend. -/
  | described (owner name : String) (behaviour : BackendBehaviour)
  deriving Repr, DecidableEq

/-- How a described framework loader behaves. -/
inductive LoaderBehaviour where
  | succeed
  | succeedLater
  | fail
  | giveNothing
  deriving Repr, DecidableEq

/-- A framework loader. -/
inductive FrameworkLoader where
  /-- The built-in framework. -/
  | strike
  /-- A described loader. -/
  | described (owner name : String) (behaviour : LoaderBehaviour)
  deriving Repr, DecidableEq

/--
The least and greatest number of arguments of a function, and their names; no bound is
`none`.
-/
structure Arity where
  name : String
  required : List String
  most : Option Nat

/-- The arguments that a function takes, the context not counted. -/
def Function.arity : Function → Arity
  | sleep => ⟨"sleep", [], some 1⟩
  | log => ⟨"log_message", [], none⟩
  | update => ⟨"update", ["name", "value"], some 2⟩
  | described _ _ .echo => ⟨"make_function.<locals>.echo", [], none⟩
  | described _ _ .echoLater => ⟨"make_function.<locals>.aecho", [], none⟩
  | described _ _ .fail => ⟨"make_function.<locals>.fail", [], none⟩
  | described _ _ .failLater => ⟨"make_function.<locals>.afail", [], none⟩
  | described _ _ .single => ⟨"make_function.<locals>.one", ["value"], some 1⟩
  | described _ _ .define => ⟨"make_function.<locals>.define", ["name", "content"], some 2⟩
  | described _ _ .warn => ⟨"make_function.<locals>.warn", ["message"], some 1⟩

end PageScript.Run
