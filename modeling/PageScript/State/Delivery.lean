import PageScript.Value

namespace PageScript.State

/-!
# Reactive variables

A reactive variable holds a value and tells its subscribers about every new one.
A delivery reaches the subscribers that are registered when it begins, in the
order of their subscription.  Subscriptions are never removed.
-/

/-- A value with its subscribers in the order of their subscription. -/
structure Reactive (σ : Type) where
  value : Value
  subscribers : List σ := []

namespace Reactive

variable {σ : Type}

/-- Add a subscriber at the end. -/
def subscribe (cell : Reactive σ) (subscriber : σ) : Reactive σ :=
  { cell with subscribers := cell.subscribers ++ [subscriber] }

/-- Store a value without a delivery. -/
def store (cell : Reactive σ) (value : Value) : Reactive σ :=
  { cell with value := value }

/-- The text that describes a reactive variable. -/
def description (cell : Reactive σ) : String :=
  "ReactiveVariable(" ++ cell.value.quotedText ++ ", subscribers=" ++
    toString cell.subscribers.length ++ ")"

end Reactive

/-!
# Deliveries

Setting a reactive variable stores the value and tells it to the subscribers that are
registered then, in order, up to the first that fails.  A subscriber that is told a
value follows a course: it may note something, look at what has happened so far,
subscribe others, set the variable again, and fail.  Setting the variable from within a
delivery starts a delivery of its own, which ends before the outer one goes on.  The
depth of such nesting is bounded.
-/

/-- Something that happens around a variable. -/
inductive Happening (σ : Type) where
  /-- A delivery begins: the variable takes a value. -/
  | stored (value : Value)
  /-- A subscriber is told a value. -/
  | called (subscriber : σ) (value : Value)
  /-- A subscriber notes a value under a label. -/
  | noted (label : String) (value : Value)
  /-- A subscriber subscribes another one. -/
  | subscribed (subscriber : σ)
  /-- The subscriber that was told last comes to its end. -/
  | returned
  /-- The subscriber that was told last fails. -/
  | raised (error : String)

/-- Something that happens while a number of calls of subscribers are under way. -/
structure Occurrence (σ : Type) where
  level : Nat
  happening : Happening σ

/-- A reactive variable, and what has happened around it in order. -/
structure Chronicle (σ : Type) where
  cell : Reactive σ
  history : List (Occurrence σ) := []

/-- What a subscriber does when it is told a value, one deed after another. -/
inductive Course (σ : Type) where
  /-- Nothing more. -/
  | rest
  /-- Fail. -/
  | fail (error : String)
  /-- Note a value under a label. -/
  | note (label : String) (value : Value) (next : Course σ)
  /-- Look at the variable and at what has happened, and go on accordingly. -/
  | look (next : Chronicle σ → Course σ)
  /-- Subscribe a subscriber. -/
  | subscribe (subscriber : σ) (next : Course σ)
  /-- Set the variable, and go on as this ended: with the error, if there was one. -/
  | set (value : Value) (next : Option String → Course σ)

/-- How a delivery ends. -/
inductive Ending where
  /-- Every subscriber was told. -/
  | complete
  /-- A subscriber failed, and the later ones were not told. -/
  | failed (error : String)
  /-- Deliveries were nested too deeply. -/
  | tooDeep
  deriving Repr, DecidableEq

variable {σ : Type}

/-- Add something to what has happened. -/
def Chronicle.record
    (chronicle : Chronicle σ)
    (level : Nat)
    (happening : Happening σ) :
    Chronicle σ :=
  { chronicle with history := chronicle.history ++ [⟨level, happening⟩] }

/-- Follow a course, where `assign` sets the variable. -/
def Course.follow
    (assign : Value → Chronicle σ → Chronicle σ × Ending)
    (level : Nat) :
    Course σ → Chronicle σ → Chronicle σ × Ending
  | .rest, chronicle => (chronicle, .complete)
  | .fail error, chronicle => (chronicle, .failed error)
  | .note label value next, chronicle =>
      next.follow assign level (chronicle.record level (.noted label value))
  | .look next, chronicle => (next chronicle).follow assign level chronicle
  | .subscribe subscriber next, chronicle =>
      let joined := { chronicle with cell := chronicle.cell.subscribe subscriber }
      next.follow assign level (joined.record level (.subscribed subscriber))
  | .set value next, chronicle =>
      match assign value chronicle with
      | (reached, .complete) => (next none).follow assign level reached
      | (reached, .failed error) => (next (some error)).follow assign level reached
      | (reached, .tooDeep) => (reached, .tooDeep)

/-- Tell subscribers in order, up to the first that does not come to its end. -/
def tellAll
    (react : σ → Value → Course σ)
    (assign : Value → Chronicle σ → Chronicle σ × Ending)
    (level : Nat)
    (value : Value) :
    List σ → Chronicle σ → Chronicle σ × Ending
  | [], chronicle => (chronicle, .complete)
  | subscriber :: rest, chronicle =>
      match (react subscriber value).follow assign (level + 1)
          (chronicle.record level (.called subscriber value)) with
      | (told, .complete) =>
          tellAll react assign level value rest (told.record level .returned)
      | (told, .failed error) => (told.record level (.raised error), .failed error)
      | (told, .tooDeep) => (told, .tooDeep)

/--
Store a value and tell the subscribers that are registered now.  `react` says what each
of them does, `depth` bounds the nesting, and `level` calls are under way.
-/
def Chronicle.assign
    (react : σ → Value → Course σ) :
    Nat → Nat → Value → Chronicle σ → Chronicle σ × Ending
  | 0, _, _, chronicle => (chronicle, .tooDeep)
  | depth + 1, level, value, chronicle =>
      let stored := { chronicle with cell := chronicle.cell.store value }
      tellAll react (assign react depth (level + 1)) level value chronicle.cell.subscribers
        (stored.record level (.stored value))

/-! ## Listeners -/

/-- What a listener does after it has noted a value. -/
inductive Reaction where
  /-- Nothing more. -/
  | rest
  /-- Fail with the label of the listener. -/
  | fail
  /-- Subscribe a resting listener whose label is marked. -/
  | subscribe
  /-- Set the variable, unless it has been told this value. -/
  | set (value : Value)

/-- A subscriber with a label and a reaction. -/
structure Listener where
  label : String
  reaction : Reaction

/-- A listener notes the value that it is told, and then reacts. -/
def Listener.course (listener : Listener) (told : Value) : Course Listener :=
  .note listener.label told
    (match listener.reaction with
    | .rest => .rest
    | .fail => .fail listener.label
    | .subscribe => .subscribe ⟨listener.label ++ "+", .rest⟩ .rest
    | .set other =>
        if told == other then
          .rest
        else
          .set other fun
            | none => .rest
            | some error => .fail error)

/-- A variable with listeners, and the notes of the listeners so far. -/
structure Notebook where
  cell : Reactive Listener
  notes : List (String × Value) := []

/-- The notes among what has happened. -/
def notesOf (history : List (Occurrence σ)) : List (String × Value) :=
  history.filterMap fun occurrence =>
    match occurrence.happening with
    | .noted label value => some (label, value)
    | _ => none

/-- Store a value and tell the listeners that are subscribed now; `depth` bounds the nesting. -/
def Notebook.assign (depth : Nat) (value : Value) (book : Notebook) : Notebook × Ending :=
  let reached := Chronicle.assign Listener.course depth 0 value { cell := book.cell }
  ({ cell := reached.1.cell, notes := book.notes ++ notesOf reached.1.history }, reached.2)

end PageScript.State
