import PageScript.Service.Report
import PageScript.Service.Session

namespace PageScript.Service

/-!
# Programs of phases and calls

A program nests phases, notes, traced calls and faults, catches faults, and switches the
recording on and off.  Running one tells which phases were recorded and what its calls
answered.
-/

/-- What a call answers. -/
inductive Answer where
  /-- Any value. -/
  | value (value : Value)
  /-- A report. -/
  | report (report : Report)

/-- An answer with the spans of its call, if it is a report. -/
def Answer.withSpans (spans : Value) : Answer → Answer
  | .value found => .value found
  | .report found => .report (found.withSpans spans)

/-- An answer as a value. -/
def Answer.asValue : Answer → Value
  | .value found => found
  | .report found => found.record

mutual

/-- One step of a program. -/
inductive Step where
  /-- A phase with notes at its start and at its end. -/
  | phase (name : String) (notes late : List (String × Value)) (body : List Step)
  /--
  Notes for the active span, if there is one.  A span around it can be noted at its start
  and at its end, by the phase that opens it, but not from inside an inner phase.
  -/
  | note (notes : List (String × Value))
  /-- A fault. -/
  | fail (message : String)
  /-- Steps whose fault is caught. -/
  | attempt (body : List Step)
  /-- A call. -/
  | call (call : Procedure)
  /-- Switch the recording on or off. -/
  | switch (enabled : Bool)

/-- A procedure: its name, unless it is not traced, what it does, and what it answers. -/
inductive Procedure where
  | mk (name : Option String) (body : List Step) (answer : Validation.Checked Answer)

end

/-- What a run of steps leaves behind: whether each phase was recorded, and the answers of calls. -/
structure Trail where
  recorded : List Bool := []
  answers : List Value := []
  fault : Option Fault := none

/-- A trail behind another one. -/
def Trail.followedBy (first second : Trail) : Trail :=
  ⟨first.recorded ++ second.recorded, first.answers ++ second.answers, second.fault⟩

/-- The outcome of a call, with its trail. -/
structure Finish where
  trail : Trail
  answer : Option Answer

/-- The answer of a procedure whose body left a trail. -/
def finish (answer : Validation.Checked Answer) (trail : Trail) : Finish :=
  match trail.fault, answer with
  | some _, _ => ⟨trail, none⟩
  | none, .ok value => ⟨trail, some value⟩
  | none, .error issues => ⟨{ trail with fault := some (.invalid issues) }, none⟩

mutual

/-- Run one step. -/
def Step.run : Step → Stage Trail
  | .phase name notes late body => do
      inPhase name fun recorded => do
        noteIf recorded notes
        let trail ← runSteps body
        if trail.fault.isNone then
          noteIf recorded late
        pure { trail with recorded := recorded :: trail.recorded }
  | .note notes => do
      changeRecorder fun recorder => recorder.note notes
      pure {}
  | .fail message => pure { fault := some (.collaborator message) }
  | .attempt body => do
      let trail ← runSteps body
      pure { trail with fault := none }
  | .call procedure => do
      let finished ← procedure.run
      pure
        (match finished.answer with
        | some answer =>
            { finished.trail with answers := finished.trail.answers ++ [answer.asValue] }
        | none => finished.trail)
  | .switch enabled => do
      changeRecorder fun recorder => recorder.switch enabled
      pure {}

/-- Run steps in order, up to the first that stops with a fault. -/
def runSteps : List Step → Stage Trail
  | [] => pure {}
  | step :: rest => do
      let first ← step.run
      match first.fault with
      | some _ => pure first
      | none => do
          let others ← runSteps rest
          pure (first.followedBy others)

/-- Run a procedure, as a traced call if it has a name. -/
def Procedure.run : Procedure → Stage Finish
  | .mk none body answer => do
      let trail ← runSteps body
      pure (finish answer trail)
  | .mk (some name) body answer =>
      traced name (fun finished => finished.answer.isSome)
        (fun spans finished =>
          { finished with answer := finished.answer.map (Answer.withSpans spans) }) do
        let trail ← runSteps body
        pure (finish answer trail)

end

end PageScript.Service
