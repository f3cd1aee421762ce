import PageScript.Run.Context
import PageScript.Telemetry.Recorder

namespace PageScript.Service

/-!
# Sessions

Services that run one after the other share a session: the surroundings, the
frameworks loaded so far, and the recording of spans.  A phase and a traced call are
left whatever happens within them, because a fault is a value here.
-/

open World Telemetry

/-- What services share. -/
structure Session where
  surroundings : Surroundings
  cache : Run.FrameworkCache := {}
  recorder : Recorder := {}

/-- A stage of a session. -/
abbrev Stage (α : Type) := StateM Session α

/-- A stage of a session that may stop with a fault. -/
abbrev Attempt (α : Type) := ExceptT Fault (StateM Session) α

/-- Change the recording. -/
def changeRecorder (change : Recorder → Recorder) : Stage Unit :=
  modify fun session => { session with recorder := change session.recorder }

/-- Write a log event. -/
def logEvent (level : LogLevel) (logger event : String) (fields : List (String × Value)) :
    Stage Unit :=
  modify fun session =>
    { session with
      surroundings := session.surroundings.report ⟨level, logger, event, fields⟩ }

/-- Run a step that only concerns the surroundings. -/
def outside {α : Type} (step : StateM Surroundings α) : Stage α := fun session =>
  let outcome := step.run session.surroundings
  (outcome.1, { session with surroundings := outcome.2 })

/-- Run a step that only concerns the surroundings within one that may stop. -/
def consult {α : Type} (step : StateM Surroundings α) : Attempt α :=
  ExceptT.lift (outside step)

/-- Take an outcome in the surroundings. -/
def attempt {α : Type} (outcome : Surroundings → Except Fault α) : Attempt α := do
  let session ← get
  match outcome session.surroundings with
  | .ok value => pure value
  | .error fault => throw fault

/-- Run a step as a phase; the step is told whether it is recorded. -/
def inPhase {α : Type} (name : String) (step : Bool → Stage α) : Stage α := do
  let session ← get
  match session.recorder.enterPhase? name with
  | none => step false
  | some (parent, entered) => do
      changeRecorder fun _ => entered
      let value ← step true
      changeRecorder fun recorder => recorder.leavePhase parent
      pure value

/-- Run a step that may stop as a phase. -/
def attemptPhase {α : Type} (name : String) (step : Bool → Attempt α) : Attempt α :=
  ExceptT.mk (inPhase name fun recorded => (step recorded).run)

/-- Add notes to the current phase if it is recorded. -/
def noteIf (recorded : Bool) (notes : List (String × Value)) : Stage Unit :=
  if recorded then changeRecorder fun recorder => recorder.note notes else pure ()

/-- Log the end of a traced call. -/
def logSpan (span : Span) (succeeded : Bool) : Stage Unit :=
  logEvent .debug "hsxctl.telemetry" "span.complete"
    [("span_name", .text span.name), ("duration_ms", span.duration), ("ok", .truth succeeded),
     ("phases", Value.count span.children.length)]

/-- Run a step as a traced call; `attach` adds the spans to a value of a call that succeeded. -/
def traced
    {α : Type}
    (name : String)
    (succeeded : α → Bool)
    (attach : Value → α → α)
    (step : Stage α) :
    Stage α := do
  let session ← get
  match session.recorder.enterCall? name with
  | none => step
  | some entered => do
      changeRecorder fun _ => entered
      let value ← step
      let after ← get
      let left := after.recorder.leaveCall session.recorder.active
      changeRecorder fun _ => left.2
      match left.1 with
      | none => pure value
      | some span => do
          logSpan span (succeeded value)
          pure (if succeeded value then attach span.record value else value)

end PageScript.Service
