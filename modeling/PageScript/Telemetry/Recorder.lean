import PageScript.Record
import PageScript.Table

namespace PageScript.Telemetry

/-!
# Spans

A span is a timed phase with notes and the phases inside it.  Time is counted in
readings of a clock, and every reading is an eighth of a second after the one
before.  A span that was never stopped has no duration.
-/

/-- The milliseconds between two readings of the clock. -/
def readingInterval : Nat :=
  125

/-- A timed phase. -/
structure Span where
  name : String
  started : Nat
  stopped : Option Nat := none
  notes : Table String Value := ⟨[]⟩
  children : List Span := []

namespace Span

/-- The duration of a span in milliseconds. -/
def milliseconds (span : Span) : Nat :=
  match span.stopped with
  | none => 0
  | some reading => (reading - span.started) * readingInterval

/-- The duration of a span as reports show it. -/
def duration (span : Span) : Value :=
  .number (Float.ofNat span.milliseconds)

/-- Add notes; a note with a known name replaces the earlier one. -/
def note (notes : List (String × Value)) (span : Span) : Span :=
  { span with notes := span.notes.insertAll notes }

/-- Add a phase behind the other ones. -/
def addChild (span child : Span) : Span :=
  { span with children := span.children ++ [child] }

mutual

/-- A span as a record; notes and children are left out when there are none. -/
def record : Span → Value
  | ⟨name, started, stopped, notes, children⟩ =>
      let own : Span := ⟨name, started, stopped, notes, []⟩
      Value.record
        ([("name", .text name), ("duration_ms", own.duration)] ++
          (if notes.entries.isEmpty then [] else [("notes", Value.record notes.entries)]) ++
          (if children.isEmpty then [] else [("children", .list (records children))]))

/-- Spans as records in order. -/
def records : List Span → List Value
  | [] => []
  | span :: rest => record span :: records rest

end

end Span

/-!
# Recording spans

A recorder has at most one active span.  A phase that is entered while a span is
active becomes active itself and is added to that span when it is left, so phases
nest.  A traced call has a tree of its own: it becomes active on entry, and what was
active before it is active again behind it.  Nothing is recorded while the recorder
is switched off.
-/

/-- The state of the recording. -/
structure Recorder where
  enabled : Bool := false
  active : Option Span := none
  readings : Nat := 0

namespace Recorder

/-- Read the clock. -/
def tick (recorder : Recorder) : Recorder :=
  { recorder with readings := recorder.readings + 1 }

/-- A new span that starts now. -/
def newSpan (recorder : Recorder) (name : String) : Span :=
  { name := name, started := recorder.readings }

/-- A span that stops now. -/
def stopped (recorder : Recorder) (span : Span) : Span :=
  { span with stopped := some recorder.readings }

/-- Start a span and make it active. -/
def activate (recorder : Recorder) (name : String) : Recorder :=
  { recorder.tick with active := some (recorder.newSpan name) }

/-- Enter a phase: the span around it and the recorder within it, if the phase is recorded. -/
def enterPhase? (recorder : Recorder) (name : String) : Option (Span × Recorder) :=
  if recorder.enabled then
    recorder.active.map fun parent => (parent, recorder.activate name)
  else
    none

/-- Leave a phase for the span around it. -/
def leavePhase (recorder : Recorder) (parent : Span) : Recorder :=
  { recorder.tick with
    active :=
      some
        (match recorder.active with
        | some child => parent.addChild (recorder.stopped child)
        | none => parent) }

/-- Enter a call: the recorder within it, if the call is recorded. -/
def enterCall? (recorder : Recorder) (name : String) : Option Recorder :=
  if recorder.enabled then some (recorder.activate name) else none

/--
Leave a call for what was active before it: the span of the call, if there is one, and the
recorder behind it.
-/
def leaveCall (recorder : Recorder) (outer : Option Span) : Option Span × Recorder :=
  (recorder.active.map recorder.stopped, { recorder.tick with active := outer })

/-- Add notes to the active span. -/
def note (recorder : Recorder) (notes : List (String × Value)) : Recorder :=
  { recorder with active := recorder.active.map (Span.note notes) }

/-- Switch the recording on or off. -/
def switch (recorder : Recorder) (enabled : Bool) : Recorder :=
  { recorder with enabled := enabled }

end Recorder

end PageScript.Telemetry
