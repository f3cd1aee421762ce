import PageScript.Proofs.Table
import PageScript.Telemetry.Recorder

namespace PageScript.Value

/-- A record has the fields that it is made of. -/
theorem fields_record
    (fields : List (String × Value)) :
    (record fields).fields = fields := by
  rw [Value.fields, record, entries, List.filterMap_map]
  exact List.filterMap_some

end PageScript.Value

namespace PageScript.Telemetry

/-!
# Nested spans

Spans are nested when each of them was started and stopped and the spans inside it ran one
after the other in between.  What happens inside a span only gives it further phases and
further notes.  A phase that is entered and left is one more phase of the span that was
active before, and a call leaves that span alone and keeps a tree of its own.

The outline of a span is what it tells apart from its times, and the record of a span shows
this outline.
-/

/-! ## Outlines -/

/-- What a span tells apart from its times: its name, its notes and the phases inside it. -/
structure Outline where
  name : String
  notes : Table String Value := ⟨[]⟩
  phases : List Outline := []

mutual

/-- A value is the tree of an outline: a record of its name, its notes and its phases. -/
def Outline.IsTree : Outline → Value → Prop
  | ⟨name, notes, phases⟩, tree =>
      tree.field? "name" = some (.text name) ∧
        tree.fieldsOf "notes" = notes.entries ∧ AreTrees phases (tree.itemsOf "children")

/-- Values are the trees of outlines, one by one. -/
def AreTrees : List Outline → List Value → Prop
  | [], trees => trees = []
  | outline :: outlines, trees =>
      ∃ tree rest, trees = tree :: rest ∧ outline.IsTree tree ∧ AreTrees outlines rest

end

namespace Span

mutual

/-- The outline of a span. -/
def outline : Span → Outline
  | ⟨name, _, _, notes, children⟩ => ⟨name, notes, outlines children⟩

/-- The outlines of spans in order. -/
def outlines : List Span → List Outline
  | [] => []
  | span :: rest => span.outline :: outlines rest

end

theorem outlines_append
    (spans others : List Span) :
    outlines (spans ++ others) = outlines spans ++ outlines others := by
  induction spans with
  | nil =>
      rfl
  | cons span rest inductionHypothesis =>
      simp [outlines, inductionHypothesis]

mutual

/-- The record of a span is the tree of its outline. -/
theorem isTree_record : ∀ span : Span, span.outline.IsTree span.record
  | ⟨name, started, stopped, notes, children⟩ => by
      have below := areTrees_records children
      rw [outline, Outline.IsTree, record]
      refine ⟨rfl, ?_, ?_⟩
      · rcases notes with ⟨_ | ⟨entry, entries⟩⟩
        · cases children <;> rfl
        · cases children <;> exact Value.fields_record (entry :: entries)
      · cases children with
        | nil =>
            rcases notes with ⟨_ | ⟨entry, entries⟩⟩ <;> exact below
        | cons child rest =>
            rcases notes with ⟨_ | ⟨entry, entries⟩⟩ <;> exact below

theorem areTrees_records : ∀ spans : List Span, AreTrees (outlines spans) (records spans)
  | [] => rfl
  | span :: rest => ⟨span.record, records rest, rfl, isTree_record span, areTrees_records rest⟩

end

/-! ## Stretches of time -/

mutual

/-- A span that was started and stopped within a stretch of time, with its phases inside it. -/
def Nested : Nat → Nat → Span → Prop
  | start, finish, ⟨_, started, stopped, _, children⟩ =>
      start ≤ started ∧
        ∃ ended < finish, stopped = some ended ∧ AllNested (started + 1) ended children

/-- Spans one after the other within a stretch of time. -/
def AllNested : Nat → Nat → List Span → Prop
  | start, finish, [] => start ≤ finish
  | start, finish, span :: rest =>
      ∃ between, span.Nested start between ∧ AllNested between finish rest

end

mutual

theorem Nested.lt {start finish : Nat} :
    ∀ {span : Span}, Nested start finish span → start < finish
  | ⟨_, _, _, _, _⟩, ⟨begins, _, before, _, inside⟩ =>
      Nat.lt_of_le_of_lt (Nat.le_trans begins (Nat.le_of_succ_le inside.le)) before

theorem AllNested.le {start finish : Nat} :
    ∀ {spans : List Span}, AllNested start finish spans → start ≤ finish
  | [], nested => nested
  | _ :: _, ⟨_, first, others⟩ => Nat.le_trans (Nat.le_of_lt first.lt) others.le

end

variable {start between finish : Nat} {spans others : List Span}

theorem AllNested.of_le
    {earlier : Nat}
    (le : earlier ≤ start)
    (nested : AllNested start finish spans) :
    AllNested earlier finish spans := by
  cases spans with
  | nil =>
      exact Nat.le_trans le nested
  | cons span rest =>
      rcases span with ⟨name, started, stopped, notes, children⟩
      obtain ⟨between, ⟨begins, ends⟩, others⟩ := nested
      exact ⟨between, ⟨Nat.le_trans le begins, ends⟩, others⟩

theorem AllNested.append
    (first : AllNested start between spans)
    (second : AllNested between finish others) :
    AllNested start finish (spans ++ others) := by
  induction spans generalizing start with
  | nil =>
      exact second.of_le first
  | cons span rest inductionHypothesis =>
      obtain ⟨ended, nested, remaining⟩ := first
      exact ⟨ended, nested, inductionHypothesis remaining⟩

/-! ## Spans that grow -/

/-- A span with further phases behind its own and with further notes. -/
def grow (phases : List Span) (notes : List (String × Value)) (span : Span) : Span :=
  { span with
    notes := span.notes.insertAll notes
    children := span.children ++ phases }

@[simp] theorem grow_nil :
    grow [] [] = id := by
  funext span
  cases span
  simp [grow, Table.insertAll]

theorem grow_grow
    (span : Span)
    (notes further : List (String × Value)) :
    (span.grow spans notes).grow others further =
      span.grow (spans ++ others) (notes ++ further) := by
  simp [grow, Table.insertAll]

theorem note_eq_grow
    (notes : List (String × Value)) :
    note notes = grow [] notes := by
  funext span
  simp [note, grow]

theorem addChild_eq_grow
    (span child : Span) :
    span.addChild child = span.grow [child] [] := by
  simp [addChild, grow, Table.insertAll]

end Span

/-! ## Recordings -/

namespace Recorder

open Telemetry.Span

variable
  {before entered inner after : Recorder}
  {name : String}
  {phases others : List Outline}
  {notes further : List (String × Value)}

/-- A phase is entered inside an active span while the recording is switched on. -/
theorem enterPhase?_eq_some_iff
    {parent : Span} :
    before.enterPhase? name = some (parent, entered) ↔
      before.enabled = true ∧ before.active = some parent ∧ before.activate name = entered := by
  simp [enterPhase?]

theorem enterPhase?_eq_none_iff :
    before.enterPhase? name = none ↔ (before.enabled && before.active.isSome) = false := by
  cases on : before.enabled <;> simp [enterPhase?, on]

/-- A call is entered while the recording is switched on. -/
theorem enterCall?_eq_some_iff :
    before.enterCall? name = some entered ↔
      before.enabled = true ∧ before.activate name = entered := by
  simp [enterCall?]

theorem enterCall?_eq_none_iff :
    before.enterCall? name = none ↔ before.enabled = false := by
  simp [enterCall?]

/--
What was active before is active behind some steps, with further phases that ran and were
stopped in the meantime, and with further notes.
-/
def Grows
    (before after : Recorder)
    (phases : List Outline)
    (notes : List (String × Value)) :
    Prop :=
  ∃ spans,
    AllNested before.readings after.readings spans ∧
      outlines spans = phases ∧ after.active = before.active.map (grow spans notes)

namespace Grows

theorem refl
    (recorder : Recorder) :
    Grows recorder recorder [] [] :=
  ⟨[], Nat.le_refl _, rfl, by simp⟩

theorem trans
    (first : Grows before inner phases notes)
    (second : Grows inner after others further) :
    Grows before after (phases ++ others) (notes ++ further) := by
  obtain ⟨spans, nested, told, active⟩ := first
  obtain ⟨more, moreNested, moreTold, moreActive⟩ := second
  refine ⟨spans ++ more, nested.append moreNested, ?_, ?_⟩
  · rw [outlines_append, told, moreTold]
  · rw [moreActive, active, Option.map_map]
    congr 1
    funext span
    exact span.grow_grow notes further

theorem isSome_active
    (grows : Grows before after phases notes) :
    after.active.isSome = before.active.isSome := by
  obtain ⟨spans, -, -, active⟩ := grows
  rw [active, Option.isSome_map]

theorem note
    (recorder : Recorder)
    (notes : List (String × Value)) :
    Grows recorder (recorder.note notes) [] notes :=
  ⟨[], Nat.le_refl _, rfl, by rw [Recorder.note, note_eq_grow]⟩

theorem switch
    (recorder : Recorder)
    (enabled : Bool) :
    Grows recorder (recorder.switch enabled) [] [] :=
  ⟨[], Nat.le_refl _, rfl, by simp [Recorder.switch]⟩

end Grows

/-- A span that is made active holds what happened inside it when it is stopped. -/
theorem exists_activated
    (within : Grows (before.activate name) inner phases notes) :
    ∃ root,
      inner.active.map inner.stopped = some root ∧
        root.Nested before.readings (inner.readings + 1) ∧
          root.outline = ⟨name, Table.ofList notes, phases⟩ := by
  obtain ⟨spans, nested, told, active⟩ := within
  refine ⟨inner.stopped ((before.newSpan name).grow spans notes), ?_, ?_, ?_⟩
  · rw [active]
    rfl
  · exact ⟨Nat.le_refl _, inner.readings, Nat.lt_succ_self _, rfl, nested⟩
  · rw [← told]
    rfl

/-- A phase is a further child of the span that was active before. -/
theorem Grows.phase
    {parent : Span}
    (enters : before.enterPhase? name = some (parent, entered))
    (within : Grows entered inner phases notes) :
    Grows before (inner.leavePhase parent) [⟨name, Table.ofList notes, phases⟩] [] := by
  obtain ⟨-, active, rfl⟩ := enterPhase?_eq_some_iff.mp enters
  obtain ⟨root, left, nested, told⟩ := exists_activated within
  obtain ⟨child, found, rfl⟩ := Option.map_eq_some_iff.mp left
  refine ⟨[inner.stopped child], ⟨_, nested, Nat.le_refl _⟩, ?_, ?_⟩
  · rw [outlines, told, outlines]
  · simp [leavePhase, found, active, addChild_eq_grow]

/-- A call has a tree of its own, and what was active before is active again as it was. -/
theorem Grows.exists_call
    (enters : before.enterCall? name = some entered)
    (within : Grows entered inner phases notes) :
    ∃ root left,
      inner.leaveCall before.active = (some root, left) ∧
        root.Nested before.readings left.readings ∧
          root.outline = ⟨name, Table.ofList notes, phases⟩ ∧
            left.active = before.active ∧
              left.enabled = inner.enabled ∧ Grows before left [] [] := by
  obtain ⟨-, rfl⟩ := enterCall?_eq_some_iff.mp enters
  obtain ⟨root, stopped, nested, told⟩ := exists_activated within
  obtain ⟨spans, allNested, -, -⟩ := within
  have later : before.readings + 1 ≤ inner.readings := allNested.le
  refine
    ⟨root, { inner.tick with active := before.active }, ?_, nested, told, rfl, rfl, [], ?_,
      rfl, ?_⟩
  · rw [leaveCall, stopped]
  · exact Nat.le_trans (Nat.le_succ _) (Nat.le_succ_of_le later)
  · simp

end Recorder

end PageScript.Telemetry
