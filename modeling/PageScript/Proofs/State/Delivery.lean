import PageScript.State.Delivery

namespace PageScript.State

/-!
# Whom a delivery reaches

A delivery tells its value to the subscribers that were registered when it began, each
once and in order, up to the first that fails.  This holds whatever the subscribers do:
what they start themselves happens on deeper levels of the chronicle and only adds to
it, and the variable is at any time what the chronicle has made of it.  So no
subscription is lost or moved.  The bound on the nesting has no part in a delivery that
ends.
-/

variable {σ : Type}

/-! ## Occurrences -/

/-- What an occurrence makes of the variable. -/
def Occurrence.replay (cell : Reactive σ) (occurrence : Occurrence σ) : Reactive σ :=
  match occurrence.happening with
  | .stored value => cell.store value
  | .subscribed subscriber => cell.subscribe subscriber
  | _ => cell

/-- What happens on one level, in order. -/
def onLevel (level : Nat) (occurrences : List (Occurrence σ)) : List (Happening σ) :=
  (occurrences.filter (·.level == level)).map (·.happening)

section Levels

variable {level : Nat} {added later : List (Occurrence σ)}

@[simp] theorem onLevel_nil :
    onLevel level ([] : List (Occurrence σ)) = [] :=
  rfl

@[simp] theorem onLevel_append :
    onLevel level (added ++ later) = onLevel level added ++ onLevel level later := by
  simp [onLevel]

@[simp] theorem onLevel_cons_self
    (happening : Happening σ) :
    onLevel level (⟨level, happening⟩ :: later) = happening :: onLevel level later := by
  simp [onLevel]

/-- What happens on deeper levels does not happen on this one. -/
theorem onLevel_of_deeper
    (deeper : ∀ occurrence ∈ added, level + 1 ≤ occurrence.level) :
    onLevel level added = [] := by
  simp only [onLevel, List.map_eq_nil_iff, List.filter_eq_nil_iff, beq_iff_eq]
  intro occurrence member same
  have below := deeper occurrence member
  omega

/-- Subscribers keep their places, and new ones come behind them. -/
theorem subscribers_prefix_replay
    (cell : Reactive σ)
    (occurrences : List (Occurrence σ)) :
    cell.subscribers <+: (occurrences.foldl Occurrence.replay cell).subscribers := by
  induction occurrences generalizing cell with
  | nil =>
      simp
  | cons first rest inductionHypothesis =>
      have step : cell.subscribers <+: (first.replay cell).subscribers := by
        rcases first with ⟨level, happening⟩
        cases happening <;> simp [Occurrence.replay, Reactive.store, Reactive.subscribe]
      exact step.trans (inductionHypothesis (first.replay cell))

end Levels

/-! ## Chronicles that go on -/

/--
A chronicle goes on with occurrences on a level and below it, and the variable is what
they make of it.
-/
structure Continues
    (level : Nat)
    (before after : Chronicle σ)
    (added : List (Occurrence σ)) :
    Prop where
  history : after.history = before.history ++ added
  cell : after.cell = added.foldl Occurrence.replay before.cell
  deeper : ∀ occurrence ∈ added, level ≤ occurrence.level

namespace Continues

variable
  {level : Nat}
  {before middle after : Chronicle σ}
  {added later : List (Occurrence σ)}

theorem refl
    (level : Nat)
    (before : Chronicle σ) :
    Continues level before before [] where
  history := by simp
  cell := rfl
  deeper := by simp

theorem trans
    (first : Continues level before middle added)
    (second : Continues level middle after later) :
    Continues level before after (added ++ later) where
  history := by simp [second.history, first.history]
  cell := by simp [second.cell, first.cell]
  deeper := by
    intro occurrence member
    rcases List.mem_append.mp member with inAdded | inLater
    · exact first.deeper occurrence inAdded
    · exact second.deeper occurrence inLater

/-- What happens on a deeper level happens below this one. -/
theorem lift
    (continues : Continues (level + 1) before after added) :
    Continues level before after added where
  history := continues.history
  cell := continues.cell
  deeper := by
    intro occurrence member
    exact Nat.le_of_succ_le (continues.deeper occurrence member)

/-- Recording a happening continues a chronicle whose variable changes accordingly. -/
theorem record
    {cell : Reactive σ}
    {happening : Happening σ}
    (replayed : Occurrence.replay before.cell ⟨level, happening⟩ = cell) :
    Continues level before (({ before with cell := cell } : Chronicle σ).record level happening)
      [⟨level, happening⟩] where
  history := rfl
  cell := by simp [Chronicle.record, replayed]
  deeper := by simp

end Continues

/-- Setting the variable continues every chronicle on a level and below it. -/
def Proceeds
    (level : Nat)
    (assign : Value → Chronicle σ → Chronicle σ × Ending) :
    Prop :=
  ∀ value before, ∃ added, Continues level before (assign value before).1 added

/-- The happenings of a call that comes to its end. -/
def toldOf (value : Value) (subscriber : σ) : List (Happening σ) :=
  [.called subscriber value, .returned]

/--
The calls of a delivery that ends: all subscribers are told and return, or those before
the first that fails, and this one.
-/
inductive Tells (value : Value) : List σ → Ending → List (Happening σ) → Prop where
  | complete
      (subscribers : List σ) :
      Tells value subscribers .complete (subscribers.flatMap (toldOf value))
  | failed
      (earlier : List σ)
      (subscriber : σ)
      (later : List σ)
      (error : String) :
      Tells value (earlier ++ subscriber :: later) (.failed error)
        (earlier.flatMap (toldOf value) ++ [.called subscriber value, .raised error])

/-- A call that comes to its end stands before the calls that follow. -/
theorem Tells.cons
    {value : Value}
    {subscribers : List σ}
    {ending : Ending}
    {happenings : List (Happening σ)}
    (subscriber : σ)
    (tells : Tells value subscribers ending happenings) :
    Tells value (subscriber :: subscribers) ending
      (.called subscriber value :: .returned :: happenings) := by
  cases tells with
  | complete =>
      exact .complete (subscriber :: subscribers)
  | failed earlier failing later error =>
      exact .failed (subscriber :: earlier) failing later error

section Deliveries

variable
  {level : Nat}
  {assign : Value → Chronicle σ → Chronicle σ × Ending}

/-- Whatever a course does, it continues the chronicle. -/
theorem Proceeds.follow
    (proceeds : Proceeds level assign)
    (course : Course σ)
    (before : Chronicle σ) :
    ∃ added, Continues level before (course.follow assign level before).1 added := by
  induction course generalizing before with
  | rest | fail =>
      exact ⟨[], .refl level before⟩
  | note label value next inductionHypothesis =>
      have noted :
          Continues level before (before.record level (.noted label value))
            [⟨level, .noted label value⟩] :=
        .record rfl
      obtain ⟨added, continues⟩ := inductionHypothesis _
      exact ⟨_, noted.trans continues⟩
  | look next inductionHypothesis =>
      exact inductionHypothesis before before
  | subscribe subscriber next inductionHypothesis =>
      have joined :
          Continues level before
            (({ before with cell := before.cell.subscribe subscriber } : Chronicle σ).record
              level (.subscribed subscriber))
            [⟨level, .subscribed subscriber⟩] :=
        .record rfl
      obtain ⟨added, continues⟩ := inductionHypothesis _
      exact ⟨_, joined.trans continues⟩
  | set value next inductionHypothesis =>
      obtain ⟨added, nested⟩ := proceeds value before
      rw [Course.follow]
      generalize assign value before = outcome at nested ⊢
      rcases outcome with ⟨reached, complete | error | deep⟩
      · obtain ⟨later, continues⟩ := inductionHypothesis none reached
        exact ⟨_, nested.trans continues⟩
      · obtain ⟨later, continues⟩ := inductionHypothesis (some error) reached
        exact ⟨_, nested.trans continues⟩
      · exact ⟨added, nested⟩

/--
Telling subscribers continues the chronicle.  On the level of the delivery there are the
calls alone.
-/
theorem Proceeds.tellAll
    (proceeds : Proceeds (level + 1) assign)
    (react : σ → Value → Course σ)
    (value : Value)
    (subscribers : List σ)
    (before : Chronicle σ) :
    ∃ added,
      Continues level before
          (State.tellAll react assign level value subscribers before).1 added ∧
        ((State.tellAll react assign level value subscribers before).2 ≠ .tooDeep →
          Tells value subscribers
            (State.tellAll react assign level value subscribers before).2
            (onLevel level added)) := by
  induction subscribers generalizing before with
  | nil =>
      exact ⟨[], .refl level before, fun _ => .complete []⟩
  | cons subscriber rest inductionHypothesis =>
      have called :
          Continues level before (before.record level (.called subscriber value))
            [⟨level, .called subscriber value⟩] :=
        .record rfl
      obtain ⟨inside, followed⟩ :=
        proceeds.follow (react subscriber value)
          (before.record level (.called subscriber value))
      have quiet := onLevel_of_deeper followed.deeper
      have reached := called.trans followed.lift
      rw [State.tellAll]
      generalize
        (react subscriber value).follow assign (level + 1)
          (before.record level (.called subscriber value)) = outcome at reached ⊢
      rcases outcome with ⟨told, complete | error | deep⟩
      · obtain ⟨added, continues, tells⟩ :=
          inductionHypothesis (told.record level .returned)
        have returned :
            Continues level told (told.record level .returned) [⟨level, .returned⟩] :=
          .record rfl
        refine ⟨_, (reached.trans returned).trans continues, ?_⟩
        intro ends
        simpa [quiet] using (tells ends).cons subscriber
      · have raised :
            Continues level told (told.record level (.raised error))
              [⟨level, .raised error⟩] :=
          .record rfl
        refine ⟨_, reached.trans raised, ?_⟩
        intro _
        simpa [quiet] using Tells.failed [] subscriber rest error
      · exact ⟨_, reached, fun ends => absurd rfl ends⟩

/-- Setting a variable stores the value, and then tells the subscribers of this moment. -/
theorem exists_continues_assign
    (react : σ → Value → Course σ)
    (depth level : Nat)
    (value : Value)
    (before : Chronicle σ) :
    ∃ added,
      Continues level before (before.assign react depth level value).1 added ∧
        ((before.assign react depth level value).2 ≠ .tooDeep →
          ∃ calls,
            added.head? = some ⟨level, .stored value⟩ ∧
              onLevel level added = .stored value :: calls ∧
              Tells value before.cell.subscribers
                (before.assign react depth level value).2 calls) := by
  induction depth generalizing level value before with
  | zero =>
      exact ⟨[], .refl level before, fun ends => absurd rfl ends⟩
  | succ depth inductionHypothesis =>
      have proceeds : Proceeds (level + 1) (Chronicle.assign react depth (level + 1)) := by
        intro other earlier
        obtain ⟨added, continues, -⟩ := inductionHypothesis (level + 1) other earlier
        exact ⟨added, continues⟩
      have stored :
          Continues level before
            (({ before with cell := before.cell.store value } : Chronicle σ).record level
              (.stored value))
            [⟨level, .stored value⟩] :=
        .record rfl
      obtain ⟨added, continues, tells⟩ :=
        proceeds.tellAll react value before.cell.subscribers
          (({ before with cell := before.cell.store value } : Chronicle σ).record level
            (.stored value))
      refine ⟨_, stored.trans continues, ?_⟩
      intro ends
      exact ⟨onLevel level added, rfl, by simp, tells ends⟩

end Deliveries

/-! ## The bound on the nesting -/

/-- The second way to set the variable ends as the first one does wherever that ends. -/
def Agrees (first second : Value → Chronicle σ → Chronicle σ × Ending) : Prop :=
  ∀ value before,
    (first value before).2 ≠ .tooDeep → second value before = first value before

section Depth

variable {first second : Value → Chronicle σ → Chronicle σ × Ending}

theorem Agrees.follow
    (agrees : Agrees first second)
    (level : Nat)
    (course : Course σ)
    (before : Chronicle σ)
    (ends : (course.follow first level before).2 ≠ .tooDeep) :
    course.follow second level before = course.follow first level before := by
  induction course generalizing before with
  | rest | fail =>
      rfl
  | note label value next inductionHypothesis =>
      exact inductionHypothesis _ ends
  | look next inductionHypothesis =>
      exact inductionHypothesis before before ends
  | subscribe subscriber next inductionHypothesis =>
      exact inductionHypothesis _ ends
  | set value next inductionHypothesis =>
      have same := agrees value before
      rw [Course.follow] at ends
      rw [Course.follow, Course.follow]
      generalize first value before = outcome at ends same ⊢
      rcases outcome with ⟨reached, complete | error | deep⟩
      · rw [same (by simp)]
        exact inductionHypothesis none reached ends
      · rw [same (by simp)]
        exact inductionHypothesis (some error) reached ends
      · exact absurd rfl ends

theorem Agrees.tellAll
    (agrees : Agrees first second)
    (react : σ → Value → Course σ)
    (level : Nat)
    (value : Value)
    (subscribers : List σ)
    (before : Chronicle σ)
    (ends :
      (State.tellAll react first level value subscribers before).2 ≠ .tooDeep) :
    State.tellAll react second level value subscribers before =
      State.tellAll react first level value subscribers before := by
  induction subscribers generalizing before with
  | nil =>
      rfl
  | cons subscriber rest inductionHypothesis =>
      have same :=
        agrees.follow (level + 1) (react subscriber value)
          (before.record level (.called subscriber value))
      rw [State.tellAll] at ends
      rw [State.tellAll, State.tellAll]
      generalize
        (react subscriber value).follow first (level + 1)
          (before.record level (.called subscriber value)) = outcome at ends same ⊢
      rcases outcome with ⟨told, complete | error | deep⟩
      · rw [same (by simp)]
        exact inductionHypothesis (told.record level .returned) ends
      · rw [same (by simp)]
      · exact absurd rfl ends

/-- A delivery that ends does so in the same way when it may nest more deeply. -/
theorem agrees_assign
    (react : σ → Value → Course σ)
    {depth more : Nat}
    (atLeast : depth ≤ more)
    (level : Nat) :
    Agrees (Chronicle.assign react depth level) (Chronicle.assign react more level) := by
  induction depth generalizing more level with
  | zero =>
      intro value before ends
      exact absurd rfl ends
  | succ depth inductionHypothesis =>
      obtain ⟨rest, rfl⟩ := Nat.exists_eq_add_of_le' atLeast
      intro value before ends
      have nested :
          Agrees (Chronicle.assign react depth (level + 1))
            (Chronicle.assign react (rest + depth) (level + 1)) :=
        inductionHypothesis (Nat.le_add_left depth rest) (level + 1)
      exact nested.tellAll react level value before.cell.subscribers _ ends

end Depth

/--
Setting a variable stores the value first.  Then it calls the subscribers that were
registered when it began, each once with this value and in order, up to and including
the first that fails, whose error becomes its own.  All other calls, those of nested
deliveries, happen on deeper levels.  The subscribers from before stay in front, and the
variable is what the occurrences make of it.  A delivery that ends is the same under
every greater bound.
-/
theorem deliveries_reach_registered_subscribers
    (react : σ → Value → Course σ)
    (depth level : Nat)
    (value : Value)
    (before after : Chronicle σ)
    (ending : Ending)
    (delivered : before.assign react depth level value = (after, ending))
    (ends : ending ≠ .tooDeep) :
    before.cell.subscribers <+: after.cell.subscribers ∧
      (∃ added calls,
        after.history = before.history ++ added ∧
          after.cell = added.foldl Occurrence.replay before.cell ∧
          (∀ occurrence ∈ added, level ≤ occurrence.level) ∧
          added.head? = some ⟨level, .stored value⟩ ∧
          onLevel level added = .stored value :: calls ∧
          Tells value before.cell.subscribers ending calls) ∧
      ∀ more,
        depth ≤ more → before.assign react more level value = (after, ending) := by
  obtain ⟨added, continues, told⟩ :=
    exists_continues_assign react depth level value before
  have same := fun more atLeast =>
    @agrees_assign σ react depth more atLeast level value before
  rw [delivered] at continues told same
  obtain ⟨calls, first, own, tells⟩ := told ends
  have kept : before.cell.subscribers <+: after.cell.subscribers := by
    rw [continues.cell]
    exact subscribers_prefix_replay before.cell added
  exact
    ⟨kept,
      ⟨added, calls, continues.history, continues.cell, continues.deeper, first, own,
        tells⟩,
      fun more atLeast => same more atLeast ends⟩

/-- A variable with listeners that subscribe others, set it again, fail and rest. -/
def busyVariable : Chronicle Listener :=
  { cell :=
      { value := .null
        subscribers :=
          [⟨"a", .subscribe⟩, ⟨"b", .set (.integer 9)⟩, ⟨"c", .fail⟩, ⟨"d", .rest⟩] } }

/--
The third listener fails in the delivery that the second one starts, so the second one
fails, and the outer delivery calls neither the later listeners nor the one that the
first subscribes.
-/
theorem deliveries_reach_registered_subscribers_of_busy_variable :
    ∃ after added calls,
      busyVariable.assign Listener.course 3 0 (.integer 1) = (after, .failed "c") ∧
        Ending.failed "c" ≠ .tooDeep ∧
        busyVariable.cell.subscribers <+: after.cell.subscribers ∧
        after.history = busyVariable.history ++ added ∧
        onLevel 0 added = .stored (.integer 1) :: calls ∧
        Tells (.integer 1) busyVariable.cell.subscribers (.failed "c") calls ∧
        calls =
          [.called ⟨"a", .subscribe⟩ (.integer 1), .returned,
            .called ⟨"b", .set (.integer 9)⟩ (.integer 1), .raised "c"] := by
  have delivered :
      busyVariable.assign Listener.course 3 0 (.integer 1) =
        ((busyVariable.assign Listener.course 3 0 (.integer 1)).1, .failed "c") :=
    rfl
  obtain ⟨kept, ⟨added, calls, history, -, -, -, own, tells⟩, -⟩ :=
    deliveries_reach_registered_subscribers Listener.course 3 0 (.integer 1) busyVariable
      _ (.failed "c") delivered (by decide)
  refine ⟨_, added, calls, delivered, by decide, kept, history, own, tells, ?_⟩
  have whole : added = (busyVariable.assign Listener.course 3 0 (.integer 1)).1.history :=
    history.symm
  rw [whole] at own
  exact (List.cons.inj own).2.symm

end PageScript.State
