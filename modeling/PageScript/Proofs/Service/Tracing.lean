import PageScript.Proofs.Telemetry.Nesting
import PageScript.Service.Program

namespace PageScript.Service

open Telemetry

/-!
# Programs and their spans

A program tells without being run which phases it opens, directly and inside each other,
and whether it stops.  However a step ends, what was active before is active again behind
it, and the phases that the step opened directly are its further phases, in order and all
of them stopped.  A traced call opens its phases in a tree of its own, which is attached to
the report that it answers with.  Outside a traced call, and while the recording is
switched off, no phase is recorded, and answers are given as they are.
-/

/-! ## What programs tell -/

/-- What steps tell about themselves. -/
structure Account where
  /-- The phases that are opened directly, in order. -/
  phases : List Outline := []
  /-- The notes for the span around the steps. -/
  notes : List (String × Value) := []
  /-- For each phase that is entered, whether it is recorded. -/
  recorded : List Bool := []
  /-- Whether the steps stop with a fault. -/
  stops : Bool := false
  /-- Whether the recording is switched on behind the steps. -/
  on : Bool

mutual

/--
The account of a step.  `on` tells whether the recording is switched on before it, and
`inside` whether it runs inside a span.
-/
def Step.account (on inside : Bool) : Step → Account
  | .phase name notes late body =>
      let within := accountOf on inside body
      let all := notes ++ within.notes ++ if within.stops then [] else late
      if on && inside then
        { within with
          phases := [⟨name, Table.ofList all, within.phases⟩]
          notes := []
          recorded := true :: within.recorded }
      else
        { within with recorded := false :: within.recorded }
  | .note notes => { notes := notes, on := on }
  | .fail _ => { stops := true, on := on }
  | .attempt body => { accountOf on inside body with stops := false }
  | .call procedure => procedure.account on inside
  | .switch enabled => { on := enabled }

/-- The account of steps up to the first that stops. -/
def accountOf (on inside : Bool) : List Step → Account
  | [] => { on := on }
  | step :: rest =>
      let first := step.account on inside
      let others := accountOf first.on inside rest
      if first.stops then
        first
      else
        ⟨first.phases ++ others.phases, first.notes ++ others.notes,
          first.recorded ++ others.recorded, others.stops, others.on⟩

/-- The account of a call; a traced call opens its phases in a tree of its own. -/
def Procedure.account (on inside : Bool) : Procedure → Account
  | .mk name body answer =>
      let traced := on && name.isSome
      let within := accountOf on (traced || inside) body
      let stops := within.stops || !answer.isOk
      if traced then
        { within with phases := [], notes := [], stops := stops }
      else
        { within with stops := stops }

end

mutual

/-- Whether a step leaves the recording switched on or off. -/
def Step.isSteady : Step → Bool
  | .phase _ _ _ body => areSteady body
  | .note _ => true
  | .fail _ => true
  | .attempt body => areSteady body
  | .call (.mk _ body _) => areSteady body
  | .switch _ => false

/-- Whether steps leave the recording switched on or off. -/
def areSteady : List Step → Bool
  | [] => true
  | step :: rest => step.isSteady && areSteady rest

end

mutual

/-- A step that switches nothing is recorded throughout or not at all. -/
theorem Step.account_of_isSteady (on inside : Bool) :
    ∀ {step : Step},
      step.isSteady = true →
        (step.account on inside).on = on ∧
          (on = false → ∀ recorded ∈ (step.account on inside).recorded, recorded = false)
  | .phase name notes late body, steady => by
      obtain ⟨kept, silent⟩ :=
        accountOf_of_areSteady on inside (show areSteady body = true from steady)
      rw [Step.account]
      cases on with
      | false =>
          exact ⟨kept, fun off => by simpa using silent off⟩
      | true =>
          cases inside <;> exact ⟨kept, fun off => nomatch off⟩
  | .note _, _ => ⟨rfl, fun _ _ member => by cases member⟩
  | .fail _, _ => ⟨rfl, fun _ _ member => by cases member⟩
  | .attempt body, steady =>
      accountOf_of_areSteady on inside (show areSteady body = true from steady)
  | .call (.mk name body answer), steady => by
      rw [Step.account, Procedure.account]
      generalize (on && name.isSome) = traced
      have within :=
        accountOf_of_areSteady on (traced || inside) (show areSteady body = true from steady)
      cases traced <;> exact within

/-- Steps that switch nothing are recorded throughout or not at all. -/
theorem accountOf_of_areSteady (on inside : Bool) :
    ∀ {steps : List Step},
      areSteady steps = true →
        (accountOf on inside steps).on = on ∧
          (on = false → ∀ recorded ∈ (accountOf on inside steps).recorded, recorded = false)
  | [], _ => ⟨rfl, fun _ _ member => by cases member⟩
  | step :: rest, steady => by
      obtain ⟨firstSteady, othersSteady⟩ := (Bool.and_eq_true _ _).mp steady
      obtain ⟨kept, silent⟩ := Step.account_of_isSteady on inside firstSteady
      obtain ⟨othersKept, othersSilent⟩ := accountOf_of_areSteady on inside othersSteady
      rw [accountOf, kept]
      cases (step.account on inside).stops with
      | true =>
          exact ⟨kept, silent⟩
      | false =>
          refine ⟨othersKept, fun off recorded member => ?_⟩
          rcases List.mem_append.mp member with inFirst | inOthers
          · exact silent off recorded inFirst
          · exact othersSilent off recorded inOthers

end

/-! ## Running stages -/

/-- A session with another recording. -/
def Session.recording (session : Session) (recorder : Recorder) : Session :=
  { session with recorder := recorder }

section Run

variable {α : Type} {session : Session} {name : String}

/-- A stage goes on in the session that its first step leaves. -/
theorem run_bind
    {β : Type}
    (step : Stage α)
    (next : α → Stage β)
    (session : Session) :
    StateT.run (step >>= next) session =
      StateT.run (next (StateT.run step session).1) (StateT.run step session).2 :=
  rfl

theorem run_get
    (session : Session) :
    StateT.run (get : Stage Session) session = (session, session) :=
  rfl

theorem run_pure
    (value : α)
    (session : Session) :
    StateT.run (pure value : Stage α) session = (value, session) :=
  rfl

theorem run_changeRecorder
    (change : Recorder → Recorder)
    (session : Session) :
    StateT.run (changeRecorder change) session =
      ((), session.recording (change session.recorder)) :=
  rfl

theorem run_inPhase_of_none
    (skips : session.recorder.enterPhase? name = none)
    (step : Bool → Stage α) :
    StateT.run (inPhase name step) session = StateT.run (step false) session := by
  simp only [inPhase, run_bind, run_get, skips]

/-- A phase that is recorded is left for the span around it. -/
theorem run_inPhase
    {parent : Span}
    {entered : Recorder}
    (enters : session.recorder.enterPhase? name = some (parent, entered))
    (step : Bool → Stage α) :
    StateT.run (inPhase name step) session =
      let ran := StateT.run (step true) (session.recording entered)
      (ran.1, ran.2.recording (ran.2.recorder.leavePhase parent)) := by
  simp only [inPhase, run_bind, run_get, enters, run_changeRecorder, run_pure]

theorem run_traced_of_none
    (skips : session.recorder.enterCall? name = none)
    (succeeded : α → Bool)
    (attach : Value → α → α)
    (step : Stage α) :
    StateT.run (traced name succeeded attach step) session = StateT.run step session := by
  simp only [traced, run_bind, run_get, skips]

/-- A call that is recorded is left for what was active before, and its span is logged. -/
theorem run_traced
    {entered left : Recorder}
    {root : Span}
    {value : α}
    {later : Session}
    (enters : session.recorder.enterCall? name = some entered)
    (succeeded : α → Bool)
    (attach : Value → α → α)
    {step : Stage α}
    (ran : StateT.run step (session.recording entered) = (value, later))
    (leaves : later.recorder.leaveCall session.recorder.active = (some root, left)) :
    StateT.run (traced name succeeded attach step) session =
      (if succeeded value then attach root.record value else value,
        (StateT.run (logSpan root (succeeded value)) (later.recording left)).2) := by
  simp only [traced, run_bind, run_get, enters, run_changeRecorder, ran, leaves, run_pure]

end Run

/-! ## Phases and lists of steps -/

/-- A run leaves what an account tells. -/
structure Follows (session : Session) (ran : Trail × Session) (account : Account) : Prop where
  /-- What was active before is active again, with the phases and notes of the account. -/
  grows : session.recorder.Grows ran.2.recorder account.phases account.notes
  /-- The phases are told whether they are recorded. -/
  recorded : ran.1.recorded = account.recorded
  /-- The run stops with a fault if the account says so. -/
  stops : ran.1.fault.isSome = account.stops
  on : ran.2.recorder.enabled = account.on

/-- A stage leaves in every session what the account for this session tells. -/
def Shows (stage : Stage Trail) (account : Bool → Bool → Account) : Prop :=
  ∀ (session : Session) (on inside : Bool),
    session.recorder.enabled = on →
      session.recorder.active.isSome = inside →
        Follows session (StateT.run stage session) (account on inside)

section Steps

variable
  {session : Session}
  {name : String}
  {notes late : List (String × Value)}
  {body : List Step}
  {answer : Validation.Checked Answer}

/-- The steps of a phase run between its notes, which are kept if the phase is recorded. -/
theorem run_phase_steps
    {recorded : Bool}
    {entered later : Session}
    {trail : Trail}
    (noted : StateT.run (noteIf recorded notes) entered = ((), session))
    (ran : StateT.run (runSteps body) session = (trail, later)) :
    StateT.run
        (do
          noteIf recorded notes
          let trail ← runSteps body
          if trail.fault.isNone then
            noteIf recorded late
          pure { trail with recorded := recorded :: trail.recorded })
        entered =
      ({ trail with recorded := recorded :: trail.recorded },
        if trail.fault.isSome then later else (StateT.run (noteIf recorded late) later).2) := by
  rw [run_bind, noted, run_bind, ran]
  cases trail.fault <;> rfl

/-- A phase that is not recorded leaves what its steps leave. -/
theorem follows_phase_of_none
    {on inside : Bool}
    (follows : Follows session (StateT.run (runSteps body) session) (accountOf on inside body))
    (skips : session.recorder.enterPhase? name = none)
    (unrecorded : (on && inside) = false) :
    Follows session (StateT.run (Step.phase name notes late body).run session)
      ((Step.phase name notes late body).account on inside) := by
  rcases ran : StateT.run (runSteps body) session with ⟨trail, later⟩
  rw [ran] at follows
  rw [Step.run, run_inPhase_of_none skips, run_phase_steps rfl ran, Step.account, unrecorded,
    if_neg Bool.false_ne_true]
  have unchanged :
      (if trail.fault.isSome then later else (StateT.run (noteIf false late) later).2) = later :=
    ite_self later
  rw [unchanged]
  exact ⟨follows.grows, congrArg _ follows.recorded, follows.stops, follows.on⟩

/-- A phase that is recorded becomes a child of the active span, also when it stops. -/
theorem follows_phase_of_some
    {parent : Span}
    {entered : Recorder}
    (enters : session.recorder.enterPhase? name = some (parent, entered))
    (follows :
      Follows (session.recording (entered.note notes))
        (StateT.run (runSteps body) (session.recording (entered.note notes)))
        (accountOf true true body)) :
    Follows session (StateT.run (Step.phase name notes late body).run session)
      ((Step.phase name notes late body).account true true) := by
  rcases ran : StateT.run (runSteps body) (session.recording (entered.note notes)) with
    ⟨trail, later⟩
  rw [ran] at follows
  rw [Step.run, run_inPhase enters, run_phase_steps rfl ran, Step.account, Bool.and_self,
    if_pos rfl]
  have started : entered.Grows (entered.note notes) [] notes := .note entered notes
  have within := started.trans follows.grows
  refine ⟨?_, congrArg _ follows.recorded, follows.stops, ?_⟩
  · rw [← follows.stops]
    cases trail.fault with
    | some fault =>
        exact .phase enters (by simpa using within)
    | none =>
        have noted :
            entered.Grows (later.recorder.note late) (accountOf true true body).phases
              (notes ++ (accountOf true true body).notes ++ late) := by
          simpa using within.trans (.note later.recorder late)
        exact .phase enters noted
  · rw [← follows.on]
    cases trail.fault <;> rfl

/-- Further steps run if the first one did not stop. -/
theorem shows_cons
    {step : Step}
    {rest : List Step}
    (first : Shows step.run fun on inside => step.account on inside)
    (others : Shows (runSteps rest) fun on inside => accountOf on inside rest) :
    Shows (runSteps (step :: rest)) fun on inside => accountOf on inside (step :: rest) := by
  intro session on inside enabled active
  have follows := first session on inside enabled active
  rcases ran : StateT.run step.run session with ⟨trail, later⟩
  rw [ran] at follows
  have further := others later _ inside follows.on (follows.grows.isSome_active.trans active)
  rcases went : StateT.run (runSteps rest) later with ⟨more, last⟩
  rw [went] at further
  dsimp only
  rw [runSteps, run_bind, ran, accountOf, ← follows.stops]
  cases trail.fault with
  | some fault =>
      exact follows
  | none =>
      simp only [run_bind, went, run_pure]
      refine ⟨follows.grows.trans further.grows, ?_, further.stops, further.on⟩
      rw [Trail.followedBy, follows.recorded, further.recorded]
      rfl

/-! ## Calls -/

/-- A call stops where its steps stop, and also where it has no answer. -/
theorem isSome_fault_finish
    (answer : Validation.Checked Answer)
    (trail : Trail) :
    (finish answer trail).trail.fault.isSome = (trail.fault.isSome || !answer.isOk) := by
  rcases trail with ⟨recorded, answers, _ | fault⟩ <;> cases answer <;> rfl

theorem recorded_finish
    (answer : Validation.Checked Answer)
    (trail : Trail) :
    (finish answer trail).trail.recorded = trail.recorded := by
  rcases trail with ⟨recorded, answers, _ | fault⟩ <;> cases answer <;> rfl

theorem answer_finish
    (answer : Validation.Checked Answer)
    (trail : Trail) :
    (finish answer trail).answer = if trail.fault.isSome then none else answer.toOption := by
  rcases trail with ⟨recorded, answers, _ | fault⟩ <;> cases answer <;> rfl

/-- Spans are attached to the answer of a call, if it has one. -/
theorem attach_finish
    (spans : Value)
    (finished : Finish) :
    (if finished.answer.isSome then
        { finished with answer := finished.answer.map (Answer.withSpans spans) }
      else
        finished) =
      { finished with answer := finished.answer.map (Answer.withSpans spans) } := by
  rcases finished with ⟨trail, _ | answer⟩ <;> rfl

/-- A call that is not traced runs its steps where it is made and answers as it is told to. -/
theorem follows_untraced
    {on inside : Bool}
    {traced : Option String}
    (follows : Follows session (StateT.run (runSteps body) session) (accountOf on inside body))
    (plain : (on && traced.isSome) = false)
    (runs :
      StateT.run (Procedure.mk traced body answer).run session =
        StateT.run (Procedure.mk none body answer).run session) :
    let ran := StateT.run (Procedure.mk traced body answer).run session
    Follows session (ran.1.trail, ran.2) ((Procedure.mk traced body answer).account on inside) ∧
      ran.1.answer = if (accountOf on inside body).stops then none else answer.toOption := by
  rcases ran : StateT.run (runSteps body) session with ⟨trail, later⟩
  rw [ran] at follows
  rw [runs, Procedure.run, run_bind, ran, run_pure, Procedure.account, plain,
    if_neg Bool.false_ne_true]
  refine
    ⟨⟨follows.grows, (recorded_finish answer trail).trans follows.recorded, ?_, follows.on⟩,
      ?_⟩
  · rw [isSome_fault_finish]
    exact congrArg (· || !answer.isOk) follows.stops
  · rw [answer_finish, ← follows.stops]

/-- A traced call leaves a tree of its own. -/
structure Traces
    (session : Session)
    (name : String)
    (body : List Step)
    (ran : Finish × Session)
    (root : Span) :
    Prop where
  /-- The call and all phases in it were started and stopped while it ran. -/
  nested : root.Nested session.recorder.readings ran.2.recorder.readings
  /-- The tree consists of the phases that are opened inside the call. -/
  outline :
    root.outline =
      ⟨name, Table.ofList (accountOf true true body).notes, (accountOf true true body).phases⟩
  /-- What was active before the call is active again, as it was. -/
  active : ran.2.recorder.active = session.recorder.active
  /-- The call is logged with its span. -/
  logged : ∃ ended, ran.2 = (StateT.run (logSpan root ran.1.answer.isSome) ended).2

/-- A call that is traced opens its phases in a tree of its own. -/
theorem exists_traces
    (within : Shows (runSteps body) fun on inside => accountOf on inside body)
    (enabled : session.recorder.enabled = true)
    (name : String)
    (answer : Validation.Checked Answer)
    (inside : Bool) :
    let ran := StateT.run (Procedure.mk (some name) body answer).run session
    ∃ root,
      Traces session name body ran root ∧
        (ran.1.answer =
            if (accountOf true true body).stops then
              none
            else
              answer.toOption.map (Answer.withSpans root.record)) ∧
          Follows session (ran.1.trail, ran.2)
            ((Procedure.mk (some name) body answer).account true inside) := by
  have enters : session.recorder.enterCall? name = some (session.recorder.activate name) :=
    Recorder.enterCall?_eq_some_iff.mpr ⟨enabled, rfl⟩
  have follows :
      Follows (session.recording (session.recorder.activate name))
        (StateT.run (runSteps body) (session.recording (session.recorder.activate name)))
        (accountOf true true body) :=
    within _ true true enabled rfl
  rcases ran :
      StateT.run (runSteps body) (session.recording (session.recorder.activate name)) with
    ⟨trail, later⟩
  rw [ran] at follows
  have stops : trail.fault.isSome = (accountOf true true body).stops := follows.stops
  obtain ⟨root, left, leaves, nested, told, active, on, grows⟩ :=
    Recorder.Grows.exists_call enters follows.grows
  have finishes :
      StateT.run
          (do
            let trail ← runSteps body
            pure (finish answer trail))
          (session.recording (session.recorder.activate name)) =
        (finish answer trail, later) := by
    rw [run_bind, ran, run_pure]
  rw [Procedure.run, run_traced enters _ _ finishes leaves, attach_finish]
  refine
    ⟨root, ⟨nested, told, active, later.recording left, by rw [Option.isSome_map]⟩, ?_,
      grows, (recorded_finish answer trail).trans follows.recorded, ?_, on.trans follows.on⟩
  · rw [answer_finish, stops]
    cases (accountOf true true body).stops <;> rfl
  · exact (isSome_fault_finish answer trail).trans (congrArg (· || !answer.isOk) stops)

end Steps

/-! ## Programs -/

mutual

/-- Every step leaves what it tells. -/
theorem Step.shows : ∀ step : Step, Shows step.run fun on inside => step.account on inside
  | .phase name notes late body => fun session on inside enabled active => by
      have within := shows_runSteps body
      rcases enters : session.recorder.enterPhase? name with _ | ⟨parent, entered⟩
      · have unrecorded := Recorder.enterPhase?_eq_none_iff.mp enters
        rw [enabled, active] at unrecorded
        exact follows_phase_of_none (within session on inside enabled active) enters unrecorded
      · obtain ⟨recording, present, rfl⟩ := Recorder.enterPhase?_eq_some_iff.mp enters
        rw [recording] at enabled
        rw [present] at active
        subst enabled active
        exact follows_phase_of_some enters (within _ true true recording rfl)
  | .note notes => fun session _ _ enabled _ =>
      ⟨.note session.recorder notes, rfl, rfl, enabled⟩
  | .fail _ => fun session _ _ enabled _ =>
      ⟨.refl session.recorder, rfl, rfl, enabled⟩
  | .attempt body => fun session on inside enabled active => by
      have follows := shows_runSteps body session on inside enabled active
      exact ⟨follows.grows, follows.recorded, rfl, follows.on⟩
  | .call procedure => fun session on inside enabled active => by
      have follows := procedure.shows session on inside enabled active
      dsimp only
      rw [Step.run, run_bind, Step.account]
      cases (StateT.run procedure.run session).1.answer with
      | none => exact follows
      | some answer => exact ⟨follows.grows, follows.recorded, follows.stops, follows.on⟩
  | .switch enabled => fun session _ _ _ _ =>
      ⟨.switch session.recorder enabled, rfl, rfl, rfl⟩

/-- Steps leave what they tell. -/
theorem shows_runSteps :
    ∀ steps : List Step, Shows (runSteps steps) fun on inside => accountOf on inside steps
  | [] => fun session _ _ enabled _ => ⟨.refl session.recorder, rfl, rfl, enabled⟩
  | step :: rest => shows_cons step.shows (shows_runSteps rest)

/-- A call leaves what it tells. -/
theorem Procedure.shows :
    ∀ procedure : Procedure,
      Shows (do return (← procedure.run).trail) fun on inside => procedure.account on inside
  | .mk none body answer => fun session on inside enabled active => by
      have within := shows_runSteps body session on inside enabled active
      have plain : (on && (none : Option String).isSome) = false := Bool.and_false on
      have same := Eq.refl (StateT.run (Procedure.mk none body answer).run session)
      exact (follows_untraced within plain same).1
  | .mk (some name) body answer => fun session on inside enabled active => by
      have within := shows_runSteps body
      cases on with
      | false =>
          have skips : session.recorder.enterCall? name = none :=
            Recorder.enterCall?_eq_none_iff.mpr enabled
          have runs :
              StateT.run (Procedure.mk (some name) body answer).run session =
                StateT.run (Procedure.mk none body answer).run session := by
            rw [Procedure.run, Procedure.run, run_traced_of_none skips]
          exact (follows_untraced (within session false inside enabled active) rfl runs).1
      | true =>
          obtain ⟨root, -, -, follows⟩ := exists_traces within enabled name answer inside
          exact follows

end

/-! ## Answers -/

/-- An answer with a tree: a report keeps its other entries, and any other value is as it was. -/
inductive Attached (tree : Value) : Answer → Answer → Prop where
  | value
      (value : Value) :
      Attached tree (.value value) (.value value)
  | report
      (report : Report)
      (entries : List (String × Value)) :
      Table.get? ⟨entries⟩ "telemetry" = some tree →
      (∀ name ≠ "telemetry",
        Table.get? ⟨entries⟩ name = (Table.ofList (report.extra.getD [])).get? name) →
      Attached tree (.report report) (.report { report with extra := some entries })

theorem attached_withSpans
    (tree : Value)
    (answer : Answer) :
    Attached tree answer (answer.withSpans tree) := by
  cases answer with
  | value value =>
      exact .value value
  | report report =>
      refine .report report _ ?_ fun name other => ?_
      · exact (Table.get?_insert _ _ _ tree).trans (if_pos rfl)
      · exact (Table.get?_insert _ _ _ tree).trans (if_neg (Ne.symm other))

/-! ## Well nested spans -/

/--
Behind any steps, however they end, what was active before is active again, with the phases
that the steps opened directly as its further phases, in order and all of them stopped.  A
phase is recorded exactly inside an active span while the recording is switched on.  A
traced call leaves what was active before as it was, and its report has, beside its other
entries, a tree of exactly the phases that were opened inside the call.  While the
recording is switched off no phase is recorded, and calls answer as they are told to.
-/
theorem spans_are_well_nested
    (session : Session) :
    (∀ steps : List Step,
      Follows session (StateT.run (runSteps steps) session)
        (accountOf session.recorder.enabled session.recorder.active.isSome steps)) ∧
      (∀ (name : String) (notes late : List (String × Value)) (body : List Step),
        (StateT.run (Step.phase name notes late body).run session).1.recorded.head? =
          some (session.recorder.enabled && session.recorder.active.isSome)) ∧
        (session.recorder.enabled = true →
          ∀ (name : String) (body : List Step) (answer : Validation.Checked Answer),
            let ran := StateT.run (Procedure.mk (some name) body answer).run session
            ∃ root,
              Traces session name body ran root ∧
                root.outline.IsTree root.record ∧
                  (∀ given,
                    (accountOf true true body).stops = false →
                      answer = .ok given →
                        ∃ found,
                          ran.1.answer = some found ∧ Attached root.record given found) ∧
                    ((accountOf true true body).stops = true ∨ answer.isOk = false →
                      ran.1.answer = none)) ∧
          (∀ steps : List Step,
            areSteady steps = true →
              let ran := StateT.run (runSteps steps) session
              ran.2.recorder.enabled = session.recorder.enabled ∧
                (session.recorder.enabled = false →
                  ∀ recorded ∈ ran.1.recorded, recorded = false)) ∧
            (session.recorder.enabled = false →
              ∀ (traced : Option String) (body : List Step) (answer : Validation.Checked Answer),
                (StateT.run (Procedure.mk traced body answer).run session).1.answer =
                  if (accountOf false session.recorder.active.isSome body).stops then
                    none
                  else
                    answer.toOption) := by
  refine ⟨fun steps => shows_runSteps steps session _ _ rfl rfl, ?_, ?_, ?_, ?_⟩
  · intro name notes late body
    have follows := (Step.phase name notes late body).shows session _ _ rfl rfl
    rw [follows.recorded]
    dsimp only
    rw [Step.account]
    cases session.recorder.enabled && session.recorder.active.isSome <;> rfl
  · intro enabled name body answer
    obtain ⟨root, traces, answered, -⟩ :=
      exists_traces (shows_runSteps body) enabled name answer true
    refine ⟨root, traces, root.isTree_record, ?_, ?_⟩
    · rintro given goesOn rfl
      rw [goesOn] at answered
      exact ⟨_, answered, attached_withSpans root.record given⟩
    · rintro (stops | refused)
      · rw [answered, stops]
        rfl
      · cases answer with
        | ok given =>
            cases refused
        | error issues =>
            rw [answered]
            exact ite_self none
  · intro steps steady
    have follows := shows_runSteps steps session _ _ rfl rfl
    obtain ⟨kept, silent⟩ :=
      accountOf_of_areSteady session.recorder.enabled session.recorder.active.isSome steady
    refine ⟨follows.on.trans kept, fun off recorded member => ?_⟩
    rw [follows.recorded] at member
    exact silent off recorded member
  · intro disabled traced body answer
    have skips : ∀ name, session.recorder.enterCall? name = none :=
      fun name => Recorder.enterCall?_eq_none_iff.mpr disabled
    have runs :
        StateT.run (Procedure.mk traced body answer).run session =
          StateT.run (Procedure.mk none body answer).run session := by
      cases traced with
      | none =>
          rfl
      | some name =>
          rw [Procedure.run, Procedure.run, run_traced_of_none (skips name)]
    have within := shows_runSteps body session false _ disabled rfl
    exact (follows_untraced within (Bool.false_and _) runs).2

/-- A session that records, where nothing is active. -/
def recordingSession : Session :=
  { surroundings :=
      { files := ⟨⟨[]⟩⟩
        directory := []
        home := "/"
        environment := ⟨[]⟩
        pages := ⟨[]⟩ }
    recorder := { enabled := true } }

/-- Phases one after the other; one calls what has a tree of its own, and one fails. -/
def phasesOfBuild : List Step :=
  [.phase "parse" [("commands", .integer 2)] [("skipped", .integer 0)] [],
    .phase "execute" [] []
      [.call (.mk (some "load") [.phase "fetch" [] [] []] (.ok (.value .null)))],
    .attempt [.phase "emit" [] [("written", .truth true)] [.fail "disk full"]]]

/-- The report of a build with an entry of its own. -/
def reportWithEntry : Report :=
  { succeeded := true
    operation := "build"
    extra := some [("existing", .integer 1)] }

/-- The tree has the three phases of the build; the phase of the inner call is not in it. -/
theorem spans_are_well_nested_of_build :
    recordingSession.recorder.enabled = true ∧
      let ran :=
        StateT.run
          (Procedure.mk (some "build") phasesOfBuild (.ok (.report reportWithEntry))).run
          recordingSession
      ran.2.recorder.active = none ∧
        ∃ (root : Span) (entries : List (String × Value)),
          root.outline =
              { name := "build"
                phases :=
                  [{ name := "parse"
                     notes := ⟨[("commands", .integer 2), ("skipped", .integer 0)]⟩ },
                   { name := "execute" }, { name := "emit" }] } ∧
            ran.1.answer = some (.report { reportWithEntry with extra := some entries }) ∧
              Table.get? ⟨entries⟩ "telemetry" = some root.record ∧
                Table.get? ⟨entries⟩ "existing" = some (.integer 1) := by
  refine ⟨rfl, ?_⟩
  obtain ⟨root, traces, -, answered, -⟩ :=
    (spans_are_well_nested recordingSession).2.2.1 rfl "build" phasesOfBuild
      (.ok (.report reportWithEntry))
  obtain ⟨found, same, attached⟩ := answered _ rfl rfl
  cases attached with
  | report report entries tree others =>
      exact
        ⟨traces.active, root, entries, traces.outline, same, tree,
          others "existing" (by decide)⟩

end PageScript.Service
