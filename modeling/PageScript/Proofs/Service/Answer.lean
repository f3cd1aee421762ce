import PageScript.Proofs.Plugin.Merging
import PageScript.Service.Project

namespace PageScript.World.Surroundings

/-- Everything but what was reported and which collaborators were called. -/
def quiet (surroundings : Surroundings) : Surroundings :=
  { surroundings with calls := [], log := [] }

end PageScript.World.Surroundings

namespace PageScript.Service

open World

/-!
# Answers of attempts

An attempt answers in a session with a value or a fault.  Most steps of a service
only read the surroundings and report: they leave the ground that later steps stand
on.  What such a step answers can be told before the attempt is made, so the answer
of a service is found step by step, whether spans are recorded or not.  A service
runs a script in a fresh scene: a blank page, and what the plugins of the project offer
whenever they are asked.

A report holds texts as its warnings, and refuses everything else.  Telling plugins
that an operation is over adds at most one more text.
-/

variable {α β : Type}

/-- What an attempt does to a session. -/
def answer (step : Attempt α) (session : Session) : Except Fault α × Session :=
  (ExceptT.run step).run session

/-! ## Running attempts -/

/-- A step is followed by the next one unless it stops. -/
theorem answer_bind
    (step : Attempt α)
    (next : α → Attempt β)
    (session : Session) :
    answer (step >>= next) session =
      match answer step session with
      | (.ok value, later) => answer (next value) later
      | (.error fault, later) => (.error fault, later) := by
  change
    (ExceptT.bindCont next (answer step session).1).run
        (answer step session).2 = _
  rcases answer step session with ⟨result, later⟩
  cases result <;> rfl

theorem answer_bind_ok
    {step : Attempt α}
    {next : α → Attempt β}
    {session later : Session}
    {value : α}
    (done : answer step session = (.ok value, later)) :
    answer (step >>= next) session = answer (next value) later := by
  rw [answer_bind, done]

/-- A step that depends on the session. -/
theorem answer_get_bind
    (next : Session → Attempt α)
    (session : Session) :
    answer (get >>= next) session = answer (next session) session :=
  rfl

/-- An outcome in the surroundings leaves the session. -/
theorem answer_attempt
    (look : Surroundings → Except Fault α)
    (session : Session) :
    answer (attempt look) session = (look session.surroundings, session) := by
  rw [attempt, answer_get_bind]
  cases look session.surroundings <;> rfl

/-! ## Steps that leave the ground -/

/-- What the steps of a service decide by. -/
def Session.ground (session : Session) : Surroundings × Run.FrameworkCache :=
  (session.surroundings.quiet, session.cache)

/-- What does not depend on reports and calls is the same on the same ground. -/
theorem eq_of_ground
    {session later : Session}
    (look : Surroundings → α)
    (deaf : ∀ surroundings, look surroundings = look surroundings.quiet)
    (same : later.ground = session.ground) :
    look later.surroundings = look session.surroundings := by
  rw [deaf later.surroundings, deaf session.surroundings]
  exact congrArg (fun ground => look ground.1) same

/-- A step answers in a session and leaves its ground. -/
def Settles (step : Attempt α) (session : Session) (result : Except Fault α) : Prop :=
  ∃ later, answer step session = (result, later) ∧ later.ground = session.ground

/-- An attempt answers in a session; nothing is said about what it leaves. -/
def Answers (step : Attempt α) (session : Session) (result : Except Fault α) : Prop :=
  (answer step session).1 = result

namespace Settles

variable
  {step : Attempt α}
  {next : α → Attempt β}
  {session : Session}

theorem pure
    (value : α)
    (session : Session) :
    Settles (pure value) session (.ok value) :=
  ⟨session, rfl, rfl⟩

theorem attempt
    (look : Surroundings → Except Fault α)
    (session : Session) :
    Settles (Service.attempt look) session (look session.surroundings) :=
  ⟨session, answer_attempt look session, rfl⟩

/-- A log event changes nothing that a service decides by. -/
theorem logEvent
    (level : LogLevel)
    (logger event : String)
    (fields : List (String × Value))
    (session : Session) :
    Settles (liftM (Service.logEvent level logger event fields)) session (.ok ()) :=
  ⟨_, rfl, rfl⟩

theorem noteIf
    (recorded : Bool)
    (notes : List (String × Value))
    (session : Session) :
    Settles (liftM (Service.noteIf recorded notes)) session (.ok ()) := by
  cases recorded <;> exact ⟨_, rfl, rfl⟩

/-- Two steps one after the other. -/
theorem bind
    {value : α}
    {result : Except Fault β}
    (first : Settles step session (.ok value))
    (rest :
      ∀ later, later.ground = session.ground → Settles (next value) later result) :
    Settles (step >>= next) session result := by
  obtain ⟨later, answered, same⟩ := first
  obtain ⟨last, ended, kept⟩ := rest later same
  refine ⟨last, ?_, kept.trans same⟩
  rw [answer_bind, answered]
  exact ended

theorem bind_error
    {fault : Fault}
    (first : Settles step session (.error fault)) :
    Settles (step >>= next) session (.error fault) := by
  obtain ⟨later, answered, same⟩ := first
  refine ⟨later, ?_, same⟩
  rw [answer_bind, answered]

/-- A step that only reads, with what follows from its result. -/
theorem bind_pure
    {result : Except Fault α}
    (first : Settles step session result)
    (change : α → β) :
    Settles (step >>= fun value => Pure.pure (change value)) session
      (result.map change) := by
  cases result with
  | ok value =>
      exact first.bind fun later _ => .pure (change value) later
  | error fault =>
      exact first.bind_error

/-- After a step that settles, the answer is that of the next one on the same ground. -/
theorem exists_answer_bind
    {value : α}
    (first : Settles step session (.ok value))
    (next : α → Attempt β) :
    ∃ later,
      later.ground = session.ground ∧
        answer (step >>= next) session = answer (next value) later := by
  obtain ⟨later, answered, same⟩ := first
  refine ⟨later, same, ?_⟩
  rw [answer_bind, answered]

theorem answers_bind
    {value : α}
    {result : Except Fault β}
    (first : Settles step session (.ok value))
    (rest :
      ∀ later, later.ground = session.ground → Answers (next value) later result) :
    Answers (step >>= next) session result := by
  obtain ⟨later, same, answered⟩ := first.exists_answer_bind next
  rw [Answers, answered]
  exact rest later same

theorem answers
    {result : Except Fault α}
    (settles : Settles step session result) :
    Answers step session result := by
  obtain ⟨later, answered, -⟩ := settles
  rw [Answers, answered]

end Settles

namespace Answers

variable
  {step : Attempt α}
  {next : α → Attempt β}
  {session : Session}

/-- After a step that may have changed anything, the next one answers. -/
theorem bind
    {value : α}
    {result : Except Fault β}
    (first : Answers step session (.ok value))
    (rest : ∀ later, Answers (next value) later result) :
    Answers (step >>= next) session result := by
  rw [Answers] at first
  rw [Answers, answer_bind]
  revert first
  rcases answer step session with ⟨_, later⟩
  rintro rfl
  exact rest later

theorem bind_error
    {fault : Fault}
    (first : Answers step session (.error fault)) :
    Answers (step >>= next) session (.error fault) := by
  rw [Answers] at first
  rw [Answers, answer_bind]
  revert first
  rcases answer step session with ⟨_, later⟩
  rintro rfl
  rfl

theorem exists_answer
    {result : Except Fault α}
    (answers : Answers step session result) :
    ∃ later, answer step session = (result, later) :=
  ⟨(answer step session).2, Prod.ext answers rfl⟩

/-- A service answers in one way. -/
theorem unique
    {first second : Except Fault α}
    (left : Answers step session first)
    (right : Answers step session second) :
    first = second :=
  left.symm.trans right

end Answers

/-! ## Phases and calls -/

/-- A phase answers as its step does on the same ground. -/
theorem exists_answer_attemptPhase
    (name : String)
    (step : Bool → Attempt α)
    (session : Session) :
    ∃ (recorded : Bool) (entered : Session) (change : Session → Session),
      entered.ground = session.ground ∧
        (∀ later, (change later).ground = later.ground) ∧
          answer (attemptPhase name step) session =
            ((answer (step recorded) entered).1,
              change (answer (step recorded) entered).2) := by
  rcases entry : session.recorder.enterPhase? name with _ | ⟨parent, entered⟩
  · refine ⟨false, session, id, rfl, fun _ => rfl, ?_⟩
    rw [answer, attemptPhase, ExceptT.run_mk, inPhase, StateT.run_bind, StateT.run_get,
      pure_bind, entry]
    rfl
  · refine
      ⟨true, { session with recorder := entered },
        fun later =>
          { later with recorder := later.recorder.leavePhase parent },
        rfl, fun _ => rfl, ?_⟩
    rw [answer, attemptPhase, ExceptT.run_mk, inPhase, StateT.run_bind, StateT.run_get,
      pure_bind, entry]
    rfl

theorem exists_answers_attemptPhase
    (name : String)
    (step : Bool → Attempt α)
    (session : Session) :
    ∃ recorded entered,
      entered.ground = session.ground ∧
        ∀ result,
          Answers (step recorded) entered result →
            Answers (attemptPhase name step) session result := by
  obtain ⟨recorded, entered, change, same, -, phase⟩ :=
    exists_answer_attemptPhase name step session
  refine ⟨recorded, entered, same, fun result answers => ?_⟩
  rw [Answers, phase]
  exact answers

theorem Settles.attemptPhase
    {name : String}
    {step : Bool → Attempt α}
    {session : Session}
    {result : Except Fault α}
    (settles :
      ∀ recorded entered,
        entered.ground = session.ground → Settles (step recorded) entered result) :
    Settles (Service.attemptPhase name step) session result := by
  obtain ⟨recorded, entered, change, same, kept, phase⟩ :=
    exists_answer_attemptPhase name step session
  obtain ⟨later, answered, left⟩ := settles recorded entered same
  refine ⟨change later, ?_, (kept later).trans (left.trans same)⟩
  rw [phase, answered]

/-- What a traced operation does: its spans are added to a report if they are recorded. -/
theorem answer_tracedReport
    (name : String)
    (step : Attempt Report)
    (session : Session) :
    answer (tracedReport name step) session =
      match session.recorder.enterCall? name with
      | none => answer step session
      | some entered =>
          let ended := answer step { session with recorder := entered }
          let left := ended.2.recorder.leaveCall session.recorder.active
          let finish := { ended.2 with recorder := left.2 }
          match left.1 with
          | none => (ended.1, finish)
          | some span =>
              (ended.1.map (Report.withSpans span.record),
                (StateT.run (logSpan span ended.1.toOption.isSome) finish).2) := by
  rw [answer, tracedReport, ExceptT.run_mk, traced, StateT.run_bind]
  change
    (StateT.run
      (match session.recorder.enterCall? name with
        | none => ExceptT.run step
        | some entered => _)
      session : Except Fault Report × Session) = _
  cases session.recorder.enterCall? name with
  | none =>
      rfl
  | some entered =>
      change
        (StateT.run
          (match
              ((answer step { session with recorder := entered }).2.recorder.leaveCall
                session.recorder.active).1 with
            | none => pure (answer step { session with recorder := entered }).1
            | some span => do
                let result := (answer step { session with recorder := entered }).1
                logSpan span result.toOption.isSome
                pure
                  (if result.toOption.isSome then
                    result.map (Report.withSpans span.record)
                  else
                    result) :
            Stage (Except Fault Report))
          { (answer step { session with recorder := entered }).2 with
            recorder :=
              ((answer step { session with recorder := entered }).2.recorder.leaveCall
                session.recorder.active).2 }) = _
      dsimp only
      generalize answer step { session with recorder := entered } = ended
      rcases ended with ⟨result, later⟩
      cases (later.recorder.leaveCall session.recorder.active).1 with
      | none =>
          rfl
      | some span =>
          cases result <;> rfl

/-- A traced operation answers as its step does, apart from the spans of a report. -/
theorem exists_answer_tracedReport
    (name : String)
    (step : Attempt Report)
    (session : Session) :
    ∃ (entered : Session) (attach : Report → Report),
      entered.ground = session.ground ∧
        (∀ report, ∃ extra, attach report = { report with extra := extra }) ∧
          (answer (tracedReport name step) session).1 =
            (answer step entered).1.map attach := by
  rcases entry : session.recorder.enterCall? name with _ | entered
  · refine ⟨session, id, rfl, fun report => ⟨report.extra, rfl⟩, ?_⟩
    rw [answer_tracedReport, entry]
    cases (answer step session).1 <;> rfl
  · rw [answer_tracedReport, entry]
    dsimp only
    rcases
      (((answer step { session with recorder := entered }).2.recorder.leaveCall
        session.recorder.active).1) with _ | span
    · refine
        ⟨{ session with recorder := entered }, id, rfl,
          fun report => ⟨report.extra, rfl⟩, ?_⟩
      cases (answer step { session with recorder := entered }).1 <;> rfl
    · refine
        ⟨{ session with recorder := entered }, Report.withSpans span.record, rfl,
          fun report => ⟨_, rfl⟩, ?_⟩
      cases (answer step { session with recorder := entered }).1 <;> rfl

theorem answers_tracedReport_error
    {name : String}
    {step : Attempt Report}
    {session : Session}
    {fault : Fault}
    (stopped :
      ∀ entered, entered.ground = session.ground → Answers step entered (.error fault)) :
    Answers (tracedReport name step) session (.error fault) := by
  obtain ⟨entered, attach, same, -, traced⟩ :=
    exists_answer_tracedReport name step session
  rw [Answers, traced, stopped entered same]
  rfl

/-! ## What plugins offer -/

/-- A step that answers the same wherever it is taken, and only writes to the log. -/
def OnlyLogs {α : Type} (step : Plugin.Logged α) : Prop :=
  ∃ value events,
    ∀ surroundings,
      step.run surroundings =
        (value, { surroundings with log := surroundings.log ++ events })

/-- What a step that only logs answers. -/
def offered {α : Type} (session : Session) (step : Plugin.Logged α) : α :=
  (step.run session.surroundings).1

namespace OnlyLogs

variable {α β : Type}

theorem pure (value : α) : OnlyLogs (pure value : Plugin.Logged α) :=
  ⟨value, [], fun surroundings => by rw [List.append_nil]; rfl⟩

theorem log
    (level : LogLevel)
    (event : String)
    (fields : List (String × Value)) :
    OnlyLogs (Plugin.log level event fields) :=
  ⟨(), _, fun _ => rfl⟩

theorem bind
    {step : Plugin.Logged α}
    {next : α → Plugin.Logged β}
    (first : OnlyLogs step)
    (rest : ∀ value, OnlyLogs (next value)) :
    OnlyLogs (step >>= next) := by
  obtain ⟨value, events, run⟩ := first
  obtain ⟨result, further, goOn⟩ := rest value
  refine ⟨result, events ++ further, fun surroundings => ?_⟩
  rw [StateT.run_bind, run]
  refine (goOn _).trans ?_
  rw [List.append_assoc]

theorem collect
    (hookName : String)
    (offer : Plugin.PluginClass → Option (Plugin.Offer α))
    (merged : Table String α)
    (plugins : List (String × Plugin.Instance)) :
    OnlyLogs (Plugin.Manager.collect hookName offer merged plugins) := by
  induction plugins generalizing merged with
  | nil =>
      exact .pure merged
  | cons entry rest inductionHypothesis =>
      rcases entry with ⟨name, plugin⟩
      rw [Plugin.Manager.collect]
      split
      · exact inductionHypothesis merged
      · split
        · exact .bind (.log _ _ _) fun _ => inductionHypothesis merged
        · split
          · exact inductionHypothesis _
          · exact inductionHypothesis merged
          · exact .bind (.log _ _ _) fun _ => inductionHypothesis merged
          · exact .bind (.log _ _ _) fun _ => inductionHypothesis merged

theorem functions (manager : Plugin.Manager) : OnlyLogs manager.functions :=
  .collect _ _ _ _

theorem backends (manager : Plugin.Manager) : OnlyLogs manager.backends :=
  .collect _ _ _ _

theorem frameworks (manager : Plugin.Manager) : OnlyLogs manager.frameworks :=
  .bind (.collect _ _ _ _) fun _ => .pure _

end OnlyLogs

/-- Plugins can be asked at any time. -/
theorem Settles.consult
    {α : Type}
    {step : Plugin.Logged α}
    (logs : OnlyLogs step)
    (session later : Session) :
    Settles (Service.consult step) later (.ok (offered session step)) := by
  obtain ⟨value, events, run⟩ := logs
  refine ⟨{ later with surroundings := (step.run later.surroundings).2 }, ?_, ?_⟩
  · rw [offered, run]
    change ((Except.ok (step.run later.surroundings).1 : Except Fault α), _) = _
    rw [run]
  · rw [run]
    rfl

/-! ## Running in a fresh scene -/

/-- A scene that a service starts a script in. -/
structure FreshScene (project : Project) (session : Session) (scene : Run.Scene) : Prop where
  context :
    scene.context =
      { page := .blank, functions := offered session project.plugins.functions }
  surroundings : scene.surroundings.quiet = session.surroundings.quiet
  cache : scene.cache = session.cache
  record : scene.record = {}

/-- What a service does behind a script follows from what the script does in a fresh scene. -/
theorem exists_answers_inScene
    {α β : Type}
    {session later : Session}
    (project : Project)
    (same : later.ground = session.ground)
    (step : StateM Run.Scene α)
    (next : α × Run.Scene → Attempt β) :
    ∃ scene,
      FreshScene project session scene ∧
        ∀ result,
          (∀ last, Answers (next (step.run scene)) last result) →
            Answers
              (liftM (inScene (offered session project.plugins.functions) step) >>= next)
              later result :=
  ⟨{ context :=
       { page := .blank, functions := offered session project.plugins.functions }
     surroundings := later.surroundings
     cache := later.cache },
    ⟨rfl, congrArg Prod.fst same, congrArg Prod.snd same, rfl⟩,
    fun _ answers => answers _⟩

/-! ## Warnings of a report -/

theorem items_text
    (position : Nat)
    (texts : List String) :
    Validation.items Validation.text position (texts.map Value.text) = .ok texts := by
  induction texts generalizing position with
  | nil =>
      rfl
  | cons first rest inductionHypothesis =>
      rw [List.map_cons, Validation.items, inductionHypothesis]
      rfl

theorem checkedWarnings_text
    (texts : List String) :
    Report.checkedWarnings (texts.map Value.text) = .ok texts := by
  rw [Report.checkedWarnings, Validation.list, items_text]
  rfl

/-- What follows from warnings if a report can hold them. -/
theorem answer_checked
    {α : Type}
    (warnings : List Value)
    (report : List String → α)
    (session : Session) :
    answer
        (do
          let checked ← (liftM (Report.checkedWarnings warnings) : Attempt (List String))
          pure (report checked))
        session =
      ((Report.checkedWarnings warnings).map report, session) := by
  cases Report.checkedWarnings warnings <;> rfl

theorem answers_checked
    {α : Type}
    (warnings : List Value)
    (report : List String → α)
    (session : Session) :
    Answers
      (do
        let checked ← (liftM (Report.checkedWarnings warnings) : Attempt (List String))
        pure (report checked))
      session ((Report.checkedWarnings warnings).map report) :=
  congrArg Prod.fst (answer_checked warnings report session)

theorem items_text_cases
    (position : Nat)
    (values : List Value) :
    (∃ texts : List String, values = texts.map Value.text) ∨
      (∃ value ∈ values, ∀ text, value ≠ .text text) ∧
        ∃ issues,
          Validation.items Validation.text position values = .error issues := by
  induction values generalizing position with
  | nil =>
      exact .inl ⟨[], rfl⟩
  | cons first rest inductionHypothesis =>
      by_cases isText : ∃ text, first = .text text
      · obtain ⟨text, rfl⟩ := isText
        rcases inductionHypothesis (position + 1) with
          ⟨texts, rfl⟩ | ⟨⟨value, member, noText⟩, issues, refused⟩
        · exact .inl ⟨text :: texts, rfl⟩
        · refine .inr ⟨⟨value, List.mem_cons_of_mem _ member, noText⟩, issues, ?_⟩
          rw [Validation.items, refused]
          rfl
      · have noText : ∀ text, first ≠ .text text := not_exists.mp isText
        refine .inr ⟨⟨first, List.mem_cons_self, noText⟩, ?_⟩
        have refused : Validation.text first = .error [⟨.notText, []⟩] := by
          cases first with
          | text value =>
              exact absurd rfl (noText value)
          | _ =>
              rfl
        rw [Validation.items, refused]
        rcases Validation.items Validation.text (position + 1) rest with further | _ <;>
          exact ⟨_, rfl⟩

/-- Warnings are texts, or a report cannot hold them. -/
theorem checkedWarnings_cases
    (warnings : List Value) :
    (∃ texts : List String, warnings = texts.map Value.text) ∨
      (∃ warning ∈ warnings, ∀ text, warning ≠ .text text) ∧
        ∃ issues, Report.checkedWarnings warnings = .error (.invalid issues) := by
  refine (items_text_cases 0 warnings).imp_right fun ⟨other, issues, refused⟩ =>
    ⟨other, ?_⟩
  rw [Report.checkedWarnings, Validation.list, refused]
  exact ⟨_, rfl⟩

theorem items_concat
    (position : Nat)
    (values : List Value)
    (text : String) :
    Validation.items Validation.text position (values ++ [.text text]) =
      (Validation.items Validation.text position values).map (· ++ [text]) := by
  induction values generalizing position with
  | nil =>
      rfl
  | cons first rest inductionHypothesis =>
      rw [List.cons_append, Validation.items, Validation.items, inductionHypothesis]
      cases Validation.Checked.within (toString position) (Validation.text first) <;>
        cases Validation.items Validation.text (position + 1) rest <;> rfl

/-- A further text behind the warnings is one more warning of the report. -/
theorem checkedWarnings_concat
    (warnings : List Value)
    (text : String) :
    Report.checkedWarnings (warnings ++ [.text text]) =
      (Report.checkedWarnings warnings).map (· ++ [text]) := by
  rw [Report.checkedWarnings, Report.checkedWarnings, Validation.list, Validation.list,
    items_concat]
  cases Validation.items Validation.text 0 warnings <;> rfl

/-! ## Telling plugins -/

/-- A session with other calls and another log. -/
def Session.noting (session : Session) (calls : List Call) (log : List LogEvent) : Session :=
  { session with surroundings := { session.surroundings with calls := calls, log := log } }

/-- The warning that a hook failed. -/
def hookWarning (hook : Plugin.Hook) : String :=
  "Event dispatch failed for " ++ hook.name

/-- What telling plugins does: they record calls, and a failure becomes a warning. -/
theorem exists_answer_tell
    (project : Project)
    (hook : Plugin.Hook)
    (arguments warnings : List Value)
    (session : Session) :
    ∃ log,
      answer (liftM (project.tell hook arguments warnings)) session =
        (.ok
            (warnings ++
              if project.plugins.failsOn hook then [.text (hookWarning hook)] else []),
          session.noting
            (session.surroundings.calls ++ project.plugins.heard hook arguments) log) := by
  let manager := project.plugins
  let told := session.surroundings.calls ++ manager.heard hook arguments
  obtain ⟨fault, run⟩ := manager.exists_run_dispatch hook arguments session.surroundings
  have dispatched :
      StateT.run (outside (manager.dispatch hook arguments)) session =
        (if manager.failsOn hook then .error fault else .ok (),
          session.noting told session.surroundings.log) := by
    change
      (((manager.dispatch hook arguments).run session.surroundings).1,
        { session with
          surroundings := ((manager.dispatch hook arguments).run session.surroundings).2 }) = _
    rw [run]
    rfl
  have tells :
      ∃ log,
        StateT.run (project.tell hook arguments warnings) session =
          (warnings ++ if manager.failsOn hook then [.text (hookWarning hook)] else [],
            session.noting told log) := by
    rw [Project.tell, StateT.run_bind, dispatched]
    cases manager.failsOn hook with
    | true =>
        exact ⟨_, rfl⟩
    | false =>
        rw [if_neg Bool.false_ne_true, if_neg Bool.false_ne_true, List.append_nil]
        exact ⟨_, rfl⟩
  obtain ⟨log, tells⟩ := tells
  refine ⟨log, ?_⟩
  change
    (Except.ok (StateT.run (project.tell hook arguments warnings) session).1,
      (StateT.run (project.tell hook arguments warnings) session).2) = _
  rw [tells]

/-- What plugins are told adds at most a warning. -/
theorem exists_answers_tell
    (project : Project)
    (hook : Plugin.Hook)
    (arguments warnings : List Value)
    (session : Session) :
    ∃ told : List String,
      Answers (liftM (project.tell hook arguments warnings)) session
        (.ok (warnings ++ told.map Value.text)) := by
  obtain ⟨log, tells⟩ := exists_answer_tell project hook arguments warnings session
  refine ⟨if project.plugins.failsOn hook then [hookWarning hook] else [], ?_⟩
  rw [Answers, tells]
  cases project.plugins.failsOn hook <;> rfl

end PageScript.Service
