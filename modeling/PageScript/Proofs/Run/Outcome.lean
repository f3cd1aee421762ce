import PageScript.Run.Host

namespace PageScript.Run

/-!
# Outcomes of actions

An action takes a scene to an outcome: a value or a fault, and the scene
afterwards.  The equations below run actions step by step.  Two actions agree
when scenes with the same context take them to the same value or fault and to
the same context, whatever the surroundings are.

Commands run one after the other, up to the first that stops.  The scenes between
them form a path, along which every command takes effect that comes before the one
that stops.  What comes after it is never looked at.
-/

variable {α β : Type}

/-- What an action does to a scene. -/
def outcome (action : Action α) (scene : Scene) : Except Fault α × Scene :=
  (ExceptT.run action).run scene

/-! ## Running actions -/

/-- A value changes nothing. -/
@[simp] theorem outcome_pure
    (value : α)
    (scene : Scene) :
    outcome (pure value) scene = (.ok value, scene) :=
  rfl

/-- A fault changes nothing. -/
@[simp] theorem outcome_throw
    (fault : Fault)
    (scene : Scene) :
    outcome (throw fault : Action α) scene = (.error fault, scene) :=
  rfl

/-- The scene can be looked at. -/
@[simp] theorem outcome_get_bind
    (next : Scene → Action β)
    (scene : Scene) :
    outcome (get >>= next) scene = outcome (next scene) scene :=
  rfl

@[simp] theorem outcome_modify
    (change : Scene → Scene)
    (scene : Scene) :
    outcome (modify change : Action PUnit) scene = (.ok (), change scene) :=
  rfl

/-- A step is followed by the next one unless it stops. -/
theorem outcome_bind
    (action : Action α)
    (next : α → Action β)
    (scene : Scene) :
    outcome (action >>= next) scene =
      match outcome action scene with
      | (.ok value, reached) => outcome (next value) reached
      | (.error fault, reached) => (.error fault, reached) := by
  change
    (ExceptT.bindCont next (outcome action scene).1).run
        (outcome action scene).2 = _
  rcases outcome action scene with ⟨result, reached⟩
  cases result <;> rfl

theorem outcome_bind_ok
    {action : Action α}
    {next : α → Action β}
    {scene reached : Scene}
    {value : α}
    (done : outcome action scene = (.ok value, reached)) :
    outcome (action >>= next) scene = outcome (next value) reached := by
  rw [outcome_bind, done]

/-- After a step that stops nothing follows. -/
theorem outcome_bind_error
    {action : Action α}
    {next : α → Action β}
    {scene reached : Scene}
    {fault : Fault}
    (stopped : outcome action scene = (.error fault, reached)) :
    outcome (action >>= next) scene = (.error fault, reached) := by
  rw [outcome_bind, stopped]

/-- A handler runs after a fault, in the scene that the fault leaves. -/
theorem outcome_tryCatch
    (action : Action α)
    (handler : Fault → Action α)
    (scene : Scene) :
    outcome (tryCatch action handler) scene =
      match outcome action scene with
      | (.ok value, reached) => (.ok value, reached)
      | (.error fault, reached) => outcome (handler fault) reached := by
  simp only [outcome, tryCatch, tryCatchThe, MonadExceptOf.tryCatch,
    ExceptT.tryCatch, ExceptT.run_mk, StateT.run_bind]
  change
    (StateT.run action scene >>= fun reached : Except Fault α × Scene =>
      StateT.run _ reached.2 : Id (Except Fault α × Scene)) =
      match (StateT.run action scene : Except Fault α × Scene) with
      | (.ok value, reached) => (.ok value, reached)
      | (.error fault, reached) => outcome (handler fault) reached
  rcases (StateT.run action scene : Except Fault α × Scene) with
    ⟨result, reached⟩
  cases result <;> rfl

@[simp] theorem outcome_require_ok
    {ε : Type}
    (fault : ε → Fault)
    (value : α)
    (scene : Scene) :
    outcome (require fault (.ok value)) scene = (.ok value, scene) :=
  rfl

@[simp] theorem outcome_require_error
    {ε : Type}
    (fault : ε → Fault)
    (error : ε)
    (scene : Scene) :
    outcome (require fault (.error error) : Action α) scene =
      (.error (fault error), scene) :=
  rfl

/-- A change of the context leaves the rest of the scene. -/
@[simp] theorem outcome_changeContext
    (change : Context → Context)
    (scene : Scene) :
    outcome (changeContext change) scene =
      (.ok (), { scene with context := change scene.context }) :=
  rfl

/-- A scene with one more log event. -/
def Scene.logged (scene : Scene) (event : World.LogEvent) : Scene :=
  { scene with surroundings := scene.surroundings.report event }

@[simp] theorem Scene.context_logged
    (scene : Scene)
    (event : World.LogEvent) :
    (scene.logged event).context = scene.context :=
  rfl

/-- Reporting adds a log event. -/
@[simp] theorem outcome_report
    (level : World.LogLevel)
    (logger event : String)
    (fields : List (String × Value))
    (scene : Scene) :
    outcome (report level logger event fields) scene =
      (.ok (), scene.logged ⟨level, logger, event, fields⟩) :=
  rfl

/-- The log event that announces a command. -/
def announcement (placed : Script.PlacedCommand) : World.LogEvent :=
  ⟨.debug, "hsxctl.services.interpreter", "command.execute", placed.summary⟩

/-- The scene of a blank page in empty surroundings. -/
def bareScene : Scene :=
  { context := { page := .blank }
    surroundings :=
      { files := ⟨⟨[]⟩⟩
        directory := []
        home := "/"
        environment := ⟨[]⟩
        pages := ⟨[]⟩ } }

/-! ## Agreement -/

/--
Two actions agree when scenes with the same context take them to the same value
or fault and to the same context.
-/
def Agree (first second : Action α) : Prop :=
  ∀ left right : Scene,
    left.context = right.context →
      (outcome first left).1 = (outcome second right).1 ∧
        (outcome first left).2.context = (outcome second right).2.context

namespace Agree

/--
An outcome of one action is followed by the same outcome of an agreeing one.
-/
theorem exists_outcome
    {first second : Action α}
    {left right ended : Scene}
    {result : Except Fault α}
    (agree : Agree first second)
    (same : left.context = right.context)
    (step : outcome first left = (result, ended)) :
    ∃ next,
      outcome second right = (result, next) ∧ ended.context = next.context := by
  obtain ⟨sameResult, sameContext⟩ := agree left right same
  rw [step] at sameResult sameContext
  exact ⟨(outcome second right).2, Prod.ext sameResult.symm rfl, sameContext⟩

theorem pure
    (value : α) :
    Agree (pure value : Action α) (Pure.pure value) :=
  fun _ _ same => ⟨rfl, same⟩

theorem throw
    (fault : Fault) :
    Agree (throw fault : Action α) (throwThe Fault fault) :=
  fun _ _ same => ⟨rfl, same⟩

theorem require
    {ε : Type}
    (fault : ε → Fault)
    (result : Except ε α) :
    Agree (Run.require fault result) (Run.require fault result) := by
  cases result with
  | ok value =>
      exact .pure value
  | error error =>
      exact .throw (fault error)

theorem changeContext
    (change : Context → Context) :
    Agree (Run.changeContext change) (Run.changeContext change) :=
  fun _ _ same => ⟨rfl, congrArg change same⟩

/-- Changes of the surroundings agree, whatever they are. -/
theorem changeSurroundings
    (first second : World.Surroundings → World.Surroundings) :
    Agree (Run.changeSurroundings first) (Run.changeSurroundings second) :=
  fun _ _ same => ⟨rfl, same⟩

/-- Agreeing steps followed by agreeing steps agree. -/
theorem bind
    {first second : Action α}
    {firstNext secondNext : α → Action β}
    (step : Agree first second)
    (next : ∀ value, Agree (firstNext value) (secondNext value)) :
    Agree (first >>= firstNext) (second >>= secondNext) := by
  -- Both first steps end alike, so both stop there or both go on.
  intro left right same
  rw [outcome_bind, outcome_bind]
  have reached := step left right same
  revert reached
  rcases outcome first left with ⟨leftResult, leftReached⟩
  rcases outcome second right with ⟨rightResult, rightReached⟩
  rintro ⟨sameResult, sameContext⟩
  dsimp only at sameResult sameContext
  subst sameResult
  cases leftResult with
  | error fault =>
      exact ⟨rfl, sameContext⟩
  | ok value =>
      exact next value leftReached rightReached sameContext

/-- Steps that look at the context alone agree. -/
theorem get_bind
    {next : Scene → Action α}
    (each :
      ∀ left right : Scene,
        left.context = right.context → Agree (next left) (next right)) :
    Agree (get >>= next) (get >>= next) :=
  fun left right same => each left right same left right same

theorem report
    (level : World.LogLevel)
    (logger event : String)
    (fields : List (String × Value)) :
    Agree (Run.report level logger event fields)
      (Run.report level logger event fields) :=
  .changeSurroundings _ _

theorem recordCall
    (call : World.Call) :
    Agree (Run.recordCall call) (Run.recordCall call) :=
  .changeSurroundings _ _

end Agree

/-- What functions do is a matter of the context and the arguments alone. -/
def Meaning.SeesContext (meaning : Meaning) : Prop :=
  ∀ function arguments, Agree (meaning function arguments) (meaning function arguments)

/-! ## What actions keep -/

/-- An action keeps a view of the scene, whether it stops or not. -/
def Keeps {β : Type} (view : Scene → β) (action : Action α) : Prop :=
  ∀ scene, view (outcome action scene).2 = view scene

namespace Keeps

variable {γ : Type} {view : Scene → γ}

theorem pure
    (value : α) :
    Keeps view (pure value : Action α) :=
  fun _ => rfl

theorem throw
    (fault : Fault) :
    Keeps view (throw fault : Action α) :=
  fun _ => rfl

theorem require
    {ε : Type}
    (fault : ε → Fault)
    (result : Except ε α) :
    Keeps view (Run.require fault result) := by
  cases result with
  | ok value =>
      exact .pure value
  | error error =>
      exact .throw (fault error)

/-- What two steps keep is kept by one after the other. -/
theorem bind
    {action : Action α}
    {next : α → Action β}
    (step : Keeps view action)
    (rest : ∀ value, Keeps view (next value)) :
    Keeps view (action >>= next) := by
  intro scene
  have first := step scene
  rw [outcome_bind]
  revert first
  rcases outcome action scene with ⟨result, reached⟩
  intro first
  cases result with
  | error fault =>
      exact first
  | ok value =>
      exact (rest value reached).trans first

theorem get_bind
    {next : Scene → Action α}
    (rest : ∀ scene, Keeps view (next scene)) :
    Keeps view (get >>= next) :=
  fun scene => rest scene scene

/-- What a step and its handler keep is kept, whether the handler runs or not. -/
theorem tryCatch
    {action : Action α}
    {handler : Fault → Action α}
    (step : Keeps view action)
    (handled : ∀ fault, Keeps view (handler fault)) :
    Keeps view (tryCatch action handler) := by
  intro scene
  have first := step scene
  rw [outcome_tryCatch]
  revert first
  rcases outcome action scene with ⟨fault | value, reached⟩
  · exact (handled fault reached).trans
  · exact id

end Keeps

/-! ## Runs that stop -/

open Script

/-- How a run of commands ends that starts with a number of executed commands. -/
def runBy
    (executor : Executor)
    (executed : Nat)
    (commands : List PlacedCommand)
    (scene : Scene) :
    RunEnd × Scene :=
  (runAll executor executed commands).run scene

/-- A path with one more scene before it. -/
def pathFrom (scene : Scene) (path : Nat → Scene) : Nat → Scene
  | 0 => scene
  | index + 1 => path index

/-- Commands take effect one after the other along a path of scenes. -/
def TakesEffect
    (executor : Executor)
    (commands : List PlacedCommand)
    (path : Nat → Scene) :
    Prop :=
  ∀ index placed,
    commands[index]? = some placed →
      outcome (executor placed) (path index) = (.ok (), path (index + 1))

/-- The commands before a position take effect, and the one there stops. -/
structure StopsAt
    (executor : Executor)
    (commands : List PlacedCommand)
    (path : Nat → Scene)
    (index : Nat)
    (placed : PlacedCommand)
    (fault : Fault)
    (ended : Scene) :
    Prop where
  found : commands[index]? = some placed
  before : TakesEffect executor (commands.take index) path
  stop : outcome (executor placed) (path index) = (.error fault, ended)

section Runs

variable
  {executor : Executor}
  {commands rest before : List PlacedCommand}
  {placed : PlacedCommand}
  {path : Nat → Scene}
  {index : Nat}
  {fault : Fault}
  {scene ended : Scene}

/-- A run goes on after a command unless the command stops it. -/
theorem runBy_cons
    (executor : Executor)
    (executed : Nat)
    (placed : PlacedCommand)
    (rest : List PlacedCommand)
    (scene : Scene) :
    runBy executor executed (placed :: rest) scene =
      match outcome (executor placed) scene with
      | (.ok (), reached) => runBy executor (executed + 1) rest reached
      | (.error fault, reached) =>
          (⟨executed, some (placed, fault)⟩, reached) := by
  rw [runBy, runAll, StateT.run_bind]
  change
    (outcome (executor placed) scene >>=
      fun reached : Except Fault Unit × Scene =>
        StateT.run _ reached.2 : Id (RunEnd × Scene)) = _
  rcases outcome (executor placed) scene with ⟨result, reached⟩
  cases result <;> rfl

namespace TakesEffect

theorem nil : TakesEffect executor [] path :=
  nofun

theorem cons
    (step : outcome (executor placed) scene = (.ok (), path 0))
    (others : TakesEffect executor rest path) :
    TakesEffect executor (placed :: rest) (pathFrom scene path) := by
  intro index found
  cases index with
  | zero =>
      rintro ⟨⟩
      exact step
  | succ index =>
      exact others index found

/-- The first command takes effect, and the others do so behind it. -/
theorem uncons
    (effects : TakesEffect executor (placed :: rest) path) :
    outcome (executor placed) (path 0) = (.ok (), path 1) ∧
      TakesEffect executor rest fun n => path (n + 1) :=
  ⟨effects 0 placed rfl, fun index => effects (index + 1)⟩

/-- Behind commands that take effect a run goes on from the scene they reach. -/
theorem runBy_append
    (effects : TakesEffect executor before path)
    (executed : Nat)
    (after : List PlacedCommand) :
    runBy executor executed (before ++ after) (path 0) =
      runBy executor (executed + before.length) after (path before.length) := by
  induction before generalizing path executed with
  | nil =>
      rfl
  | cons placed rest inductionHypothesis =>
      obtain ⟨step, others⟩ := effects.uncons
      rw [List.cons_append, runBy_cons, step]
      dsimp only
      rw [inductionHypothesis others, List.length_cons, Nat.add_assoc,
        Nat.add_comm 1]

/-- When all commands take effect, the run counts them and ends behind them. -/
theorem runBy_eq
    (effects : TakesEffect executor commands path) :
    runBy executor 0 commands (path 0) =
      (⟨commands.length, none⟩, path commands.length) := by
  have appended := effects.runBy_append 0 []
  rwa [List.append_nil, Nat.zero_add] at appended

end TakesEffect

namespace StopsAt

theorem length_take
    (stops : StopsAt executor commands path index placed fault ended) :
    (commands.take index).length = index := by
  obtain ⟨bound, -⟩ := List.getElem?_eq_some_iff.mp stops.found
  rw [List.length_take]
  omega

/-- The run stops there whatever commands come after. -/
theorem runBy_append
    (stops : StopsAt executor commands path index placed fault ended)
    (later : List PlacedCommand) :
    runBy executor 0 (commands.take (index + 1) ++ later) (path 0) =
      (⟨index, some (placed, fault)⟩, ended) := by
  rw [List.take_add_one, stops.found, List.append_assoc,
    stops.before.runBy_append, stops.length_take, Nat.zero_add]
  change runBy executor index (placed :: later) (path index) = _
  rw [runBy_cons, stops.stop]

theorem runBy_eq
    (stops : StopsAt executor commands path index placed fault ended) :
    runBy executor 0 commands (path 0) =
      (⟨index, some (placed, fault)⟩, ended) := by
  have run := stops.runBy_append (commands.drop (index + 1))
  rwa [List.take_append_drop] at run

theorem cons
    {first : PlacedCommand}
    (step : outcome (executor first) scene = (.ok (), path 0))
    (stops : StopsAt executor rest path index placed fault ended) :
    StopsAt executor (first :: rest) (pathFrom scene path)
      (index + 1) placed fault ended where
  found := stops.found
  before := .cons step stops.before
  stop := stops.stop

/-- The commands are those before the one that stops, this one, and those after it. -/
theorem split
    (stops : StopsAt executor commands path index placed fault ended) :
    commands = commands.take index ++ placed :: commands.drop (index + 1) := by
  have parts := List.take_append_drop (index + 1) commands
  rw [List.take_add_one, stops.found, List.append_assoc] at parts
  exact parts.symm

end StopsAt

/-- Every command takes effect, or there is a first one that stops. -/
theorem exists_path
    (executor : Executor)
    (commands : List PlacedCommand)
    (scene : Scene) :
    ∃ path : Nat → Scene,
      path 0 = scene ∧
        (TakesEffect executor commands path ∨
          ∃ index placed fault ended,
            StopsAt executor commands path index placed fault ended) := by
  induction commands generalizing scene with
  | nil =>
      exact ⟨fun _ => scene, rfl, .inl .nil⟩
  | cons placed rest inductionHypothesis =>
      rcases step : outcome (executor placed) scene with ⟨fault | done, reached⟩
      · exact
          ⟨fun _ => scene, rfl, .inr ⟨0, placed, fault, reached, rfl, .nil, step⟩⟩
      · obtain ⟨path, start, effects | ⟨index, other, fault, ended, stops⟩⟩ :=
          inductionHypothesis reached
        all_goals
          subst start
          refine ⟨pathFrom scene path, rfl, ?_⟩
        · exact .inl (.cons step effects)
        · exact .inr ⟨index + 1, other, fault, ended, stops.cons step⟩

/-- A complete run executes its commands along a path. -/
theorem exists_takesEffect
    {count : Nat}
    (complete : runBy executor 0 commands scene = (⟨count, none⟩, ended)) :
    ∃ path : Nat → Scene,
      path 0 = scene ∧
        TakesEffect executor commands path ∧
        path commands.length = ended ∧
        commands.length = count := by
  obtain ⟨path, rfl, effects | ⟨index, placed, fault, last, stops⟩⟩ :=
    exists_path executor commands scene
  · rw [effects.runBy_eq] at complete
    cases complete
    exact ⟨path, rfl, effects, rfl, rfl⟩
  · rw [stops.runBy_eq] at complete
    cases complete

/-- A run that stops does so behind a path of commands that take effect. -/
theorem exists_stopsAt
    (stopped :
      runBy executor 0 commands scene = (⟨index, some (placed, fault)⟩, ended)) :
    ∃ path : Nat → Scene,
      path 0 = scene ∧ StopsAt executor commands path index placed fault ended := by
  obtain ⟨path, rfl, effects | ⟨position, other, cause, last, stops⟩⟩ :=
    exists_path executor commands scene
  · rw [effects.runBy_eq] at stopped
    cases stopped
  · rw [stops.runBy_eq] at stopped
    cases stopped
    exact ⟨path, rfl, stops⟩

end Runs

end PageScript.Run
