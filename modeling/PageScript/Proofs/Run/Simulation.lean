import PageScript.Proofs.Run.Outcome

namespace PageScript.Run

open Script

/-!
# Runs of the two hosts

Variables, components and calls mean the same to both hosts: every action that they
share looks at the context alone, so runs from equal contexts stay in equal
contexts.  A build therefore follows the run of a page command by command, as long
as the commands are of the kinds that both hosts share.  When the run of the page
stops, the build stops at the same command with the same cause, except where a
variable cannot be evaluated: there it notes one warning and goes on.
-/

/-! ## Shared actions -/

namespace Agree

theorem warnAs
    (logger message : String) :
    Agree (Run.warnAs logger message) (Run.warnAs logger message) :=
  .bind (.report _ _ _ _) fun _ => .changeContext _

theorem evaluate
    (expression : String) :
    Agree (Run.evaluate expression) (Run.evaluate expression) := by
  refine .get_bind fun left right same => ?_
  rw [same]
  exact .require _ _

/-- A changed store replaces the old one, whatever the surroundings are. -/
theorem replaceStore
    {ε : Type}
    (fault : ε → Fault)
    (change : Context → Except ε State.Store) :
    Agree
      (do
        let scene ← get
        let store ← Run.require fault (change scene.context)
        Run.changeContext fun context => { context with store := store })
      (do
        let scene ← get
        let store ← Run.require fault (change scene.context)
        Run.changeContext fun context => { context with store := store }) := by
  refine .get_bind fun left right same => ?_
  rw [same]
  exact .bind (.require _ _) fun _ => .changeContext _

theorem setVariable
    (name value : Value)
    (reactive : Bool) :
    Agree (Run.setVariable name value reactive)
      (Run.setVariable name value reactive) :=
  .replaceStore _ fun context => context.store.setVariable name value reactive

theorem defineComponent
    (name content : Value) :
    Agree (Run.defineComponent name content)
      (Run.defineComponent name content) :=
  .replaceStore _ fun context => context.store.define name content

/-- Subscribers are told the same. -/
theorem tellSubscribers
    (value : Value)
    (subscribers : List State.Subscriber) :
    Agree (Run.tellSubscribers value subscribers)
      (Run.tellSubscribers value subscribers) := by
  induction subscribers with
  | nil =>
      exact .pure ()
  | cons subscriber rest inductionHypothesis =>
      refine .bind ?_ fun _ => inductionHypothesis
      cases subscriber with
      | substitution token slots =>
          exact .changeContext _
      | probe label fails =>
          refine .bind (.recordCall _) fun _ => ?_
          cases fails with
          | false =>
              exact .pure ()
          | true =>
              exact .throw _

/-- Updates of variables agree. -/
theorem updateVariable
    (name value : Value) :
    Agree (Run.updateVariable name value) (Run.updateVariable name value) := by
  refine .get_bind fun left right same => ?_
  rw [same]
  refine .bind (.require _ _) fun found => ?_
  cases found with
  | none =>
      exact .setVariable name value false
  | some cell =>
      refine .get_bind fun first second sameAgain => ?_
      rw [sameAgain]
      exact .bind (.require _ _) fun _ =>
        .bind (.changeContext _) fun _ => .tellSubscribers _ _

theorem subscribe
    (name : Value)
    (subscriber : State.Subscriber) :
    Agree (Run.subscribe name subscriber) (Run.subscribe name subscriber) := by
  refine .get_bind fun left right same => ?_
  rw [same]
  split
  · exact .bind (.require _ _) fun _ => .changeContext _
  · exact .pure ()

theorem resolve
    (selector : String) :
    Agree (Run.resolve selector) (Run.resolve selector) := by
  refine .get_bind fun left right same => ?_
  dsimp only
  rw [same]
  split
  · exact .pure _
  · exact .bind (.report _ _ _ _) fun _ => .pure _

theorem setContent
    (target : Document.NodeId)
    (markup : String) :
    Agree (Run.setContent target markup) (Run.setContent target markup) := by
  refine .get_bind fun left right same => ?_
  dsimp only
  rw [same]
  exact .bind (.changeContext _) fun _ => .require _ _

theorem runDescribed
    (name : String)
    (arguments : List Value)
    (behaviour : FunctionBehaviour) :
    Agree (Run.runDescribed name arguments behaviour)
      (Run.runDescribed name arguments behaviour) := by
  cases behaviour with
  | echo =>
      exact .bind (.recordCall _) fun _ => .pure _
  | echoLater =>
      exact .bind (.recordCall _) fun _ => .pure _
  | fail =>
      exact .bind (.recordCall _) fun _ => .throw _
  | failLater =>
      exact .bind (.recordCall _) fun _ => .throw _
  | single =>
      exact .bind (.recordCall _) fun _ => .pure _
  | define =>
      refine .bind (.recordCall _) fun _ => ?_
      split
      · exact .bind (.defineComponent _ _) fun _ => .pure _
      · exact .pure _
  | warn =>
      exact .bind (.changeContext _) fun _ => .pure _

theorem apply
    (function : Function)
    (arguments : List Value) :
    Agree (function.apply arguments) (function.apply arguments) := by
  refine .bind (.require _ _) fun _ => ?_
  cases function with
  | sleep =>
      cases arguments with
      | nil =>
          exact .pure _
      | cons seconds rest =>
          exact .bind (.require _ _) fun _ => .pure _
  | log =>
      exact .bind (.report _ _ _ _) fun _ => .pure _
  | update =>
      match arguments with
      | [] =>
          exact .pure _
      | [_] =>
          exact .pure _
      | name :: value :: _ =>
          exact .bind (.updateVariable name value) fun _ => .pure _
  | described owner name behaviour =>
      exact .runDescribed name arguments behaviour

theorem evaluateAll
    (expressions : List String) :
    Agree (Run.evaluateAll expressions) (Run.evaluateAll expressions) := by
  induction expressions with
  | nil =>
      exact .pure []
  | cons expression rest inductionHypothesis =>
      exact .bind (.evaluate expression) fun _ =>
        .bind inductionHypothesis fun _ => .pure _

/-- Calls agree when what functions do agrees. -/
theorem callBy
    {meaning : Meaning}
    (sees : meaning.SeesContext)
    (code : String) :
    Agree (Run.callBy meaning code) (Run.callBy meaning code) := by
  refine .bind (.require _ _) fun parsed => ?_
  refine .get_bind fun left right same => ?_
  rw [same]
  split
  · exact .throw _
  · exact .bind (.evaluateAll _) fun _ => sees _ _

theorem bindVariable
    (target : Document.NodeId)
    (name : Value) :
    Agree (Run.bindVariable target name) (Run.bindVariable target name) := by
  refine .get_bind fun left right same => ?_
  rw [same]
  cases name with
  | text characters =>
      dsimp only
      split
      · exact .pure 0
      · exact .bind (.subscribe _ _) fun _ => .pure _
  | _ =>
      exact .throw _

theorem bindVariables
    (target : Document.NodeId)
    (names : List Value) :
    Agree (Run.bindVariables target names)
      (Run.bindVariables target names) := by
  induction names with
  | nil =>
      exact .pure 0
  | cons name rest inductionHypothesis =>
      exact .bind (.bindVariable target name) fun _ =>
        .bind inductionHypothesis fun _ => .pure _

theorem writeTemplate
    (target : Document.NodeId)
    (content : Value) :
    Agree (Run.writeTemplate target content)
      (Run.writeTemplate target content) := by
  cases content with
  | text markup =>
      exact .setContent target markup
  | _ =>
      exact .bind (.setContent target "") fun _ => .throw _

theorem executeRender
    (name selector : String) :
    Agree (Run.executeRender name selector)
      (Run.executeRender name selector) := by
  have renders :
      Agree (renderInto name selector) (renderInto name selector) := by
    refine .get_bind fun left right same => ?_
    rw [same]
    split
    · exact .bind (.warnAs _ _) fun _ => .pure none
    · refine .bind (.resolve selector) fun found => ?_
      cases found with
      | none =>
          exact .bind (.warnAs _ _) fun _ => .pure none
      | some target =>
          exact .bind (.writeTemplate target _) fun _ => .pure (some target)
  refine .bind renders fun found => ?_
  cases found with
  | none =>
      exact .pure ()
  | some target =>
      refine .bind ?_ fun _ => .report _ _ _ _
      refine .get_bind fun left right same => ?_
      rw [same]
      exact .bindVariables target _

theorem executeDefine
    (name content : String) :
    Agree (Run.executeDefine name content)
      (Run.executeDefine name content) :=
  .bind (.defineComponent _ _) fun _ => .report _ _ _ _

theorem executeCall
    {meaning : Meaning}
    (sees : meaning.SeesContext)
    (code : String) :
    Agree (Run.executeCall meaning code) (Run.executeCall meaning code) :=
  .bind (.report _ _ _ _) fun _ => .bind (.callBy sees code) fun _ => .pure ()

theorem executeSet
    (name expression : String)
    (reactive : Bool) :
    Agree (Run.executeSet name expression reactive)
      (Run.executeSet name expression reactive) :=
  .bind (.evaluate expression) fun _ =>
    .bind (.setVariable _ _ _) fun _ => .report _ _ _ _

end Agree

/-- What the functions of a table do is a matter of the context and the arguments. -/
theorem seesContext_apply : Meaning.SeesContext Function.apply :=
  Agree.apply

/-! ## Shared commands -/

/-- The kinds of commands that mean the same to both hosts. -/
def isShared : CommandKind → Bool
  | .setVariable => true
  | .defineComponent => true
  | .renderComponent => true
  | .runAsync => true
  | _ => false

/-! ## One command -/

/-- A page executes a command after it is announced. -/
theorem outcome_executeBy_runtime
    (meaning : Meaning)
    (placed : PlacedCommand)
    (scene : Scene) :
    outcome (executeBy meaning .runtime placed) scene =
      outcome (executeAtRuntime meaning placed)
        (scene.logged (announcement placed)) :=
  rfl

/-- A build announces a command in the same way. -/
theorem outcome_executeBy_build
    (meaning : Meaning)
    (workshop : Workshop)
    (placed : PlacedCommand)
    (scene : Scene) :
    outcome (executeBy meaning (.build workshop) placed) scene =
      outcome (executeInBuild meaning workshop placed)
        (scene.logged (announcement placed)) :=
  rfl

/-- A scene with one more warning, and with more log events. -/
structure Scene.Warned
    (scene : Scene)
    (warning : Value)
    (reached : Scene) :
    Prop where
  context :
    reached.context =
      { scene.context with warnings := scene.context.warnings ++ [warning] }
  surroundings :
    ∃ events,
      reached.surroundings =
        { scene.surroundings with log := scene.surroundings.log ++ events }
  cache : reached.cache = scene.cache
  record : reached.record = scene.record

/-- Log events that follow another one follow what was logged before it. -/
theorem exists_events_of_logged
    {scene : Scene}
    {event : World.LogEvent}
    {surroundings : World.Surroundings}
    (logged :
      ∃ events,
        surroundings =
          { (scene.logged event).surroundings with
            log := (scene.logged event).surroundings.log ++ events }) :
    ∃ events,
      surroundings =
        { scene.surroundings with log := scene.surroundings.log ++ events } := by
  obtain ⟨events, rfl⟩ := logged
  exact ⟨event :: events, congrArg _ (List.append_assoc _ [event] events)⟩

/-- A warning is added to a scene, whatever has been logged before. -/
theorem Scene.Warned.of_logged
    {scene reached : Scene}
    {event : World.LogEvent}
    {warning : Value}
    (warned : (scene.logged event).Warned warning reached) :
    scene.Warned warning reached where
  context := warned.context
  surroundings := exists_events_of_logged warned.surroundings
  cache := warned.cache
  record := warned.record

/-- A variable that cannot be bound leaves everything as it was. -/
theorem scene_eq_of_executeSet_error
    {name expression : String}
    {reactive : Bool}
    {scene reached : Scene}
    {fault : Fault}
    (stopped :
      outcome (executeSet name expression reactive) scene =
        (.error fault, reached)) :
    reached = scene := by
  rw [executeSet, outcome_bind, evaluate, outcome_get_bind] at stopped
  revert stopped
  cases Script.evaluate scene.context.store.lookup expression with
  | error error =>
      intro stopped
      cases stopped
      rfl
  | ok value =>
      rw [outcome_require_ok]
      dsimp only
      rw [outcome_bind, setVariable, outcome_get_bind, outcome_bind]
      cases scene.context.store.setVariable (.text name) value reactive with
      | error error =>
          intro stopped
          cases stopped
          rfl
      | ok store =>
          intro stopped
          cases stopped

/-- The warning about a variable that cannot be evaluated. -/
def notSetMessage
    (line : Int)
    (name : String)
    (fault : Fault) :
    String :=
  "Line " ++ toString line ++ ": variable " ++ name ++ " not set: " ++
    fault.message

section Unset

variable
  {line : Int}
  {name expression : String}
  {reactive : Bool}
  {scene reached : Scene}
  {fault : Fault}

/-- A variable that can be bound is bound in a build. -/
theorem executeSetInBuild_of_ok
    (done :
      outcome (executeSet name expression reactive) scene =
        (.ok (), reached)) :
    outcome (executeSetInBuild line name expression reactive) scene =
      (.ok (), reached) := by
  rw [executeSetInBuild, outcome_tryCatch, done]

theorem executeSetInBuild_of_fault
    (stopped :
      outcome (executeSet name expression reactive) scene =
        (.error fault, reached))
    (fatal : fault.isEvaluation = false) :
    outcome (executeSetInBuild line name expression reactive) scene =
      (.error fault, reached) := by
  rw [executeSetInBuild, outcome_tryCatch, stopped]
  dsimp only
  rw [fatal]
  rfl

/-- A failed evaluation leaves a warning in a build. -/
theorem executeSetInBuild_of_evaluation
    (line : Int)
    (stopped :
      outcome (executeSet name expression reactive) scene =
        (.error fault, reached))
    (evaluation : fault.isEvaluation = true) :
    ∃ next,
      outcome (executeSetInBuild line name expression reactive) scene =
          (.ok (), next) ∧
        scene.Warned (.text (notSetMessage line name fault)) next := by
  -- The failed binding has changed nothing that the warning would keep.
  cases scene_eq_of_executeSet_error stopped
  rw [executeSetInBuild, outcome_tryCatch, stopped]
  dsimp only
  rw [evaluation]
  exact ⟨_, rfl, rfl, ⟨_, rfl⟩, rfl, rfl⟩

end Unset

section Step

variable
  {meaning : Meaning}
  {placed : PlacedCommand}
  {live built ended : Scene}
  {fault : Fault}

/-- The hosts agree on shared commands that bind no variable. -/
theorem Agree.executeShared
    (sees : meaning.SeesContext)
    (workshop : Workshop)
    (shared : isShared placed.command.kind)
    (unset : placed.command.kind ≠ .setVariable) :
    Agree (executeBy meaning .runtime placed)
      (executeBy meaning (.build workshop) placed) := by
  refine .bind (.report _ _ _ _) fun _ => ?_
  rcases placed with ⟨command, line⟩
  cases command with
  | setVariable name expression reactive =>
      exact absurd rfl unset
  | defineComponent name content =>
      exact .executeDefine name content
  | renderComponent name selector =>
      exact .executeRender name selector
  | runAsync code =>
      exact .executeCall sees code
  | _ =>
      cases shared

theorem exists_of_kind_setVariable
    {command : Command}
    (isSet : command.kind = .setVariable) :
    ∃ name expression reactive,
      command = .setVariable name expression reactive := by
  cases command with
  | setVariable name expression reactive =>
      exact ⟨name, expression, reactive, rfl⟩
  | _ =>
      cases isSet

/-- The binding of a variable on a page is followed inside a build. -/
theorem exists_set_of_execute
    {name expression : String}
    {reactive : Bool}
    {line : Int}
    {result : Except Fault Unit}
    (same : live.context = built.context)
    (step :
      outcome
            (executeBy meaning .runtime
              ⟨.setVariable name expression reactive, line⟩)
            live =
        (result, ended)) :
    ∃ next,
      outcome (executeSet name expression reactive)
            (built.logged
              (announcement ⟨.setVariable name expression reactive, line⟩)) =
          (result, next) ∧
        ended.context = next.context := by
  rw [outcome_executeBy_runtime] at step
  have agreement := Agree.executeSet name expression reactive
  refine agreement.exists_outcome ?_ step
  exact same

/-- A command that takes effect on a page takes the same effect in a build. -/
theorem exists_build_step_of_ok
    (sees : meaning.SeesContext)
    (workshop : Workshop)
    (shared : isShared placed.command.kind)
    (same : live.context = built.context)
    (step : outcome (executeBy meaning .runtime placed) live = (.ok (), ended)) :
    ∃ next,
      outcome (executeBy meaning (.build workshop) placed) built = (.ok (), next) ∧
        ended.context = next.context := by
  by_cases isSet : placed.command.kind = .setVariable
  · rcases placed with ⟨command, line⟩
    obtain ⟨name, expression, reactive, rfl⟩ :=
      exists_of_kind_setVariable isSet
    obtain ⟨next, done, sameContext⟩ := exists_set_of_execute same step
    rw [outcome_executeBy_build]
    exact ⟨next, executeSetInBuild_of_ok done, sameContext⟩
  · exact (Agree.executeShared sees workshop shared isSet).exists_outcome same step

/-- A command that stops a page stops a build for the same cause. -/
theorem exists_build_step_of_error
    (sees : meaning.SeesContext)
    (workshop : Workshop)
    (shared : isShared placed.command.kind)
    (same : live.context = built.context)
    (step :
      outcome (executeBy meaning .runtime placed) live = (.error fault, ended))
    (fatal :
      ¬(placed.command.kind = .setVariable ∧ fault.isEvaluation = true)) :
    ∃ next,
      outcome (executeBy meaning (.build workshop) placed) built =
          (.error fault, next) ∧
        ended.context = next.context := by
  by_cases isSet : placed.command.kind = .setVariable
  · have notEvaluation : fault.isEvaluation = false :=
      Bool.eq_false_iff.mpr fun evaluation => fatal ⟨isSet, evaluation⟩
    rcases placed with ⟨command, line⟩
    obtain ⟨name, expression, reactive, rfl⟩ :=
      exists_of_kind_setVariable isSet
    obtain ⟨next, done, sameContext⟩ := exists_set_of_execute same step
    rw [outcome_executeBy_build]
    exact ⟨next, executeSetInBuild_of_fault done notEvaluation, sameContext⟩
  · exact (Agree.executeShared sees workshop shared isSet).exists_outcome same step

/-- A variable that a page cannot evaluate leaves a warning in a build. -/
theorem exists_build_step_of_evaluation
    (workshop : Workshop)
    {name expression : String}
    {reactive : Bool}
    {line : Int}
    (same : live.context = built.context)
    (step :
      outcome
            (executeBy meaning .runtime
              ⟨.setVariable name expression reactive, line⟩)
            live =
        (.error fault, ended))
    (evaluation : fault.isEvaluation = true) :
    ∃ next,
      outcome
            (executeBy meaning (.build workshop)
              ⟨.setVariable name expression reactive, line⟩)
            built =
          (.ok (), next) ∧
        built.Warned (.text (notSetMessage line name fault)) next := by
  obtain ⟨stoppedIn, stopped, -⟩ := exists_set_of_execute same step
  obtain ⟨next, done, warned⟩ :=
    executeSetInBuild_of_evaluation line stopped evaluation
  rw [outcome_executeBy_build]
  exact ⟨next, done, warned.of_logged⟩

end Step

/-! ## Whole runs -/

/-- A build takes the path of a page, through the same contexts. -/
theorem TakesEffect.exists_build
    {meaning : Meaning}
    {commands : List PlacedCommand}
    {path : Nat → Scene}
    {built : Scene}
    (effects : TakesEffect (executeBy meaning .runtime) commands path)
    (sees : meaning.SeesContext)
    (workshop : Workshop)
    (shared : ∀ placed ∈ commands, isShared placed.command.kind)
    (same : (path 0).context = built.context) :
    ∃ builtPath : Nat → Scene,
      builtPath 0 = built ∧
        TakesEffect (executeBy meaning (.build workshop)) commands builtPath ∧
        (path commands.length).context = (builtPath commands.length).context := by
  induction commands generalizing path built with
  | nil =>
      exact ⟨fun _ => built, rfl, .nil, same⟩
  | cons placed rest inductionHypothesis =>
      obtain ⟨step, others⟩ := effects.uncons
      obtain ⟨shared, sharedRest⟩ := List.forall_mem_cons.mp shared
      obtain ⟨next, builtStep, sameNext⟩ :=
        exists_build_step_of_ok sees workshop shared same step
      obtain ⟨builtPath, rfl, builtOthers, sameEnd⟩ :=
        inductionHypothesis others sharedRest sameNext
      exact ⟨pathFrom built builtPath, rfl, .cons builtStep builtOthers, sameEnd⟩

/--
A build follows the run of a page, whatever functions do with the context and their
arguments.  A complete run is followed to the same context.  Where the run of the page
stops, the build has reached the same context, and it stops for the same cause, unless a
variable could not be evaluated: then the build notes one warning, changes nothing else,
and goes on with the next command.
-/
theorem build_follows_runtime
    (meaning : Meaning)
    (sees : meaning.SeesContext)
    (workshop : Workshop)
    (commands : List PlacedCommand)
    (shared : ∀ placed ∈ commands, isShared placed.command.kind)
    (live built : Scene)
    (same : live.context = built.context) :
    (∀ count ended,
      runBy (executeBy meaning .runtime) 0 commands live = (⟨count, none⟩, ended) →
        ∃ builtEnd,
          runBy (executeBy meaning (.build workshop)) 0 commands built =
              (⟨count, none⟩, builtEnd) ∧
            ended.context = builtEnd.context) ∧
      (∀ count placed fault ended,
        runBy (executeBy meaning .runtime) 0 commands live =
            (⟨count, some (placed, fault)⟩, ended) →
          ∃ before after reached builtReached,
            commands = before ++ placed :: after ∧
              count = before.length ∧
              runBy (executeBy meaning .runtime) 0 before live =
                (⟨count, none⟩, reached) ∧
              runBy (executeBy meaning (.build workshop)) 0 before built =
                (⟨count, none⟩, builtReached) ∧
              reached.context = builtReached.context ∧
              outcome (executeBy meaning .runtime placed) reached =
                (.error fault, ended) ∧
              ((∃ name expression reactive builtNext,
                  placed.command = .setVariable name expression reactive ∧
                    fault.isEvaluation = true ∧
                    outcome (executeBy meaning (.build workshop) placed)
                        builtReached =
                      (.ok (), builtNext) ∧
                    builtReached.Warned
                      (.text (notSetMessage placed.line name fault))
                      builtNext ∧
                    runBy (executeBy meaning (.build workshop)) 0 commands built =
                      runBy (executeBy meaning (.build workshop)) (count + 1) after
                        builtNext) ∨
                (¬(placed.command.kind = .setVariable ∧
                    fault.isEvaluation = true) ∧
                  ∃ builtEnd,
                    runBy (executeBy meaning (.build workshop)) 0 commands built =
                        (⟨count, some (placed, fault)⟩, builtEnd) ∧
                      ended.context = builtEnd.context))) := by
  constructor
  · intro count ended complete
    obtain ⟨path, rfl, effects, rfl, rfl⟩ := exists_takesEffect complete
    obtain ⟨builtPath, rfl, builtEffects, sameEnd⟩ :=
      effects.exists_build sees workshop shared same
    exact ⟨_, builtEffects.runBy_eq, sameEnd⟩
  · intro count placed fault ended stopped
    obtain ⟨path, rfl, stops⟩ := exists_stopsAt stopped
    have split := stops.split
    have counted := stops.length_take
    have effects := stops.before
    generalize commands.take count = before at split counted effects
    generalize commands.drop (count + 1) = after at split
    subst split counted
    have sharedBefore : ∀ placed ∈ before, isShared placed.command.kind :=
      fun other member => shared other (List.mem_append_left _ member)
    have sharedPlaced : isShared placed.command.kind :=
      shared placed (List.mem_append_right _ List.mem_cons_self)
    obtain ⟨builtPath, rfl, builtEffects, sameReached⟩ :=
      effects.exists_build sees workshop sharedBefore same
    refine
      ⟨before, after, path before.length, builtPath before.length, rfl, rfl,
        effects.runBy_eq, builtEffects.runBy_eq, sameReached, stops.stop, ?_⟩
    -- The build stands before the same command; only its handling may differ.
    have builtRun := builtEffects.runBy_append 0 (placed :: after)
    rw [Nat.zero_add, runBy_cons] at builtRun
    by_cases unset :
        placed.command.kind = .setVariable ∧ fault.isEvaluation = true
    · left
      obtain ⟨isSet, evaluation⟩ := unset
      rcases placed with ⟨command, line⟩
      obtain ⟨name, expression, reactive, rfl⟩ :=
        exists_of_kind_setVariable isSet
      obtain ⟨builtNext, done, warned⟩ :=
        exists_build_step_of_evaluation workshop sameReached stops.stop
          evaluation
      rw [done] at builtRun
      exact
        ⟨name, expression, reactive, builtNext, rfl, evaluation, done, warned,
          builtRun⟩
    · right
      obtain ⟨builtEnd, builtStop, sameEnd⟩ :=
        exists_build_step_of_error sees workshop sharedPlaced
          sameReached stops.stop unset
      rw [builtStop] at builtRun
      exact ⟨unset, builtEnd, builtRun, sameEnd⟩

/-- Every function closes the context. -/
def closing : Meaning := fun _ _ => do
  changeContext Context.close
  pure .null

/-- The scene of a blank page with one function. -/
def closingScene : Scene :=
  { bareScene with
    context :=
      { bareScene.context with
        functions := ⟨[("close", .described "A" "close" .echo)]⟩ } }

/-- The context is closed, and then a variable is set to nothing. -/
def closingCommands : List PlacedCommand :=
  [⟨.runAsync "close()", 1⟩, ⟨.setVariable "user" "" true, 2⟩]

/-- A build with one warning goes on where the run of a page stops. -/
theorem build_follows_runtime_past_blank_expression :
    closing.SeesContext ∧
      (∀ placed ∈ closingCommands, isShared placed.command.kind) ∧
      ∃ ended builtEnd,
        runBy (executeBy closing .runtime) 0 closingCommands closingScene =
            (⟨1, some (⟨.setVariable "user" "" true, 2⟩, .expression .empty)⟩,
              ended) ∧
          runBy (executeBy closing (.build ⟨⟨"/", []⟩, ⟨[]⟩, ⟨[]⟩⟩)) 0
              closingCommands closingScene =
            (⟨2, none⟩, builtEnd) := by
  have sees : closing.SeesContext :=
    fun _ _ => .bind (.changeContext _) fun _ => .pure _
  have shared : ∀ placed ∈ closingCommands, isShared placed.command.kind := by
    decide
  have stopped :
      runBy (executeBy closing .runtime) 0 closingCommands closingScene =
        (⟨1, some (⟨.setVariable "user" "" true, 2⟩, .expression .empty)⟩,
          (runBy (executeBy closing .runtime) 0 closingCommands
            closingScene).2) :=
    rfl
  refine ⟨sees, shared, ?_⟩
  obtain
    ⟨before, after, -, builtReached, split, counted, -, -, -, -, goesOn⟩ :=
    (build_follows_runtime closing sees ⟨⟨"/", []⟩, ⟨[]⟩, ⟨[]⟩⟩ closingCommands
      shared closingScene closingScene rfl).2 _ _ _ _ stopped
  rcases goesOn with ⟨_, _, _, next, _, _, _, _, run⟩ | ⟨fatal, _⟩
  · have atEnd : after = [] := by
      have sizes := congrArg List.length split
      rw [List.length_append, ← counted] at sizes
      simp only [closingCommands, List.length_cons, List.length_nil] at sizes
      exact List.eq_nil_of_length_eq_zero (by omega)
    rw [run, atEnd]
    exact ⟨_, next, stopped, rfl⟩
  · exact absurd ⟨rfl, rfl⟩ fatal

end PageScript.Run
