import PageScript.Proofs.Run.Isolation

namespace PageScript.Run

open Script

/-!
# Warnings are texts

Commands add texts to the warnings of a context.  Only a function that is handed any
value as a warning can add something else, so where no such function can be called,
every warning is a text after every run, whether it stops or not.
-/

/-! ## Conditions on a context that actions retain -/

/-- A condition on the context that holds behind an action if it held before, even after a fault. -/
def Retains {α : Type} (condition : Context → Prop) (action : Action α) : Prop :=
  ∀ scene, condition scene.context → condition (outcome action scene).2.context

namespace Retains

variable {α β : Type} {condition : Context → Prop}

theorem pure
    (value : α) :
    Retains condition (pure value : Action α) :=
  fun _ holds => holds

theorem throw
    (fault : Fault) :
    Retains condition (throw fault : Action α) :=
  fun _ holds => holds

theorem require
    {ε : Type}
    (fault : ε → Fault)
    (result : Except ε α) :
    Retains condition (Run.require fault result) := by
  cases result <;> exact fun _ holds => holds

theorem changeContext
    {change : Context → Context}
    (kept : ∀ context, condition context → condition (change context)) :
    Retains condition (Run.changeContext change) :=
  fun scene holds => kept scene.context holds

/-- Changes outside the context. -/
theorem modify
    {change : Scene → Scene}
    (same : ∀ scene, (change scene).context = scene.context) :
    Retains condition (modify change : Action PUnit) := by
  intro scene holds
  rw [outcome_modify, same]
  exact holds

theorem changeSurroundings
    (change : World.Surroundings → World.Surroundings) :
    Retains condition (Run.changeSurroundings change) :=
  .modify fun _ => rfl

theorem report
    (level : World.LogLevel)
    (logger event : String)
    (fields : List (String × Value)) :
    Retains condition (Run.report level logger event fields) :=
  .changeSurroundings _

theorem recordCall
    (call : World.Call) :
    Retains condition (Run.recordCall call) :=
  .changeSurroundings _

/-- What two steps retain is retained by one after the other. -/
theorem bind
    {action : Action α}
    {next : α → Action β}
    (step : Retains condition action)
    (rest : ∀ value, Retains condition (next value)) :
    Retains condition (action >>= next) := by
  intro scene holds
  have reached := step scene holds
  rw [outcome_bind]
  revert reached
  rcases outcome action scene with ⟨fault | value, later⟩
  · exact id
  · exact rest value later

theorem get_bind
    {next : Scene → Action α}
    (rest : ∀ scene, Retains condition (next scene)) :
    Retains condition (get >>= next) :=
  fun scene => rest scene scene

theorem tryCatch
    {action : Action α}
    {handler : Fault → Action α}
    (step : Retains condition action)
    (handled : ∀ fault, Retains condition (handler fault)) :
    Retains condition (tryCatch action handler) := by
  intro scene holds
  have reached := step scene holds
  rw [outcome_tryCatch]
  revert reached
  rcases outcome action scene with ⟨fault | value, later⟩
  · exact handled fault later
  · exact id

/-- A call retains what all functions retain: one that is refused changes nothing. -/
theorem callBy
    {meaning : Meaning}
    (called : ∀ function arguments, Retains condition (meaning function arguments))
    (code : String) :
    Retains condition (Run.callBy meaning code) := by
  intro scene holds
  rw [outcome_callBy]
  cases entered scene.context code with
  | error error =>
      exact holds
  | ok found =>
      exact called found.1 found.2 scene holds

end Retains

/-! ## Worded contexts -/

/-- A function that adds a warning of its own, which may be any value. -/
def Function.warnsItself : Function → Bool
  | .described _ _ .warn => true
  | _ => false

/-- All warnings are texts, and no function that can be called adds another. -/
structure Context.Worded (context : Context) : Prop where
  texts : ∀ warning ∈ context.warnings, ∃ text, warning = .text text
  functions :
    ∀ name function,
      context.functions.get? name = some function → function.warnsItself = false

namespace Retains

/-- The page and the variables say nothing about warnings. -/
theorem changePage
    (change : Context → Document.Page) :
    Retains Context.Worded
      (Run.changeContext fun context => { context with page := change context }) :=
  .changeContext fun _ worded => ⟨worded.texts, worded.functions⟩

theorem changeStore
    (store : State.Store) :
    Retains Context.Worded
      (Run.changeContext fun context => { context with store := store }) :=
  .changeContext fun _ worded => ⟨worded.texts, worded.functions⟩

theorem warnAs
    (logger message : String) :
    Retains Context.Worded (Run.warnAs logger message) := by
  refine .bind (.report _ _ _ _) fun _ => .changeContext fun context worded => ?_
  refine ⟨fun warning member => ?_, worded.functions⟩
  rcases List.mem_append.mp member with before | added
  · exact worded.texts warning before
  · exact ⟨message, List.mem_singleton.mp added⟩

/-! ## Actions of both hosts -/

theorem resolve
    {condition : Context → Prop}
    (selector : String) :
    Retains condition (Run.resolve selector) := by
  refine .get_bind fun scene => ?_
  dsimp only
  split
  · exact .pure _
  · exact .bind (.report _ _ _ _) fun _ => .pure _

theorem setContent
    (target : Document.NodeId)
    (markup : String) :
    Retains Context.Worded (Run.setContent target markup) :=
  .get_bind fun _ => .bind (.changePage _) fun _ => .require _ _

theorem setVariable
    (name value : Value)
    (reactive : Bool) :
    Retains Context.Worded (Run.setVariable name value reactive) :=
  .get_bind fun _ => .bind (.require _ _) fun store => .changeStore store

theorem subscribe
    (name : Value)
    (subscriber : State.Subscriber) :
    Retains Context.Worded (Run.subscribe name subscriber) := by
  refine .get_bind fun scene => ?_
  split
  · exact .bind (.require _ _) fun store => .changeStore store
  · exact .pure ()

theorem bindVariables
    (target : Document.NodeId)
    (names : List Value) :
    Retains Context.Worded (Run.bindVariables target names) := by
  induction names with
  | nil =>
      exact .pure 0
  | cons name rest inductionHypothesis =>
      refine .bind (.get_bind fun scene => ?_) fun _ =>
        .bind inductionHypothesis fun _ => .pure _
      split
      · dsimp only
        split
        · exact .pure _
        · exact .bind (.subscribe _ _) fun _ => .pure _
      · exact .throw _

theorem executeRender
    (name selector : String) :
    Retains Context.Worded (Run.executeRender name selector) := by
  have renders : Retains Context.Worded (renderInto name selector) := by
    refine .get_bind fun scene => ?_
    split
    · exact .bind (.warnAs _ _) fun _ => .pure none
    · refine .bind (.resolve selector) fun found => ?_
      split
      · exact .bind (.warnAs _ _) fun _ => .pure none
      · refine .bind ?_ fun _ => .pure _
        unfold writeTemplate
        split
        · exact .setContent _ _
        · exact .bind (.setContent _ _) fun _ => .throw _
  refine .bind renders fun found => ?_
  split
  · exact .pure ()
  · exact
      .bind (.get_bind fun _ => .bindVariables _ _) fun _ => .report _ _ _ _

theorem defineComponent
    (name content : Value) :
    Retains Context.Worded (Run.defineComponent name content) :=
  .get_bind fun _ => .bind (.require _ _) fun store => .changeStore store

theorem executeSet
    (name expression : String)
    (reactive : Bool) :
    Retains Context.Worded (Run.executeSet name expression reactive) :=
  .bind (.get_bind fun _ => .require _ _) fun _ =>
    .bind (.setVariable _ _ _) fun _ => .report _ _ _ _

theorem tellSubscribers
    (value : Value)
    (subscribers : List State.Subscriber) :
    Retains Context.Worded (Run.tellSubscribers value subscribers) := by
  induction subscribers with
  | nil =>
      exact .pure ()
  | cons subscriber rest inductionHypothesis =>
      refine .bind ?_ fun _ => inductionHypothesis
      cases subscriber with
      | substitution token slots =>
          exact .changePage _
      | probe label fails =>
          refine .bind (.recordCall _) fun _ => ?_
          split
          · exact .throw _
          · exact .pure ()

theorem updateVariable
    (name value : Value) :
    Retains Context.Worded (Run.updateVariable name value) := by
  refine .get_bind fun scene => .bind (.require _ _) fun found => ?_
  split
  · exact
      .get_bind fun _ =>
        .bind (.require _ _) fun store =>
          .bind (.changeStore store) fun _ => .tellSubscribers _ _
  · exact .setVariable _ _ _

/-- A function that adds no warning of its own. -/
theorem apply
    {function : Function}
    (arguments : List Value)
    (silent : function.warnsItself = false) :
    Retains Context.Worded (function.apply arguments) := by
  refine .bind (.require _ _) fun _ => ?_
  cases function with
  | sleep =>
      cases arguments with
      | nil =>
          exact .pure _
      | cons seconds rest =>
          exact .bind (.require _ _) fun _ => .pure _
  | log =>
      exact .bind (.report _ _ _ _) fun _ => .pure _
  | update =>
      rcases arguments with _ | ⟨name, _ | ⟨value, rest⟩⟩
      · exact .pure _
      · exact .pure _
      · exact .bind (.updateVariable _ _) fun _ => .pure _
  | described owner name behaviour =>
      cases behaviour with
      | warn =>
          cases silent
      | define =>
          refine .bind (.recordCall _) fun _ => ?_
          rcases arguments with _ | ⟨component, _ | ⟨content, rest⟩⟩
          · exact .pure _
          · exact .pure _
          · exact .bind (.defineComponent _ _) fun _ => .pure _
      | fail | failLater =>
          exact .bind (.recordCall _) fun _ => .throw _
      | _ =>
          exact .bind (.recordCall _) fun _ => .pure _

theorem executeCall
    (code : String) :
    Retains Context.Worded (Run.executeCall Function.apply code) := by
  refine .bind (.report _ _ _ _) fun _ => .bind (fun scene worded => ?_) fun _ => .pure ()
  rw [outcome_callBy]
  cases entry : entered scene.context code with
  | error error =>
      exact worded
  | ok found =>
      obtain ⟨name, known⟩ := exists_get?_of_entered entry
      exact Retains.apply found.2 (worded.functions name found.1 known) scene worded

theorem executeMedia
    (mediaType url selector : String) :
    Retains Context.Worded (Run.executeMedia mediaType url selector) := by
  refine .get_bind fun scene => .bind (.resolve selector) fun found => ?_
  dsimp only
  split
  · exact
      .bind (.pure _) fun _ => .bind (.changePage _) fun _ => .report _ _ _ _
  · exact
      .bind (.report _ _ _ _) fun _ =>
        .bind (.pure _) fun _ => .bind (.changePage _) fun _ => .report _ _ _ _

/-! ## Actions of a build -/

variable {condition : Context → Prop}

theorem executeImport
    (workshop : Workshop)
    (category file : String) :
    Retains condition (Run.executeImport workshop category file) :=
  .bind (.report _ _ _ _) fun _ =>
    .get_bind fun _ => .bind (.require _ _) fun _ => .modify fun _ => rfl

theorem runBackend
    (baseDirectory : String)
    (backend : Backend) :
    Retains condition (backend.run baseDirectory) := by
  cases backend with
  | announce tool =>
      exact .report _ _ _ _
  | described owner name behaviour =>
      refine .bind (.recordCall _) fun _ => ?_
      cases behaviour with
      | succeed | succeedLater =>
          exact .pure ()
      | fail | failLater =>
          exact .throw _

theorem executeTarget
    (workshop : Workshop)
    (target : String) :
    Retains Context.Worded (Run.executeTarget workshop target) := by
  rw [Run.executeTarget]
  split
  · exact .warnAs _ _
  · exact
      .bind (.report _ _ _ _) fun _ =>
        .bind (.runBackend _ _) fun _ => .modify fun _ => rfl

theorem runLoader
    (version : String)
    (loader : FrameworkLoader) :
    Retains condition (loader.run version) := by
  cases loader with
  | strike =>
      exact .bind (.report _ _ _ _) fun _ => .pure _
  | described owner name behaviour =>
      cases behaviour with
      | giveNothing =>
          exact .pure _
      | fail =>
          exact .bind (.recordCall _) fun _ => .throw _
      | succeed | succeedLater =>
          exact .bind (.recordCall _) fun _ => .pure _

theorem executeInclude
    (workshop : Workshop)
    (framework version : String) :
    Retains Context.Worded (Run.executeInclude workshop framework version) := by
  rw [Run.executeInclude, executeIncludeFrom]
  cases workshop.frameworks.get? (frameworkKey framework) with
  | none =>
      exact .warnAs _ _
  | some loader =>
      refine .bind (.get_bind fun scene => ?_) fun included => ?_
      · split
        · exact .bind (.report _ _ _ _) fun _ => .pure _
        · exact
            .bind (.runLoader _ _) fun _ =>
              .bind (.modify fun _ => rfl) fun _ => .pure _
      · refine .bind (.report _ _ _ _) fun _ => ?_
        dsimp only
        split
        · exact .modify fun _ => rfl
        · exact .pure ()

theorem executeCopy
    (workshop : Workshop)
    (source destination : String) :
    Retains condition (Run.executeCopy workshop source destination) :=
  .get_bind fun _ =>
    .bind (.changeSurroundings _) fun _ =>
      .bind (.require _ _) fun _ =>
        .bind (.report _ _ _ _) fun _ => .modify fun _ => rfl

theorem executeSetInBuild
    (line : Int)
    (name expression : String)
    (reactive : Bool) :
    Retains Context.Worded (Run.executeSetInBuild line name expression reactive) := by
  refine .tryCatch (.executeSet _ _ _) fun fault => ?_
  split
  · exact .warnAs _ _
  · exact .throw fault

/-- Whatever a command does, warnings stay texts. -/
theorem execute
    (host : Host)
    (placed : PlacedCommand) :
    Retains Context.Worded (Run.execute host placed) := by
  refine .bind (.report _ _ _ _) fun _ => ?_
  rcases placed with ⟨command, line⟩
  cases host with
  | runtime =>
      cases command with
      | setVariable name value reactive =>
          exact .executeSet name value reactive
      | defineComponent name content =>
          exact .bind (.defineComponent _ _) fun _ => .report _ _ _ _
      | renderComponent name selector =>
          exact .executeRender name selector
      | mediaLoad mediaType url selector =>
          exact .executeMedia mediaType url selector
      | runAsync code =>
          exact .executeCall code
      | _ =>
          exact .warnAs _ _
  | build workshop =>
      cases command with
      | existImport category file =>
          exact .executeImport workshop category file
      | buildTarget target =>
          exact .executeTarget workshop target
      | includeFramework framework version =>
          exact .executeInclude workshop framework version
      | copy source destination =>
          exact .executeCopy workshop source destination
      | runAsync code =>
          exact .executeCall code
      | defineComponent name content =>
          exact .bind (.defineComponent _ _) fun _ => .report _ _ _ _
      | renderComponent name selector =>
          exact .executeRender name selector
      | setVariable name value reactive =>
          exact .executeSetInBuild line name value reactive
      | mediaLoad mediaType url selector =>
          exact .warnAs _ _
      | _ =>
          exact .report _ _ _ _

end Retains

/-! ## Runs -/

/-- What every command retains holds behind a run. -/
theorem condition_of_runBy
    {condition : Context → Prop}
    {executor : Executor}
    (retains : ∀ placed, Retains condition (executor placed))
    (executed : Nat)
    (commands : List PlacedCommand)
    {scene : Scene}
    (holds : condition scene.context) :
    condition (runBy executor executed commands scene).2.context := by
  induction commands generalizing executed scene with
  | nil =>
      exact holds
  | cons placed rest inductionHypothesis =>
      have reached := retains placed scene holds
      rw [runBy_cons]
      revert reached
      rcases outcome (executor placed) scene with ⟨fault | done, later⟩
      · exact id
      · exact inductionHypothesis (executed + 1)

/-- What every command retains holds behind the lines of a block. -/
theorem condition_of_runLines
    {condition : Context → Prop}
    {executor : Executor}
    (retains : ∀ placed, Retains condition (executor placed))
    (report : LoadReport)
    (line : Int)
    (lines : List (List Char))
    {scene : Scene}
    (holds : condition scene.context) :
    condition (runLines executor report line lines scene).2.context := by
  induction lines generalizing report line scene with
  | nil =>
      exact holds
  | cons text rest inductionHypothesis =>
      rw [runLines_cons]
      refine inductionHypothesis _ _ ?_
      rw [context_afterLine, outcome_executeLine]
      split
      · exact holds
      · exact holds
      · exact retains _ scene holds

/-- A block that is accepted as markup leaves warnings that are texts, whatever its lines do. -/
theorem exists_worded_of_loadText
    {page block : String}
    {trees : List Markup.Tree}
    {scene : Scene}
    (options : LoadOptions)
    (url : String)
    (found : extractBlock? options.blockTag page = some block)
    (accepted : Markup.parseTrees block = .ok trees)
    (worded : scene.context.Worded) :
    ∃ report ended,
      outcome (loadText options url page) scene = (.ok report, ended) ∧
        ended.context.Worded := by
  obtain ⟨event, loaded⟩ :=
    exists_outcome_loadTextBy (execute .runtime) url scene found accepted
  have started : (scene.grown (hoistedScripts trees)).context.Worded :=
    ⟨worded.texts, worded.functions⟩
  have reached :=
    condition_of_runLines (Retains.execute .runtime)
      { scripts := (hoistedScripts trees).length } 1 (Text.lines block.toList) started
  exact ⟨_, _, loaded, reached.texts, reached.functions⟩

end PageScript.Run
