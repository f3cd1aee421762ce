import PageScript.Proofs.Run.Outcome

namespace PageScript.Run

open Script

/-!
# What commands keep outside their context

The commands of a script work on the context and reach into the surroundings.  What a
view shows of the rest of a scene is kept by them, whether they stop or not; a build
adds to its record only what a command is about, so the frameworks are the business of
the commands that include them.
-/

/-! ## Views outside the context -/

/-- A view of a scene that shows neither the context nor the surroundings. -/
class Outer {γ : Type} (view : Scene → γ) : Prop where
  same :
    ∀ scene context surroundings,
      view { scene with context := context, surroundings := surroundings } =
        view scene

/-- The frameworks that are remembered, and those that a build reports as loaded. -/
def Scene.frameworks (scene : Scene) : FrameworkCache × List (String × String) :=
  (scene.cache, scene.record.frameworks)

instance : Outer Scene.frameworks :=
  ⟨fun _ _ _ => rfl⟩

namespace Keeps

variable {γ : Type} {view : Scene → γ}

theorem evaluate
    (expression : String) :
    Keeps view (Run.evaluate expression) :=
  .get_bind fun _ => .require _ _

theorem evaluateAll
    (expressions : List String) :
    Keeps view (Run.evaluateAll expressions) := by
  induction expressions with
  | nil =>
      exact .pure []
  | cons expression rest inductionHypothesis =>
      exact
        .bind (.evaluate _) fun _ =>
          .bind inductionHypothesis fun _ => .pure _

variable [Outer view]

theorem changeContext
    (change : Context → Context) :
    Keeps view (Run.changeContext change) :=
  fun scene => Outer.same scene (change scene.context) scene.surroundings

theorem changeSurroundings
    (change : World.Surroundings → World.Surroundings) :
    Keeps view (Run.changeSurroundings change) :=
  fun scene => Outer.same scene scene.context (change scene.surroundings)

theorem report
    (level : World.LogLevel)
    (logger event : String)
    (fields : List (String × Value)) :
    Keeps view (Run.report level logger event fields) :=
  .changeSurroundings _

theorem recordCall
    (call : World.Call) :
    Keeps view (Run.recordCall call) :=
  .changeSurroundings _

theorem warnAs
    (logger message : String) :
    Keeps view (Run.warnAs logger message) :=
  .bind (.report _ _ _ _) fun _ => .changeContext _

/-! ## Commands that every host knows -/

theorem setVariable
    (name value : Value)
    (reactive : Bool) :
    Keeps view (Run.setVariable name value reactive) :=
  .get_bind fun _ => .bind (.require _ _) fun _ => .changeContext _

theorem executeSet
    (name expression : String)
    (reactive : Bool) :
    Keeps view (Run.executeSet name expression reactive) :=
  .bind (.evaluate _) fun _ =>
    .bind (.setVariable _ _ _) fun _ => .report _ _ _ _

theorem defineComponent
    (name content : Value) :
    Keeps view (Run.defineComponent name content) :=
  .get_bind fun _ => .bind (.require _ _) fun _ => .changeContext _

theorem executeDefine
    (name content : String) :
    Keeps view (Run.executeDefine name content) :=
  .bind (.defineComponent _ _) fun _ => .report _ _ _ _

theorem resolve
    (selector : String) :
    Keeps view (Run.resolve selector) := by
  refine .get_bind fun scene => ?_
  dsimp only
  split
  · exact .pure _
  · exact .bind (.report _ _ _ _) fun _ => .pure _

theorem setContent
    (target : Document.NodeId)
    (markup : String) :
    Keeps view (Run.setContent target markup) :=
  .get_bind fun _ => .bind (.changeContext _) fun _ => .require _ _

theorem writeTemplate
    (target : Document.NodeId)
    (template : Value) :
    Keeps view (Run.writeTemplate target template) := by
  unfold Run.writeTemplate
  split
  · exact .setContent _ _
  · exact .bind (.setContent _ _) fun _ => .throw _

theorem renderInto
    (name selector : String) :
    Keeps view (Run.renderInto name selector) := by
  refine .get_bind fun scene => ?_
  split
  · exact .bind (.warnAs _ _) fun _ => .pure none
  · refine .bind (.resolve selector) fun found => ?_
    split
    · exact .bind (.warnAs _ _) fun _ => .pure none
    · exact .bind (.writeTemplate _ _) fun _ => .pure _

theorem subscribe
    (name : Value)
    (subscriber : State.Subscriber) :
    Keeps view (Run.subscribe name subscriber) := by
  refine .get_bind fun scene => ?_
  split
  · exact .bind (.require _ _) fun _ => .changeContext _
  · exact .pure ()

theorem bindVariable
    (target : Document.NodeId)
    (name : Value) :
    Keeps view (Run.bindVariable target name) := by
  refine .get_bind fun scene => ?_
  split
  · dsimp only
    split
    · exact .pure _
    · exact .bind (.subscribe _ _) fun _ => .pure _
  · exact .throw _

theorem bindVariables
    (target : Document.NodeId)
    (names : List Value) :
    Keeps view (Run.bindVariables target names) := by
  induction names with
  | nil =>
      exact .pure 0
  | cons name rest inductionHypothesis =>
      exact
        .bind (.bindVariable _ _) fun _ =>
          .bind inductionHypothesis fun _ => .pure _

theorem executeRender
    (name selector : String) :
    Keeps view (Run.executeRender name selector) := by
  refine .bind (.renderInto _ _) fun found => ?_
  split
  · exact .pure ()
  · exact
      .bind (.get_bind fun _ => .bindVariables _ _) fun _ => .report _ _ _ _

/-! ## Calls -/

theorem tellSubscriber
    (value : Value)
    (subscriber : State.Subscriber) :
    Keeps view (Run.tellSubscriber value subscriber) := by
  cases subscriber with
  | substitution token slots =>
      exact .changeContext _
  | probe label fails =>
      refine .bind (.recordCall _) fun _ => ?_
      split
      · exact .throw _
      · exact .pure ()

theorem tellSubscribers
    (value : Value)
    (subscribers : List State.Subscriber) :
    Keeps view (Run.tellSubscribers value subscribers) := by
  induction subscribers with
  | nil =>
      exact .pure ()
  | cons subscriber rest inductionHypothesis =>
      exact .bind (.tellSubscriber _ _) fun _ => inductionHypothesis

theorem updateVariable
    (name value : Value) :
    Keeps view (Run.updateVariable name value) := by
  refine .get_bind fun scene => .bind (.require _ _) fun found => ?_
  split
  · exact
      .get_bind fun _ =>
        .bind (.require _ _) fun _ =>
          .bind (.changeContext _) fun _ => .tellSubscribers _ _
  · exact .setVariable _ _ _

theorem runDescribed
    (name : String)
    (arguments : List Value)
    (behaviour : FunctionBehaviour) :
    Keeps view (Run.runDescribed name arguments behaviour) := by
  cases behaviour with
  | echo | echoLater | single =>
      exact .bind (.recordCall _) fun _ => .pure _
  | fail | failLater =>
      exact .bind (.recordCall _) fun _ => .throw _
  | define =>
      refine .bind (.recordCall _) fun _ => ?_
      split
      · exact .bind (.defineComponent _ _) fun _ => .pure _
      · exact .pure _
  | warn =>
      exact .bind (.changeContext _) fun _ => .pure _

theorem runFunction
    (arguments : List Value)
    (function : Function) :
    Keeps view (function.run arguments) := by
  cases function with
  | sleep =>
      cases arguments with
      | nil =>
          exact .pure _
      | cons seconds rest =>
          exact .bind (.require _ _) fun _ => .pure _
  | log =>
      exact .bind (.report _ _ _ _) fun _ => .pure _
  | update =>
      rcases arguments with _ | ⟨name, _ | ⟨value, rest⟩⟩
      · exact .pure _
      · exact .pure _
      · exact .bind (.updateVariable _ _) fun _ => .pure _
  | described owner name behaviour =>
      exact .runDescribed _ _ _

theorem call
    (code : String) :
    Keeps view (Run.call code) := by
  refine .bind (.require _ _) fun parsed => .get_bind fun scene => ?_
  split
  · exact .throw _
  · exact
      .bind (.evaluateAll _) fun _ =>
        .bind (.require _ _) fun _ => .runFunction _ _

theorem executeCall
    (code : String) :
    Keeps view (Run.executeCall Function.apply code) :=
  .bind (.report _ _ _ _) fun _ => .bind (.call _) fun _ => .pure _

/-! ## Commands of a build -/

theorem executeSetInBuild
    (line : Int)
    (name expression : String)
    (reactive : Bool) :
    Keeps view (Run.executeSetInBuild line name expression reactive) := by
  refine .tryCatch (.executeSet _ _ _) fun fault => ?_
  split
  · exact .warnAs _ _
  · exact .throw fault

theorem runBackend
    (baseDirectory : String)
    (backend : Backend) :
    Keeps view (backend.run baseDirectory) := by
  cases backend with
  | announce tool =>
      exact .report _ _ _ _
  | described owner name behaviour =>
      refine .bind (.recordCall _) fun _ => ?_
      cases behaviour with
      | succeed | succeedLater =>
          exact .pure ()
      | fail | failLater =>
          exact .throw _

theorem runLoader
    (version : String)
    (loader : FrameworkLoader) :
    Keeps view (loader.run version) := by
  cases loader with
  | strike =>
      exact .bind (.report _ _ _ _) fun _ => .pure _
  | described owner name behaviour =>
      cases behaviour with
      | giveNothing =>
          exact .pure _
      | fail =>
          exact .bind (.recordCall _) fun _ => .throw _
      | succeed | succeedLater =>
          exact .bind (.recordCall _) fun _ => .pure _

theorem executeImport
    (workshop : Workshop)
    (category file : String) :
    Keeps Scene.frameworks (Run.executeImport workshop category file) :=
  .bind (.report _ _ _ _) fun _ =>
    .get_bind fun _ => .bind (.require _ _) fun _ _ => rfl

theorem executeTarget
    (workshop : Workshop)
    (target : String) :
    Keeps Scene.frameworks (Run.executeTarget workshop target) := by
  rw [Run.executeTarget]
  split
  · exact .warnAs _ _
  · exact
      .bind (.report _ _ _ _) fun _ =>
        .bind (.runBackend _ _) fun _ _ => rfl

theorem executeCopy
    (workshop : Workshop)
    (source destination : String) :
    Keeps Scene.frameworks (Run.executeCopy workshop source destination) :=
  .get_bind fun _ =>
    .bind (.changeSurroundings _) fun _ =>
      .bind (.require _ _) fun _ =>
        .bind (.report _ _ _ _) fun _ _ => rfl

/-- A command of a build that includes no framework leaves the frameworks as they are. -/
theorem execute_build
    (workshop : Workshop)
    (placed : PlacedCommand)
    (other : placed.command.kind ≠ .includeFramework) :
    Keeps Scene.frameworks (Run.execute (.build workshop) placed) := by
  refine .bind (.report _ _ _ _) fun _ => ?_
  rcases placed with ⟨command, line⟩
  cases command with
  | includeFramework framework version =>
      exact absurd rfl other
  | existImport category file =>
      exact .executeImport workshop category file
  | buildTarget target =>
      exact .executeTarget workshop target
  | copy source destination =>
      exact .executeCopy workshop source destination
  | runAsync code =>
      exact .executeCall code
  | defineComponent name content =>
      exact .executeDefine name content
  | renderComponent name selector =>
      exact .executeRender name selector
  | setVariable name value reactive =>
      exact .executeSetInBuild line name value reactive
  | mediaLoad mediaType url selector =>
      exact .warnAs _ _
  | fileImportAll destination =>
      exact .report _ _ _ _
  | fileRename source target =>
      exact .report _ _ _ _
  | transform file plugin =>
      exact .report _ _ _ _

end Keeps

end PageScript.Run
