import Mathlib.Logic.Relation
import PageScript.Proofs.Run.Repetition
import PageScript.Proofs.Run.Simulation
import PageScript.Proofs.Run.Warnings

namespace PageScript.Run

open Document Script State

/-!
# The effects of commands

Whatever a command does to its context is a sequence of a few elementary changes:
bindings, subscriptions, components, warnings and four kinds of changes to the page.
The kind of a command says which of them it may make, also when it stops with a
fault, so what none of these changes can break holds after every command.  Most actions
end in a scene that has a certain context and otherwise only more log events, and such
endings are put together step by step.
-/

/-! ## How actions end -/

/-- An action ends with a result in a scene that satisfies a condition. -/
def EndsIn
    {α : Type}
    (action : Action α)
    (scene : Scene)
    (result : Except Fault α)
    (condition : Scene → Prop) : Prop :=
  ∃ reached, outcome action scene = (result, reached) ∧ condition reached

/-- A scene with another context, and with more log events. -/
structure Scene.TurnsInto
    (scene : Scene)
    (context : Context)
    (reached : Scene) :
    Prop where
  context : reached.context = context
  surroundings :
    ∃ events,
      reached.surroundings =
        { scene.surroundings with log := scene.surroundings.log ++ events }
  cache : reached.cache = scene.cache
  record : reached.record = scene.record

namespace Scene.TurnsInto

variable {scene middle reached : Scene} {context between : Context}

/-- A change of the context alone. -/
theorem changed
    (scene : Scene)
    (context : Context) :
    scene.TurnsInto context { scene with context := context } where
  context := rfl
  surroundings := ⟨[], by rw [List.append_nil]⟩
  cache := rfl
  record := rfl

theorem refl
    (scene : Scene) :
    scene.TurnsInto scene.context scene :=
  .changed scene scene.context

theorem trans
    (first : scene.TurnsInto between middle)
    (second : middle.TurnsInto context reached) :
    scene.TurnsInto context reached where
  context := second.context
  surroundings := by
    obtain ⟨earlier, sameMiddle⟩ := first.surroundings
    obtain ⟨later, same⟩ := second.surroundings
    refine ⟨earlier ++ later, ?_⟩
    rw [same, sameMiddle, ← List.append_assoc]
  cache := second.cache.trans first.cache
  record := second.record.trans first.record

theorem logged
    (turns : scene.TurnsInto context reached)
    (event : World.LogEvent) :
    scene.TurnsInto context (reached.logged event) :=
  turns.trans ⟨turns.context, ⟨[event], rfl⟩, rfl, rfl⟩

/-- A warning that follows more log events alone. -/
theorem warned
    {warning : Value}
    (turns : scene.TurnsInto scene.context middle)
    (warned : middle.Warned warning reached) :
    scene.Warned warning reached := by
  have both :=
    turns.trans ⟨warned.context, warned.surroundings, warned.cache, warned.record⟩
  rw [turns.context] at both
  exact ⟨both.context, both.surroundings, both.cache, both.record⟩

end Scene.TurnsInto

/-- What a host does for a command that was announced. -/
def Host.perform : Host → PlacedCommand → Action Unit
  | .runtime => executeAtRuntime Function.apply
  | .build workshop => executeInBuild Function.apply workshop

namespace EndsIn

variable
  {host : Host}
  {placed : PlacedCommand}
  {scene reached : Scene}
  {context : Context}

theorem bind
    {α β : Type}
    {action : Action α}
    {next : α → Action β}
    {value : α}
    {result : Except Fault β}
    {condition after : Scene → Prop}
    (step : EndsIn action scene (.ok value) condition)
    (rest : ∀ reached, condition reached → EndsIn (next value) reached result after) :
    EndsIn (action >>= next) scene result after := by
  obtain ⟨reached, done, holds⟩ := step
  obtain ⟨ended, finished, reachedAfter⟩ := rest reached holds
  exact ⟨ended, (outcome_bind_ok done).trans finished, reachedAfter⟩

theorem report
    (turns : scene.TurnsInto context reached)
    (level : World.LogLevel)
    (logger event : String)
    (fields : List (String × Value)) :
    EndsIn (report level logger event fields) reached (.ok ()) (scene.TurnsInto context) :=
  ⟨_, outcome_report _ _ _ _ _, turns.logged _⟩

theorem get_bind
    {α : Type}
    {next : Scene → Action α}
    {result : Except Fault α}
    {condition : Scene → Prop}
    (rest : EndsIn (next scene) scene result condition) :
    EndsIn (get >>= next) scene result condition :=
  rest

/-- The announcement of a command is logged and nothing else. -/
theorem execute
    {result : Except Fault Unit}
    {condition : Scene → Prop}
    (performed :
      EndsIn (host.perform placed) (scene.logged (announcement placed)) result
        condition) :
    EndsIn (execute host placed) scene result condition := by
  cases host <;> exact performed

theorem warned
    (turns : scene.TurnsInto scene.context reached)
    (logger message : String) :
    EndsIn (warnAs logger message) reached (.ok ()) (scene.Warned (.text message)) :=
  ⟨_, rfl, turns.warned ⟨rfl, ⟨[_], rfl⟩, rfl, rfl⟩⟩

/-- A selector is resolved, and at most a report is logged. -/
theorem resolve
    (selector : String)
    (scene : Scene) :
    EndsIn (resolve selector) scene
      (.ok (Selector.resolve scene.context.page selector))
      (scene.TurnsInto scene.context) := by
  refine .get_bind ?_
  rw [Selector.resolve]
  dsimp only
  cases Selector.selectFirst scene.context.page.forest scene.context.page.root selector with
  | ok found =>
      exact ⟨scene, rfl, .refl scene⟩
  | error error =>
      exact
        (report (.refl scene) _ _ _ _).bind fun reached turns => ⟨reached, rfl, turns⟩

end EndsIn

/-! ## Effects -/

/-- What an elementary change of a context is about. -/
inductive Effect where
  /-- A variable is bound to a plain value. -/
  | plain
  /-- A variable is bound to a new reactive variable. -/
  | fresh
  /-- A reactive variable gets another value. -/
  | value
  /-- A reactive variable gets one more subscriber. -/
  | subscription
  /-- A component is stored. -/
  | component
  /-- The content of an element of the page is replaced. -/
  | content
  /-- An element of the page gets a new last child. -/
  | element
  /-- Texts and attribute values of the page are reworded. -/
  | wording
  /-- A warning is added. -/
  | warning
  deriving Repr, DecidableEq

namespace Effect

/-- The kinds of changes that a function can make. -/
def ofCall : List Effect :=
  [.plain, .value, .wording, .component, .warning]

/-- The kinds of changes that a command of a kind can make. -/
def ofKind : CommandKind → List Effect
  | .setVariable => [.plain, .fresh, .warning]
  | .defineComponent => [.component]
  | .renderComponent => [.content, .subscription, .warning]
  | .mediaLoad => [.element, .warning]
  | .runAsync => ofCall
  | _ => [.warning]

end Effect

/-- The elementary changes of a context. -/
inductive Change : Effect → Context → Context → Prop where
  | plain
      {context : Context}
      {name value : Value}
      {store : Store} :
      context.store.bind name (.plain value) = .ok store →
      Change .plain context { context with store := store }
  | fresh
      {context : Context}
      {name : String}
      {value : Value}
      {store : Store} :
      context.store.bind (.text name) (.reactive { value := value }) = .ok store →
      Change .fresh context { context with store := store }
  | value
      {context : Context}
      {name value : Value}
      {cell : Reactive Subscriber}
      {store : Store} :
      context.store.reactive? name = .ok (some cell) →
      context.store.bind name (.reactive (cell.store value)) = .ok store →
      Change .value context { context with store := store }
  | subscription
      {context : Context}
      {name : Value}
      {cell : Reactive Subscriber}
      {subscriber : Subscriber}
      {store : Store} :
      context.store.reactive? name = .ok (some cell) →
      context.store.bind name (.reactive (cell.subscribe subscriber)) = .ok store →
      Change .subscription context { context with store := store }
  | component
      {context : Context}
      {name content : Value}
      {store : Store} :
      context.store.define name content = .ok store →
      Change .component context { context with store := store }
  | content
      {context : Context}
      {target : NodeId}
      (markup : String) :
      target ∈ context.page.forest.elementsBelow context.page.root →
      Change .content context
        { context with page := (context.page.setContent target markup).1 }
  | element
      {context : Context}
      {target : NodeId}
      (tag : String)
      (attributes : List (String × String)) :
      (target = context.page.body ∨
        target ∈ context.page.forest.elementsBelow context.page.root) →
      Change .element context
        { context with page := (context.page.appendElement target tag attributes).1 }
  | wording
      {context : Context}
      (token text : String)
      (slots : List Slot) :
      Change .wording context
        { context with
          page :=
            { context.page with
              forest := context.page.forest.substituteAll token text slots } }
  | warning
      {context : Context}
      (warning : Value) :
      Change .warning context
        { context with warnings := context.warnings ++ [warning] }

/-- A context becomes another by elementary changes of certain kinds. -/
def Evolves (effects : List Effect) : Context → Context → Prop :=
  Relation.ReflTransGen fun before after =>
    ∃ effect ∈ effects, Change effect before after

/-- An action from a scene makes elementary changes of certain kinds alone. -/
def Evolving {α : Type} (effects : List Effect) (scene : Scene) (action : Action α) : Prop :=
  Evolves effects scene.context (outcome action scene).2.context

namespace Evolves

variable {effects : List Effect} {before middle after : Context}

theorem refl
    (context : Context) :
    Evolves effects context context :=
  Relation.ReflTransGen.refl

theorem trans
    (first : Evolves effects before middle)
    (second : Evolves effects middle after) :
    Evolves effects before after :=
  Relation.ReflTransGen.trans first second

theorem ofChange
    {effect : Effect}
    (permitted : effect ∈ effects)
    (change : Change effect before after) :
    Evolves effects before after :=
  .single ⟨effect, permitted, change⟩

/-- What each elementary change keeps, all of them keep. -/
theorem keep
    {condition : Context → Prop}
    (evolves : Evolves effects before after)
    (kept :
      ∀ effect ∈ effects,
        ∀ {earlier later : Context},
          Change effect earlier later → condition earlier → condition later)
    (holds : condition before) :
    condition after := by
  induction evolves with
  | refl =>
      exact holds
  | tail _ step inductionHypothesis =>
      obtain ⟨effect, permitted, change⟩ := step
      exact kept effect permitted change inductionHypothesis

end Evolves

namespace Evolving

variable {α β : Type} {effects : List Effect} {scene : Scene}

/-! ## Building actions -/

/-- An action that leaves the context alone. -/
theorem of_retains
    {action : Action α}
    (retains : ∀ condition : Context → Prop, Retains condition action) :
    Evolving effects scene action :=
  retains (Evolves effects scene.context) scene (.refl _)

theorem pure
    (value : α) :
    Evolving effects scene (pure value : Action α) :=
  .of_retains fun _ => .pure value

theorem throw
    (fault : Fault) :
    Evolving effects scene (throw fault : Action α) :=
  .of_retains fun _ => .throw fault

theorem require
    {ε : Type}
    (fault : ε → Fault)
    (result : Except ε α) :
    Evolving effects scene (Run.require fault result) :=
  .of_retains fun _ => .require fault result

theorem report
    (level : World.LogLevel)
    (logger event : String)
    (fields : List (String × Value)) :
    Evolving effects scene (Run.report level logger event fields) :=
  .of_retains fun _ => .report level logger event fields

theorem recordCall
    (call : World.Call) :
    Evolving effects scene (Run.recordCall call) :=
  .of_retains fun _ => .recordCall call

theorem modify
    {change : Scene → Scene}
    (same : ∀ scene, (change scene).context = scene.context) :
    Evolving effects scene (modify change : Action PUnit) :=
  .of_retains fun _ => .modify same

theorem changeContext
    {effect : Effect}
    {change : Context → Context}
    (permitted : effect ∈ effects)
    (step : Change effect scene.context (change scene.context)) :
    Evolving effects scene (Run.changeContext change) :=
  .ofChange permitted step

theorem bind
    {action : Action α}
    {next : α → Action β}
    (step : Evolving effects scene action)
    (rest :
      ∀ value reached,
        outcome action scene = (.ok value, reached) →
          Evolving effects reached (next value)) :
    Evolving effects scene (action >>= next) := by
  rw [Evolving] at step ⊢
  rw [outcome_bind]
  rcases done : outcome action scene with ⟨fault | value, reached⟩
  · rw [done] at step
    exact step
  · rw [done] at step
    exact step.trans (rest value reached done)

theorem get_bind
    {next : Scene → Action α}
    (rest : Evolving effects scene (next scene)) :
    Evolving effects scene (get >>= next) :=
  rest

theorem tryCatch
    {action : Action α}
    {handler : Fault → Action α}
    (step : Evolving effects scene action)
    (handled : ∀ fault reached, Evolving effects reached (handler fault)) :
    Evolving effects scene (tryCatch action handler) := by
  rw [Evolving] at step ⊢
  rw [outcome_tryCatch]
  rcases done : outcome action scene with ⟨fault | value, reached⟩
  · rw [done] at step
    exact step.trans (handled fault reached)
  · rw [done] at step
    exact step

theorem pure_bind
    {value : α}
    {next : α → Action β}
    (rest : Evolving effects scene (next value)) :
    Evolving effects scene (Pure.pure value >>= next) :=
  rest

theorem report_bind
    {level : World.LogLevel}
    {logger event : String}
    {fields : List (String × Value)}
    {next : Unit → Action β}
    (rest : Evolving effects (scene.logged ⟨level, logger, event, fields⟩) (next ())) :
    Evolving effects scene (Run.report level logger event fields >>= next) :=
  rest

/-- Taking an outcome goes on only with what was given. -/
theorem require_bind
    {ε : Type}
    {fault : ε → Fault}
    {result : Except ε α}
    {next : α → Action β}
    (rest : ∀ value, result = .ok value → Evolving effects scene (next value)) :
    Evolving effects scene (Run.require fault result >>= next) := by
  cases result with
  | error error =>
      exact .throw (fault error)
  | ok value =>
      exact rest value rfl

/-! ## Actions of both hosts -/

theorem warnAs
    (permitted : .warning ∈ effects)
    (logger message : String) :
    Evolving effects scene (Run.warnAs logger message) :=
  .bind (.report _ _ _ _) fun _ _ _ => .changeContext permitted (.warning _)

/-- A variable of any name can be bound to a plain value. -/
theorem setPlain
    (permitted : .plain ∈ effects)
    (name value : Value) :
    Evolving effects scene (setVariable name value false) :=
  .get_bind (.require_bind fun _ bound => .changeContext permitted (.plain bound))

/-- A variable with a text as its name can become reactive as well. -/
theorem setVariable
    (plain : .plain ∈ effects)
    (fresh : .fresh ∈ effects)
    (name : String)
    (value : Value)
    (reactive : Bool) :
    Evolving effects scene (Run.setVariable (.text name) value reactive) := by
  cases reactive with
  | false =>
      exact .setPlain plain (.text name) value
  | true =>
      exact .get_bind (.require_bind fun _ bound => .changeContext fresh (.fresh bound))

theorem executeSet
    (plain : .plain ∈ effects)
    (fresh : .fresh ∈ effects)
    (name expression : String)
    (reactive : Bool) :
    Evolving effects scene (Run.executeSet name expression reactive) :=
  .bind (.get_bind (.require _ _)) fun _ _ _ =>
    .bind (.setVariable plain fresh _ _ _) fun _ _ _ => .report _ _ _ _

theorem defineComponent
    (permitted : .component ∈ effects)
    (name content : Value) :
    Evolving effects scene (Run.defineComponent name content) :=
  .get_bind (.require_bind fun _ defined => .changeContext permitted (.component defined))

theorem subscribe
    (permitted : .subscription ∈ effects)
    (name : Value)
    (subscriber : Subscriber) :
    Evolving effects scene (Run.subscribe name subscriber) := by
  refine .get_bind ?_
  split
  · next cell found =>
      exact .require_bind fun _ bound => .changeContext permitted (.subscription found bound)
  · exact .pure ()

theorem bindVariables
    (permitted : .subscription ∈ effects)
    (target : NodeId)
    (names : List Value) :
    Evolving effects scene (Run.bindVariables target names) := by
  induction names generalizing scene with
  | nil =>
      exact .pure 0
  | cons name rest inductionHypothesis =>
      refine .bind (.get_bind ?_) fun _ _ _ =>
        .bind inductionHypothesis fun _ _ _ => .pure _
      split
      · dsimp only
        split
        · exact .pure _
        · exact .bind (.subscribe permitted _ _) fun _ _ _ => .pure _
      · exact .throw _

theorem setContent
    (permitted : .content ∈ effects)
    {target : NodeId}
    (below : target ∈ scene.context.page.forest.elementsBelow scene.context.page.root)
    (markup : String) :
    Evolving effects scene (Run.setContent target markup) :=
  .get_bind
    (.bind (.changeContext permitted (.content markup below)) fun _ _ _ => .require _ _)

end Evolving

/-! ## Resolving -/

section Resolved

variable {selector : String} {found : Option NodeId} {scene reached : Scene}

theorem of_outcome_resolve
    (resolved : outcome (resolve selector) scene = (.ok found, reached)) :
    found = Selector.resolve scene.context.page selector ∧
      reached.context = scene.context := by
  obtain ⟨later, done, turns⟩ := EndsIn.resolve selector scene
  rw [done] at resolved
  obtain ⟨selected, rfl⟩ := Prod.mk.inj resolved
  exact ⟨(Except.ok.inj selected).symm, turns.context⟩

/-- What a selector resolves to is an element below the root. -/
theorem mem_elementsBelow_of_outcome_resolve
    {target : NodeId}
    (resolved : outcome (resolve selector) scene = (.ok (some target), reached)) :
    target ∈ reached.context.page.forest.elementsBelow reached.context.page.root := by
  obtain ⟨selected, same⟩ := of_outcome_resolve resolved
  rw [same]
  exact mem_elementsBelow_of_selectFirst (selectFirst_of_resolve selected.symm).1

end Resolved

namespace Evolving

variable {effects : List Effect} {scene : Scene}

theorem resolve
    (selector : String) :
    Evolving effects scene (Run.resolve selector) :=
  .of_retains fun _ => .resolve selector

theorem renderInto
    (content : .content ∈ effects)
    (warning : .warning ∈ effects)
    (name selector : String) :
    Evolving effects scene (Run.renderInto name selector) := by
  refine .get_bind ?_
  split
  · exact .bind (.warnAs warning _ _) fun _ _ _ => .pure _
  · refine .bind (.resolve selector) fun found reached resolved => ?_
    cases found with
    | none =>
        exact .bind (.warnAs warning _ _) fun _ _ _ => .pure _
    | some target =>
        have below := mem_elementsBelow_of_outcome_resolve resolved
        refine .bind ?_ fun _ _ _ => .pure _
        unfold writeTemplate
        split
        · exact .setContent content below _
        · exact .bind (.setContent content below _) fun _ _ _ => .throw _

theorem executeRender
    (content : .content ∈ effects)
    (subscription : .subscription ∈ effects)
    (warning : .warning ∈ effects)
    (name selector : String) :
    Evolving effects scene (Run.executeRender name selector) := by
  refine .bind (.renderInto content warning name selector) fun found reached _ => ?_
  cases found with
  | none =>
      exact .pure ()
  | some target =>
      exact
        .bind (.get_bind (.bindVariables subscription _ _)) fun _ _ _ =>
          .report _ _ _ _

theorem tellSubscribers
    (permitted : .wording ∈ effects)
    (value : Value)
    (subscribers : List Subscriber) :
    Evolving effects scene (Run.tellSubscribers value subscribers) := by
  induction subscribers generalizing scene with
  | nil =>
      exact .pure ()
  | cons subscriber rest inductionHypothesis =>
      refine .bind ?_ fun _ _ _ => inductionHypothesis
      cases subscriber with
      | substitution token slots =>
          exact .changeContext permitted (.wording token _ slots)
      | probe label fails =>
          refine .bind (.recordCall _) fun _ _ _ => ?_
          split
          · exact .throw _
          · exact .pure ()

theorem updateVariable
    (plain : .plain ∈ effects)
    (value : .value ∈ effects)
    (wording : .wording ∈ effects)
    (name new : Value) :
    Evolving effects scene (Run.updateVariable name new) := by
  refine .get_bind (.require_bind fun found known => ?_)
  cases found with
  | none =>
      exact .setPlain plain name new
  | some cell =>
      exact
        .get_bind
          (.require_bind fun _ bound =>
            .bind (.changeContext value (.value known bound)) fun _ _ _ =>
              .tellSubscribers wording _ _)

theorem apply
    (permitted : Effect.ofCall ⊆ effects)
    (function : Function)
    (arguments : List Value) :
    Evolving effects scene (function.apply arguments) := by
  refine .require_bind fun _ _ => ?_
  cases function with
  | sleep =>
      cases arguments with
      | nil =>
          exact .pure _
      | cons seconds rest =>
          exact .bind (.require _ _) fun _ _ _ => .pure _
  | log =>
      exact .bind (.report _ _ _ _) fun _ _ _ => .pure _
  | update =>
      rcases arguments with _ | ⟨name, _ | ⟨value, rest⟩⟩
      · exact .pure _
      · exact .pure _
      · refine .bind (.updateVariable ?_ ?_ ?_ _ _) fun _ _ _ => .pure _ <;>
          exact permitted (by decide)
  | described owner name behaviour =>
      cases behaviour with
      | warn =>
          exact
            .bind (.changeContext (permitted (by decide)) (.warning _)) fun _ _ _ =>
              .pure _
      | define =>
          refine .bind (.recordCall _) fun _ _ _ => ?_
          rcases arguments with _ | ⟨component, _ | ⟨content, rest⟩⟩
          · exact .pure _
          · exact .pure _
          · exact
              .bind (.defineComponent (permitted (by decide)) _ _) fun _ _ _ =>
                .pure _
      | fail | failLater =>
          exact .bind (.recordCall _) fun _ _ _ => .throw _
      | _ =>
          exact .bind (.recordCall _) fun _ _ _ => .pure _

theorem executeCall
    (permitted : Effect.ofCall ⊆ effects)
    (code : String) :
    Evolving effects scene (Run.executeCall Function.apply code) := by
  refine .bind (.report _ _ _ _) fun _ reached _ => .bind ?_ fun _ _ _ => .pure ()
  rw [Evolving, outcome_callBy]
  cases entered reached.context code with
  | error error =>
      exact .refl _
  | ok found =>
      exact Evolving.apply permitted found.1 found.2

theorem executeMedia
    (permitted : .element ∈ effects)
    (mediaType url selector : String) :
    Evolving effects scene (Run.executeMedia mediaType url selector) := by
  refine .get_bind (.bind (.resolve selector) fun found reached resolved => ?_)
  cases found with
  | some target =>
      have below := mem_elementsBelow_of_outcome_resolve resolved
      exact
        .pure_bind
          (.bind (.changeContext permitted (.element _ _ (.inr below))) fun _ _ _ =>
            .report _ _ _ _)
  | none =>
      have same := (of_outcome_resolve resolved).2
      refine
        .report_bind
          (.pure_bind
            (.bind (.changeContext permitted (.element _ _ (.inl ?_))) fun _ _ _ =>
              .report _ _ _ _))
      rw [Scene.context_logged, same]

/-! ## Actions of a build -/

theorem executeTarget
    (permitted : .warning ∈ effects)
    (workshop : Workshop)
    (target : String) :
    Evolving effects scene (Run.executeTarget workshop target) := by
  rw [Run.executeTarget]
  split
  · exact .warnAs permitted _ _
  · exact
      .bind (.report _ _ _ _) fun _ _ _ =>
        .bind (.of_retains fun _ => .runBackend _ _) fun _ _ _ => .modify fun _ => rfl

theorem executeInclude
    (permitted : .warning ∈ effects)
    (workshop : Workshop)
    (framework version : String) :
    Evolving effects scene (Run.executeInclude workshop framework version) := by
  rw [Run.executeInclude, executeIncludeFrom]
  cases workshop.frameworks.get? (frameworkKey framework) with
  | none =>
      exact .warnAs permitted _ _
  | some loader =>
      refine .bind (.get_bind ?_) fun included _ _ => ?_
      · split
        · exact .bind (.report _ _ _ _) fun _ _ _ => .pure _
        · exact
            .bind (.of_retains fun _ => .runLoader _ _) fun _ _ _ =>
              .bind (.modify fun _ => rfl) fun _ _ _ => .pure _
      · refine .bind (.report _ _ _ _) fun _ _ _ => ?_
        dsimp only
        split
        · exact .modify fun _ => rfl
        · exact .pure ()

theorem executeSetInBuild
    (plain : .plain ∈ effects)
    (fresh : .fresh ∈ effects)
    (warning : .warning ∈ effects)
    (line : Int)
    (name expression : String)
    (reactive : Bool) :
    Evolving effects scene (Run.executeSetInBuild line name expression reactive) := by
  refine .tryCatch (.executeSet plain fresh _ _ _) fun fault _ => ?_
  split
  · exact .warnAs warning _ _
  · exact .throw fault

end Evolving

/-! ## Commands -/

/--
A command makes elementary changes of the kinds that belong to its own kind, whoever
executes it and however it ends.
-/
theorem evolves_execute
    (host : Host)
    (placed : PlacedCommand)
    (scene : Scene) :
    Evolves (Effect.ofKind placed.command.kind) scene.context
      (outcome (execute host placed) scene).2.context := by
  rcases placed with ⟨command, line⟩
  cases command with
  | setVariable name value reactive =>
      change Evolving [.plain, .fresh, .warning] scene (execute host _)
      cases host with
      | runtime =>
          exact .report_bind (.executeSet (by decide) (by decide) name value reactive)
      | build workshop =>
          exact
            .report_bind
              (.executeSetInBuild (by decide) (by decide) (by decide) line name value
                reactive)
  | defineComponent name content =>
      change Evolving [.component] scene (execute host _)
      cases host <;>
        exact
          .report_bind
            (.bind (.defineComponent (by decide) _ _) fun _ _ _ => .report _ _ _ _)
  | renderComponent name selector =>
      change Evolving [.content, .subscription, .warning] scene (execute host _)
      cases host <;>
        exact .report_bind (.executeRender (by decide) (by decide) (by decide) name selector)
  | mediaLoad mediaType url selector =>
      change Evolving [.element, .warning] scene (execute host _)
      cases host with
      | runtime =>
          exact .report_bind (.executeMedia (by decide) mediaType url selector)
      | build workshop =>
          exact .report_bind (.warnAs (by decide) _ _)
  | runAsync code =>
      change Evolving Effect.ofCall scene (execute host _)
      cases host <;> exact .report_bind (.executeCall (List.Subset.refl _) code)
  | existImport category file =>
      change Evolving [.warning] scene (execute host _)
      cases host with
      | runtime =>
          exact .report_bind (.warnAs (by decide) _ _)
      | build workshop =>
          exact .report_bind (.of_retains fun _ => .executeImport workshop category file)
  | buildTarget target =>
      change Evolving [.warning] scene (execute host _)
      cases host with
      | runtime =>
          exact .report_bind (.warnAs (by decide) _ _)
      | build workshop =>
          exact .report_bind (.executeTarget (by decide) workshop target)
  | includeFramework framework version =>
      change Evolving [.warning] scene (execute host _)
      cases host with
      | runtime =>
          exact .report_bind (.warnAs (by decide) _ _)
      | build workshop =>
          exact .report_bind (.executeInclude (by decide) workshop framework version)
  | copy source destination =>
      change Evolving [.warning] scene (execute host _)
      cases host with
      | runtime =>
          exact .report_bind (.warnAs (by decide) _ _)
      | build workshop =>
          exact .report_bind (.of_retains fun _ => .executeCopy workshop source destination)
  | _ =>
      change Evolving [.warning] scene (execute host _)
      cases host with
      | runtime =>
          exact .report_bind (.warnAs (by decide) _ _)
      | build workshop =>
          exact .report_bind (.report _ _ _ _)

/-- A condition that no elementary change breaks holds behind every command. -/
theorem retains_execute
    {condition : Context → Prop}
    (kept :
      ∀ effect {earlier later : Context},
        Change effect earlier later → condition earlier → condition later)
    (host : Host)
    (placed : PlacedCommand) :
    Retains condition (execute host placed) :=
  fun scene holds =>
    (evolves_execute host placed scene).keep (fun effect _ => kept effect) holds

/-- A condition that no elementary change breaks holds behind every function. -/
theorem retains_apply
    {condition : Context → Prop}
    (kept :
      ∀ effect {earlier later : Context},
        Change effect earlier later → condition earlier → condition later)
    (function : Function)
    (arguments : List Value) :
    Retains condition (function.apply arguments) := by
  intro scene holds
  have evolves : Evolving Effect.ofCall scene (function.apply arguments) :=
    .apply (List.Subset.refl _) function arguments
  exact evolves.keep (fun effect _ => kept effect) holds

/-- What functions do is no matter to a command that is no call. -/
theorem executeBy_eq_execute
    (meaning : Meaning)
    (host : Host)
    {placed : PlacedCommand}
    (noCall : ∀ code, placed.command ≠ .runAsync code) :
    executeBy meaning host placed = execute host placed := by
  rcases placed with ⟨command, line⟩
  cases command with
  | runAsync code =>
      exact absurd rfl (noCall code)
  | _ =>
      cases host <;> rfl

/--
Whatever functions do, a condition that no elementary change and no function breaks
holds behind every command.
-/
theorem retains_executeBy
    {meaning : Meaning}
    {condition : Context → Prop}
    (kept :
      ∀ effect {earlier later : Context},
        Change effect earlier later → condition earlier → condition later)
    (called : ∀ function arguments, Retains condition (meaning function arguments))
    (host : Host)
    (placed : PlacedCommand) :
    Retains condition (executeBy meaning host placed) := by
  rcases placed with ⟨command, line⟩
  cases command with
  | runAsync code =>
      have calls : Retains condition (executeCall meaning code) :=
        .bind (.report _ _ _ _) fun _ => .bind (.callBy called code) fun _ => .pure ()
      cases host <;> exact .bind (.report _ _ _ _) fun _ => calls
  | _ =>
      rw [executeBy_eq_execute meaning host (by simp)]
      exact retains_execute kept host _

end PageScript.Run
