import PageScript.Proofs.Run.Binding
import PageScript.Proofs.Run.Framing

namespace PageScript.Run

open Document Markup Script State

/-!
# What each command touches

A command touches the part of the context that it is about: one variable, one
component, the content of one element with the subscribers to what it holds, or the
end of one element.  Commands that come to nothing leave one warning, or one fault, and
no trace beside the log.
-/

/-- Trees became the content of an element, and reactive variables found listeners. -/
structure Scene.Rendered
    (scene : Scene)
    (target : NodeId)
    (trees : List Tree)
    (reached : Scene) :
    Prop where
  turns :
    scene.TurnsInto
      { scene.context with
        page :=
          { scene.context.page with forest := reached.context.page.forest }
        store := reached.context.store }
      reached
  replaced :
    scene.context.page.forest.Replaced reached.context.page.forest target trees
  listening :
    scene.context.store.Listening reached.context.store

/-- An element became the last child of another. -/
structure Scene.Extended
    (scene : Scene)
    (target : NodeId)
    (tag : String)
    (attributes : Table String String)
    (reached : Scene) :
    Prop where
  turns :
    scene.TurnsInto
      { scene.context with
        page :=
          { scene.context.page with forest := reached.context.page.forest } }
      reached
  received :
    scene.context.page.forest.Receives reached.context.page.forest target
      [scene.context.page.forest.nodes.size] [.element tag attributes []]
  size :
    reached.context.page.forest.nodes.size =
      scene.context.page.forest.nodes.size + 1

/-! ## Variables -/

section Variables

variable
  {scene : Scene}
  {name expression : String}
  {value : Value}
  {error : ExpressionError}

/-- Whoever the host is, a value is bound to a filled name. -/
theorem endsIn_set
    (host : Host)
    (line : Int)
    (filled : name ≠ "")
    (evaluated :
      Script.evaluate scene.context.store.lookup expression = .ok value)
    (reactive : Bool) :
    EndsIn (execute host ⟨.setVariable name expression reactive, line⟩) scene
      (.ok ()) (scene.Bound name (bindingOf value reactive)) := by
  cases host with
  | runtime =>
      obtain ⟨reached, done, bound⟩ :=
        exists_bound_executeSet filled
          (evaluated_of_logged evaluated
            (announcement ⟨.setVariable name expression reactive, line⟩))
          reactive
      exact ⟨reached, done, bound.of_logged⟩
  | build workshop =>
      exact exists_bound_of_ok filled evaluated

/-- A value is bound to no empty name. -/
theorem outcome_executeSet_of_empty
    (evaluated :
      Script.evaluate scene.context.store.lookup expression = .ok value)
    (reactive : Bool) :
    outcome (executeSet "" expression reactive) scene =
      (.error (.emptyName "Variable"), scene) := by
  rw [executeSet, outcome_bind, outcome_evaluate, evaluated]
  rfl

/-- Whoever the host is, nothing is bound to the empty name. -/
theorem endsIn_set_unnamed
    (host : Host)
    (line : Int)
    (evaluated :
      Script.evaluate scene.context.store.lookup expression = .ok value)
    (reactive : Bool) :
    EndsIn (execute host ⟨.setVariable "" expression reactive, line⟩) scene
      (.error (.emptyName "Variable")) (scene.TurnsInto scene.context) := by
  have stopped :=
    outcome_executeSet_of_empty
      (evaluated_of_logged evaluated
        (announcement ⟨.setVariable "" expression reactive, line⟩))
      reactive
  have turns :=
    (Scene.TurnsInto.refl scene).logged
      (announcement ⟨.setVariable "" expression reactive, line⟩)
  cases host with
  | runtime =>
      exact .execute ⟨_, stopped, turns⟩
  | build workshop =>
      exact .execute ⟨_, executeSetInBuild_of_fault stopped rfl, turns⟩

/-- A page stops at an expression whose evaluation fails, with everything as it was. -/
theorem endsIn_unset
    (line : Int)
    (refused :
      Script.evaluate scene.context.store.lookup expression = .error error)
    (reactive : Bool) :
    EndsIn (execute .runtime ⟨.setVariable name expression reactive, line⟩) scene
      (.error (.expression error)) (scene.TurnsInto scene.context) := by
  have stopped :
      outcome (executeSet name expression reactive)
          (scene.logged (announcement ⟨.setVariable name expression reactive, line⟩)) =
        (.error (.expression error), scene.logged _) :=
    outcome_executeSet_of_error (evaluated_of_logged refused _) reactive
  exact .execute ⟨_, stopped, (Scene.TurnsInto.refl scene).logged _⟩

end Variables

/-! ## Components -/

section Components

variable
  {scene : Scene}
  {name selector : String}

/-- A context with a template stored under a name. -/
def Context.defining
    (context : Context)
    (name content : String) :
    Context :=
  { context with
    store :=
      { context.store with
        components :=
          context.store.components.insert (.text name)
            ⟨.text name, .text content⟩ } }

/-- Whoever the host is, a template is stored under a filled name. -/
theorem endsIn_define
    (host : Host)
    (line : Int)
    (filled : name ≠ "")
    (content : String) :
    EndsIn (execute host ⟨.defineComponent name content, line⟩) scene (.ok ())
      (scene.TurnsInto (scene.context.defining name content)) := by
  have truthy : (Value.text name).isTruthy = true := by
    rw [Value.isTruthy, Bool.not_eq_true', String.isEmpty_eq_false_iff]
    exact filled
  have defined :
      scene.context.store.define (.text name) (.text content) =
        .ok (scene.context.defining name content).store := by
    rw [Store.define, truthy]
    rfl
  have stored :
      ∀ event,
        outcome (defineComponent (.text name) (.text content)) (scene.logged event) =
          (.ok (),
            { scene.logged event with context := scene.context.defining name content }) := by
    intro event
    rw [defineComponent, outcome_get_bind, Scene.context_logged, defined]
    rfl
  have turns := fun event =>
    ((Scene.TurnsInto.refl scene).logged event).trans
      (.changed (scene.logged event) (scene.context.defining name content))
  cases host <;>
    exact
      .execute
        (.bind ⟨_, stored _, turns _⟩ fun _ turned => .report turned _ _ _ _)

/-- Whoever the host is, nothing is stored under the empty name. -/
theorem endsIn_define_unnamed
    (host : Host)
    (line : Int)
    (content : String)
    (scene : Scene) :
    EndsIn (execute host ⟨.defineComponent "" content, line⟩) scene
      (.error (.emptyName "Component")) (scene.TurnsInto scene.context) := by
  have announced :=
    (Scene.TurnsInto.refl scene).logged (announcement ⟨.defineComponent "" content, line⟩)
  cases host <;> exact .execute ⟨_, rfl, announced⟩

/-- A render that comes to nothing ends as its search does. -/
theorem endsIn_render_of_none
    {condition : Scene → Prop}
    (host : Host)
    (line : Int)
    (missed :
      EndsIn (renderInto name selector)
        (scene.logged (announcement ⟨.renderComponent name selector, line⟩)) (.ok none)
        condition) :
    EndsIn (execute host ⟨.renderComponent name selector, line⟩) scene (.ok ())
      condition := by
  cases host <;>
    exact .execute (missed.bind fun reached holds => ⟨reached, rfl, holds⟩)

/-- A component that is not stored leaves a warning. -/
theorem endsIn_render_unknown
    (host : Host)
    (line : Int)
    (unknown : scene.context.store.components.get? (.text name) = none) :
    EndsIn (execute host ⟨.renderComponent name selector, line⟩) scene (.ok ())
      (scene.Warned (.text ("Component not found: " ++ name))) := by
  refine endsIn_render_of_none host line (.get_bind ?_)
  rw [Scene.context_logged, unknown]
  have announced := (Scene.TurnsInto.refl scene).logged
  exact .bind (.warned (announced _) _ _) fun reached warned => ⟨reached, rfl, warned⟩

/-- A selector that selects nothing leaves a warning. -/
theorem endsIn_render_unresolved
    {component : Component}
    (host : Host)
    (line : Int)
    (registered :
      scene.context.store.components.get? (.text name) = some component)
    (unresolved : Selector.resolve scene.context.page selector = none) :
    EndsIn (execute host ⟨.renderComponent name selector, line⟩) scene (.ok ())
      (scene.Warned (.text ("Render target not found: " ++ selector))) := by
  refine endsIn_render_of_none host line (.get_bind ?_)
  rw [Scene.context_logged, registered]
  have announced :=
    (Scene.TurnsInto.refl scene).logged
      (announcement ⟨.renderComponent name selector, line⟩)
  have resolved :=
    EndsIn.resolve selector
      (scene.logged (announcement ⟨.renderComponent name selector, line⟩))
  rw [Scene.context_logged, unresolved] at resolved
  refine resolved.bind fun reached turns => ?_
  exact
    .bind (.warned (announced.trans turns) _ _) fun ended warned => ⟨ended, rfl, warned⟩

end Components

/-! ## Rendering -/

/-- The store that binding leaves has at most one more subscriber for each variable. -/
theorem Subscribed.exists_more
    {forest : Forest}
    {target : NodeId}
    {names : List String}
    {before after : Store}
    (subscribed : Subscribed forest target names before after)
    {name : String}
    {cell : Reactive Subscriber}
    (found : before.reactiveNamed? name = some cell) :
    ∃ more : List Subscriber,
      more.length ≤ 1 ∧
        after.reactiveNamed? name =
          some { cell with subscribers := cell.subscribers ++ more } := by
  rw [subscribed.cells, found]
  split
  · refine ⟨subscription forest target name, ?_, rfl⟩
    rw [subscription]
    split <;> simp
  · exact ⟨[], by simp, by simp⟩

/-- What readers of the store see is the same behind a render. -/
theorem silent_of_render
    (host : Host)
    (line : Int)
    (name selector : String)
    (scene : Scene) :
    (outcome (execute host ⟨.renderComponent name selector, line⟩)
        scene).2.context.store.silent =
      scene.context.store.silent := by
  have kept :
      ∀ effect ∈ Effect.ofKind .renderComponent,
        ∀ {earlier later : Context},
          Change effect earlier later →
            earlier.store.silent = scene.context.store.silent →
              later.store.silent = scene.context.store.silent := by
    intro effect permitted earlier later step same
    cases step with
    | content | warning =>
        exact same
    | subscription found bound =>
        exact (Store.silent_of_subscribe found bound).trans same
    | _ =>
        simp [Effect.ofKind] at permitted
  have evolves := evolves_execute host ⟨.renderComponent name selector, line⟩ scene
  generalize
    (outcome (execute host ⟨.renderComponent name selector, line⟩) scene).2.context =
      reached at evolves ⊢
  exact evolves.keep kept rfl

section Render

variable
  {scene : Scene}
  {name selector template : String}
  {component : Component}
  {target : NodeId}
  {trees : List Tree}

/--
A component with an accepted template is written into what its selector selects, and the
reactive variables subscribe to what the element holds then.
-/
theorem exists_outcome_render
    (wellFormed : scene.context.store.WellFormed)
    (registered :
      scene.context.store.components.get? (.text name) = some component)
    (content : component.content = .text template)
    (readable : parseTrees template = .ok trees)
    (resolved : Selector.resolve scene.context.page selector = some target)
    (host : Host)
    (line : Int) :
    ∃ announced names store rendered,
      outcome (execute host ⟨.renderComponent name selector, line⟩) scene =
          (.ok (),
            (((scene.logged announced).withForest
                ((scene.context.page.forest.clear target).appendTrees target
                  trees)).withStore store).logged rendered) ∧
        Subscribed ((scene.context.page.forest.clear target).appendTrees target trees)
          target names scene.context.store store := by
  have selected := (selectFirst_of_resolve resolved).1
  have written :
      outcome (renderInto name selector)
          (scene.logged (announcement ⟨.renderComponent name selector, line⟩)) =
        (.ok (some target), (scene.logged _).withForest _) :=
    outcome_renderInto registered content readable selected
  obtain ⟨count, names, store, bound, subscribed⟩ :=
    @exists_subscribed_bindReactivity
      ((scene.logged (announcement ⟨.renderComponent name selector, line⟩)).withForest
        ((scene.context.page.forest.clear target).appendTrees target trees))
      wellFormed target
  refine
    ⟨announcement ⟨.renderComponent name selector, line⟩, names, store,
      ⟨.info, "hsxctl.services.interpreter", "component.render",
        [("name", .text name), ("selector", .text selector)]⟩, ?_, subscribed⟩
  rw [outcome_execute_render, executeRender, outcome_bind_ok written]
  exact outcome_bind_ok bound

/--
A component with an accepted template is rendered into what its selector selects, and
nothing else changes.
-/
theorem endsIn_render
    (sound : scene.context.Sound)
    (registered :
      scene.context.store.components.get? (.text name) = some component)
    (content : component.content = .text template)
    (readable : parseTrees template = .ok trees)
    (resolved : Selector.resolve scene.context.page selector = some target)
    (host : Host)
    (line : Int) :
    EndsIn (execute host ⟨.renderComponent name selector, line⟩) scene (.ok ())
      (scene.Rendered target trees) := by
  have isElement := (selectFirst_of_resolve resolved).2
  have replaced :=
    Forest.replaced_appendTrees_clear sound.page.wellFormed isElement
      (attributesNodupAll_of_parseTrees readable)
  have silent := silent_of_render host line name selector scene
  obtain ⟨announced, names, store, rendered, done, subscribed⟩ :=
    exists_outcome_render sound.store registered content readable resolved host line
  rw [done] at silent
  rw [EndsIn, done]
  generalize
    (scene.context.page.forest.clear target).appendTrees target trees = forest
      at replaced silent subscribed ⊢
  exact
    ⟨_, rfl,
      { turns :=
          ((Scene.TurnsInto.refl scene).logged announced).trans
            ((Scene.TurnsInto.changed (scene.logged announced) _).logged rendered)
        replaced := replaced
        listening := ⟨silent, fun _ _ found => subscribed.exists_more found⟩ }⟩

end Render

/-! ## Elements of media -/

section Media

variable {scene reached : Scene} {target : NodeId} {tag : String}

theorem Scene.Extended.logged
    {attributes : Table String String}
    (extended : scene.Extended target tag attributes reached)
    (event : World.LogEvent) :
    scene.Extended target tag attributes (reached.logged event) :=
  ⟨extended.turns.logged event, extended.received, extended.size⟩

/-- An element is added at the end of another. -/
theorem endsIn_append
    (wellFormed : scene.context.page.forest.WellFormed)
    (isElement : scene.context.page.forest.isElement target = true)
    (turns : scene.TurnsInto scene.context reached)
    (tag : String)
    (attributes : List (String × String)) :
    EndsIn
      (changeContext fun context =>
        { context with page := (context.page.appendElement target tag attributes).1 })
      reached (.ok ())
      (scene.Extended target (String.ofList (Text.lower tag.toList))
        (Table.ofList attributes)) := by
  have received := Page.receives_appendElement wellFormed isElement tag attributes
  have size := Page.size_appendElement scene.context.page target tag attributes
  have same :
      (scene.context.page.appendElement target tag attributes).1 =
        { scene.context.page with
          forest := (scene.context.page.appendElement target tag attributes).1.forest } :=
    rfl
  rw [EndsIn, outcome_changeContext, turns.context]
  generalize (scene.context.page.appendElement target tag attributes).1 = page at *
  refine ⟨{ reached with context := { scene.context with page := page } }, rfl, ?_⟩
  refine { turns := ?_, received := received, size := size }
  rw [← same]
  exact turns.trans (.changed reached _)

/-- An element is added to what a selector selects, or else to the body. -/
theorem endsIn_media_of_isElement
    (wellFormed : scene.context.page.forest.WellFormed)
    (isElement : scene.context.page.forest.isElement scene.context.page.body = true)
    (line : Int)
    (mediaType url selector : String) :
    EndsIn (execute .runtime ⟨.mediaLoad mediaType url selector, line⟩) scene (.ok ())
      (scene.Extended
        ((Selector.resolve scene.context.page selector).getD scene.context.page.body)
        (String.ofList (Text.lower mediaType.toList)) (Table.ofList [("src", url)])) := by
  have announced :=
    (Scene.TurnsInto.refl scene).logged
      (announcement ⟨.mediaLoad mediaType url selector, line⟩)
  refine .execute (.get_bind ?_)
  refine (EndsIn.resolve selector _).bind fun reached resolved => ?_
  have turns := announced.trans resolved
  rw [Scene.context_logged]
  cases found : Selector.resolve scene.context.page selector with
  | some target =>
      have selected := (selectFirst_of_resolve found).2
      simp only [pure_bind, Option.getD_some]
      refine (endsIn_append wellFormed selected turns _ _).bind fun later extended => ?_
      exact ⟨_, outcome_report _ _ _ _ _, extended.logged _⟩
  | none =>
      simp only [pure_bind, Option.getD_none]
      refine (EndsIn.report turns _ _ _ _).bind fun later reported => ?_
      refine (endsIn_append wellFormed isElement reported _ _).bind fun last extended => ?_
      exact ⟨_, outcome_report _ _ _ _ _, extended.logged _⟩

/-- Whatever a selector selects, a page adds one element to it or to the body. -/
theorem endsIn_media
    (sound : scene.context.Sound)
    (line : Int)
    (mediaType url selector : String) :
    EndsIn (execute .runtime ⟨.mediaLoad mediaType url selector, line⟩) scene (.ok ())
      (scene.Extended
        ((Selector.resolve scene.context.page selector).getD scene.context.page.body)
        (String.ofList (Text.lower mediaType.toList)) (Table.ofList [("src", url)])) :=
  endsIn_media_of_isElement sound.page.wellFormed sound.page.isElement_body line mediaType
    url selector

end Media

/-! ## Commands that come to nothing -/

/-- The kinds of commands that a host has an action for. -/
def Host.supports : Host → CommandKind → Bool
  | .runtime, kind => isShared kind || kind == .mediaLoad
  | .build _, kind => kind != .mediaLoad

theorem Host.perform_of_unsupported
    {host : Host}
    {placed : PlacedCommand}
    (without : host.supports placed.command.kind = false) :
    host.perform placed = unsupported host placed := by
  rcases placed with ⟨command, line⟩
  cases host <;> cases command <;> first | rfl | cases without

/-- A command that its host does not support leaves a warning. -/
theorem endsIn_unsupported
    {host : Host}
    {placed : PlacedCommand}
    (without : host.supports placed.command.kind = false)
    (scene : Scene) :
    EndsIn (execute host placed) scene (.ok ())
      (scene.Warned
        (.text
          ("Line " ++ toString placed.line ++ ": " ++ placed.command.kind.name ++
            " is not supported by " ++ host.name))) := by
  refine .execute ?_
  rw [Host.perform_of_unsupported without]
  exact .warned ((Scene.TurnsInto.refl scene).logged _) _ _

/-- A target without a backend leaves a warning. -/
theorem endsIn_unknownTarget
    {workshop : Workshop}
    {target : String}
    (unknown : workshop.backends.get? target = none)
    (line : Int)
    (scene : Scene) :
    EndsIn (execute (.build workshop) ⟨.buildTarget target, line⟩) scene (.ok ())
      (scene.Warned (.text ("Unknown build target: " ++ target))) := by
  refine .execute ?_
  change EndsIn (executeTarget workshop target) _ _ _
  rw [executeTarget, unknown]
  exact .warned ((Scene.TurnsInto.refl scene).logged _) _ _

/-- A framework without a loader leaves a warning. -/
theorem endsIn_unknownFramework
    {workshop : Workshop}
    {framework : String}
    (unknown : workshop.frameworks.get? (frameworkKey framework) = none)
    (line : Int)
    (version : String)
    (scene : Scene) :
    EndsIn (execute (.build workshop) ⟨.includeFramework framework version, line⟩) scene
      (.ok ()) (scene.Warned (.text ("Unknown framework: " ++ framework))) := by
  refine .execute ?_
  change EndsIn (executeInclude workshop framework version) _ _ _
  rw [executeInclude, executeIncludeFrom, unknown]
  exact .warned ((Scene.TurnsInto.refl scene).logged _) _ _

/-! ## All commands -/

/-- What the commands that a host executes at a line touch in a scene. -/
structure OwnParts
    (host : Host)
    (line : Int)
    (scene : Scene) :
    Prop where
  /-- A variable with a name is bound to the value of its expression. -/
  set :
    ∀ name expression reactive value,
      name ≠ "" →
        Script.evaluate scene.context.store.lookup expression = .ok value →
          EndsIn (execute host ⟨.setVariable name expression reactive, line⟩) scene
            (.ok ()) (scene.Bound name (bindingOf value reactive))
  /-- A variable without a name is refused. -/
  setUnnamed :
    ∀ expression reactive value,
      Script.evaluate scene.context.store.lookup expression = .ok value →
        EndsIn (execute host ⟨.setVariable "" expression reactive, line⟩) scene
          (.error (.emptyName "Variable")) (scene.TurnsInto scene.context)
  /-- A failed evaluation stops a page and leaves a warning in a build. -/
  unset :
    ∀ name expression reactive error,
      Script.evaluate scene.context.store.lookup expression = .error error →
        (Fault.expression error).isEvaluation = true →
          match host with
          | .runtime =>
              EndsIn (execute .runtime ⟨.setVariable name expression reactive, line⟩)
                scene (.error (.expression error)) (scene.TurnsInto scene.context)
          | .build workshop =>
              EndsIn
                (execute (.build workshop) ⟨.setVariable name expression reactive, line⟩)
                scene (.ok ())
                (scene.Warned (.text (notSetMessage line name (.expression error))))
  /-- A template is stored under a name. -/
  define :
    ∀ name content,
      name ≠ "" →
        EndsIn (execute host ⟨.defineComponent name content, line⟩) scene (.ok ())
          (scene.TurnsInto (scene.context.defining name content))
  /-- A template without a name is refused. -/
  defineUnnamed :
    ∀ content,
      EndsIn (execute host ⟨.defineComponent "" content, line⟩) scene
        (.error (.emptyName "Component")) (scene.TurnsInto scene.context)
  /-- An accepted template becomes the content of what the selector selects. -/
  render :
    ∀ name selector component template trees target,
      scene.context.store.components.get? (.text name) = some component →
        component.content = .text template →
          parseTrees template = .ok trees →
            Selector.resolve scene.context.page selector = some target →
              EndsIn (execute host ⟨.renderComponent name selector, line⟩) scene
                (.ok ()) (scene.Rendered target trees)
  /-- A component that is not stored leaves a warning. -/
  renderUnknown :
    ∀ name selector,
      scene.context.store.components.get? (.text name) = none →
        EndsIn (execute host ⟨.renderComponent name selector, line⟩) scene (.ok ())
          (scene.Warned (.text ("Component not found: " ++ name)))
  /-- A selector that selects nothing leaves a warning. -/
  renderUnresolved :
    ∀ name selector component,
      scene.context.store.components.get? (.text name) = some component →
        Selector.resolve scene.context.page selector = none →
          EndsIn (execute host ⟨.renderComponent name selector, line⟩) scene (.ok ())
            (scene.Warned (.text ("Render target not found: " ++ selector)))
  /-- A page adds a media element to what the selector selects, or to the body. -/
  media :
    host = .runtime →
      ∀ mediaType url selector,
        EndsIn (execute host ⟨.mediaLoad mediaType url selector, line⟩) scene (.ok ())
          (scene.Extended
            ((Selector.resolve scene.context.page selector).getD scene.context.page.body)
            (String.ofList (Text.lower mediaType.toList)) (Table.ofList [("src", url)]))
  /-- A command that is not supported leaves a warning. -/
  unsupported :
    ∀ command : Command,
      host.supports command.kind = false →
        EndsIn (execute host ⟨command, line⟩) scene (.ok ())
          (scene.Warned
            (.text
              ("Line " ++ toString line ++ ": " ++ command.kind.name ++
                " is not supported by " ++ host.name)))
  /-- A target without a backend leaves a warning in a build. -/
  unknownTarget :
    ∀ workshop target,
      host = .build workshop →
        workshop.backends.get? target = none →
          EndsIn (execute host ⟨.buildTarget target, line⟩) scene (.ok ())
            (scene.Warned (.text ("Unknown build target: " ++ target)))
  /-- A framework without a loader leaves a warning in a build. -/
  unknownFramework :
    ∀ workshop framework version,
      host = .build workshop →
        workshop.frameworks.get? (frameworkKey framework) = none →
          EndsIn (execute host ⟨.includeFramework framework version, line⟩) scene
            (.ok ()) (scene.Warned (.text ("Unknown framework: " ++ framework)))

/--
In every reachable context each command touches its own part alone, whoever executes it.
A value goes to its variable, a template to its component, rendered trees to the content
of one element, with at most one more subscriber for each reactive variable, and a media
element to the end of one element.  All other commands of these kinds leave one warning,
or stop, with everything as it was.
-/
theorem commands_touch_their_own_parts
    (host : Host)
    (line : Int)
    (scene : Scene)
    (reachable : scene.context.Reachable) :
    OwnParts host line scene where
  set name expression reactive value filled evaluated :=
    endsIn_set host line filled evaluated reactive
  setUnnamed expression reactive value evaluated :=
    endsIn_set_unnamed host line evaluated reactive
  unset name expression reactive error refused evaluation := by
    cases host with
    | runtime =>
        exact endsIn_unset line refused reactive
    | build workshop =>
        exact exists_warned_of_evaluation refused evaluation
  define name content filled :=
    endsIn_define host line filled content
  defineUnnamed content :=
    endsIn_define_unnamed host line content scene
  render name selector component template trees target registered content readable resolved :=
    endsIn_render reachable.sound registered content readable resolved host line
  renderUnknown name selector unknown :=
    endsIn_render_unknown host line unknown
  renderUnresolved name selector component registered unresolved :=
    endsIn_render_unresolved host line registered unresolved
  media isRuntime mediaType url selector := by
    rw [isRuntime]
    exact endsIn_media reachable.sound line mediaType url selector
  unsupported command without :=
    endsIn_unsupported without scene
  unknownTarget workshop target isBuild unknown := by
    rw [isBuild]
    exact endsIn_unknownTarget unknown line scene
  unknownFramework workshop framework version isBuild unknown := by
    rw [isBuild]
    exact endsIn_unknownFramework unknown line version scene

/-- A card that is stored on a blank page is rendered into the body and touches no more. -/
theorem commands_touch_their_own_parts_of_card :
    ∃ stored shown,
      bareScene.context.Reachable ∧
        outcome (execute .runtime ⟨.defineComponent "card" "<p>Hello</p>", 1⟩) bareScene =
          (.ok (), stored) ∧
        stored.context.Reachable ∧
        outcome (execute .runtime ⟨.renderComponent "card" "body", 2⟩) stored =
          (.ok (), shown) ∧
        stored.Rendered Page.blank.body [.element "p" ⟨[]⟩ [.text "Hello"]] shown := by
  have bare : bareScene.context.Reachable := .start ⟨[]⟩ false (.inl rfl)
  obtain ⟨stored, defined, turns⟩ :=
    (commands_touch_their_own_parts .runtime 1 bareScene bare).define "card"
      "<p>Hello</p>" (by decide)
  have reachable :=
    @Context.Reachable.command bareScene .runtime
      ⟨.defineComponent "card" "<p>Hello</p>", 1⟩ bare
  rw [defined] at reachable
  have registered :
      stored.context.store.components.get? (.text "card") =
        some ⟨.text "card", .text "<p>Hello</p>"⟩ := by
    rw [turns.context]
    rfl
  have resolved : Selector.resolve stored.context.page "body" = some Page.blank.body := by
    rw [turns.context]
    rfl
  obtain ⟨shown, rendered, part⟩ :=
    (commands_touch_their_own_parts .runtime 2 stored reachable).render "card" "body" _
      "<p>Hello</p>" [.element "p" ⟨[]⟩ [.text "Hello"]] Page.blank.body registered rfl
      rfl resolved
  exact ⟨stored, shown, bare, defined, reachable, rendered, part⟩

end PageScript.Run
