import PageScript.Proofs.Document.Slots
import PageScript.Proofs.Run.Outcome
import PageScript.Proofs.State.Store

namespace PageScript.Run

open Document Markup State

/-!
# Rendering and updating

A component that is rendered replaces the content of an element by its template,
and every reactive variable subscribes to the places that hold its token.  Each
later update replaces the token of its variable at these places.  After a render
and any updates the element holds the template, where every string has seen
exactly the updates whose tokens it held when the component was rendered, in
their order.
-/

/-- A scene with another store. -/
def Scene.withStore (scene : Scene) (store : Store) : Scene :=
  { scene with context := { scene.context with store := store } }

/-- A scene with other nodes on its page. -/
def Scene.withForest (scene : Scene) (forest : Forest) : Scene :=
  { scene with
    context :=
      { scene.context with
        page := { scene.context.page with forest := forest } } }

/-- The subscribers that a reactive variable gets for the slots of its token. -/
def subscription
    (forest : Forest)
    (target : NodeId)
    (name : String) :
    List Subscriber :=
  if (forest.slots (placeholder name) target).isEmpty then
    []
  else
    [.substitution (placeholder name) (forest.slots (placeholder name) target)]

/-! ## Binding -/

/-- A variable that is found gets a further subscriber. -/
theorem outcome_subscribe
    {scene : Scene}
    {name : String}
    {cell : Reactive Subscriber}
    (found : scene.context.store.reactiveNamed? name = some cell)
    (nonempty : name ≠ "")
    (subscriber : Subscriber) :
    outcome (subscribe (.text name) subscriber) scene =
      (.ok (),
        scene.withStore
          { scene.context.store with
            bindings :=
              scene.context.store.bindings.insert (.text name)
                (.reactive (cell.subscribe subscriber)) }) := by
  rw [subscribe, outcome_get_bind, Store.reactive?_text, found]
  dsimp only
  rw [Store.bind_text _ nonempty]
  rfl

/-- What binding changes in a store: some variables get their subscriptions. -/
structure Subscribed
    (forest : Forest)
    (target : NodeId)
    (names : List String)
    (before after : Store) : Prop where
  components : after.components = before.components
  cells :
    ∀ name,
      after.reactiveNamed? name =
        if name ∈ names then
          (before.reactiveNamed? name).map fun cell =>
            { cell with
              subscribers := cell.subscribers ++ subscription forest target name }
        else
          before.reactiveNamed? name

/-- Binding a variable subscribes it to the slots of its token. -/
theorem exists_bindVariable
    {scene : Scene}
    {name : String}
    {cell : Reactive Subscriber}
    (found : scene.context.store.reactiveNamed? name = some cell)
    (nonempty : name ≠ "")
    (target : NodeId) :
    ∃ count store,
      outcome (bindVariable target (.text name)) scene =
          (.ok count, scene.withStore store) ∧
        Subscribed scene.context.page.forest target [name]
          scene.context.store store := by
  rw [bindVariable, outcome_get_bind]
  dsimp only
  cases none :
      (scene.context.page.forest.slots (placeholder name) target).isEmpty with
  | true =>
      refine ⟨0, scene.context.store, rfl, rfl, ?_⟩
      intro other
      by_cases same : other = name
      · rw [if_pos (same ▸ List.mem_cons_self), same, found, subscription,
          none]
        simp
      · rw [if_neg (mt List.mem_singleton.mp same)]
  | false =>
      have subscribed :=
        outcome_subscribe found nonempty
          (.substitution (placeholder name)
            (scene.context.page.forest.slots (placeholder name) target))
      refine
        ⟨(scene.context.page.forest.slots (placeholder name) target).length, _,
          outcome_bind_ok subscribed, rfl, ?_⟩
      intro other
      rw [Store.reactiveNamed?_insert]
      by_cases same : other = name
      · rw [if_pos same, if_pos (same ▸ List.mem_cons_self), same, found,
          subscription, none]
        rfl
      · rw [if_neg same, if_neg (mt List.mem_singleton.mp same)]

/-- Binding several variables subscribes each of them once. -/
theorem exists_bindVariables
    (target : NodeId)
    {names : List String}
    (nodup : names.Nodup)
    {scene : Scene}
    (known :
      ∀ name ∈ names,
        name ≠ "" ∧
          ∃ cell, scene.context.store.reactiveNamed? name = some cell) :
    ∃ count store,
      outcome (bindVariables target (names.map .text)) scene =
          (.ok count, scene.withStore store) ∧
        Subscribed scene.context.page.forest target names
          scene.context.store store := by
  -- Each binding changes the store and not the page, so the slots of the next
  -- variable are captured on the same forest.
  induction names generalizing scene with
  | nil =>
      exact ⟨0, scene.context.store, rfl, rfl, fun _ => rfl⟩
  | cons name rest inductionHypothesis =>
      obtain ⟨fresh, restNodup⟩ := List.nodup_cons.mp nodup
      obtain ⟨⟨nonempty, cell, found⟩, restKnown⟩ :=
        List.forall_mem_cons.mp known
      obtain ⟨firstCount, middle, firstStep, first⟩ :=
        exists_bindVariable found nonempty target
      have middleKnown :
          ∀ other ∈ rest,
            other ≠ "" ∧
              ∃ cell, middle.reactiveNamed? other = some cell := by
        intro other member
        obtain ⟨otherNonempty, otherCell, otherFound⟩ :=
          restKnown other member
        refine ⟨otherNonempty, otherCell, ?_⟩
        rw [first.cells, if_neg, otherFound]
        intro same
        exact fresh (List.mem_singleton.mp same ▸ member)
      obtain ⟨restCount, last, restStep, others⟩ :=
        @inductionHypothesis restNodup (scene.withStore middle) middleKnown
      refine ⟨firstCount + restCount, last, ?_, ?_, ?_⟩
      · rw [List.map_cons, bindVariables, outcome_bind_ok firstStep,
          outcome_bind_ok restStep]
        rfl
      · exact others.components.trans first.components
      · intro other
        rw [others.cells]
        change
          (if other ∈ rest then
              (middle.reactiveNamed? other).map fun cell =>
                { cell with
                  subscribers :=
                    cell.subscribers ++
                      subscription scene.context.page.forest target other }
            else
              middle.reactiveNamed? other) =
            _
        rw [first.cells]
        by_cases inRest : other ∈ rest
        · have different : other ≠ name := by
            rintro rfl
            exact fresh inRest
          rw [if_pos inRest, if_neg (mt List.mem_singleton.mp different),
            if_pos (List.mem_cons_of_mem _ inRest)]
        · rw [if_neg inRest]
          simp only [List.mem_cons, inRest, List.not_mem_nil, or_false]

/-! ## Rendering -/

/-- What is selected is an element below the top. -/
theorem mem_elementsBelow_of_selectFirst
    {forest : Forest}
    {top target : NodeId}
    {selector : String}
    (first : Selector.selectFirst forest top selector = .ok (some target)) :
    target ∈ forest.elementsBelow top := by
  rw [Selector.selectFirst] at first
  cases readable : Selector.read selector with
  | error error =>
      rw [readable] at first
      cases first
  | ok chains =>
      rw [readable] at first
      exact List.mem_of_find?_eq_some (Except.ok.inj first)

/-- A selector that resolves selects an element. -/
theorem selectFirst_of_resolve
    {page : Page}
    {selector : String}
    {target : NodeId}
    (resolved : Selector.resolve page selector = some target) :
    Selector.selectFirst page.forest page.root selector = .ok (some target) ∧
      page.forest.isElement target = true := by
  rw [Selector.resolve] at resolved
  cases first : Selector.selectFirst page.forest page.root selector with
  | error error =>
      rw [first] at resolved
      cases resolved
  | ok found =>
      rw [first] at resolved
      obtain rfl : found = some target := resolved
      exact ⟨rfl, List.of_mem_filter (mem_elementsBelow_of_selectFirst first)⟩

/--
A component that is found is written into the element that its selector selects.
-/
theorem outcome_renderInto
    {scene : Scene}
    {name selector template : String}
    {component : Component}
    {target : NodeId}
    {trees : List Tree}
    (registered :
      scene.context.store.components.get? (.text name) = some component)
    (content : component.content = .text template)
    (readable : parseTrees template = .ok trees)
    (selected :
      Selector.selectFirst scene.context.page.forest scene.context.page.root
          selector =
        .ok (some target)) :
    outcome (renderInto name selector) scene =
      (.ok (some target),
        scene.withForest
          ((scene.context.page.forest.clear target).appendTrees target
            trees)) := by
  have resolved :
      outcome (resolve selector) scene = (.ok (some target), scene) := by
    rw [resolve, outcome_get_bind]
    dsimp only
    rw [selected]
    rfl
  have written :
      outcome (writeTemplate target (.text template)) scene =
        (.ok (),
          scene.withForest
            ((scene.context.page.forest.clear target).appendTrees target
              trees)) := by
    rw [writeTemplate, setContent, outcome_get_bind]
    dsimp only
    rw [Page.setContent, readable]
    rfl
  rw [renderInto, outcome_get_bind, registered]
  dsimp only
  rw [outcome_bind_ok resolved]
  dsimp only
  rw [content, outcome_bind_ok written]
  rfl

/-- A scene after a component was rendered and some updates were made. -/
structure Follows
    (start : Context)
    (rendered : Forest)
    (target : NodeId)
    (scene : Scene)
    (change : String → String) : Prop where
  reworded :
    Forest.RewordedBelow rendered scene.context.page.forest target change
  page :
    scene.context.page =
      { start.page with forest := scene.context.page.forest }
  cells :
    ∀ name cell,
      start.store.reactiveNamed? name = some cell →
        ∃ now,
          scene.context.store.reactiveNamed? name = some now ∧
            now.subscribers = subscription rendered target name
  components : scene.context.store.components = start.store.components
  functions : scene.context.functions = start.functions
  warnings : scene.context.warnings = start.warnings

/--
Binding the reactive variables of a rendered component starts a scene that
follows.
-/
theorem exists_follows_bindReactivity
    {scene : Scene}
    (wellFormed : scene.context.store.WellFormed)
    (silent :
      ∀ entry ∈ scene.context.store.reactives, entry.2.subscribers = [])
    (target : NodeId) :
    ∃ count reached,
      outcome (bindReactivity target) scene = (.ok count, reached) ∧
        Follows scene.context scene.context.page.forest target reached id := by
  obtain ⟨names, texts, nodup, mem_names⟩ := wellFormed.exists_names
  have known :
      ∀ name ∈ names,
        name ≠ "" ∧
          ∃ cell, scene.context.store.reactiveNamed? name = some cell := by
    intro name member
    obtain ⟨cell, found⟩ := (mem_names name).mp member
    exact ⟨wellFormed.ne_empty_of_reactiveNamed? found, cell, found⟩
  obtain ⟨count, store, bound, subscribed⟩ :=
    exists_bindVariables target nodup known
  refine ⟨count, scene.withStore store, ?_, ?_⟩
  · rw [bindReactivity, outcome_get_bind, texts]
    exact bound
  · refine
      { reworded := .refl _ _
        page := rfl
        cells := ?_
        components := subscribed.components
        functions := rfl
        warnings := rfl }
    intro name cell found
    have noneYet : cell.subscribers = [] :=
      silent _ (wellFormed.mem_reactives.mpr found)
    have after := subscribed.cells name
    rw [if_pos ((mem_names name).mpr ⟨cell, found⟩), found] at after
    refine ⟨_, after, ?_⟩
    dsimp only
    rw [noneYet, List.nil_append]

/-- Rendering a component is announced and then done, whoever the host is. -/
theorem outcome_execute_render
    (host : Host)
    (line : Int)
    (name selector : String)
    (scene : Scene) :
    outcome (execute host ⟨.renderComponent name selector, line⟩) scene =
      outcome (executeRender name selector)
        (scene.logged
          (announcement ⟨.renderComponent name selector, line⟩)) := by
  cases host <;> rfl

/-- Rendering a component starts a scene that follows, whoever the host is. -/
theorem exists_follows_render
    {scene : Scene}
    {name selector template : String}
    {component : Component}
    {target : NodeId}
    {trees : List Tree}
    (wellFormed : scene.context.store.WellFormed)
    (silent :
      ∀ entry ∈ scene.context.store.reactives, entry.2.subscribers = [])
    (registered :
      scene.context.store.components.get? (.text name) = some component)
    (content : component.content = .text template)
    (readable : parseTrees template = .ok trees)
    (selected :
      Selector.selectFirst scene.context.page.forest scene.context.page.root
          selector =
        .ok (some target))
    (host : Host)
    (line : Int) :
    ∃ reached,
      outcome (execute host ⟨.renderComponent name selector, line⟩) scene =
          (.ok (), reached) ∧
        Follows scene.context
          ((scene.context.page.forest.clear target).appendTrees target trees)
          target reached id := by
  generalize renderedIs :
    (scene.context.page.forest.clear target).appendTrees target trees = rendered
  have written :
      outcome (renderInto name selector)
          (scene.logged
            (announcement ⟨.renderComponent name selector, line⟩)) =
        (.ok (some target),
          (scene.logged
              (announcement ⟨.renderComponent name selector, line⟩)).withForest
            rendered) := by
    rw [← renderedIs]
    exact outcome_renderInto registered content readable selected
  obtain ⟨count, bound, step, follows⟩ :=
    @exists_follows_bindReactivity
      ((scene.logged
          (announcement ⟨.renderComponent name selector, line⟩)).withForest
        rendered)
      wellFormed silent target
  refine
    ⟨bound.logged
      ⟨.info, "hsxctl.services.interpreter", "component.render",
        [("name", .text name), ("selector", .text selector)]⟩, ?_, ?_⟩
  · rw [outcome_execute_render, executeRender, outcome_bind_ok written]
    dsimp only
    rw [outcome_bind_ok step, outcome_report]
  · exact
      { reworded := follows.reworded
        page := follows.page
        cells := follows.cells
        components := follows.components
        functions := follows.functions
        warnings := follows.warnings }

/-! ## Updating -/

/-- The subscription of a variable replaces its token at its slots. -/
theorem outcome_tellSubscribers_subscription
    (forest : Forest)
    (target : NodeId)
    (name : String)
    (value : Value)
    (scene : Scene) :
    outcome (tellSubscribers value (subscription forest target name)) scene =
      (.ok (),
        scene.withForest
          (scene.context.page.forest.substituteAll (placeholder name)
            (substitutionText value)
            (forest.slots (placeholder name) target))) := by
  rw [subscription]
  cases slots : forest.slots (placeholder name) target with
  | nil =>
      rfl
  | cons slot others =>
      rfl

/-- An update of a reactive variable stores the value and replaces the token. -/
theorem outcome_update
    {scene : Scene}
    {name : String}
    {cell : Reactive Subscriber}
    (found : scene.context.store.reactiveNamed? name = some cell)
    (nonempty : name ≠ "")
    {forest : Forest}
    {target : NodeId}
    (subscribers : cell.subscribers = subscription forest target name)
    (value : Value) :
    outcome (Function.update.apply [.text name, value]) scene =
      (.ok .null,
        (scene.withStore
            { scene.context.store with
              bindings :=
                scene.context.store.bindings.insert (.text name)
                  (.reactive (cell.store value)) }).withForest
          (scene.context.page.forest.substituteAll (placeholder name)
            (substitutionText value)
            (forest.slots (placeholder name) target))) := by
  have told :
      outcome (setReactive (.text name) value cell) scene =
        (.ok (),
          (scene.withStore
              { scene.context.store with
                bindings :=
                  scene.context.store.bindings.insert (.text name)
                    (.reactive (cell.store value)) }).withForest
            (scene.context.page.forest.substituteAll (placeholder name)
              (substitutionText value)
              (forest.slots (placeholder name) target))) := by
    rw [setReactive, outcome_get_bind, Store.bind_text _ nonempty, subscribers]
    exact outcome_tellSubscribers_subscription forest target name value _
  have updated :
      outcome (updateVariable (.text name) value) scene =
        outcome (setReactive (.text name) value cell) scene := by
    rw [updateVariable, outcome_get_bind, Store.reactive?_text, found]
    rfl
  have fits :
      checkArity Function.update.arity [Value.text name, value].length = .ok () :=
    rfl
  rw [Function.apply, fits, outcome_bind_ok (outcome_require_ok _ _ _)]
  exact outcome_bind_ok (updated.trans told)

/-- Set variables one after another by calls of the update function. -/
def updateAll : List (String × Value) → Action Unit
  | [] => pure ()
  | (name, value) :: rest => do
      let _ ← Function.update.apply [.text name, value]
      updateAll rest

/--
What becomes of a string of a rendered component: for each update whose token it
held when the component was rendered, the token is replaced, in the order of the
updates.
-/
def stringAfter
    (updates : List (String × Value))
    (original : String) :
    String :=
  updates.foldl
    (fun current update =>
      if holdsToken (placeholder update.1) original then
        replaceToken (placeholder update.1) (substitutionText update.2) current
      else
        current)
    original

/-- An update keeps a scene following, with one more substitution. -/
theorem Follows.exists_update
    {start : Context}
    {rendered : Forest}
    {target : NodeId}
    {scene : Scene}
    {change : String → String}
    (follows : Follows start rendered target scene change)
    (startWellFormed : start.store.WellFormed)
    (wellFormed : rendered.WellFormed)
    (isElement : rendered.isElement target = true)
    {name : String}
    {cell : Reactive Subscriber}
    (found : start.store.reactiveNamed? name = some cell)
    (value : Value) :
    ∃ reached,
      outcome (Function.update.apply [.text name, value]) scene =
          (.ok .null, reached) ∧
        Follows start rendered target reached
          (rewordHeld (placeholder name) (substitutionText value) change) := by
  obtain ⟨now, nowFound, subscribers⟩ := follows.cells name cell found
  refine
    ⟨_,
      outcome_update nowFound
        (startWellFormed.ne_empty_of_reactiveNamed? found) subscribers value,
      ?_⟩
  refine
    { reworded :=
        follows.reworded.substituteAll wellFormed isElement (placeholder name)
          (substitutionText value)
      page := ?_
      cells := ?_
      components := follows.components
      functions := follows.functions
      warnings := follows.warnings }
  · exact
      congrArg
        (fun page : Page =>
          { page with
            forest :=
              scene.context.page.forest.substituteAll (placeholder name)
                (substitutionText value)
                (rendered.slots (placeholder name) target) })
        follows.page
  · intro other otherCell otherFound
    obtain ⟨otherNow, otherNowFound, otherSubscribers⟩ :=
      follows.cells other otherCell otherFound
    -- A new value keeps the subscribers of its variable and all other variables.
    by_cases same : other = name
    · subst same
      refine ⟨now.store value, ?_, subscribers⟩
      exact (Store.reactiveNamed?_insert _ _).trans (if_pos rfl)
    · refine ⟨otherNow, ?_, otherSubscribers⟩
      exact
        (Store.reactiveNamed?_insert _ _).trans
          ((if_neg same).trans otherNowFound)

/-- Updates keep a scene following, with their substitutions in order. -/
theorem Follows.exists_updateAll
    {start : Context}
    {rendered : Forest}
    {target : NodeId}
    (startWellFormed : start.store.WellFormed)
    (wellFormed : rendered.WellFormed)
    (isElement : rendered.isElement target = true)
    {updates : List (String × Value)}
    (known :
      ∀ update ∈ updates,
        ∃ cell, start.store.reactiveNamed? update.1 = some cell)
    {scene : Scene}
    {change : String → String}
    (follows : Follows start rendered target scene change) :
    ∃ reached,
      outcome (updateAll updates) scene = (.ok (), reached) ∧
        Follows start rendered target reached fun original =>
          updates.foldl
            (fun current update =>
              if holdsToken (placeholder update.1) original then
                replaceToken (placeholder update.1)
                  (substitutionText update.2) current
              else
                current)
            (change original) := by
  induction updates generalizing scene change with
  | nil =>
      exact ⟨scene, rfl, follows⟩
  | cons update rest inductionHypothesis =>
      obtain ⟨⟨cell, found⟩, restKnown⟩ := List.forall_mem_cons.mp known
      obtain ⟨middle, step, middleFollows⟩ :=
        follows.exists_update startWellFormed wellFormed isElement found update.2
      obtain ⟨reached, others, reachedFollows⟩ :=
        inductionHypothesis restKnown middleFollows
      refine ⟨reached, ?_, reachedFollows⟩
      rw [updateAll, outcome_bind_ok step, others]

/--
Rendering a component and then updating reactive variables, end to end.  The
element that the selector selects holds the template, with the same tags,
attribute names, nesting and texts.  Each attribute value and text in it, its own
attributes included, is the string at the time of the rendering with the tokens
replaced of exactly those updates whose tokens it held then, in their order.
Every other node of the page keeps its content, and its parent unless it was a
child of the element.
-/
theorem render_then_updates
    (host : Host)
    (line : Int)
    (scene : Scene)
    (name selector template : String)
    (component : Component)
    (trees : List Tree)
    (target : NodeId)
    (updates : List (String × Value))
    (pageWellFormed : scene.context.page.forest.WellFormed)
    (storeWellFormed : scene.context.store.WellFormed)
    (silent :
      ∀ entry ∈ scene.context.store.reactives, entry.2.subscribers = [])
    (registered :
      scene.context.store.components.get? (.text name) = some component)
    (content : component.content = .text template)
    (readable : parseTrees template = .ok trees)
    (resolved : Selector.resolve scene.context.page selector = some target)
    (reactive :
      ∀ update ∈ updates,
        ∃ cell, scene.context.store.reactiveNamed? update.1 = some cell) :
    ∃ tag reached,
      outcome
            (do
              execute host ⟨.renderComponent name selector, line⟩
              updateAll updates)
            scene =
          (.ok (), reached) ∧
        scene.context.page.forest.tag? target = some tag ∧
        reached.context.page.forest.tree? target =
          some
            (.element tag
              ((scene.context.page.forest.attributes target).mapValues
                (stringAfter updates))
              (rewordAll (stringAfter updates) trees)) ∧
        reached.context.page.forest.parent? target =
          scene.context.page.forest.parent? target ∧
        (∀ id : Nat,
          id < scene.context.page.forest.nodes.size →
            id ≠ target →
              reached.context.page.forest.node? id =
                (scene.context.page.forest.node? id).map fun node =>
                  if id ∈ scene.context.page.forest.children target then
                    { node with parent := none }
                  else
                    node) ∧
        reached.context.page =
          { scene.context.page with forest := reached.context.page.forest } ∧
        reached.context.page.forest.WellFormed ∧
        reached.context.store.components = scene.context.store.components ∧
        reached.context.functions = scene.context.functions ∧
        reached.context.warnings = scene.context.warnings := by
  obtain ⟨selected, isElement⟩ := selectFirst_of_resolve resolved
  obtain ⟨middle, renderStep, middleFollows⟩ :=
    exists_follows_render storeWellFormed silent registered content
      readable selected host line
  have replaced :=
    Forest.replaced_appendTrees_clear pageWellFormed isElement
      (attributesNodupAll_of_parseTrees readable)
  generalize
    (scene.context.page.forest.clear target).appendTrees target trees = rendered
      at middleFollows replaced
  obtain ⟨tag, attributes, listed, known⟩ :=
    Forest.exists_content?_of_isElement isElement
  obtain ⟨spans, sameParent⟩ := replaced.element tag attributes listed known
  have renderedElement : rendered.isElement target = true := by
    cases spans with
    | element renderedKnown _ =>
        rw [Forest.isElement, Forest.tag?_of_content? renderedKnown]
        rfl
  obtain ⟨reached, updateStep, follows⟩ :=
    middleFollows.exists_updateAll storeWellFormed replaced.wellFormed
      renderedElement reactive
  have finalWellFormed := follows.reworded.wellFormed replaced.wellFormed
  have finalSpans := follows.reworded.spans replaced.wellFormed spans
  refine
    ⟨tag, reached, ?_, Forest.tag?_of_content? known, ?_, ?_, ?_, follows.page,
      finalWellFormed, follows.components, follows.functions, follows.warnings⟩
  · rw [outcome_bind_ok renderStep, updateStep]
  · rw [Forest.tree?_eq_some finalWellFormed,
      Forest.attributes_of_content? known]
    exact finalSpans
  · rw [(follows.reworded.same_edges target).1, sameParent]
  · intro id old different
    rw [follows.reworded.outside id (replaced.apart id old different),
      replaced.old id old different]

/--
A blank page with a card that greets a user, and the user as a reactive
variable.
-/
def cardScene : Scene :=
  bareScene.withStore
    { bindings := ⟨[(.text "user", .reactive { value := .null })]⟩
      components :=
        ⟨[(.text "card",
          ⟨.text "card", .text "<p>Hello \x7b\x7buser\x7d\x7d</p>"⟩)]⟩ }

/--
The card in the body greets the user of the last update that found its token.
-/
theorem render_then_updates_of_card :
    ∃ reached,
      outcome
            (do
              execute .runtime ⟨.renderComponent "card" "body", 1⟩
              updateAll [("user", .text "Ada"), ("user", .text "Eve")])
            cardScene =
          (.ok (), reached) ∧
        reached.context.page.forest.tree? 2 =
          some
            (.element "body" ⟨[]⟩
              [.element "p" ⟨[]⟩ [.text "Hello Ada"]]) := by
  have storeWellFormed : cardScene.context.store.WellFormed :=
    ⟨List.pairwise_singleton _ _, List.forall_mem_singleton.mpr rfl,
      List.forall_mem_singleton.mpr fun _ _ => ⟨"user", rfl⟩⟩
  obtain ⟨tag, reached, run, tagIs, tree, -⟩ :=
    render_then_updates .runtime 1 cardScene "card" "body"
      "<p>Hello \x7b\x7buser\x7d\x7d</p>" _
      [.element "p" ⟨[]⟩ [.text "Hello \x7b\x7buser\x7d\x7d"]] 2
      [("user", .text "Ada"), ("user", .text "Eve")] Page.blank_wellFormed
      storeWellFormed (List.forall_mem_singleton.mpr rfl) rfl rfl rfl rfl
      (List.forall_mem_cons.mpr
        ⟨⟨_, rfl⟩, List.forall_mem_singleton.mpr ⟨_, rfl⟩⟩)
  obtain rfl : "body" = tag := Option.some.inj tagIs
  refine ⟨reached, run, tree.trans ?_⟩
  have greeting :
      stringAfter [("user", .text "Ada"), ("user", .text "Eve")]
          "Hello \x7b\x7buser\x7d\x7d" =
        "Hello Ada" := by
    decide
  exact
    congrArg
      (fun text =>
        some (Tree.element "body" ⟨[]⟩ [.element "p" ⟨[]⟩ [.text text]]))
      greeting

end PageScript.Run
