import PageScript.Proofs.Run.Rendering

namespace PageScript.Run

open Document Markup State

/-!
# Refused templates

An element is emptied before the markup that is meant for it is read.  When the
markup is refused, its old content is not put back: the element stays empty, and
its old children are left in no tree.  Everything else in the context stays as it
was, so a refused template goes unnoticed only in an element that held nothing.
-/

/-- The context after an element was emptied, and nothing else. -/
structure Emptied
    (before after : Context)
    (target : NodeId) : Prop where
  context :
    after =
      { before with
        page := { before.page with forest := after.page.forest } }
  wellFormed : after.page.forest.WellFormed
  /-- The element keeps its tag, its attributes and its place. -/
  tree :
    after.page.forest.tree? target =
      (before.page.forest.tag? target).map fun tag =>
        .element tag (before.page.forest.attributes target) []
  parent :
    after.page.forest.parent? target = before.page.forest.parent? target
  /-- Other nodes stay as they are, apart from the old children. -/
  others :
    ∀ id,
      id ≠ target →
        after.page.forest.node? id =
          (before.page.forest.node? id).map fun node =>
            if id ∈ before.page.forest.children target then
              { node with parent := none }
            else
              node
  /-- The tree is as it was only if it had no children. -/
  unnoticed :
    after.page.forest.tree? target = before.page.forest.tree? target ↔
      before.page.forest.children target = []

/-- Clearing an element empties it and changes nothing else. -/
theorem emptied_clear
    {context : Context}
    {target : NodeId}
    (wellFormed : context.page.forest.WellFormed)
    (isElement : context.page.forest.isElement target = true) :
    Emptied context
      { context with
        page :=
          { context.page with forest := context.page.forest.clear target } }
      target := by
  obtain ⟨tag, attributes, listed, known⟩ :=
    Forest.exists_content?_of_isElement isElement
  have cleared := wellFormed.clear target
  have clearedContent :
      (context.page.forest.clear target).content? target =
        some (.element tag attributes []) := by
    obtain ⟨node, found, content⟩ := Option.map_eq_some_iff.mp known
    simp [Forest.content?, Forest.node?_clear, found, content,
      Forest.Content.withChildren]
  have treeIs :
      (context.page.forest.clear target).tree? target =
        some (.element tag attributes []) :=
    (Forest.tree?_eq_some cleared).mpr (.element clearedContent .nil)
  refine
    { context := rfl
      wellFormed := cleared
      tree := ?_
      parent := ?_
      others := fun id different => ?_
      unnoticed := ?_ }
  · simp [treeIs, Forest.tag?_of_content? known,
      Forest.attributes_of_content? known]
  · have notOwnChild : target ∉ context.page.forest.children target :=
      fun member =>
        wellFormed.not_above_self target
          (.parent (wellFormed.parentOfChild member))
    exact (Forest.parent?_clear target target).trans (if_neg notOwnChild)
  · rw [Forest.node?_clear]
    refine Option.map_congr fun node _ => ?_
    split <;> simp
  · -- A tree lists as many trees as its root has children.
    rw [treeIs, Forest.children_of_content? known, eq_comm,
      Forest.tree?_eq_some wellFormed]
    constructor
    · intro spans
      cases spans with
      | element content below =>
          cases known.symm.trans content
          cases below
          rfl
    · rintro rfl
      exact .element known .nil

/-- Markup that is refused empties the element that it is meant for. -/
theorem outcome_setContent_of_refused
    {scene : Scene}
    {target : NodeId}
    {markup : String}
    {error : MarkupError}
    (refused : parseTrees markup = .error error) :
    outcome (setContent target markup) scene =
      (.error (.markup error),
        scene.withForest (scene.context.page.forest.clear target)) := by
  rw [setContent, outcome_get_bind]
  dsimp only
  rw [Page.setContent, refused]
  rfl

/-- Rendering a component stops at a refused template. -/
theorem exists_outcome_render_of_refused
    {scene : Scene}
    {name selector template : String}
    {component : Component}
    {target : NodeId}
    {error : MarkupError}
    (registered :
      scene.context.store.components.get? (.text name) = some component)
    (content : component.content = .text template)
    (refused : parseTrees template = .error error)
    (selected :
      Selector.selectFirst scene.context.page.forest scene.context.page.root
          selector =
        .ok (some target))
    (host : Host)
    (line : Int) :
    ∃ reached,
      outcome (execute host ⟨.renderComponent name selector, line⟩) scene =
          (.error (.markup error), reached) ∧
        reached.context =
          (scene.withForest
            (scene.context.page.forest.clear target)).context := by
  have begun := outcome_execute_render host line name selector scene
  generalize announcedIs :
    scene.logged (announcement ⟨.renderComponent name selector, line⟩) =
      announced at begun
  have sameContext : announced.context = scene.context := by
    rw [← announcedIs, Scene.context_logged]
  have found :
      outcome (resolve selector) announced = (.ok (some target), announced) := by
    rw [resolve, outcome_get_bind]
    dsimp only
    rw [sameContext, selected]
    rfl
  have stopped :
      outcome (renderInto name selector) announced =
        (.error (.markup error),
          announced.withForest
            (announced.context.page.forest.clear target)) := by
    rw [renderInto, outcome_get_bind, sameContext, registered]
    dsimp only
    rw [outcome_bind_ok found, content, ← sameContext]
    exact outcome_bind_error (outcome_setContent_of_refused refused)
  refine ⟨_, begun.trans (outcome_bind_error stopped), ?_⟩
  rw [Scene.withForest, Scene.withForest, sameContext]

/--
A template that is refused empties the element that it is meant for and changes
nothing else in the context, both when it is written directly and when it is the
template of a component that any host renders.
-/
theorem refused_templates_empty_elements
    (scene : Scene)
    (template : String)
    (error : MarkupError)
    (target : NodeId)
    (wellFormed : scene.context.page.forest.WellFormed)
    (refused : parseTrees template = .error error) :
    (scene.context.page.forest.isElement target = true →
      ∃ reached,
        outcome (setContent target template) scene =
            (.error (.markup error), reached) ∧
          Emptied scene.context reached.context target) ∧
      ∀ (host : Host) (line : Int) (name selector : String)
        (component : Component),
        scene.context.store.components.get? (.text name) = some component →
          component.content = .text template →
          Selector.resolve scene.context.page selector = some target →
            ∃ reached,
              outcome (execute host ⟨.renderComponent name selector, line⟩)
                    scene =
                  (.error (.markup error), reached) ∧
                Emptied scene.context reached.context target := by
  constructor
  · intro isElement
    exact
      ⟨_, outcome_setContent_of_refused refused,
        emptied_clear wellFormed isElement⟩
  · intro host line name selector component registered content resolved
    obtain ⟨selected, isElement⟩ := selectFirst_of_resolve resolved
    obtain ⟨reached, step, context⟩ :=
      exists_outcome_render_of_refused registered content refused selected host
        line
    refine ⟨reached, step, ?_⟩
    rw [context]
    exact emptied_clear wellFormed isElement

/-- A page that greets, and a component whose template cannot be read. -/
def greetingScene : Scene :=
  (bareScene.withForest
      ((bareScene.context.page.forest.clear 2).appendTrees 2
        [.text "Hello"])).withStore
    { components := ⟨[(.text "card", ⟨.text "card", .text "<![x]>"⟩)]⟩ }

theorem replaced_greetingScene :
    bareScene.context.page.forest.Replaced greetingScene.context.page.forest 2
      [.text "Hello"] :=
  Forest.replaced_appendTrees_clear Page.blank_wellFormed rfl ⟨trivial, trivial⟩

/-- The card is refused, and the greeting is lost. -/
theorem refused_templates_empty_elements_of_card :
    ∃ reached,
      outcome (execute .runtime ⟨.renderComponent "card" "body", 1⟩)
            greetingScene =
          (.error (.markup (.unknownSection "'x'")), reached) ∧
        Emptied greetingScene.context reached.context 2 :=
  (refused_templates_empty_elements greetingScene "<![x]>" _ 2
      replaced_greetingScene.wellFormed rfl).2
    .runtime 1 "card" "body" _ rfl rfl rfl

/--
Rendering the card fails and yet changes the page: the body held a text before
and holds nothing afterwards.
-/
theorem refused_template_loses_greeting :
    ∃ reached,
      outcome (execute .runtime ⟨.renderComponent "card" "body", 1⟩)
            greetingScene =
          (.error (.markup (.unknownSection "'x'")), reached) ∧
        greetingScene.context.page.forest.tree? 2 =
          some (.element "body" ⟨[]⟩ [.text "Hello"]) ∧
        reached.context.page.forest.tree? 2 =
          some (.element "body" ⟨[]⟩ []) := by
  obtain ⟨reached, step, context⟩ :=
    @exists_outcome_render_of_refused greetingScene "card" "body" "<![x]>" _ 2
      _ rfl rfl rfl rfl .runtime 1
  have wellFormed := replaced_greetingScene.wellFormed
  refine ⟨reached, step, ?_, ?_⟩
  · exact
      (Forest.tree?_eq_some wellFormed).mpr
        (replaced_greetingScene.element _ _ _ rfl).1
  · rw [context]
    exact (emptied_clear wellFormed rfl).tree

end PageScript.Run
