import PageScript.Proofs.Run.Rendering

namespace PageScript.Run

open Document Markup State

/-!
# What a rendered component shows

The page after a render and some updates is the page after the render with the
strings below the element reworded.  The facts about the two steps are kept apart
here: how the render replaces the content of the element, and how the updates
change what it shows.
-/

/--
A component that can be rendered into an element, in a scene whose reactive
variables have no subscribers yet.
-/
structure Renderable
    (scene : Scene)
    (name selector template : String)
    (trees : List Tree)
    (target : NodeId) : Prop where
  page : scene.context.page.forest.WellFormed
  store : scene.context.store.WellFormed
  silent :
    ∀ entry ∈ scene.context.store.reactives, entry.2.subscribers = []
  registered :
    ∃ component,
      scene.context.store.components.get? (.text name) = some component ∧
        component.content = .text template
  readable : parseTrees template = .ok trees
  resolved : Selector.resolve scene.context.page selector = some target

/-- A text is put in as it is. -/
theorem substitutionText_text
    (s : String) :
    substitutionText (.text s) = s :=
  String.ofList_toList

/-- The nodes of the page with other content in an element. -/
def Scene.filledForest
    (scene : Scene)
    (trees : List Tree)
    (target : NodeId) :
    Forest :=
  (scene.context.page.forest.clear target).appendTrees target trees

/-- Render a component and then update some variables. -/
def renderAndUpdate
    (host : Host)
    (line : Int)
    (name selector : String)
    (updates : List (String × Value)) :
    Action Unit := do
  execute host ⟨.renderComponent name selector, line⟩
  updateAll updates

namespace Renderable

variable {scene : Scene} {name selector template : String} {trees : List Tree}
  {target : NodeId}

theorem isElement
    (renderable : Renderable scene name selector template trees target) :
    scene.context.page.forest.isElement target = true :=
  (selectFirst_of_resolve renderable.resolved).2

/-- Rendering replaces the content of the element by the template. -/
theorem replaced
    (renderable : Renderable scene name selector template trees target) :
    scene.context.page.forest.Replaced (scene.filledForest trees target) target
      trees :=
  Forest.replaced_appendTrees_clear renderable.page renderable.isElement
    (attributesNodupAll_of_parseTrees renderable.readable)

/-- After the render the element holds the template. -/
theorem spans
    (renderable : Renderable scene name selector template trees target) :
    ∃ tag,
      scene.context.page.forest.tag? target = some tag ∧
        (scene.filledForest trees target).Spans target
          (.element tag (scene.context.page.forest.attributes target) trees) := by
  obtain ⟨tag, attributes, listed, known⟩ :=
    Forest.exists_content?_of_isElement renderable.isElement
  refine ⟨tag, Forest.tag?_of_content? known, ?_⟩
  rw [Forest.attributes_of_content? known]
  exact (renderable.replaced.element tag attributes listed known).1

theorem isElement_filled
    (renderable : Renderable scene name selector template trees target) :
    (scene.filledForest trees target).isElement target = true := by
  obtain ⟨tag, -, spans⟩ := renderable.spans
  cases spans with
  | element known _ =>
      exact Forest.isElement_of_content? known

/-- The render and any updates succeed, and the updates reword what was rendered. -/
theorem exists_follows
    (renderable : Renderable scene name selector template trees target)
    (host : Host)
    (line : Int)
    {updates : List (String × Value)}
    (known :
      ∀ update ∈ updates,
        ∃ cell, scene.context.store.reactiveNamed? update.1 = some cell) :
    ∃ reached,
      outcome (renderAndUpdate host line name selector updates) scene =
          (.ok (), reached) ∧
        Follows scene.context (scene.filledForest trees target) target reached
          (stringAfter updates) := by
  obtain ⟨component, registered, content⟩ := renderable.registered
  obtain ⟨middle, rendered, middleFollows⟩ :=
    exists_follows_render renderable.store renderable.silent registered content
      renderable.readable (selectFirst_of_resolve renderable.resolved).1 host
      line
  obtain ⟨reached, updated, follows⟩ :=
    middleFollows.exists_updateAll renderable.store
      renderable.replaced.wellFormed renderable.isElement_filled known
  refine ⟨reached, ?_, follows⟩
  rw [renderAndUpdate, outcome_bind_ok rendered, updated]

end Renderable

namespace Follows

variable {start : Context} {rendered : Forest} {target : NodeId}
  {scene other : Scene} {change : String → String}

/-- After some updates the element holds the reworded template. -/
theorem tree?_target
    (follows : Follows start rendered target scene change)
    (wellFormed : rendered.WellFormed)
    {tree : Tree}
    (spans : rendered.Spans target tree) :
    scene.context.page.forest.tree? target = some (tree.reword change) :=
  (Forest.tree?_eq_some (follows.reworded.wellFormed wellFormed)).mpr
    (follows.reworded.spans wellFormed spans)

/-- A change that agrees on the strings of the element is as good. -/
theorem congr
    (follows : Follows start rendered target scene change)
    (wellFormed : rendered.WellFormed)
    {tree : Tree}
    (spans : rendered.Spans target tree)
    {same : String → String}
    (agree : ∀ s ∈ tree.strings, change s = same s) :
    Follows start rendered target scene same :=
  { follows with reworded := follows.reworded.congr wellFormed spans agree }

/-- Two scenes that show the same changes have the same page. -/
theorem page_unique
    (follows : Follows start rendered target scene change)
    (otherFollows : Follows start rendered target other change) :
    scene.context.page = other.context.page := by
  rw [follows.page, otherFollows.page,
    follows.reworded.unique otherFollows.reworded]

end Follows

/-- The card of a user can be rendered in the body of a blank page. -/
theorem cardScene_renderable :
    Renderable cardScene "card" "body" "<p>Hello \x7b\x7buser\x7d\x7d</p>"
      [.element "p" ⟨[]⟩ [.text "Hello \x7b\x7buser\x7d\x7d"]] 2 where
  page := Page.blank_wellFormed
  store :=
    ⟨List.pairwise_singleton _ _, List.forall_mem_singleton.mpr rfl,
      List.forall_mem_singleton.mpr fun _ _ => ⟨"user", rfl⟩⟩
  silent := List.forall_mem_singleton.mpr rfl
  registered := ⟨_, rfl, rfl⟩
  readable := rfl
  resolved := rfl

/-- The card can be rendered in the body. -/
theorem exists_follows_card :
    ∃ shown,
      outcome (execute .runtime ⟨.renderComponent "card" "body", 1⟩)
            cardScene =
          (.ok (), shown) ∧
        Follows cardScene.context
          (cardScene.filledForest
            [.element "p" ⟨[]⟩ [.text "Hello \x7b\x7buser\x7d\x7d"]] 2)
          2 shown id :=
  exists_follows_render cardScene_renderable.store cardScene_renderable.silent
    rfl rfl rfl rfl .runtime 1

end PageScript.Run
