import PageScript.Proofs.Document.Framed
import PageScript.Proofs.Document.Siblings
import PageScript.Proofs.Run.Effects
import PageScript.Proofs.Run.SameSkeleton
import PageScript.Proofs.State.Store

namespace PageScript.Run

open Document Markup Script

/-!
# The frame of a page survives every run

Renders may fill any element that a selector selects, loads add scripts and copies to
the body, and commands stop half-way.  None of this reaches the `html` element: it
lists the head and the body that it had from the start, so the body is always there to
take what has no other place, and a selector always resolves to nothing or to an
element below the `html` element.  In every context that a script reaches from a new
page with nothing bound, the page is framed and the store binds each name once.
-/

/-! ## What a load adds -/

section Added

variable {property : ElementProperty} {trees : List Tree}

mutual

/-- What holds of all elements of a tree holds of all elements of those picked from it. -/
theorem treesEvery_elementsOf
    (wanted : String → Bool) :
    ∀ {tree : Tree},
      tree.Every property → TreesEvery property (elementsOf wanted tree)
  | .text _, _ => trivial
  | .element tag attributes children, ⟨here, below⟩ => by
      rw [elementsOf]
      split
      · exact ⟨⟨here, below⟩, treesEvery_elementsOfAll wanted below⟩
      · exact treesEvery_elementsOfAll wanted below

theorem treesEvery_elementsOfAll
    (wanted : String → Bool) :
    ∀ {trees : List Tree},
      TreesEvery property trees → TreesEvery property (elementsOfAll wanted trees)
  | [], _ => trivial
  | _ :: _, ⟨here, rest⟩ => by
      rw [elementsOfAll]
      exact
        PageContent.treesEvery_append (treesEvery_elementsOf wanted here)
          (treesEvery_elementsOfAll wanted rest)

end

theorem attributesNodupAll_iff :
    AttributesNodupAll trees ↔ ∀ tree ∈ trees, tree.AttributesNodup := by
  induction trees with
  | nil =>
      simp [AttributesNodupAll]
  | cons tree rest inductionHypothesis =>
      simp [AttributesNodupAll, inductionHypothesis]

/-- A hoisted script has at most a source and a type. -/
theorem sublist_hoistedNames
    (attributes : Table String String) :
    ((["src", "type"].filterMap fun name =>
        (attributes.get? name).map fun value => (name, value)).map (·.1)).Sublist
      ["src", "type"] := by
  simp only [List.filterMap_cons, List.filterMap_nil]
  cases attributes.get? "src" <;> cases attributes.get? "type" <;> simp

theorem attributesNodup_hoistedScript
    (tree : Tree) :
    (hoistedScript tree).AttributesNodup := by
  cases tree with
  | text data =>
      trivial
  | element tag attributes children =>
      refine ⟨(sublist_hoistedNames attributes).nodup (by decide), ?_⟩
      split <;> simp [AttributesNodupAll, Tree.AttributesNodup]

theorem attributesNodupAll_hoistedScripts
    (trees : List Tree) :
    AttributesNodupAll (hoistedScripts trees) := by
  rw [hoistedScripts, attributesNodupAll_iff]
  intro tree member
  obtain ⟨script, -, rfl⟩ := List.mem_map.mp member
  exact attributesNodup_hoistedScript script

theorem attributesNodupAll_clonedElements
    {block : String}
    (accepted : parseTrees block = .ok trees)
    (cloneTags : List String) :
    AttributesNodupAll (clonedElements cloneTags trees) :=
  (treesEvery_elementsOfAll _
    (treesEvery_isSound_of_parseTrees accepted)).attributesNodupAll

/--
A load retains what the commands of a page retain and what trees that are added to the
body do not break.
-/
theorem retains_loadText
    {condition : Context → Prop}
    (executes : ∀ placed, Retains condition (execute .runtime placed))
    (grows :
      ∀ {trees : List Tree} {scene : Scene},
        AttributesNodupAll trees →
          condition scene.context → condition (scene.grown trees).context)
    (options : LoadOptions)
    (url text : String) :
    Retains condition (loadText options url text) := by
  intro scene holds
  rw [loadText]
  cases found : extractBlock? options.blockTag text with
  | none =>
      rw [outcome_loadTextBy_of_no_block options _ url scene found]
      exact holds
  | some block =>
      cases accepted : parseTrees block with
      | error error =>
          rw [outcome_loadTextBy_of_refused options _ url scene found accepted]
          exact holds
      | ok trees =>
          obtain ⟨event, loaded⟩ :=
            exists_outcome_loadTextBy (execute .runtime) url scene found accepted
          rw [loaded]
          have executed :=
            condition_of_runLines executes { scripts := (hoistedScripts trees).length } 1
              (Text.lines block.toList)
              (grows (attributesNodupAll_hoistedScripts trees) holds)
          exact grows (attributesNodupAll_clonedElements accepted _) executed

end Added

/-! ## Framed contexts -/

/-- A page is framed by the three elements of another page. -/
structure SameFrame (start page : Page) : Prop where
  framed : page.Framed
  root : page.root = start.root
  head : page.head = start.head
  body : page.body = start.body

namespace SameFrame

variable {start : Page} {before after : Context}

/-- The forest of a page can be exchanged for another that frames the page. -/
theorem withForest
    {page : Page}
    {forest : Forest}
    (same : SameFrame start page)
    (framed : { page with forest := forest }.Framed) :
    SameFrame start { page with forest := forest } :=
  ⟨framed, same.root, same.head, same.body⟩

/-- An element below the root, or the body, can take other elements. -/
theorem above_of_place
    {page : Page}
    {target : NodeId}
    (framed : page.Framed)
    (place : target = page.body ∨ target ∈ page.forest.elementsBelow page.root) :
    page.forest.Above page.root target ∧ page.forest.isElement target = true := by
  rcases place with rfl | below
  · exact ⟨framed.above_body, framed.isElement_body⟩
  · obtain ⟨member, isElement⟩ := List.mem_filter.mp below
    exact ⟨(Forest.mem_descendants framed.wellFormed).mp member, isElement⟩

/-- No elementary change touches the frame. -/
theorem change
    {effect : Effect}
    (same : SameFrame start before.page)
    (step : Change effect before after) :
    SameFrame start after.page := by
  cases step with
  | content markup below =>
      obtain ⟨above, isElement⟩ := above_of_place same.framed (.inr below)
      have framed := same.framed.setContent above isElement markup
      rw [Page.setContent] at framed ⊢
      cases parsed : parseTrees markup with
      | error error =>
          rw [parsed] at framed
          exact same.withForest framed
      | ok trees =>
          rw [parsed] at framed
          exact same.withForest framed
  | element tag attributes place =>
      obtain ⟨above, isElement⟩ := above_of_place same.framed place
      exact same.withForest (same.framed.appendElement above isElement)
  | wording token text slots =>
      exact
        same.withForest
          (same.framed.of_shape (Forest.shape_substituteAll token text slots))
  | _ =>
      exact same

theorem execute
    (host : Host)
    (placed : PlacedCommand) :
    Retains (fun context => SameFrame start context.page) (execute host placed) :=
  retains_execute (fun _ _ _ step same => same.change step) host placed

/-- Trees that are added to the body leave the frame alone. -/
theorem grown
    {scene : Scene}
    {trees : List Tree}
    (same : SameFrame start scene.context.page)
    (distinct : AttributesNodupAll trees) :
    SameFrame start (scene.grown trees).context.page :=
  same.withForest
    (same.framed.appendTrees same.framed.above_body same.framed.isElement_body distinct)

theorem loadText
    (options : LoadOptions)
    (url text : String) :
    Retains (fun context => SameFrame start context.page)
      (loadText options url text) :=
  retains_loadText (execute .runtime) (fun distinct same => same.grown distinct) options url
    text

end SameFrame

/-! ## Runs on a page -/

/--
The pages that a page becomes when commands are executed on it by either host or page
texts are loaded into it, whatever else their scenes hold and however they end.
-/
inductive Becomes (start : Page) : Page → Prop where
  | start :
      Becomes start start
  | command
      {scene : Scene}
      (host : Host)
      (placed : PlacedCommand) :
      Becomes start scene.context.page →
      Becomes start (outcome (execute host placed) scene).2.context.page
  | load
      {scene : Scene}
      (options : LoadOptions)
      (url text : String) :
      Becomes start scene.context.page →
      Becomes start (outcome (loadText options url text) scene).2.context.page

/-- What a framed page becomes has the same frame. -/
theorem Becomes.sameFrame
    {start page : Page}
    (becomes : Becomes start page)
    (framed : start.Framed) :
    SameFrame start page := by
  induction becomes with
  | start =>
      exact ⟨framed, rfl, rfl, rfl⟩
  | @command scene host placed _ inductionHypothesis =>
      exact SameFrame.execute host placed scene inductionHypothesis
  | @load scene options url text _ inductionHypothesis =>
      exact SameFrame.loadText options url text scene inductionHypothesis

/-- A selector resolves to nothing or to an element below the root. -/
theorem above_of_resolve
    {page : Page}
    (framed : page.Framed)
    {selector : String}
    {target : NodeId}
    (resolved : Selector.resolve page selector = some target) :
    page.forest.isElement target = true ∧ page.forest.Above page.root target := by
  obtain ⟨first, isElement⟩ := selectFirst_of_resolve resolved
  exact ⟨isElement, above_of_selectFirst framed.wellFormed first⟩

/--
Whatever is run on a new page, its `html` element lists the head and the body that the
page began with and nothing else.  Every element is among its own siblings, and every
selector resolves, without a change, to nothing or to an element below the `html`
element.
-/
theorem frame_survives_every_run
    (start page : Page)
    (new : start = .blank ∨ ∃ markup, Page.ofMarkup markup = .ok start)
    (becomes : Becomes start page) :
    (page.root = start.root ∧
        page.forest.tag? start.root = some "html" ∧
        page.forest.parent? start.root = none ∧
        page.forest.children start.root = [start.head, start.body]) ∧
      (page.head = start.head ∧ page.forest.tag? start.head = some "head") ∧
      (page.body = start.body ∧
        page.forest.tag? start.body = some "body" ∧
        page.forest.Above start.root start.body) ∧
      (∀ element,
        page.forest.isElement element = true →
          element ∈ page.forest.elementSiblings element) ∧
      ∀ selector scene,
        scene.context.page = page →
          ∃ found reached,
            outcome (resolve selector) scene = (.ok found, reached) ∧
              reached.context = scene.context ∧
              ∀ target ∈ found,
                page.forest.isElement target = true ∧
                  page.forest.Above start.root target := by
  have framed : start.Framed := by
    rcases new with rfl | ⟨markup, read⟩
    · exact Page.framed_blank
    · exact Page.framed_ofMarkup read
  obtain ⟨kept, root, head, body⟩ := becomes.sameFrame framed
  rw [← root, ← head, ← body]
  refine
    ⟨⟨rfl, kept.rootTag, kept.top, kept.listed⟩, ⟨rfl, kept.headTag⟩,
      ⟨rfl, kept.bodyTag, kept.above_body⟩, ?_, ?_⟩
  · intro element isElement
    obtain ⟨earlier, later, split⟩ :=
      Forest.exists_siblingSplit kept.wellFormed isElement
    simp [split.siblings]
  · rintro selector scene rfl
    obtain ⟨reached, resolved, turns⟩ := EndsIn.resolve selector scene
    exact
      ⟨_, reached, resolved, turns.context, fun target found => above_of_resolve kept found⟩

/-- A card in the head and a load behind it leave the frame of the blank page. -/
theorem frame_survives_filled_head :
    ∃ shown loaded,
      (outcome (execute .runtime ⟨.renderComponent "card" "head", 1⟩) cardScene).2 =
          shown ∧
        (outcome (loadText {} "<string>" mixedPage) shown).2 = loaded ∧
        Becomes .blank loaded.context.page ∧
        loaded.context.page.forest.children Page.blank.root =
          [Page.blank.head, Page.blank.body] ∧
        ∃ found reached,
          outcome (resolve "head > p") loaded = (.ok found, reached) ∧
            ∀ target ∈ found,
              loaded.context.page.forest.Above Page.blank.root target := by
  have filled :=
    @Becomes.command .blank cardScene .runtime ⟨.renderComponent "card" "head", 1⟩ .start
  generalize
    (outcome (execute .runtime ⟨.renderComponent "card" "head", 1⟩) cardScene).2 =
      shown at filled ⊢
  have becomes := @Becomes.load .blank shown {} "<string>" mixedPage filled
  generalize same : (outcome (loadText {} "<string>" mixedPage) shown).2 = loaded at becomes
  obtain ⟨⟨-, -, -, listed⟩, -, -, -, resolves⟩ :=
    frame_survives_every_run .blank loaded.context.page (.inl rfl) becomes
  obtain ⟨found, reached, resolved, -, below⟩ := resolves "head > p" loaded rfl
  exact
    ⟨shown, loaded, rfl, same, becomes, listed, found, reached, resolved,
      fun target member => (below target member).2⟩

/-! ## Reachable contexts -/

open State

/-- A framed page and a well-formed store. -/
structure Context.Sound (context : Context) : Prop where
  page : context.page.Framed
  store : context.store.WellFormed

/-- Contexts that are reached from new pages with nothing bound. -/
inductive Context.Reachable : Context → Prop where
  | start
      {page : Page}
      (functions : Table String Function)
      (closed : Bool) :
      (page = .blank ∨ ∃ markup, Page.ofMarkup markup = .ok page) →
      Reachable { page := page, functions := functions, closed := closed }
  | command
      {scene : Scene}
      (host : Host)
      (placed : PlacedCommand) :
      Reachable scene.context →
      Reachable (outcome (execute host placed) scene).2.context
  | load
      {scene : Scene}
      (options : LoadOptions)
      (url text : String) :
      Reachable scene.context →
      Reachable (outcome (loadText options url text) scene).2.context
  | call
      {scene : Scene}
      (function : Function)
      (arguments : List Value) :
      Reachable scene.context →
      Reachable (outcome (function.apply arguments) scene).2.context
  | subscribe
      {scene : Scene}
      (name : Value)
      (subscriber : Subscriber) :
      Reachable scene.context →
      Reachable (outcome (subscribe name subscriber) scene).2.context

namespace Context

/-- No elementary change makes a sound context unsound. -/
theorem Sound.change
    {effect : Effect}
    {before after : Context}
    (step : Change effect before after)
    (sound : before.Sound) :
    after.Sound where
  page := (SameFrame.change ⟨sound.page, rfl, rfl, rfl⟩ step).framed
  store := by
    cases step with
    | plain bound =>
        refine sound.store.bind ?_ bound
        rintro cell ⟨⟩
    | fresh bound =>
        exact sound.store.bind (fun _ _ => ⟨_, rfl⟩) bound
    | value found bound | subscription found bound =>
        exact
          sound.store.bind (fun _ _ => sound.store.exists_text_of_reactive? found) bound
    | component defined =>
        rw [Store.eq_of_define defined]
        exact ⟨sound.store.distinct, sound.store.named, sound.store.textual⟩
    | _ =>
        exact sound.store

theorem Sound.evolves
    {effects : List Effect}
    {before after : Context}
    (sound : before.Sound)
    (evolves : Evolves effects before after) :
    after.Sound :=
  evolves.keep (fun _ _ _ _ => Sound.change) sound

theorem Sound.loadText
    (options : LoadOptions)
    (url text : String) :
    Retains Sound (loadText options url text) :=
  retains_loadText
    (fun placed => retains_execute (fun _ _ _ => Sound.change) .runtime placed)
    (fun distinct sound =>
      ⟨sound.page.appendTrees sound.page.above_body sound.page.isElement_body distinct,
        sound.store⟩)
    options url text

/-- Every context that is reached is sound. -/
theorem Reachable.sound
    {context : Context}
    (reachable : context.Reachable) :
    context.Sound := by
  induction reachable with
  | start functions closed new =>
      refine ⟨?_, Store.wellFormed_unbound _⟩
      rcases new with rfl | ⟨markup, read⟩
      · exact Page.framed_blank
      · exact Page.framed_ofMarkup read
  | @command scene host placed _ inductionHypothesis =>
      exact inductionHypothesis.evolves (evolves_execute host placed scene)
  | @load scene options url text _ inductionHypothesis =>
      exact Sound.loadText options url text scene inductionHypothesis
  | call function arguments _ inductionHypothesis =>
      exact inductionHypothesis.evolves (Evolving.apply (List.Subset.refl _) function arguments)
  | subscribe name subscriber _ inductionHypothesis =>
      exact
        inductionHypothesis.evolves
          (Evolving.subscribe (List.mem_singleton_self _) name subscriber)

end Context

end PageScript.Run
