import PageScript.Proofs.Document.SoundPage
import PageScript.Proofs.Run.Shown

namespace PageScript.Run

open Document Markup State

/-!
# Values are no markup

Updates of variables change strings of the page only.  A page that was read from
markup, and into which a component was rendered, is therefore written and read
again with one skeleton, whatever values its variables are given.  Only the
content of scripts and styles is written as it is, so there a value can end the
element.
-/

/-! ## What updates keep -/

/-- What a scene shows when all strings of its page are emptied. -/
def outline (scene : Scene) : Forest × NodeId :=
  (scene.context.page.forest.shape, scene.context.page.root)

theorem keeps_outline_tellSubscriber
    (value : Value)
    (subscriber : Subscriber) :
    Keeps outline (tellSubscriber value subscriber) := by
  cases subscriber with
  | substitution token slots =>
      exact fun scene =>
        congrArg (fun shape => (shape, scene.context.page.root))
          (Forest.shape_substituteAll token (substitutionText value) slots)
  | probe label fails =>
      refine .bind (fun _ => rfl) fun _ => ?_
      cases fails with
      | true =>
          exact .throw _
      | false =>
          exact .pure _

theorem keeps_outline_tellSubscribers
    (value : Value)
    (subscribers : List Subscriber) :
    Keeps outline (tellSubscribers value subscribers) := by
  induction subscribers with
  | nil =>
      exact .pure _
  | cons subscriber rest inductionHypothesis =>
      exact
        .bind (keeps_outline_tellSubscriber value subscriber) fun _ =>
          inductionHypothesis

/-- An update changes strings of the page only, whether it stops or not. -/
theorem keeps_outline_updateVariable
    (name value : Value) :
    Keeps outline (updateVariable name value) := by
  refine .get_bind fun scene => .bind (.require _ _) fun found => ?_
  cases found with
  | none =>
      exact .get_bind fun _ => .bind (.require _ _) fun _ _ => rfl
  | some cell =>
      exact
        .get_bind fun _ =>
          .bind (.require _ _) fun _ =>
            .bind (fun _ => rfl) fun _ =>
              keeps_outline_tellSubscribers value cell.subscribers

/-- So do updates one after another. -/
theorem keeps_outline_updateAll
    (updates : List (String × Value)) :
    Keeps outline (updateAll updates) := by
  induction updates with
  | nil =>
      exact .pure _
  | cons update rest inductionHypothesis =>
      refine .bind (.bind (.require _ _) fun _ => ?_) fun _ => inductionHypothesis
      exact .bind (keeps_outline_updateVariable _ _) fun _ => .pure _

/-! ## What binding keeps -/

theorem keeps_page_subscribe
    (name : Value)
    (subscriber : Subscriber) :
    Keeps (·.context.page) (subscribe name subscriber) := by
  refine .get_bind fun scene => ?_
  split
  · exact .bind (.require _ _) fun _ _ => rfl
  · exact .pure _

theorem keeps_page_bindVariables
    (target : NodeId)
    (names : List Value) :
    Keeps (·.context.page) (bindVariables target names) := by
  induction names with
  | nil =>
      exact .pure _
  | cons name rest inductionHypothesis =>
      refine .bind (.get_bind fun scene => ?_) fun _ =>
        .bind inductionHypothesis fun _ => .pure _
      split
      · dsimp only
        split
        · exact .pure _
        · exact .bind (keeps_page_subscribe _ _) fun _ => .pure _
      · exact .throw _

/-- What is selected is below the top. -/
theorem above_of_selectFirst
    {forest : Forest}
    (wellFormed : forest.WellFormed)
    {top target : NodeId}
    {selector : String}
    (first : Selector.selectFirst forest top selector = .ok (some target)) :
    forest.Above top target :=
  (Forest.mem_descendants wellFormed).mp
    (List.mem_of_mem_filter (mem_elementsBelow_of_selectFirst first))

/-- A rendered component is written into the page, and nothing else happens to the page. -/
theorem page_of_render
    {scene shown : Scene}
    {name selector template : String}
    {component : Component}
    {target : NodeId}
    {trees : List Tree}
    {host : Host}
    {line : Int}
    {result : Except Fault Unit}
    (registered :
      scene.context.store.components.get? (.text name) = some component)
    (content : component.content = .text template)
    (readable : parseTrees template = .ok trees)
    (selected :
      Selector.selectFirst scene.context.page.forest scene.context.page.root
          selector =
        .ok (some target))
    (rendered :
      outcome (execute host ⟨.renderComponent name selector, line⟩) scene =
        (result, shown)) :
    shown.context.page =
      { scene.context.page with
        forest :=
          (scene.context.page.forest.clear target).appendTrees target
            trees } := by
  have begun := outcome_execute_render host line name selector scene
  generalize announcedIs :
    scene.logged (announcement ⟨.renderComponent name selector, line⟩) =
      announced at begun
  have sameContext : announced.context = scene.context := by
    rw [← announcedIs, Scene.context_logged]
  rw [← sameContext] at registered selected
  have written := outcome_renderInto registered content readable selected
  have bound :
      Keeps (·.context.page)
        (bindReactivity target >>= fun _ =>
          report .info "hsxctl.services.interpreter" "component.render"
            [("name", .text name), ("selector", .text selector)]) :=
    .bind (.get_bind fun _ => keeps_page_bindVariables _ _) fun _ _ => rfl
  have kept :=
    bound
      (announced.withForest
        ((announced.context.page.forest.clear target).appendTrees target
          trees))
  rw [begun, executeRender, outcome_bind_ok written] at rendered
  dsimp only at rendered
  rw [rendered] at kept
  rw [← sameContext]
  exact kept

/-! ## The skeleton -/

/--
A component is rendered into an element of a page, and both were read from markup
with plain tags.  Then the page has one skeleton after any updates, and so does
the page that is read from its markup, provided that every script and style that
was rendered into or changed holds texts without an end tag of its own.
-/
theorem values_leave_skeleton
    (host : Host)
    (line : Int)
    (scene shown : Scene)
    (markup name selector template : String)
    (trees templateTrees : List Tree)
    (component : Component)
    (target : NodeId)
    (result : Except Fault Unit)
    (read : Page.ofMarkup markup = .ok scene.context.page)
    (readable : parseTrees markup = .ok trees)
    (plain : TreesEvery HasPlainTag trees)
    (registered :
      scene.context.store.components.get? (.text name) = some component)
    (content : component.content = .text template)
    (templateReadable : parseTrees template = .ok templateTrees)
    (templatePlain : TreesEvery HasPlainTag templateTrees)
    (resolved : Selector.resolve scene.context.page selector = some target)
    (notVoid :
      ∀ tag,
        scene.context.page.forest.tag? target = some tag →
          isVoidTag tag = false)
    (rendered :
      outcome (execute host ⟨.renderComponent name selector, line⟩) scene =
        (result, shown)) :
    ∃ skeletons : List Skeleton,
      ∀ updates done reached,
        outcome (updateAll updates) shown = (done, reached) →
          reached.context.page.skeleton? = some skeletons ∧
            (shown.context.page.forest.ScriptsStayClosed
                reached.context.page.forest scene.context.page.root target →
              reached.context.page.rereadSkeleton? = some skeletons) := by
  obtain ⟨selected, isElement⟩ := selectFirst_of_resolve resolved
  obtain ⟨page, readAgain, wellFormed, spans⟩ := Page.ofMarkup_spans readable
  cases read.symm.trans readAgain
  have different : target ≠ scene.context.page.root := by
    rintro rfl
    exact
      wellFormed.not_above_self _ (above_of_selectFirst wellFormed selected)
  have sound : TreesEvery IsSoundAndPlain trees :=
    (treesEvery_isSound_of_parseTrees readable).and plain
  have templateSound : TreesEvery IsSoundAndPlain templateTrees :=
    (treesEvery_isSound_of_parseTrees templateReadable).and templatePlain
  have replaced :=
    Forest.replaced_appendTrees_clear wellFormed isElement
      (attributesNodupAll_of_parseTrees templateReadable)
  have shownPage :=
    page_of_render registered content templateReadable selected rendered
  obtain ⟨skeletons, same⟩ :=
    Page.exists_skeleton wellFormed spans (Page.every_contentTree sound)
      isElement notVoid different replaced templateSound
  refine ⟨skeletons, fun updates done reached updated => ?_⟩
  have kept := keeps_outline_updateAll updates shown
  rw [updated, outline, outline, shownPage, Prod.mk.injEq] at kept
  rw [shownPage]
  exact same reached.context.page kept.2 kept.1

/-- Tags in the name of the user of the card are shown as text. -/
theorem values_leave_skeleton_of_card :
    ∃ shown reached skeletons,
      outcome (execute .runtime ⟨.renderComponent "card" "body", 1⟩)
            cardScene =
          (.ok (), shown) ∧
        outcome (updateAll [("user", .text "<b>Ada</b>")]) shown =
          (.ok (), reached) ∧
        reached.context.page.skeleton? = some skeletons ∧
        reached.context.page.rereadSkeleton? = some skeletons := by
  obtain ⟨shown, rendered, follows⟩ := exists_follows_card
  have known :
      ∀ update ∈ [("user", Value.text "<b>Ada</b>")],
        ∃ cell,
          cardScene.context.store.reactiveNamed? update.1 = some cell :=
    List.forall_mem_singleton.mpr ⟨_, rfl⟩
  obtain ⟨reached, updated, -⟩ :=
    follows.exists_updateAll cardScene_renderable.store
      cardScene_renderable.replaced.wellFormed
      cardScene_renderable.isElement_filled known
  have reachedIs :
      reached =
        (outcome
          (renderAndUpdate .runtime 1 "card" "body"
            [("user", .text "<b>Ada</b>")])
          cardScene).2 := by
    rw [renderAndUpdate, outcome_bind_ok rendered, updated]
  have noScripts :
      ∀ id < reached.context.page.forest.nodes.size,
        ∀ tag ∈ reached.context.page.forest.tag? id, isRawTag tag = false := by
    rw [reachedIs]
    decide +kernel
  have plain : IsPlainName "p" := by decide
  obtain ⟨skeletons, same⟩ :=
    values_leave_skeleton .runtime 1 cardScene shown "" "card" "body"
      "<p>Hello \x7b\x7buser\x7d\x7d</p>" [] _ _ 2 _ rfl rfl trivial rfl rfl
      cardScene_renderable.readable ⟨⟨plain, trivial, trivial⟩, trivial⟩
      cardScene_renderable.resolved (fun tag known => by cases known; rfl)
      rendered
  obtain ⟨inMemory, reread⟩ := same _ _ reached updated
  exact
    ⟨shown, reached, skeletons, rendered, updated, inMemory,
      reread (Forest.scriptsStayClosed_of_tags noScripts)⟩

/-! ## Cards that show more than they hold -/

/--
The card is rendered for a user, with the skeleton of the page then and of the
page that is read from its markup.
-/
def ShowsAs
    (scene : Scene)
    (selector user : String)
    (skeleton reread : List Skeleton) :
    Prop :=
  ∃ reached,
    outcome
          (renderAndUpdate .runtime 1 "card" selector [("user", .text user)])
          scene =
        (.ok (), reached) ∧
      reached.context.page.skeleton? = some skeleton ∧
      reached.context.page.rereadSkeleton? = some reread

/-- The page and the sound elements of its markup tell how the card is shown. -/
theorem Renderable.showsAs
    {scene : Scene}
    {selector template user : String}
    {trees children written : List Tree}
    {target : NodeId}
    {forest : Forest}
    (renderable : Renderable scene "card" selector template trees target)
    (bound :
      ∃ cell, scene.context.store.reactiveNamed? "user" = some cell)
    (forestIs :
      (outcome
          (renderAndUpdate .runtime 1 "card" selector [("user", .text user)])
          scene).2.context.page.forest =
        forest)
    (spans :
      forest.Spans scene.context.page.root (.element "html" ⟨[]⟩ children))
    (same :
      Tree.write false (.element "html" ⟨[]⟩ children) =
        Tree.write false (.element "html" ⟨[]⟩ written))
    (sound : (Tree.element "html" ⟨[]⟩ written).Every IsSoundAndPlain) :
    ShowsAs scene selector user
      (Tree.element "html" ⟨[]⟩ children).skeletons
      [.document (treesSkeletons written)] := by
  have known :
      ∀ update ∈ [("user", Value.text user)],
        ∃ cell, scene.context.store.reactiveNamed? update.1 = some cell :=
    List.forall_mem_singleton.mpr bound
  obtain ⟨reached, run, follows⟩ := renderable.exists_follows .runtime 1 known
  rw [run] at forestIs
  subst forestIs
  have wellFormed := follows.reworded.wellFormed renderable.replaced.wellFormed
  have sameRoot : reached.context.page.root = scene.context.page.root := by
    rw [follows.page]
  rw [← sameRoot] at spans
  have treeIs := (Forest.tree?_eq_some wellFormed).mpr spans
  refine
    ⟨reached, run, ?_, Page.rereadSkeleton?_of_write treeIs same sound⟩
  rw [Page.skeleton?, treeIs]
  rfl

/-- A blank page with a card that is a script. -/
def scriptScene : Scene :=
  cardScene.withStore
    { cardScene.context.store with
      components :=
        ⟨[(.text "card",
          ⟨.text "card", .text "<script>\x7b\x7buser\x7d\x7d</script>"⟩)]⟩ }

theorem scriptScene_renderable :
    Renderable scriptScene "card" "body"
      "<script>\x7b\x7buser\x7d\x7d</script>"
      [.element "script" ⟨[]⟩ [.text "\x7b\x7buser\x7d\x7d"]] 2 where
  page := Page.blank_wellFormed
  store :=
    ⟨List.pairwise_singleton _ _, List.forall_mem_singleton.mpr rfl,
      List.forall_mem_singleton.mpr fun _ _ => ⟨"user", rfl⟩⟩
  silent := List.forall_mem_singleton.mpr rfl
  registered := ⟨_, rfl, rfl⟩
  readable := rfl
  resolved := rfl

/-- A page whose body is a script. -/
def scriptPage : Page :=
  .ofContent (.ofTrees [.element "script" ⟨[]⟩ []])

/-- The card of a user on a page whose body is a script. -/
def scriptPageScene : Scene :=
  { cardScene with context := { cardScene.context with page := scriptPage } }

theorem scriptPageScene_renderable :
    Renderable scriptPageScene "card" "script"
      "<p>Hello \x7b\x7buser\x7d\x7d</p>"
      [.element "p" ⟨[]⟩ [.text "Hello \x7b\x7buser\x7d\x7d"]] 3 where
  page :=
    (@Page.ofContent_spans (.ofTrees [.element "script" ⟨[]⟩ []]) trivial
      List.nodup_nil ⟨⟨List.nodup_nil, trivial⟩, trivial⟩).1
  store := cardScene_renderable.store
  silent := cardScene_renderable.silent
  registered := ⟨_, rfl, rfl⟩
  readable := rfl
  resolved := rfl

/-- A page whose body is a script that holds some nodes. -/
def scriptForest (held : List NodeId) (others : List Node) : Forest :=
  ⟨⟨⟨none, .element "html" ⟨[]⟩ [1, 2]⟩ ::
    ⟨some 0, .element "head" ⟨[]⟩ []⟩ ::
    ⟨some 0, .element "body" ⟨[]⟩ [3]⟩ ::
    ⟨some 2, .element "script" ⟨[]⟩ held⟩ :: others⟩⟩

/-- What a page lists whose body starts with a script. -/
def scriptTrees (held after : List Tree) : List Tree :=
  [.element "head" ⟨[]⟩ [],
    .element "body" ⟨[]⟩ (.element "script" ⟨[]⟩ held :: after)]

theorem scriptForest_spans
    {held : List NodeId}
    {others : List Node}
    {trees : List Tree}
    (spans : (scriptForest held others).SpansAll held trees) :
    (scriptForest held others).Spans 0
      (.element "html" ⟨[]⟩ (scriptTrees trees [])) :=
  .element rfl
    (.cons (.element rfl .nil)
      (.cons (.element rfl (.cons (.element rfl spans) .nil)) .nil))

/-- A script without its end tag is sound. -/
theorem isSoundAndPlain_script
    {texts : List String}
    (noEnd :
      holdsEndTag "script".toList (texts.flatMap String.toList) = false) :
    IsSoundAndPlain "script" ⟨[]⟩ (texts.map .text) :=
  ⟨⟨AttributesSound.empty.named, List.nodup_nil,
      fun void => absurd void (by decide), fun _ => ⟨texts, rfl, noEnd⟩⟩,
    isPlainName_of_isRawTag rfl⟩

/-- A page is sound when what its body lists is sound. -/
theorem every_scriptTrees
    {held after : List Tree}
    (sound :
      TreesEvery IsSoundAndPlain (.element "script" ⟨[]⟩ held :: after)) :
    (Tree.element "html" ⟨[]⟩ (scriptTrees held after)).Every IsSoundAndPlain :=
  ⟨isSoundAndPlain_ordinary (by decide) (by decide) .empty _,
    ⟨isSoundAndPlain_ordinary (by decide) (by decide) .empty _, trivial⟩,
    ⟨isSoundAndPlain_ordinary (by decide) (by decide) .empty _, sound⟩, trivial⟩

/-- A name that ends the script goes on as markup. -/
theorem scriptScene_showsAs :
    ShowsAs scriptScene "body" "</script><b>x</b><script>"
      (Tree.element "html" ⟨[]⟩ (scriptTrees [] [])).skeletons
      (Tree.element "html" ⟨[]⟩
        (scriptTrees []
          [.element "b" ⟨[]⟩ [], .element "script" ⟨[]⟩ []])).skeletons := by
  have bound :
      ∃ cell, scriptScene.context.store.reactiveNamed? "user" = some cell :=
    ⟨_, rfl⟩
  have forestIs :
      (outcome
          (renderAndUpdate .runtime 1 "card" "body"
            [("user", .text "</script><b>x</b><script>")])
          scriptScene).2.context.page.forest =
        scriptForest [4] [⟨some 3, .text "</script><b>x</b><script>"⟩] := by
    decide +kernel
  have spans :
      (scriptForest [4] [⟨some 3, .text "</script><b>x</b><script>"⟩]).Spans 0
        (.element "html" ⟨[]⟩
          (scriptTrees [.text "</script><b>x</b><script>"] [])) :=
    scriptForest_spans (.cons (.text rfl) .nil)
  have same :
      Tree.write false
          (.element "html" ⟨[]⟩
            (scriptTrees [.text "</script><b>x</b><script>"] [])) =
        Tree.write false
          (.element "html" ⟨[]⟩
            (scriptTrees []
              [.element "b" ⟨[]⟩ [.text "x"], .element "script" ⟨[]⟩ []])) := by
    decide
  have bold :
      (Tree.element "b" ⟨[]⟩ [.text "x"]).Every IsSoundAndPlain :=
    ⟨isSoundAndPlain_ordinary (by decide) (by decide) .empty _, trivial, trivial⟩
  have script : (Tree.element "script" ⟨[]⟩ []).Every IsSoundAndPlain :=
    ⟨@isSoundAndPlain_script [] rfl, trivial⟩
  have shown :=
    scriptScene_renderable.showsAs bound forestIs spans same
      (every_scriptTrees ⟨script, bold, script, trivial⟩)
  exact shown

/-- A template that is put into a script is text for whoever reads the markup. -/
theorem scriptPageScene_showsAs :
    ShowsAs scriptPageScene "script" "Ada"
      (Tree.element "html" ⟨[]⟩
        (scriptTrees [.element "p" ⟨[]⟩ []] [])).skeletons
      (Tree.element "html" ⟨[]⟩ (scriptTrees [] [])).skeletons := by
  have bound :
      ∃ cell, scriptPageScene.context.store.reactiveNamed? "user" = some cell :=
    ⟨_, rfl⟩
  have forestIs :
      (outcome
          (renderAndUpdate .runtime 1 "card" "script" [("user", .text "Ada")])
          scriptPageScene).2.context.page.forest =
        scriptForest [4]
          [⟨some 3, .element "p" ⟨[]⟩ [5]⟩, ⟨some 4, .text "Hello Ada"⟩] := by
    decide +kernel
  have spans :
      (scriptForest [4]
          [⟨some 3, .element "p" ⟨[]⟩ [5]⟩,
            ⟨some 4, .text "Hello Ada"⟩]).Spans 0
        (.element "html" ⟨[]⟩
          (scriptTrees [.element "p" ⟨[]⟩ [.text "Hello Ada"]] [])) :=
    scriptForest_spans (.cons (.element rfl (.cons (.text rfl) .nil)) .nil)
  have same :
      Tree.write false
          (.element "html" ⟨[]⟩
            (scriptTrees [.element "p" ⟨[]⟩ [.text "Hello Ada"]] [])) =
        Tree.write false
          (.element "html" ⟨[]⟩
            (scriptTrees [.text "<p>Hello Ada</p>"] [])) := by
    decide
  have script :
      (Tree.element "script" ⟨[]⟩ [.text "<p>Hello Ada</p>"]).Every
        IsSoundAndPlain :=
    ⟨@isSoundAndPlain_script ["<p>Hello Ada</p>"] (by decide), trivial, trivial⟩
  have shown :=
    scriptPageScene_renderable.showsAs bound forestIs spans same
      (every_scriptTrees ⟨script, trivial⟩)
  exact shown

/--
A value that ends the script around its token shows an element that the page does
not hold, and a template that is put into a script shows none of its elements.
-/
theorem scripts_change_skeleton :
    (Page.ofMarkup "" = .ok scriptScene.context.page ∧
        ShowsAs scriptScene "body" "</script><b>x</b><script>"
          (Tree.element "html" ⟨[]⟩ (scriptTrees [] [])).skeletons
          (Tree.element "html" ⟨[]⟩
            (scriptTrees []
              [.element "b" ⟨[]⟩ [], .element "script" ⟨[]⟩ []])).skeletons) ∧
      (Page.ofMarkup "<script></script>" = .ok scriptPageScene.context.page ∧
        ShowsAs scriptPageScene "script" "Ada"
          (Tree.element "html" ⟨[]⟩
            (scriptTrees [.element "p" ⟨[]⟩ []] [])).skeletons
          (Tree.element "html" ⟨[]⟩ (scriptTrees [] [])).skeletons) :=
  ⟨⟨rfl, scriptScene_showsAs⟩, ⟨rfl, scriptPageScene_showsAs⟩⟩

end PageScript.Run
