import PageScript.Proofs.Document.Moving

namespace PageScript.Document

open Markup

/-!
# Histories of edits

The nodes of several pages and all nodes that are in no page live in one forest.
Whatever edits are made, every node has at most one parent, which lists it once
and alone lists it, and every way up ends.  An edit that can fail, because its
markup is refused, leaves such a forest as well.
-/

/-! ## Pages in a forest with other nodes -/

/-- A forest with the elements of a new page, which are in no tree yet. -/
def Forest.addPageElements (forest : Forest) : Forest :=
  let html := forest.createElement "html" ⟨[]⟩
  let head := html.1.createElement "head" ⟨[]⟩
  (head.1.createElement "body" ⟨[]⟩).1

/-- A new page with nothing in its head and body, whose elements get the next names of a forest. -/
def Forest.openPage (forest : Forest) : Page :=
  let root := forest.nodes.size
  { forest := (forest.addPageElements.append root (root + 1)).append root (root + 2)
    root := root
    head := root + 1
    body := root + 2 }

namespace Page

/-- Put content into the head and the body of a page. -/
def fill (page : Page) (content : PageContent) : Page :=
  let withHead := page.forest.appendTrees page.head content.head
  let withBody := withHead.appendTrees page.body content.body
  { page with forest := withBody.modifyAttributes page.body fun _ => content.bodyAttributes }

/-- The page that a markup text describes, whose nodes are added to those of another page. -/
def reload (page : Page) (markup : String) : Except MarkupError Page :=
  (parseTrees markup).map fun trees =>
    page.forest.openPage.fill (PageContent.ofTrees trees)

theorem openPage_empty :
    Forest.empty.openPage = blank :=
  rfl

theorem fill_blank
    (content : PageContent) :
    blank.fill content = ofContent content :=
  rfl

/-- In an empty forest a page is loaded as a page of its own is. -/
theorem reload_empty
    (page : Page)
    (empty : page.forest = .empty)
    (markup : String) :
    page.reload markup = ofMarkup markup := by
  simp only [reload, ofMarkup, empty, openPage_empty, fill_blank]

end Page

namespace Forest

variable {forest received : Forest} {target : NodeId}

@[simp] theorem size_addPageElements
    (forest : Forest) :
    forest.addPageElements.nodes.size = forest.nodes.size + 3 := by
  simp [addPageElements, createElement]

/-- The elements of a new page list nothing yet. -/
theorem isElement_addPageElements
    (forest : Forest)
    {place : Nat}
    (isPlace : place ∈ [0, 1, 2]) :
    forest.addPageElements.isElement (forest.nodes.size + place) = true ∧
      forest.addPageElements.children (forest.nodes.size + place) = [] := by
  have apart : forest.nodes.size ≠ forest.nodes.size + 1 + 1 := by
    omega
  revert place
  simp [isElement, tag?, children, addPageElements, createElement,
    node?_create, apart]

theorem WellFormed.addPageElements
    (wellFormed : forest.WellFormed) :
    forest.addPageElements.WellFormed := by
  have nodup : (⟨[]⟩ : Table String String).keys.Nodup := List.nodup_nil
  exact
    ((wellFormed.createElement "html" nodup).createElement "head"
      nodup).createElement "body" nodup

/-- A new page keeps a forest well formed, and its head and body are elements. -/
theorem WellFormed.openPage
    (wellFormed : forest.WellFormed) :
    forest.openPage.forest.WellFormed ∧
      forest.openPage.forest.isElement forest.openPage.head = true ∧
      forest.openPage.forest.isElement forest.openPage.body = true := by
  have start := wellFormed.addPageElements
  have html : forest.addPageElements.isElement forest.nodes.size = true :=
    (isElement_addPageElements forest (by simp : 0 ∈ [0, 1, 2])).1
  obtain ⟨head, headEmpty⟩ :=
    isElement_addPageElements forest (by simp : 1 ∈ [0, 1, 2])
  obtain ⟨body, bodyEmpty⟩ :=
    isElement_addPageElements forest (by simp : 2 ∈ [0, 1, 2])
  have size := size_addPageElements forest
  rw [Forest.openPage]
  -- From here on the three elements are known by what they list alone.
  generalize forest.addPageElements = elements at *
  generalize forest.nodes.size = root at *
  have inForest :
      root + 1 < elements.nodes.size ∧ root + 2 < elements.nodes.size := by
    omega
  have apart : root + 1 ≠ root ∧ root + 2 ≠ root := by
    omega
  -- The head and the body list nothing, so they are above nothing.
  have withHead : (elements.append root (root + 1)).WellFormed := by
    refine start.append html inForest.1 ?_
    rintro (same | above)
    · exact apart.1 same
    · exact start.not_above_of_children headEmpty above
  have bodyKept :
      (elements.append root (root + 1)).children (root + 2) = [] := by
    rw [children_append start html apart.1.symm, if_neg apart.2, bodyEmpty]
    rfl
  refine ⟨?_, by simpa using head, by simpa using body⟩
  refine withHead.append (by simpa using html) ?_ ?_
  · rw [size_append]
    exact inForest.2
  · rintro (same | above)
    · exact apart.2 same
    · exact withHead.not_above_of_children bodyKept above

/-- An element stays an element when it or another receives trees. -/
theorem Receives.isElement
    {roots : List NodeId}
    {trees : List Tree}
    (receives : forest.Receives received target roots trees)
    {id : NodeId}
    (isElement : forest.isElement id = true) :
    received.isElement id = true := by
  obtain ⟨tag, table, listed, known⟩ := exists_content?_of_isElement isElement
  obtain ⟨⟨parent, content⟩, found, rfl⟩ :=
    Option.map_eq_some_iff.mp known
  rw [Forest.isElement, tag?,
    receives.old id (lt_size_of_isElement isElement), found]
  by_cases isTarget : id = target <;>
    simp [isTarget, Content.withChildren]

/-- An element lists the trees that it receives behind the children it had. -/
theorem Receives.children
    {roots : List NodeId}
    {trees : List Tree}
    (receives : forest.Receives received target roots trees)
    (isElement : forest.isElement target = true) :
    received.children target = forest.children target ++ roots := by
  obtain ⟨tag, table, listed, known⟩ := exists_content?_of_isElement isElement
  obtain ⟨⟨parent, content⟩, found, rfl⟩ :=
    Option.map_eq_some_iff.mp known
  rw [Forest.children, Forest.children,
    receives.old target (lt_size_of_isElement isElement), found]
  simp [Content.withChildren]

end Forest

/-! ## Edits -/

/-- An edit of the nodes in the forest of a page. -/
inductive Edit where
  /-- Make an element that is in no tree. -/
  | createElement (tag : String) (attributes : List (String × String))
  /-- Make a text that is in no tree. -/
  | createText (data : String)
  /-- Make the nodes that a markup text describes; the topmost are in no tree. -/
  | createTrees (markup : String)
  /-- Make a node the last child of an element. -/
  | append (target child : NodeId)
  /-- Take a node out of its parent. -/
  | detach (node : NodeId)
  /-- Take all children out of an element. -/
  | clear (target : NodeId)
  /-- Copy a node and everything below it. -/
  | clone (node : NodeId)
  /-- Replace the children of an element by what a markup text describes. -/
  | setContent (target : NodeId) (markup : String)
  /-- Make an element the last child of another. -/
  | appendElement (target : NodeId) (tag : String) (attributes : List (String × String))
  /-- Go on with a new page that has nothing in its head and body. -/
  | openPage
  /-- Go on with the page that a markup text describes. -/
  | load (markup : String)
  deriving Repr, DecidableEq

namespace Edit

/--
An edit names nodes of the right kind, and no node is appended to itself or to a
node below it.
-/
def Allowed (page : Page) : Edit → Prop
  | .append target child =>
      page.forest.isElement target = true ∧
        child < page.forest.nodes.size ∧
        ¬ page.forest.AtOrAbove child target
  | .clone node => node < page.forest.nodes.size
  | .setContent target _ => page.forest.isElement target = true
  | .appendElement target _ _ => page.forest.isElement target = true
  | _ => True

/-- The page after an edit; refused markup makes no nodes. -/
def apply (page : Page) : Edit → Page
  | .createElement tag attributes =>
      { page with forest := (page.forest.createElement tag (Table.ofList attributes)).1 }
  | .createText data => { page with forest := (page.forest.createText data).1 }
  | .createTrees markup =>
      match parseTrees markup with
      | .ok trees => { page with forest := (page.forest.addTrees none trees).1 }
      | .error _ => page
  | .append target child => { page with forest := page.forest.append target child }
  | .detach node => { page with forest := page.forest.detach node }
  | .clear target => { page with forest := page.forest.clear target }
  | .clone node =>
      match page.forest.clone? node with
      | some copied => { page with forest := copied.1 }
      | none => page
  | .setContent target markup => (page.setContent target markup).1
  | .appendElement target tag attributes => (page.appendElement target tag attributes).1
  | .openPage => page.forest.openPage
  | .load markup =>
      match page.reload markup with
      | .ok loaded => loaded
      | .error _ => page

end Edit

namespace Page

variable {page : Page}

theorem fill_wellFormed
    (wellFormed : page.forest.WellFormed)
    (head : page.forest.isElement page.head = true)
    (body : page.forest.isElement page.body = true)
    {content : PageContent}
    (headNodup : AttributesNodupAll content.head)
    (attributesNodup : content.bodyAttributes.keys.Nodup)
    (bodyNodup : AttributesNodupAll content.body) :
    (page.fill content).forest.WellFormed := by
  obtain ⟨headRoots, first⟩ := Forest.exists_receives wellFormed head headNodup
  obtain ⟨bodyRoots, second⟩ :=
    Forest.exists_receives first.wellFormed (first.isElement body) bodyNodup
  exact second.wellFormed.modifyAttributes page.body fun _ _ => attributesNodup

theorem reload_wellFormed
    (wellFormed : page.forest.WellFormed)
    {markup : String}
    {loaded : Page}
    (readable : page.reload markup = .ok loaded) :
    loaded.forest.WellFormed := by
  cases parsed : parseTrees markup with
  | error error =>
      rw [reload, parsed] at readable
      cases readable
  | ok trees =>
      rw [reload, parsed] at readable
      obtain rfl := Except.ok.inj readable
      obtain ⟨opened, head, body⟩ := wellFormed.openPage
      obtain ⟨headSound, attributesSound, bodySound⟩ :=
        PageContent.every_ofTops IsSound.attributes
          (PageContent.every_tops (treesEvery_isSound_of_parseTrees parsed))
      exact
        fill_wellFormed opened head body headSound.attributesNodupAll
          attributesSound.once bodySound.attributesNodupAll

/-- Setting content keeps the forest well formed, also when the markup is refused. -/
theorem setContent_wellFormed
    (wellFormed : page.forest.WellFormed)
    {target : NodeId}
    (isElement : page.forest.isElement target = true)
    (markup : String) :
    (page.setContent target markup).1.forest.WellFormed := by
  rw [setContent]
  cases parsed : parseTrees markup with
  | error error =>
      exact wellFormed.clear target
  | ok trees =>
      exact
        (Forest.replaced_appendTrees_clear wellFormed isElement
          (attributesNodupAll_of_parseTrees parsed)).wellFormed

end Page

theorem Edit.apply_wellFormed
    {page : Page}
    (wellFormed : page.forest.WellFormed)
    {edit : Edit}
    (allowed : edit.Allowed page) :
    (edit.apply page).forest.WellFormed := by
  cases edit with
  | createElement tag attributes =>
      exact wellFormed.createElement tag (Table.nodup_keys_ofList attributes)
  | createText data =>
      exact wellFormed.createText data
  | createTrees markup =>
      rw [apply]
      cases parsed : parseTrees markup with
      | error error =>
          exact wellFormed
      | ok trees =>
          have grows :=
            Forest.grows_addTrees trees page.forest none
              (attributesNodupAll_of_parseTrees parsed)
          exact grows.wellFormed wellFormed
  | append target child =>
      obtain ⟨isElement, inForest, outside⟩ := allowed
      exact wellFormed.append isElement inForest outside
  | detach node =>
      exact wellFormed.detach node
  | clear target =>
      exact wellFormed.clear target
  | clone node =>
      obtain ⟨tree, copied, root, -, found, grows⟩ :=
        Forest.exists_clone wellFormed allowed
      rw [apply, found]
      exact grows.wellFormed wellFormed
  | setContent target markup =>
      exact Page.setContent_wellFormed wellFormed allowed markup
  | appendElement target tag attributes =>
      exact
        wellFormed.append_createElement allowed tag fun _ nodup =>
          Table.nodup_keys_insertAll nodup attributes
  | openPage =>
      exact wellFormed.openPage.1
  | load markup =>
      rw [apply]
      cases loaded : page.reload markup with
      | error error =>
          exact wellFormed
      | ok next =>
          exact Page.reload_wellFormed wellFormed loaded

/-- The pages that edits make from the blank page. -/
inductive Page.Reachable : Page → Prop where
  | blank : Reachable .blank
  | edit {page : Page} {edit : Edit} :
      Reachable page →
      edit.Allowed page →
      Reachable (edit.apply page)

theorem Page.Reachable.wellFormed
    {page : Page}
    (reachable : page.Reachable) :
    page.forest.WellFormed := by
  induction reachable with
  | blank =>
      exact Page.blank_wellFormed
  | edit _ allowed inductionHypothesis =>
      exact Edit.apply_wellFormed inductionHypothesis allowed

/--
Whatever edits are made, a node with a parent is listed there once and nowhere
else, a listed node has the lister as its parent, a node without a parent is
listed nowhere, and the way up from every node ends.
-/
theorem edits_keep_forest
    {page : Page}
    (reachable : page.Reachable) :
    (∀ node parent,
      page.forest.parent? node = some parent →
        (page.forest.children parent).count node = 1 ∧
          ∀ other,
            other ≠ parent → node ∉ page.forest.children other) ∧
    (∀ parent,
      ∀ node ∈ page.forest.children parent,
        page.forest.parent? node = some parent) ∧
    (∀ node,
      page.forest.parent? node = none →
        ∀ other, node ∉ page.forest.children other) ∧
    ∀ node, ∃ upper, page.forest.Lineage node upper := by
  have wellFormed := reachable.wellFormed
  refine ⟨?_, ?_, ?_, ?_⟩
  · intro node parent known
    refine ⟨?_, ?_⟩
    · exact
        List.count_eq_one_of_mem (wellFormed.childrenNodup parent)
          (wellFormed.childOfParent known)
    · intro other different member
      have otherKnown := wellFormed.parentOfChild member
      exact different (Option.some.inj (otherKnown.symm.trans known))
  · intro parent node member
    exact wellFormed.parentOfChild member
  · intro node isTop other member
    have known := wellFormed.parentOfChild member
    rw [isTop] at known
    cases known
  · intro node
    exact Forest.Lineage.ofWellFormed wellFormed node

/-- A node that is no ancestor of an element can be appended to it. -/
theorem Edit.allowed_append
    {page : Page}
    (reachable : page.Reachable)
    {target child : NodeId}
    (isElement : page.forest.isElement target = true)
    (inForest : child < page.forest.nodes.size)
    (noAncestor : child ∉ target :: page.forest.ancestors target) :
    (Edit.append target child).Allowed page := by
  obtain ⟨different, notAbove⟩ := not_or.mp (mt List.mem_cons.mpr noAncestor)
  refine ⟨isElement, inForest, ?_⟩
  rintro (same | above)
  · exact different same
  · exact notAbove ((Forest.mem_ancestors reachable.wellFormed).mpr above)

/-- A text that is moved from the head into a new element stands in this element alone. -/
theorem edits_keep_forest_of_moved_text :
    let inHead := (Edit.append 1 3).apply ((Edit.createText "note").apply .blank)
    let page := (Edit.append 4 3).apply ((Edit.appendElement 2 "p" []).apply inHead)
    (page.forest.children 4).count 3 = 1 ∧ 3 ∉ page.forest.children 1 := by
  intro inHead page
  have made : ((Edit.createText "note").apply .blank).Reachable :=
    .edit .blank trivial
  have placed : inHead.Reachable :=
    .edit made (Edit.allowed_append made rfl (by decide) (by decide))
  have extended : ((Edit.appendElement 2 "p" []).apply inHead).Reachable :=
    .edit placed rfl
  have moved : page.Reachable :=
    .edit extended
      (Edit.allowed_append extended (by decide +kernel) (by decide +kernel)
        (by decide +kernel))
  obtain ⟨once, -⟩ := edits_keep_forest moved
  obtain ⟨count, nowhereElse⟩ := once 3 4 (by decide +kernel)
  exact ⟨count, nowhereElse 1 (by decide)⟩

end PageScript.Document
