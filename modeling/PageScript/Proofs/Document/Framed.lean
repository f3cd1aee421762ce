import PageScript.Proofs.Document.Editing
import PageScript.Proofs.Document.Slots

namespace PageScript.Document

open Markup

/-!
# The frame of a page

A page has an `html` element at the top of its tree, and this element lists the
head and the body and nothing else.  Filling, extending and rewording elements
below the `html` element keeps this frame, so every element of the page can be
changed without losing the place where others are put.
-/

/-! ## Tags -/

/-- The tag that a content has. -/
def Content.tag? : Content → Option String
  | .text _ => none
  | .element tag _ _ => some tag

namespace Forest

variable {forest other : Forest}

theorem tag?_eq_content?
    (id : NodeId) :
    forest.tag? id = (forest.content? id).bind Document.Content.tag? := by
  rw [tag?, content?]
  rcases forest.node? id with _ | ⟨parent, _ | _⟩ <;> rfl

@[simp] theorem tag?_withChildren
    (change : List NodeId → List NodeId)
    (content : Document.Content) :
    (Content.withChildren change content).tag? = content.tag? := by
  cases content <;> rfl

/-- Clearing an element changes no tag. -/
@[simp] theorem tag?_clear
    (target id : NodeId) :
    (forest.clear target).tag? id = forest.tag? id := by
  rw [tag?_eq_content?, tag?_eq_content?, content?, content?, node?_clear]
  cases forest.node? id with
  | none =>
      rfl
  | some node =>
      by_cases isTarget : id = target <;> simp [isTarget]

/-- A node that was there keeps its tag when an element receives trees. -/
theorem Receives.tag?
    {target : NodeId}
    {roots : List NodeId}
    {trees : List Tree}
    (receives : forest.Receives other target roots trees)
    {id : Nat}
    (known : id < forest.nodes.size) :
    other.tag? id = forest.tag? id := by
  rw [tag?_eq_content?, tag?_eq_content?, content?, content?,
    receives.old id known]
  cases forest.node? id with
  | none =>
      rfl
  | some node =>
      by_cases isTarget : id = target <;> simp [isTarget]

/-- A node that was there keeps its tag when the content of an element is replaced. -/
theorem Replaced.tag?
    {target : NodeId}
    {trees : List Tree}
    (replaced : forest.Replaced other target trees)
    (isElement : forest.isElement target = true)
    {id : Nat}
    (known : id < forest.nodes.size) :
    other.tag? id = forest.tag? id := by
  by_cases isTarget : id = target
  · obtain ⟨tag, table, listed, content⟩ := exists_content?_of_isElement isElement
    obtain ⟨spans, -⟩ := replaced.element tag table listed content
    cases spans with
    | element now _ =>
        rw [isTarget, tag?_of_content? content, tag?_of_content? now]
  · rw [tag?_eq_content?, tag?_eq_content?, content?, content?,
      replaced.old id known isTarget]
    cases forest.node? id with
    | none =>
        rfl
    | some node =>
        by_cases listed : id ∈ forest.children target <;> simp [listed]

@[simp] theorem tag?_modifyAttributes
    (id other : NodeId)
    (change : Table String String → Table String String) :
    (forest.modifyAttributes id change).tag? other = forest.tag? other := by
  rw [tag?_eq_content?, tag?_eq_content?, content?, content?, node?_modifyAttributes]
  rcases forest.node? other with _ | ⟨parent, _ | _⟩ <;>
    by_cases same : other = id <;> simp [same, Content.withAttributes, Content.tag?]

/-- The shape of a forest keeps the tags. -/
@[simp] theorem tag?_shape
    (id : NodeId) :
    forest.shape.tag? id = forest.tag? id := by
  rw [tag?_eq_content?, tag?_eq_content?, content?_shape]
  rcases forest.content? id with _ | _ | _ <;> rfl

end Forest

/-! ## Frames -/

/--
A page is framed when its `html` element is at the top and lists its head and its
body and nothing else.
-/
structure Page.Framed (page : Page) : Prop where
  wellFormed : page.forest.WellFormed
  top : page.forest.parent? page.root = none
  listed : page.forest.children page.root = [page.head, page.body]
  rootTag : page.forest.tag? page.root = some "html"
  headTag : page.forest.tag? page.head = some "head"
  bodyTag : page.forest.tag? page.body = some "body"

namespace Page.Framed

variable {page : Page} {other : Forest} {target : NodeId}

theorem parent?_body
    (framed : page.Framed) :
    page.forest.parent? page.body = some page.root := by
  apply framed.wellFormed.parentOfChild
  simp [framed.listed]

theorem parent?_head
    (framed : page.Framed) :
    page.forest.parent? page.head = some page.root := by
  apply framed.wellFormed.parentOfChild
  simp [framed.listed]

/-- The body is attached to the page. -/
theorem above_body
    (framed : page.Framed) :
    page.forest.Above page.root page.body :=
  .parent framed.parent?_body

/-- The head is attached to the page. -/
theorem above_head
    (framed : page.Framed) :
    page.forest.Above page.root page.head :=
  .parent framed.parent?_head

theorem isElement_head
    (framed : page.Framed) :
    page.forest.isElement page.head = true := by
  simp [Forest.isElement, framed.headTag]

theorem isElement_body
    (framed : page.Framed) :
    page.forest.isElement page.body = true := by
  simp [Forest.isElement, framed.bodyTag]

/-- The three elements of a framed page are nodes of its forest. -/
theorem lt_size
    (framed : page.Framed)
    {id : Nat}
    (member : id ∈ [page.root, page.head, page.body]) :
    id < page.forest.nodes.size := by
  apply Forest.lt_size_of_isElement
  simp only [List.mem_cons, List.not_mem_nil, or_false] at member
  rcases member with rfl | rfl | rfl <;>
    simp [Forest.isElement, framed.rootTag, framed.headTag, framed.bodyTag]

/-- An element below the root is not the root. -/
theorem ne_root
    (framed : page.Framed)
    (above : page.forest.Above page.root target) :
    page.root ≠ target := by
  rintro same
  rw [← same] at above
  exact framed.wellFormed.not_above_self _ above

/-- The root is no child. -/
theorem root_not_child
    (framed : page.Framed)
    (target : NodeId) :
    page.root ∉ page.forest.children target := by
  intro listed
  have known := framed.wellFormed.parentOfChild listed
  rw [framed.top] at known
  cases known

/-- A forest frames a page when nothing changes about the three elements. -/
theorem of_same
    (framed : page.Framed)
    (wellFormed : other.WellFormed)
    (top : other.parent? page.root = none)
    (listed : other.children page.root = page.forest.children page.root)
    (tags :
      ∀ id : Nat,
        id ∈ [page.root, page.head, page.body] →
          other.tag? id = page.forest.tag? id) :
    { page with forest := other }.Framed where
  wellFormed := wellFormed
  top := top
  listed := listed.trans framed.listed
  rootTag := (tags page.root (by simp)).trans framed.rootTag
  headTag := (tags page.head (by simp)).trans framed.headTag
  bodyTag := (tags page.body (by simp)).trans framed.bodyTag

/-- A page stays framed when an element below its root is cleared. -/
theorem clear
    (framed : page.Framed)
    (above : page.forest.Above page.root target) :
    { page with forest := page.forest.clear target }.Framed := by
  apply framed.of_same (framed.wellFormed.clear target)
  · simp [Forest.parent?_clear, framed.top]
  · simp [Forest.children_clear, framed.ne_root above]
  · intro id _
    simp

/-- A page stays framed when an element other than its root receives trees. -/
theorem receives
    (framed : page.Framed)
    {roots : List NodeId}
    {trees : List Tree}
    (receives : page.forest.Receives other target roots trees)
    (different : page.root ≠ target) :
    { page with forest := other }.Framed := by
  have rootKnown : page.root < page.forest.nodes.size := framed.lt_size (by simp)
  apply framed.of_same receives.wellFormed
  · have top := framed.top
    rw [Forest.parent?] at top ⊢
    rw [receives.old page.root rootKnown]
    simpa [different] using top
  · rw [Forest.children, Forest.children, receives.old page.root rootKnown]
    simp [different]
  · intro id member
    exact receives.tag? (framed.lt_size member)

/-- A page stays framed when the content of an element below its root is replaced. -/
theorem replaced
    (framed : page.Framed)
    {trees : List Tree}
    (replaced : page.forest.Replaced other target trees)
    (above : page.forest.Above page.root target)
    (isElement : page.forest.isElement target = true) :
    { page with forest := other }.Framed := by
  have rootKnown : page.root < page.forest.nodes.size := framed.lt_size (by simp)
  have rootNode := replaced.old page.root rootKnown (framed.ne_root above)
  simp only [framed.root_not_child target, if_false] at rootNode
  apply framed.of_same replaced.wellFormed
  · have top := framed.top
    rw [Forest.parent?] at top ⊢
    rw [rootNode]
    simpa using top
  · rw [Forest.children, Forest.children, rootNode]
    simp
  · intro id member
    exact replaced.tag? isElement (framed.lt_size member)

/-- A page stays framed when its places are reworded. -/
theorem of_shape
    (framed : page.Framed)
    (same : other.shape = page.forest.shape) :
    { page with forest := other }.Framed := by
  have parents := fun id => congrArg (Forest.parent? · id) same
  have children := fun id => congrArg (Forest.children · id) same
  have tags := fun id => congrArg (Forest.tag? · id) same
  simp only [Forest.parent?_shape, Forest.children_shape, Forest.tag?_shape]
    at parents children tags
  apply framed.of_same (framed.wellFormed.of_shape same)
  · rw [parents, framed.top]
  · exact children page.root
  · intro id _
    exact tags id

/-- Filling an element below the root keeps the frame, also when the markup is refused. -/
theorem setContent
    (framed : page.Framed)
    (above : page.forest.Above page.root target)
    (isElement : page.forest.isElement target = true)
    (markup : String) :
    (page.setContent target markup).1.Framed := by
  rw [Page.setContent]
  cases parsed : parseTrees markup with
  | error error =>
      exact framed.clear above
  | ok trees =>
      exact
        framed.replaced
          (Forest.replaced_appendTrees_clear framed.wellFormed isElement
            (attributesNodupAll_of_parseTrees parsed))
          above isElement

/-- Adding trees at the end of an element below the root keeps the frame. -/
theorem appendTrees
    (framed : page.Framed)
    (above : page.forest.Above page.root target)
    (isElement : page.forest.isElement target = true)
    {trees : List Tree}
    (distinct : AttributesNodupAll trees) :
    { page with forest := page.forest.appendTrees target trees }.Framed := by
  obtain ⟨roots, receives⟩ := Forest.exists_receives framed.wellFormed isElement distinct
  exact framed.receives receives (framed.ne_root above)

end Page.Framed

/-! ## Adding an element -/

section AppendElement

variable {page : Page} {target : NodeId} {tag : String}
  {attributes : List (String × String)}

/-- The new node of an added element, and the old nodes, of which one lists the new one. -/
theorem Page.node?_appendElement
    (known : target < page.forest.nodes.size)
    (tag : String)
    (attributes : List (String × String))
    (id : NodeId) :
    (page.appendElement target tag attributes).1.forest.node? id =
      if id = page.forest.nodes.size then
        some
          ⟨some target,
            .element (String.ofList (Text.lower tag.toList))
              (Table.ofList attributes) []⟩
      else
        (page.forest.node? id).map fun node =>
          if id = target then
            { node with
              content :=
                Forest.Content.withChildren (· ++ [page.forest.nodes.size])
                  node.content }
          else
            node := by
  have different : target ≠ page.forest.nodes.size := Nat.ne_of_lt known
  have attributed :
      ∀ other,
        ((page.forest.createElement tag ⟨[]⟩).1.modifyAttributes
            page.forest.nodes.size
            fun table => table.insertAll attributes).node? other =
          if other = page.forest.nodes.size then
            some
              ⟨none,
                .element (String.ofList (Text.lower tag.toList))
                  (Table.ofList attributes) []⟩
          else
            page.forest.node? other := by
    intro other
    rw [Forest.node?_modifyAttributes, Forest.createElement, Forest.node?_create]
    by_cases isNew : other = page.forest.nodes.size <;>
      simp [isNew, Content.withAttributes, Table.ofList]
  have isTop :
      ((page.forest.createElement tag ⟨[]⟩).1.modifyAttributes
          page.forest.nodes.size
          fun table => table.insertAll attributes).parent?
          page.forest.nodes.size = none := by
    rw [Forest.parent?, attributed]
    simp
  change (Forest.append (Forest.modifyAttributes _ page.forest.nodes.size _) target
    page.forest.nodes.size).node? id = _
  rw [Forest.node?_append isTop different, attributed]
  by_cases isNew : id = page.forest.nodes.size
  · simp [isNew, different.symm]
  · by_cases isTarget : id = target
    · simp [isTarget, different]
    · simp [isNew, isTarget]

@[simp] theorem Page.size_appendElement
    (page : Page)
    (target : NodeId)
    (tag : String)
    (attributes : List (String × String)) :
    (page.appendElement target tag attributes).1.forest.nodes.size =
      page.forest.nodes.size + 1 := by
  simp [Page.appendElement, Forest.modifyAttributes, Forest.createElement]

/-- An element to which another is added receives it as its last child. -/
theorem Page.receives_appendElement
    (wellFormed : page.forest.WellFormed)
    (isElement : page.forest.isElement target = true)
    (tag : String)
    (attributes : List (String × String)) :
    page.forest.Receives (page.appendElement target tag attributes).1.forest
      target [page.forest.nodes.size]
      [.element (String.ofList (Text.lower tag.toList))
        (Table.ofList attributes) []] := by
  have nodes :=
    Page.node?_appendElement (Forest.lt_size_of_isElement isElement) tag attributes
  refine
    { wellFormed :=
        wellFormed.append_createElement isElement tag fun _ nodup =>
          Table.nodup_keys_insertAll nodup attributes
      rootsNew := by simp
      spans := .cons (.element ?_ .nil) .nil
      old := ?_ }
  · rw [Forest.content?, nodes, if_pos rfl]
    rfl
  · intro id known
    rw [nodes, if_neg (Nat.ne_of_lt known)]

/-- Adding an element below the root of a framed page keeps the frame. -/
theorem Page.Framed.appendElement
    (framed : page.Framed)
    (above : page.forest.Above page.root target)
    (isElement : page.forest.isElement target = true) :
    (page.appendElement target tag attributes).1.Framed :=
  framed.receives
    (Page.receives_appendElement framed.wellFormed isElement tag attributes)
    (framed.ne_root above)

end AppendElement

/-! ## Numbers of nodes -/

@[simp] theorem Forest.size_appendAll
    (forest : Forest)
    (target : NodeId)
    (added : List NodeId) :
    (forest.appendAll target added).nodes.size = forest.nodes.size := by
  rw [Forest.appendAll]
  induction added generalizing forest with
  | nil =>
      rfl
  | cons child rest inductionHypothesis =>
      rw [List.foldl_cons, inductionHypothesis, Forest.size_append]

/-- New content for an element takes no node away. -/
theorem Page.size_le_setContent
    (page : Page)
    (target : NodeId)
    (markup : String) :
    page.forest.nodes.size ≤ (page.setContent target markup).1.forest.nodes.size := by
  rw [Page.setContent]
  cases parsed : parseTrees markup with
  | error error =>
      simp
  | ok trees =>
      have grows :=
        Forest.grows_addTrees trees (page.forest.clear target) none
          (attributesNodupAll_of_parseTrees parsed)
      have sizeLe := grows.size_le
      rw [Forest.size_clear] at sizeLe
      dsimp only
      rw [Forest.appendTrees, Forest.size_appendAll]
      exact sizeLe

/-! ## New pages -/

namespace Page

/-- The blank page is framed. -/
theorem framed_blank :
    blank.Framed where
  wellFormed := blank_wellFormed
  top := rfl
  listed := rfl
  rootTag := rfl
  headTag := rfl
  bodyTag := rfl

/-- A page stays framed when its body gets other attributes. -/
theorem Framed.modifyAttributes
    {page : Page}
    (framed : page.Framed)
    (id : NodeId)
    {change : Table String String → Table String String}
    (nodup : ∀ table, table.keys.Nodup → (change table).keys.Nodup) :
    { page with forest := page.forest.modifyAttributes id change }.Framed := by
  apply framed.of_same (framed.wellFormed.modifyAttributes id nodup)
  · simp [framed.top]
  · simp
  · intro other _
    simp

/-- Filling the head and the body of a framed page keeps the frame. -/
theorem Framed.fill
    {page : Page}
    (framed : page.Framed)
    {content : PageContent}
    (headNodup : AttributesNodupAll content.head)
    (attributesNodup : content.bodyAttributes.keys.Nodup)
    (bodyNodup : AttributesNodupAll content.body) :
    (page.fill content).Framed := by
  have withHead := framed.appendTrees framed.above_head framed.isElement_head headNodup
  have withBody := withHead.appendTrees withHead.above_body withHead.isElement_body bodyNodup
  exact withBody.modifyAttributes page.body fun _ _ => attributesNodup

/-- A page that is read from markup is framed. -/
theorem framed_ofMarkup
    {markup : String}
    {page : Page}
    (read : ofMarkup markup = .ok page) :
    page.Framed := by
  rw [ofMarkup] at read
  cases parsed : parseTrees markup with
  | error error =>
      rw [parsed] at read
      cases read
  | ok trees =>
      rw [parsed] at read
      obtain rfl := Except.ok.inj read
      obtain ⟨head, attributes, body⟩ :=
        PageContent.every_ofTops IsSound.attributes
          (PageContent.every_tops (treesEvery_isSound_of_parseTrees parsed))
      exact
        framed_blank.fill head.attributesNodupAll attributes.once
          body.attributesNodupAll

end Page

end PageScript.Document
