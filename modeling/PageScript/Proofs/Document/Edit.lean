import PageScript.Proofs.Document.Structure
import PageScript.Proofs.Table

namespace PageScript.Document

/-!
# What edits change

Each edit of a forest is described by what it does to the node with a given
name.  Two edits are described here that work on many nodes at once: taking all
children out of an element, and appending nodes that are in no tree.
-/

deriving instance DecidableEq for Content
deriving instance DecidableEq for Node
deriving instance DecidableEq for Forest

/-- The children that a content lists; a text lists none. -/
def Content.listed : Content → List NodeId
  | .text _ => []
  | .element _ _ children => children

/-- A content with other attributes; a text has none. -/
def Content.withAttributes
    (change : Table String String → Table String String) :
    Content → Content
  | .text data => .text data
  | .element tag attributes children => .element tag (change attributes) children

/-- A content with other characters; an element has none of its own. -/
def Content.withData (change : String → String) : Content → Content
  | .text data => .text (change data)
  | .element tag attributes children => .element tag attributes children

namespace Forest

variable {forest : Forest}

/-- What a node is besides its place. -/
def content? (forest : Forest) (id : NodeId) : Option Content :=
  (forest.node? id).map (·.content)

/-- A node with a content exists. -/
theorem lt_size_of_content?
    {id : NodeId}
    {content : Content}
    (known : forest.content? id = some content) :
    id < forest.nodes.size := by
  obtain ⟨node, found, -⟩ := Option.map_eq_some_iff.mp known
  exact lt_size_of_node? found

/-- The children are read from the content. -/
theorem children_eq_content?
    (id : NodeId) :
    forest.children id =
      ((forest.content? id).map Content.listed).getD [] := by
  cases found : forest.node? id with
  | none =>
      simp [children, content?, found]
  | some node =>
      rcases node with ⟨parent, content⟩
      cases content <;>
        simp [children, content?, found, Content.listed]

/-- An element is a node with the content of an element. -/
theorem exists_content?_of_isElement
    {id : NodeId}
    (element : forest.isElement id = true) :
    ∃ tag attributes listed,
      forest.content? id = some (.element tag attributes listed) := by
  cases found : forest.node? id with
  | none =>
      simp [isElement, tag?, found] at element
  | some node =>
      rcases node with ⟨parent, content⟩
      cases content with
      | text data =>
          simp [isElement, tag?, found] at element
      | element tag attributes listed =>
          exact ⟨tag, attributes, listed, by simp [content?, found]⟩

section Content

variable {id : NodeId} {tag data : String}
  {table : Table String String} {listed : List NodeId}

theorem children_of_content?
    (known : forest.content? id = some (.element tag table listed)) :
    forest.children id = listed := by
  simp [children_eq_content?, known, Content.listed]

/-- What an element lists has the element as its parent. -/
theorem WellFormed.parent?_of_listed
    (wellFormed : forest.WellFormed)
    (known : forest.content? id = some (.element tag table listed))
    {child : NodeId}
    (member : child ∈ listed) :
    forest.parent? child = some id := by
  apply wellFormed.parentOfChild
  rw [children_of_content? known]
  exact member

theorem tag?_of_content?
    (known : forest.content? id = some (.element tag table listed)) :
    forest.tag? id = some tag := by
  obtain ⟨⟨parent, content⟩, found, rfl⟩ :=
    Option.map_eq_some_iff.mp known
  simp [tag?, found]

/-- A node with the content of an element is an element. -/
theorem isElement_of_content?
    (known : forest.content? id = some (.element tag table listed)) :
    forest.isElement id = true := by
  rw [isElement, tag?_of_content? known]
  rfl

theorem attributes_of_content?
    (known : forest.content? id = some (.element tag table listed)) :
    forest.attributes id = table := by
  obtain ⟨⟨parent, content⟩, found, rfl⟩ :=
    Option.map_eq_some_iff.mp known
  simp [attributes, found]

/-- An element holds no characters of its own. -/
theorem data?_of_content?_element
    (known : forest.content? id = some (.element tag table listed)) :
    forest.data? id = none := by
  obtain ⟨⟨parent, content⟩, found, rfl⟩ :=
    Option.map_eq_some_iff.mp known
  simp [data?, found]

end Content

/-! ## One node -/

/-- Forests with the same nodes are equal. -/
theorem eq_of_node?
    {other : Forest}
    (same : ∀ id, other.node? id = forest.node? id) :
    other = forest := by
  rcases forest with ⟨nodes⟩
  rcases other with ⟨otherNodes⟩
  exact congrArg Forest.mk (Array.ext_getElem? same)

/-- Changing one node leaves every other node as it is. -/
theorem node?_modify
    (id other : NodeId)
    (change : Node → Node) :
    (forest.modify id change).node? other =
      (forest.node? other).map fun node =>
        if other = id then change node else node := by
  simp only [node?, modify, Array.getElem?_modify]
  by_cases same : other = id
  · simp [same]
  · simp [same, Ne.symm same]

@[simp] theorem size_modify
    (id : NodeId)
    (change : Node → Node) :
    (forest.modify id change).nodes.size = forest.nodes.size := by
  simp [modify]

theorem node?_setParent
    (id other : NodeId)
    (parent : Option NodeId) :
    (forest.setParent id parent).node? other =
      (forest.node? other).map fun node =>
        if other = id then { node with parent := parent } else node :=
  node?_modify id other _

/-- Changing the content of one node changes nothing else. -/
theorem node?_modify_content
    {change : Node → Node}
    {edit : Content → Content}
    (edits : ∀ node, change node = { node with content := edit node.content })
    (id other : NodeId) :
    (forest.modify id change).node? other =
      (forest.node? other).map fun node =>
        if other = id then
          { node with content := edit node.content }
        else
          node := by
  rw [node?_modify]
  simp only [edits]

/-- Changing the children of a node changes nothing else. -/
theorem node?_modifyChildren
    (id other : NodeId)
    (change : List NodeId → List NodeId) :
    (forest.modifyChildren id change).node? other =
      (forest.node? other).map fun node =>
        if other = id then
          { node with content := Content.withChildren change node.content }
        else
          node :=
  node?_modify_content (fun _ => rfl) id other

/-- Changing the attributes of a node changes nothing else. -/
theorem node?_modifyAttributes
    (id other : NodeId)
    (change : Table String String → Table String String) :
    (forest.modifyAttributes id change).node? other =
      (forest.node? other).map fun node =>
        if other = id then
          { node with content := Content.withAttributes change node.content }
        else
          node :=
  node?_modify_content (by rintro ⟨_, ⟨⟩⟩ <;> rfl) id other

/-- Changing the characters of a node changes nothing else. -/
theorem node?_modifyText
    (id other : NodeId)
    (change : String → String) :
    (forest.modifyText id change).node? other =
      (forest.node? other).map fun node =>
        if other = id then
          { node with content := Content.withData change node.content }
        else
          node :=
  node?_modify_content (by rintro ⟨_, ⟨⟩⟩ <;> rfl) id other

/-- A new node gets the next free name. -/
theorem node?_create
    (node : Node)
    (other : NodeId) :
    (forest.create node).1.node? other =
      if other = forest.nodes.size then
        some node
      else
        forest.node? other := by
  simp only [create, node?, Array.getElem?_push]

@[simp] theorem size_create
    (node : Node) :
    (forest.create node).1.nodes.size = forest.nodes.size + 1 := by
  simp [create]

/-- A node that has no parent is taken out by doing nothing. -/
theorem detach_of_top
    {id : NodeId}
    (isTop : forest.parent? id = none) :
    forest.detach id = forest := by
  simp [detach, isTop]

/--
A node that has no parent is appended without being taken out of anything.
-/
theorem node?_append
    {target child : NodeId}
    (isTop : forest.parent? child = none)
    (different : target ≠ child)
    (id : NodeId) :
    (forest.append target child).node? id =
      (forest.node? id).map fun node =>
        { parent := if id = child then some target else node.parent
          content :=
            if id = target then
              Content.withChildren (· ++ [child]) node.content
            else
              node.content } := by
  rw [append, detach_of_top isTop, node?_modifyChildren, node?_setParent,
    Option.map_map]
  refine Option.map_congr fun node known => ?_
  by_cases isTarget : id = target
  · simp [isTarget, different]
  · by_cases isChild : id = child <;> simp [isTarget, isChild, Ne.symm different]

/-! ## Many nodes -/

/-- Cutting nodes off changes nothing but their parents. -/
theorem node?_cutAll
    (cut : List NodeId)
    (id : NodeId) :
    (cut.foldl (fun changed child => changed.setParent child none)
        forest).node? id =
      (forest.node? id).map fun node =>
        if id ∈ cut then { node with parent := none } else node := by
  induction cut generalizing forest with
  | nil =>
      simp
  | cons child rest inductionHypothesis =>
      rw [List.foldl_cons, inductionHypothesis, node?_setParent,
        Option.map_map]
      refine Option.map_congr fun node known => ?_
      by_cases isChild : id = child <;> simp [isChild]

/-- Clearing an element takes it from its children, and its children from it. -/
theorem node?_clear
    (id other : NodeId) :
    (forest.clear id).node? other =
      (forest.node? other).map fun node =>
        { parent :=
            if other ∈ forest.children id then none else node.parent
          content :=
            if other = id then
              Content.withChildren (fun _ => []) node.content
            else
              node.content } := by
  rw [clear, node?_modifyChildren, node?_cutAll, Option.map_map]
  refine Option.map_congr fun node known => ?_
  by_cases same : other = id
  · subst same
    by_cases member : other ∈ forest.children other <;> simp [member]
  · by_cases member : other ∈ forest.children id <;> simp [member, same]

@[simp] theorem size_clear
    (id : NodeId) :
    (forest.clear id).nodes.size = forest.nodes.size := by
  have cutSize :
      ∀ (cut : List NodeId) (start : Forest),
        (cut.foldl (fun changed child => changed.setParent child none)
          start).nodes.size = start.nodes.size := by
    intro cut
    induction cut with
    | nil =>
        intro start
        rfl
    | cons child rest inductionHypothesis =>
        intro start
        rw [List.foldl_cons, inductionHypothesis, setParent, size_modify]
  rw [clear, modifyChildren, size_modify, cutSize]

/--
Appending different nodes that are in no tree gives them their new parent, and
lists them there in order.
-/
theorem node?_appendAll
    {target : NodeId}
    {added : List NodeId}
    (tops : ∀ child ∈ added, forest.parent? child = none)
    (addedNodup : added.Nodup)
    (targetNotAdded : target ∉ added)
    (id : NodeId) :
    (forest.appendAll target added).node? id =
      (forest.node? id).map fun node =>
        { parent := if id ∈ added then some target else node.parent
          content :=
            if id = target then
              Content.withChildren (· ++ added) node.content
            else
              node.content } := by
  induction added generalizing forest with
  | nil =>
      rw [appendAll, List.foldl_nil]
      cases forest.node? id with
      | none =>
          rfl
      | some node =>
          rcases node with ⟨parent, content⟩
          cases content <;> simp [Content.withChildren]
  | cons child rest inductionHypothesis =>
      obtain ⟨childNotRest, restNodup⟩ := List.nodup_cons.mp addedNodup
      obtain ⟨targetNeChild, targetNotRest⟩ :=
        not_or.mp (mt List.mem_cons.mpr targetNotAdded)
      obtain ⟨isTop, othersTop⟩ := List.forall_mem_cons.mp tops
      have restTops :
          ∀ other ∈ rest,
            (forest.append target child).parent? other = none := by
        intro other member
        have otherNeChild : other ≠ child := by
          rintro rfl
          exact childNotRest member
        have otherTop := othersTop other member
        rw [parent?, node?_append isTop targetNeChild]
        rw [parent?] at otherTop
        cases found : forest.node? other with
        | none =>
            rfl
        | some node =>
            simpa [otherNeChild, found] using otherTop
      have unfolded :
          forest.appendAll target (child :: rest) =
            (forest.append target child).appendAll target rest :=
        rfl
      rw [unfolded, inductionHypothesis restTops restNodup targetNotRest,
        node?_append isTop targetNeChild, Option.map_map]
      refine Option.map_congr fun node known => ?_
      rcases node with ⟨parent, content⟩
      by_cases isChild : id = child
      · subst isChild
        simp [childNotRest, Ne.symm targetNeChild]
      · by_cases isTarget : id = target
        · subst isTarget
          cases content <;> simp [targetNeChild, Content.withChildren]
        · simp [isChild, isTarget]

end Forest

end PageScript.Document
