import PageScript.Document.Forest
import PageScript.Value

namespace PageScript.Document

/-!
# Walking through a forest

A walk is bounded by the number of nodes, which every path without repetition
respects.  Descendants come in document order, which is the order of the start
tags in the markup of a tree.
-/

namespace Forest

mutual

/-- The tree below a node that is at most `depth` levels deep. -/
def treeWithin (forest : Forest) : Nat → NodeId → Option Markup.Tree
  | 0, _ => none
  | depth + 1, id =>
      match forest.node? id with
      | none => none
      | some ⟨_, .text data⟩ => some (.text data)
      | some ⟨_, .element tag attributes children⟩ =>
          (treesWithin forest depth children).map fun trees => .element tag attributes trees

/-- The trees below nodes that are at most `depth` levels deep. -/
def treesWithin (forest : Forest) (depth : Nat) : List NodeId → Option (List Markup.Tree)
  | [] => some []
  | id :: rest =>
      match treeWithin forest depth id, treesWithin forest depth rest with
      | some tree, some trees => some (tree :: trees)
      | _, _ => none

end

/-- The bound on the depth of trees in a forest. -/
def depthBound (forest : Forest) : Nat :=
  forest.nodes.size + 1

/-- The tree below a node, unless the node is below itself. -/
def tree? (forest : Forest) (id : NodeId) : Option Markup.Tree :=
  forest.treeWithin forest.depthBound id

/-- Whether a node stands directly inside a script or a style. -/
def isRawPlace (forest : Forest) (id : NodeId) : Bool :=
  match (forest.parent? id).bind forest.tag? with
  | some tag => Markup.isRawTag tag
  | none => false

/-- The markup of a node at its place. -/
def markup? (forest : Forest) (id : NodeId) : Option String :=
  (forest.tree? id).map fun tree => String.ofList (tree.write (forest.isRawPlace id))

/-- The markup of the children of a node. -/
def innerMarkup? (forest : Forest) (id : NodeId) : Option String :=
  match forest.tree? id with
  | some (.element tag _ children) =>
      some (String.ofList (Markup.writeTrees (Markup.isRawTag tag) children))
  | some (.text _) => some ""
  | none => none

/-- The characters of all texts below a node. -/
def textContent? (forest : Forest) (id : NodeId) : Option String :=
  (forest.tree? id).map fun tree => String.ofList tree.textContent

/-- The nodes at most `depth` levels below a node, in document order. -/
def descendantsWithin (forest : Forest) : Nat → NodeId → List NodeId
  | 0, _ => []
  | depth + 1, id =>
      (forest.children id).flatMap fun child => child :: descendantsWithin forest depth child

/-- The nodes below a node, in document order. -/
def descendants (forest : Forest) (id : NodeId) : List NodeId :=
  forest.descendantsWithin forest.depthBound id

/-- The elements below a node, in document order. -/
def elementsBelow (forest : Forest) (id : NodeId) : List NodeId :=
  (forest.descendants id).filter forest.isElement

/-- The nodes above a node up to `height` levels, nearest first. -/
def ancestorsWithin (forest : Forest) : Nat → NodeId → List NodeId
  | 0, _ => []
  | height + 1, id =>
      match forest.parent? id with
      | none => []
      | some parent => parent :: ancestorsWithin forest height parent

/-- The nodes above a node, nearest first. -/
def ancestors (forest : Forest) (id : NodeId) : List NodeId :=
  forest.ancestorsWithin forest.depthBound id

/-- The elements with the same parent as a node, in order; a node at the top stands alone. -/
def elementSiblings (forest : Forest) (id : NodeId) : List NodeId :=
  match forest.parent? id with
  | none => [id]
  | some parent => (forest.children parent).filter forest.isElement

/-- The elements that precede a node under the same parent, in order. -/
def elementsBefore (forest : Forest) (id : NodeId) : List NodeId :=
  (forest.elementSiblings id).takeWhile (· ≠ id)

/-- The positions of a node and the nodes above it among their siblings, from the top down. -/
def path (forest : Forest) (id : NodeId) : List Nat :=
  ((id :: forest.ancestors id).filterMap fun node =>
    (forest.parent? node).map fun parent => (forest.children parent).idxOf node).reverse

/-- Copy the tree below a node; the copy is in no other tree. -/
def clone? (forest : Forest) (id : NodeId) : Option (Forest × NodeId) :=
  (forest.tree? id).map fun tree => forest.addTree none tree

/--
A short description of a node: its kind, and its characters or its tag, attributes and
number of children.
-/
def description (forest : Forest) (id : NodeId) : String :=
  match forest.node? id with
  | none => ""
  | some ⟨_, .text data⟩ => "Text(" ++ Text.quotedString data ++ ")"
  | some ⟨_, .element tag attributes children⟩ =>
      let bindings :=
        Value.record (attributes.entries.map fun entry => (entry.1, .text entry.2))
      "Element(" ++ Text.quotedString tag ++ ", " ++ bindings.quotedText ++ ", children=" ++
        toString children.length ++ ")"

/-- The classes of an element: the words of its `class` attribute. -/
def classes (forest : Forest) (id : NodeId) : List String :=
  (Text.words (((forest.attributes id).get? "class").getD "").toList).map String.ofList

end Forest

end PageScript.Document
