import PageScript.Markup.Tree
import PageScript.Text.LowerCase

namespace PageScript.Document

/-!
# Forests of nodes

A forest holds nodes that are named by numbers and never removed.  A node knows
its parent, and an element lists its children, so every edge is stored at both
ends.  The operations below keep the two ends together: a node is first taken out
of its old place and then put into its new one.
-/

/-- The name of a node. -/
abbrev NodeId := Nat

/-- What a node is besides its place in the forest. -/
inductive Content where
  /-- A run of characters. -/
  | text (data : String)
  /-- A tag, attributes in order, and the names of the children in order. -/
  | element (tag : String) (attributes : Table String String) (children : List NodeId)

/-- A node with its parent; a node at the top of a tree has none. -/
structure Node where
  parent : Option NodeId
  content : Content

/-- Nodes named by their positions. -/
structure Forest where
  nodes : Array Node

namespace Forest

/-- The forest without nodes. -/
def empty : Forest :=
  ⟨#[]⟩

/-- The node with a given name. -/
def node? (forest : Forest) (id : NodeId) : Option Node :=
  forest.nodes[id]?

/-- The parent of a node. -/
def parent? (forest : Forest) (id : NodeId) : Option NodeId :=
  (forest.node? id).bind (·.parent)

/-- The children of a node; a text has none. -/
def children (forest : Forest) (id : NodeId) : List NodeId :=
  match forest.node? id with
  | some ⟨_, .element _ _ children⟩ => children
  | _ => []

/-- The tag of an element. -/
def tag? (forest : Forest) (id : NodeId) : Option String :=
  match forest.node? id with
  | some ⟨_, .element tag _ _⟩ => some tag
  | _ => none

/-- Whether a node is an element. -/
def isElement (forest : Forest) (id : NodeId) : Bool :=
  (forest.tag? id).isSome

/-- The attributes of an element; a text has none. -/
def attributes (forest : Forest) (id : NodeId) : Table String String :=
  match forest.node? id with
  | some ⟨_, .element _ attributes _⟩ => attributes
  | _ => ⟨[]⟩

/-- The characters of a text. -/
def data? (forest : Forest) (id : NodeId) : Option String :=
  match forest.node? id with
  | some ⟨_, .text data⟩ => some data
  | _ => none

/-- Change one node. -/
def modify (forest : Forest) (id : NodeId) (change : Node → Node) : Forest :=
  ⟨forest.nodes.modify id change⟩

/-- Give a node another parent, without a change to any list of children. -/
def setParent (forest : Forest) (id : NodeId) (parent : Option NodeId) : Forest :=
  forest.modify id fun node => { node with parent := parent }

/-- The content of an element with other children. -/
def Content.withChildren (change : List NodeId → List NodeId) : Content → Content
  | .text data => .text data
  | .element tag attributes children => .element tag attributes (change children)

/-- Change the list of the children of an element, without a change to any parent. -/
def modifyChildren
    (forest : Forest)
    (id : NodeId)
    (change : List NodeId → List NodeId) :
    Forest :=
  forest.modify id fun node => { node with content := Content.withChildren change node.content }

/-- Change the characters of a text. -/
def modifyText (forest : Forest) (id : NodeId) (change : String → String) : Forest :=
  forest.modify id fun node =>
    match node.content with
    | .text data => { node with content := .text (change data) }
    | .element .. => node

/-- Change the attributes of an element. -/
def modifyAttributes
    (forest : Forest)
    (id : NodeId)
    (change : Table String String → Table String String) :
    Forest :=
  forest.modify id fun node =>
    match node.content with
    | .text _ => node
    | .element tag attributes children =>
        { node with content := .element tag (change attributes) children }

/-- Set one attribute of an element. -/
def setAttribute (forest : Forest) (id : NodeId) (name value : String) : Forest :=
  forest.modifyAttributes id fun attributes => attributes.insert name value

/-- Add a node, which gets the next free name. -/
def create (forest : Forest) (node : Node) : Forest × NodeId :=
  (⟨forest.nodes.push node⟩, forest.nodes.size)

/-- Add a text that is in no tree. -/
def createText (forest : Forest) (data : String) : Forest × NodeId :=
  forest.create ⟨none, .text data⟩

/-- Add an element without children that is in no tree; tags are written in small letters. -/
def createElement
    (forest : Forest)
    (tag : String)
    (attributes : Table String String) :
    Forest × NodeId :=
  forest.create
    ⟨none, .element (String.ofList (Text.lower tag.toList)) attributes []⟩

/-- Take a node out of its parent. -/
def detach (forest : Forest) (id : NodeId) : Forest :=
  match forest.parent? id with
  | none => forest
  | some parent =>
      (forest.modifyChildren parent fun children => children.erase id).setParent id none

/-- Take a node out of its parent and make it the last child of an element. -/
def append (forest : Forest) (target child : NodeId) : Forest :=
  ((forest.detach child).setParent child (some target)).modifyChildren target (· ++ [child])

/-- Append nodes in order. -/
def appendAll (forest : Forest) (target : NodeId) (added : List NodeId) : Forest :=
  added.foldl (fun grown child => grown.append target child) forest

/-- Take all children out of an element. -/
def clear (forest : Forest) (id : NodeId) : Forest :=
  ((forest.children id).foldl (fun cut child => cut.setParent child none) forest).modifyChildren id
    fun _ => []

mutual

/-- Add the nodes of a tree under a parent that does not list it yet. -/
def addTree (forest : Forest) (parent : Option NodeId) : Markup.Tree → Forest × NodeId
  | .text data => forest.create ⟨parent, .text data⟩
  | .element tag attributes children =>
      let created := forest.create ⟨parent, .element tag attributes []⟩
      let added := addTrees created.1 (some created.2) children
      (added.1.modifyChildren created.2 fun _ => added.2, created.2)

/-- Add the nodes of neighbouring trees under a parent that does not list them yet. -/
def addTrees
    (forest : Forest)
    (parent : Option NodeId) :
    List Markup.Tree → Forest × List NodeId
  | [] => (forest, [])
  | tree :: rest =>
      let first := addTree forest parent tree
      let others := addTrees first.1 parent rest
      (others.1, first.2 :: others.2)

end

/-- Add trees as the last children of an element. -/
def appendTrees (forest : Forest) (target : NodeId) (trees : List Markup.Tree) : Forest :=
  let added := forest.addTrees none trees
  added.1.appendAll target added.2

end Forest

end PageScript.Document
