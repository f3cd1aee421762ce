import PageScript.Proofs.Document.Framed
import PageScript.Proofs.Document.Intact
import PageScript.Proofs.Markup.EventOrder

namespace PageScript.Document

open Markup

/-!
# Copies and what happens to them

A copy of an element is a new tree of the same shape that is in no other tree, and
every node that was there stays as it is.  The copy may be made in place: an element
anew, then one child after the other, each appended to the new element before the next
is copied; this comes to the same as adding the tree below the node, since on every
page all tags are in small letters already.  Original and copy have no node in common,
so later changes of the one leave the markup of the other.
-/

namespace Forest

variable {forest : Forest}

/-! ## Copying node by node -/

/--
Copy a node at most `depth` levels deep: a text anew, an element anew with the copies of
its children appended one after the other.
-/
def copyWithin : Nat → Forest → NodeId → Option (Forest × NodeId)
  | 0, _, _ => none
  | depth + 1, forest, id =>
      match forest.content? id with
      | none => none
      | some (.text data) => some (forest.createText data)
      | some (.element tag attributes children) =>
          let created := forest.createElement tag attributes
          let filled := children.foldlM (fun grown child =>
            (copyWithin depth grown child).map fun copied =>
              copied.1.append created.2 copied.2) created.1
          filled.map fun grown => (grown, created.2)

/-- Copy a node and everything below it. -/
def copy? (forest : Forest) (id : NodeId) : Option (Forest × NodeId) :=
  forest.copyWithin forest.depthBound id

/-- All tags are written in small letters, as they are when elements are made. -/
def HasSmallTags (forest : Forest) : Prop :=
  ∀ id tag, forest.tag? id = some tag → IsSmallTag tag

/-! ## Tags in small letters -/

/-- A change of a node that keeps its tag keeps all tags. -/
theorem tag?_modify
    {change : Node → Node}
    (sameTag : ∀ node, (change node).content.tag? = node.content.tag?)
    (id other : NodeId) :
    (forest.modify id change).tag? other = forest.tag? other := by
  rw [tag?_eq_content?, tag?_eq_content?, content?, content?, node?_modify]
  cases forest.node? other with
  | none =>
      rfl
  | some node =>
      by_cases same : other = id <;> simp [same, sameTag]

namespace HasSmallTags

theorem of_tags
    {other : Forest}
    (small : forest.HasSmallTags)
    (same : ∀ id, other.tag? id = forest.tag? id) :
    other.HasSmallTags :=
  fun id tag known => small id tag ((same id).symm.trans known)

theorem modifyChildren
    (small : forest.HasSmallTags)
    (id : NodeId)
    (change : List NodeId → List NodeId) :
    (forest.modifyChildren id change).HasSmallTags :=
  small.of_tags (tag?_modify (fun _ => tag?_withChildren ..) id)

theorem setParent
    (small : forest.HasSmallTags)
    (id : NodeId)
    (parent : Option NodeId) :
    (forest.setParent id parent).HasSmallTags := by
  refine small.of_tags (tag?_modify ?_ id)
  exact fun _ => rfl

theorem modifyAttributes
    (small : forest.HasSmallTags)
    (id : NodeId)
    (change : Table String String → Table String String) :
    (forest.modifyAttributes id change).HasSmallTags :=
  small.of_tags fun _ => tag?_modifyAttributes ..

theorem create
    (small : forest.HasSmallTags)
    {node : Node}
    (isSmall : ∀ tag ∈ node.content.tag?, IsSmallTag tag) :
    (forest.create node).1.HasSmallTags := by
  intro id tag known
  rw [tag?_eq_content?, content?, node?_create] at known
  split at known
  · exact isSmall tag known
  · exact small id tag (by rwa [tag?_eq_content?])

/-- A text has no tag. -/
theorem createText
    (small : forest.HasSmallTags)
    (parent : Option NodeId)
    (data : String) :
    (forest.create ⟨parent, .text data⟩).1.HasSmallTags := by
  refine small.create ?_
  rintro _ ⟨⟩

theorem createElement
    (small : forest.HasSmallTags)
    (tag : String)
    (table : Table String String) :
    (forest.createElement tag table).1.HasSmallTags := by
  refine small.create ?_
  rintro _ ⟨⟩
  exact isSmallTag_lower _

theorem detach
    (small : forest.HasSmallTags)
    (id : NodeId) :
    (forest.detach id).HasSmallTags := by
  rw [Forest.detach]
  split
  · exact small
  · exact (small.modifyChildren _ _).setParent id none

theorem append
    (small : forest.HasSmallTags)
    (target child : NodeId) :
    (forest.append target child).HasSmallTags :=
  ((small.detach child).setParent child (some target)).modifyChildren target _

theorem appendAll
    (small : forest.HasSmallTags)
    (target : NodeId)
    (added : List NodeId) :
    (forest.appendAll target added).HasSmallTags := by
  induction added generalizing forest with
  | nil =>
      exact small
  | cons child rest inductionHypothesis =>
      exact inductionHypothesis (small.append target child)

theorem clear
    (small : forest.HasSmallTags)
    (target : NodeId) :
    (forest.clear target).HasSmallTags :=
  small.of_tags (tag?_clear target)

mutual

/-- Trees whose tags are in small letters may be added. -/
theorem addTree
    (parent : Option NodeId) :
    ∀ {tree : Tree} {forest : Forest},
      tree.Every HasSmallTag →
        forest.HasSmallTags →
          (forest.addTree parent tree).1.HasSmallTags
  | .text data, _, _, small => small.createText parent data
  | .element tag table children, forest, every, small => by
      have made : (forest.create ⟨parent, .element tag table []⟩).1.HasSmallTags := by
        refine small.create ?_
        rintro _ ⟨⟩
        exact every.1
      exact (addTrees (some forest.nodes.size) every.2 made).modifyChildren _ _

theorem addTrees
    (parent : Option NodeId) :
    ∀ {trees : List Tree} {forest : Forest},
      TreesEvery HasSmallTag trees →
        forest.HasSmallTags →
          (forest.addTrees parent trees).1.HasSmallTags
  | [], _, _, small => small
  | _ :: _, _, ⟨first, others⟩, small =>
      (addTrees parent others (addTree parent first small) :)

end

theorem appendTrees
    (small : forest.HasSmallTags)
    (target : NodeId)
    {trees : List Tree}
    (every : TreesEvery HasSmallTag trees) :
    (forest.appendTrees target trees).HasSmallTags :=
  (addTrees none every small).appendAll target _

/-- The tags in the tree below a node are in small letters. -/
theorem every_treeWithin
    (small : forest.HasSmallTags)
    {depth : Nat}
    {id : NodeId}
    {tree : Tree}
    (found : forest.treeWithin depth id = some tree) :
    tree.Every HasSmallTag := by
  induction depth generalizing id tree with
  | zero =>
      simp [treeWithin] at found
  | succ depth inductionHypothesis =>
      have below :
          ∀ {ids : List NodeId} {trees : List Tree},
            List.Forall₂ (fun id tree => forest.treeWithin depth id = some tree) ids trees →
              TreesEvery HasSmallTag trees := by
        intro ids trees found
        induction found with
        | nil =>
            trivial
        | cons first _ others =>
            exact ⟨inductionHypothesis first, others⟩
      rcases treeWithin_succ_eq_some.mp found with
        ⟨data, -, rfl⟩ | ⟨tag, table, listed, trees, known, walked, rfl⟩
      · trivial
      · exact ⟨small id tag (tag?_of_content? known), below (treesWithin_eq_some.mp walked)⟩

theorem openPage
    (small : forest.HasSmallTags) :
    forest.openPage.forest.HasSmallTags :=
  ((((small.createElement "html" ⟨[]⟩).createElement "head" ⟨[]⟩).createElement "body"
    ⟨[]⟩).append _ _).append _ _

end HasSmallTags

/-! ## Changes of a node while trees are added -/

/-- Changes of different nodes may be made in either order. -/
theorem modify_comm
    {first second : NodeId}
    (different : first ≠ second)
    (change other : Node → Node) :
    (forest.modify first change).modify second other =
      (forest.modify second other).modify first change := by
  refine eq_of_node? fun id => ?_
  simp only [node?_modify, Option.map_map]
  refine Option.map_congr fun node _ => ?_
  by_cases isFirst : id = first
  · simp [isFirst, different]
  · by_cases isSecond : id = second <;> simp [isFirst, isSecond, different.symm]

/-- Two changes of a node are one change of it. -/
theorem modify_modify
    (id : NodeId)
    (change other : Node → Node) :
    (forest.modify id change).modify id other =
      forest.modify id fun node => other (change node) := by
  refine eq_of_node? fun found => ?_
  simp only [node?_modify, Option.map_map]
  refine Option.map_congr fun node _ => ?_
  by_cases same : found = id <;> simp [same]

/-- Two changes of a list of children are one change of it. -/
theorem modifyChildren_modifyChildren
    (id : NodeId)
    (change other : List NodeId → List NodeId) :
    (forest.modifyChildren id change).modifyChildren id other =
      forest.modifyChildren id fun children => other (change children) := by
  simp only [modifyChildren, modify_modify]
  congr 1
  funext node
  obtain ⟨parent, content⟩ := node
  cases content <;> rfl

theorem modifyChildren_id
    (id : NodeId) :
    forest.modifyChildren id (fun children => children) = forest := by
  refine eq_of_node? fun found => ?_
  rw [node?_modifyChildren]
  rcases forest.node? found with _ | ⟨parent, ⟨⟩⟩ <;> simp [Content.withChildren]

theorem new_lt_size_create
    (forest : Forest)
    (node : Node) :
    forest.nodes.size < (forest.create node).1.nodes.size := by
  rw [size_create]
  exact Nat.lt_succ_self _

/-- A node may be changed before or after another one is made. -/
theorem create_modify
    {id : NodeId}
    (old : id < forest.nodes.size)
    (change : Node → Node)
    (node : Node) :
    ((forest.modify id change).create node).1 = (forest.create node).1.modify id change := by
  refine eq_of_node? fun found => ?_
  simp only [node?_create, node?_modify, size_modify]
  split
  · next isNew =>
      have different : found ≠ id := by
        rintro rfl
        exact Nat.lt_irrefl _ (isNew ▸ old)
      simp [different]
  · rfl

/-- A node that is new may be changed or made otherwise. -/
theorem create_modify_new
    (change : Node → Node)
    (node : Node) :
    (forest.create node).1.modify forest.nodes.size change =
      (forest.create (change node)).1 := by
  refine eq_of_node? fun found => ?_
  simp only [node?_create, node?_modify]
  split
  · rfl
  · next old =>
      simp

mutual

/-- Adding a tree makes new nodes. -/
theorem size_lt_addTree
    (parent : Option NodeId) :
    ∀ (tree : Tree) (forest : Forest),
      forest.nodes.size < (forest.addTree parent tree).1.nodes.size
  | .text _, forest => by
      simp [addTree]
  | .element tag attributes children, forest => by
      have below :=
        size_le_addTrees (some forest.nodes.size) children
          (forest.create ⟨parent, .element tag attributes []⟩).1
      rw [size_create] at below
      simp only [addTree, modifyChildren, size_modify]
      exact below

theorem size_le_addTrees
    (parent : Option NodeId) :
    ∀ (trees : List Tree) (forest : Forest),
      forest.nodes.size ≤ (forest.addTrees parent trees).1.nodes.size
  | [], _ => Nat.le_refl _
  | tree :: rest, forest =>
      Nat.le_trans (Nat.le_of_lt (size_lt_addTree parent tree forest))
        (size_le_addTrees parent rest (forest.addTree parent tree).1)

end

mutual

/-- A node may be changed before or after a tree is added. -/
theorem addTree_modify
    (change : Node → Node)
    (parent : Option NodeId) :
    ∀ (tree : Tree) {forest : Forest} {id : NodeId},
      id < forest.nodes.size →
        (forest.modify id change).addTree parent tree =
          ((forest.addTree parent tree).1.modify id change, (forest.addTree parent tree).2)
  | .text data, forest, id, old => by
      have made := create_modify old change ⟨parent, .text data⟩
      simp [addTree, create] at made ⊢
      exact made
  | .element tag attributes children, forest, id, old => by
      have made := create_modify old change ⟨parent, .element tag attributes []⟩
      have kept : id < (forest.create ⟨parent, .element tag attributes []⟩).1.nodes.size :=
        Nat.lt_trans old (new_lt_size_create _ _)
      have below := addTrees_modify change (some forest.nodes.size) children kept
      have top :
          ((forest.modify id change).create ⟨parent, .element tag attributes []⟩).2 =
            forest.nodes.size :=
        size_modify ..
      simp only [addTree, made, top, below, modifyChildren]
      rw [modify_comm (Nat.ne_of_lt old)]
      rfl

theorem addTrees_modify
    (change : Node → Node)
    (parent : Option NodeId) :
    ∀ (trees : List Tree) {forest : Forest} {id : NodeId},
      id < forest.nodes.size →
        (forest.modify id change).addTrees parent trees =
          ((forest.addTrees parent trees).1.modify id change, (forest.addTrees parent trees).2)
  | [], _, _, _ => rfl
  | tree :: rest, forest, id, old => by
      have first := addTree_modify change parent tree old
      have others :=
        addTrees_modify change parent rest
          (Nat.lt_trans old (size_lt_addTree parent tree forest))
      simp only [addTrees, first, others]

end

/-- A list of children may be changed before or after trees are added. -/
theorem addTrees_modifyChildren
    (change : List NodeId → List NodeId)
    (parent : Option NodeId)
    (trees : List Tree)
    {id : NodeId}
    (old : id < forest.nodes.size) :
    (forest.modifyChildren id change).addTrees parent trees =
      ((forest.addTrees parent trees).1.modifyChildren id change,
        (forest.addTrees parent trees).2) :=
  addTrees_modify _ parent trees old

/-! ## A tree that is added under a parent -/

/-- The top of an added tree is the next new node. -/
theorem addTree_root
    (forest : Forest)
    (parent : Option NodeId)
    (tree : Tree) :
    (forest.addTree parent tree).2 = forest.nodes.size := by
  cases tree <;> rfl

/-- A tree may get its parent when it is added or afterwards. -/
theorem addTree_setParent
    (forest : Forest)
    (old parent : Option NodeId)
    (tree : Tree) :
    (forest.addTree old tree).1.setParent forest.nodes.size parent =
      (forest.addTree parent tree).1 := by
  cases tree with
  | text data =>
      exact create_modify_new ..
  | element tag attributes children =>
      have made :
          (forest.create ⟨old, .element tag attributes []⟩).1.modify forest.nodes.size
              (fun node => { node with parent := parent }) =
            (forest.create ⟨parent, .element tag attributes []⟩).1 :=
        create_modify_new ..
      have below :=
        addTrees_modify (fun node => { node with parent := parent }) (some forest.nodes.size)
          children (new_lt_size_create forest ⟨old, .element tag attributes []⟩)
      rw [made] at below
      have first := congrArg Prod.fst below
      have second := congrArg Prod.snd below
      simp only [addTree, setParent, modifyChildren, create] at first second ⊢
      rw [first, second, modify_modify, modify_modify]

/-- The top of an added tree has the parent that it was added under. -/
theorem parent?_addTree
    (forest : Forest)
    (parent : Option NodeId)
    (tree : Tree) :
    (forest.addTree parent tree).1.parent? forest.nodes.size = parent := by
  have known := size_lt_addTree parent tree forest
  rw [← addTree_setParent forest parent parent tree, parent?, node?_setParent, node?,
    Array.getElem?_eq_getElem known]
  simp

/-- Appending a tree that was just added is adding it under its new parent. -/
theorem append_addTree
    (forest : Forest)
    (target : NodeId)
    (tree : Tree) :
    (forest.addTree none tree).1.append target forest.nodes.size =
      (forest.addTree (some target) tree).1.modifyChildren target (· ++ [forest.nodes.size]) := by
  rw [append, detach_of_top (parent?_addTree ..), addTree_setParent]

/-- An element of an added tree gets its children at the end of an empty list. -/
theorem addTree_element
    (forest : Forest)
    (tag : String)
    (attributes : Table String String)
    (children : List Tree) :
    let created := forest.create ⟨none, .element tag attributes []⟩
    let added := created.1.addTrees (some created.2) children
    forest.addTree none (.element tag attributes children) =
      (added.1.modifyChildren created.2 (· ++ added.2), created.2) := by
  intro created added
  have listless : created.1.modifyChildren created.2 (fun _ => []) = created.1 :=
    create_modify_new ..
  have isNew : created.2 < created.1.nodes.size := new_lt_size_create _ _
  have later := addTrees_modifyChildren (fun _ => []) (some created.2) children isNew
  rw [listless] at later
  have same : added.1.modifyChildren created.2 (fun _ => []) = added.1 :=
    (congrArg Prod.fst later).symm
  calc forest.addTree none (.element tag attributes children)
      = (added.1.modifyChildren created.2 fun _ => added.2, created.2) := rfl
    _ = ((added.1.modifyChildren created.2 fun _ => []).modifyChildren created.2
          (· ++ added.2), created.2) := by
        simp [modifyChildren_modifyChildren]
    _ = (added.1.modifyChildren created.2 (· ++ added.2), created.2) := by
        rw [same]

/-! ## Copying is adding the tree -/

/-- The nodes that are copied keep their contents while the copy grows. -/
abbrev Keeps (original current : Forest) : Prop :=
  original.Intact (· < original.nodes.size) current

/-- The children of an element are copied one after the other to its end. -/
theorem copies_of_children
    {original : Forest}
    {depth : Nat}
    (copies :
      ∀ {id : NodeId} {tree : Tree} {current : Forest},
        original.treeWithin depth id = some tree →
          original.Keeps current →
            current.copyWithin depth id = some (current.addTree none tree))
    {ids : List NodeId}
    {trees : List Tree}
    (found : List.Forall₂ (fun id tree => original.treeWithin depth id = some tree) ids trees)
    {current : Forest}
    (keeps : original.Keeps current)
    (target : NodeId)
    (new : original.nodes.size ≤ target)
    (made : target < current.nodes.size) :
    ids.foldlM
        (fun grown child =>
          (copyWithin depth grown child).map fun copied => copied.1.append target copied.2)
        current =
      some ((current.addTrees (some target) trees).1.modifyChildren target
        (· ++ (current.addTrees (some target) trees).2)) := by
  have targetNew : ¬ target < original.nodes.size := Nat.not_lt.mpr new
  induction found generalizing current with
  | nil =>
      simp [addTrees, modifyChildren_id]
  | @cons id tree ids trees first _ inductionHypothesis =>
      have grown := (keeps.addTree (some target) (by simpa using targetNew) tree).1
      have larger := Nat.lt_trans made (size_lt_addTree (some target) tree current)
      rw [List.foldlM_cons, copies first keeps]
      simp only [Option.map_some, Option.bind_eq_bind, Option.bind_some, addTree_root,
        append_addTree]
      rw [inductionHypothesis (grown.modifyChildren targetNew _)
        (by simpa [modifyChildren] using larger)]
      -- The first copy was listed before the others were made, and could be listed after them.
      have later := addTrees_modifyChildren (· ++ [current.nodes.size]) (some target) trees larger
      rw [later, modifyChildren_modifyChildren]
      simp [addTrees, addTree_root]

/-- Copying a node in place adds the tree below it. -/
theorem copyWithin_of_treeWithin
    {original : Forest}
    (smallTags : original.HasSmallTags)
    {depth : Nat}
    {id : NodeId}
    {tree : Tree}
    (found : original.treeWithin depth id = some tree)
    {current : Forest}
    (keeps : original.Keeps current) :
    current.copyWithin depth id = some (current.addTree none tree) := by
  induction depth generalizing id tree current with
  | zero =>
      simp [treeWithin] at found
  | succ depth inductionHypothesis =>
      rcases treeWithin_succ_eq_some.mp found with
        ⟨data, known, rfl⟩ | ⟨tag, table, listed, trees, known, walked, rfl⟩
      · have same := keeps.content id (lt_size_of_content? known)
        rw [copyWithin, same, known]
        rfl
      · have same := keeps.content id (lt_size_of_content? known)
        have small : String.ofList (Text.lower tag.toList) = tag :=
          smallTags id tag (tag?_of_content? known)
        have below :=
          copies_of_children (fun found keeps => inductionHypothesis found keeps)
            (treesWithin_eq_some.mp walked)
            (keeps.createElement tag table) current.nodes.size keeps.size_le
            (new_lt_size_create _ _)
        rw [createElement, small] at below
        rw [copyWithin, same, known, addTree_element]
        simp only [createElement, small]
        exact congrArg (Option.map fun grown => (grown, current.nodes.size)) below

/-- Every node keeps its content before anything is copied. -/
theorem keeps_refl :
    forest.Keeps forest where
  known _ old := old
  size_le := Nat.le_refl _
  content _ _ := rfl
  closed known _ := by
    obtain ⟨content, found⟩ := node?_of_parent? known
    exact lt_size_of_node? found

/-- Copying node by node is adding the tree below the node. -/
theorem copy?_eq_clone?
    (wellFormed : forest.WellFormed)
    (smallTags : forest.HasSmallTags)
    {id : NodeId}
    (inForest : id < forest.nodes.size) :
    forest.copy? id = forest.clone? id := by
  obtain ⟨tree, spans⟩ := exists_spans wellFormed inForest
  have found := (tree?_eq_some wellFormed).mpr spans
  rw [copy?, copyWithin_of_treeWithin smallTags found keeps_refl, clone?, found]
  rfl

/-! ## Equal trees -/

/-- The markup of an element does not depend on its place. -/
theorem markup?_of_tree?
    {id : NodeId}
    {tag : String}
    {table : Table String String}
    {children : List Tree}
    (found : forest.tree? id = some (.element tag table children)) :
    forest.markup? id = some (Tree.markup (.element tag table children)) := by
  simp [markup?, found, Tree.markup, Tree.write]

/-- Below an element of a well-formed forest is the tree of an element. -/
theorem exists_tree?_of_isElement
    (wellFormed : forest.WellFormed)
    {element : NodeId}
    (isElement : forest.isElement element = true) :
    ∃ tag table children,
      forest.tree? element = some (.element tag table children) := by
  obtain ⟨tree, spans⟩ := exists_spans wellFormed (lt_size_of_isElement isElement)
  obtain ⟨tag, table, listed, known⟩ := exists_content?_of_isElement isElement
  cases spans with
  | text other =>
      cases known.symm.trans other
  | element other below =>
      exact ⟨_, _, _, (tree?_eq_some wellFormed).mpr (.element other below)⟩

/-! ## Copies -/

/-- What a node of a subtree has as a child is in the subtree. -/
theorem AtOrAbove.under
    {root parent child : NodeId}
    (reached : forest.AtOrAbove root parent)
    (known : forest.parent? child = some parent) :
    forest.AtOrAbove root child := by
  rcases reached with rfl | above
  · exact .inr (.parent known)
  · exact .inr (.step known above)

/--
A forest has grown by a copy of an element: the new nodes are `root` and the nodes below it,
`root` has no parent, and the tree below it is the one below the element.
-/
structure Clones
    (forest copied : Forest)
    (element root : NodeId) : Prop where
  wellFormed :
    copied.WellFormed
  unchanged :
    ∀ id, id < forest.nodes.size → copied.node? id = forest.node? id
  detached :
    copied.parent? root = none
  new :
    ∀ id, copied.AtOrAbove root id ↔ forest.nodes.size ≤ id ∧ id < copied.nodes.size
  equal :
    ∃ tree, forest.tree? element = some tree ∧ copied.tree? root = some tree
  sameMarkup :
    copied.markup? root = forest.markup? element

/-- The nodes below the only top of the new nodes are the new nodes. -/
theorem Grows.atOrAbove_iff
    {grown : Forest}
    {root : NodeId}
    {tree : Tree}
    (grows : forest.Grows grown none [root] [tree])
    (wellFormed : forest.WellFormed)
    (id : NodeId) :
    grown.AtOrAbove root id ↔ forest.nodes.size ≤ id ∧ id < grown.nodes.size := by
  obtain ⟨rootNew, rootKnown, -⟩ := grows.root root List.mem_cons_self
  constructor
  · intro reached
    refine ⟨?_, reached.lt_size rootKnown⟩
    rcases reached with rfl | above
    · exact rootNew
    · exact Nat.not_lt.mp fun old =>
        Nat.not_lt.mpr rootNew (grows.lt_size_of_above wellFormed above old)
  · -- The parent of a new node has a smaller name, so the ways up end at the top.
    induction id using Nat.strong_induction_on with
    | _ id inductionHypothesis =>
        rintro ⟨new, known⟩
        rcases grows.inner id new known with isRoot | inside
        · exact .inl (List.mem_singleton.mp isRoot).symm
        · obtain ⟨upper, upperNew, smaller, parentKnown, -⟩ := inside
          have reached :=
            inductionHypothesis upper smaller ⟨upperNew, Nat.lt_trans smaller known⟩
          exact reached.under parentKnown

/-- Every element can be copied. -/
theorem exists_clones
    (wellFormed : forest.WellFormed)
    {element : NodeId}
    (isElement : forest.isElement element = true) :
    ∃ copied root,
      forest.clone? element = some (copied, root) ∧ forest.Clones copied element root := by
  obtain ⟨tag, table, children, found⟩ := exists_tree?_of_isElement wellFormed isElement
  obtain ⟨tree, copied, root, spans, made, grows⟩ :=
    exists_clone wellFormed (lt_size_of_isElement isElement)
  obtain rfl := ((tree?_eq_some wellFormed).mp found).unique spans
  have copiedWellFormed := grows.wellFormed wellFormed
  have rootFound : copied.tree? root = some (.element tag table children) := by
    cases grows.spans copied fun _ _ _ => rfl with
    | cons head _ =>
        exact (tree?_eq_some copiedWellFormed).mpr head
  refine ⟨copied, root, made, ?_⟩
  exact
    { wellFormed := copiedWellFormed
      unchanged := grows.old
      detached := (grows.root root List.mem_cons_self).2.2
      new := grows.atOrAbove_iff wellFormed
      equal := ⟨_, found, rootFound⟩
      sameMarkup := by rw [markup?_of_tree? found, markup?_of_tree? rootFound] }

namespace Clones

variable
  {copied : Forest}
  {element root : NodeId}

/-- Below an old node are the nodes that were there before. -/
theorem above_of_above
    (clones : forest.Clones copied element root)
    {upper lower : NodeId}
    (above : copied.Above upper lower)
    (old : upper < forest.nodes.size) :
    forest.Above upper lower := by
  have parentOld :
      ∀ {parent child : NodeId},
        copied.parent? child = some parent →
          parent < forest.nodes.size →
            forest.parent? child = some parent := by
    intro parent child known parentOld
    by_cases childOld : child < forest.nodes.size
    · rwa [parent?, ← clones.unchanged child childOld]
    · -- A new node is the top, or its parent is new as well.
      obtain ⟨content, found⟩ := node?_of_parent? known
      have reached :=
        (clones.new child).mpr ⟨Nat.not_lt.mp childOld, lt_size_of_node? found⟩
      rcases reached with rfl | higher
      · rw [clones.detached] at known
        cases known
      · obtain ⟨other, otherKnown, otherReached⟩ := higher.exists_parent
        obtain rfl := Option.some.inj (known.symm.trans otherKnown)
        exact absurd parentOld (Nat.not_lt.mpr ((clones.new parent).mp otherReached).1)
  induction above with
  | parent known =>
      exact .parent (parentOld known old)
  | step known _ inductionHypothesis =>
      exact .step (parentOld known inductionHypothesis.lower_lt_size) inductionHypothesis

/-- The nodes at or below an old node stay as they are when a copy is made. -/
theorem intact
    (clones : forest.Clones copied element root)
    {id : NodeId}
    (old : id < forest.nodes.size) :
    forest.Intact (forest.AtOrAbove id) copied where
  known _ reached := reached.lt_size old
  size_le :=
    Nat.le_of_lt (Nat.lt_of_le_of_lt ((clones.new root).mp (.inl rfl)).1
      ((clones.new root).mp (.inl rfl)).2)
  content lower reached := by
    rw [content?, content?, clones.unchanged lower (reached.lt_size old)]
  closed {upper lower} known reached := by
    have step := clones.above_of_above (.parent known) (reached.lt_size old)
    rcases reached with rfl | above
    · exact .inr step
    · exact .inr (above.trans step)

end Clones

/-- The nodes at or below a node are closed downwards. -/
theorem intact_below
    {root : NodeId}
    (inForest : root < forest.nodes.size) :
    forest.Intact (forest.AtOrAbove root) forest where
  known _ reached := reached.lt_size inForest
  size_le := Nat.le_refl _
  content _ _ := rfl
  closed known reached := reached.under known

/-- An element keeps its markup as long as the nodes below it keep their contents. -/
theorem Intact.markup?
    {original : Forest}
    (wellFormed : original.WellFormed)
    {element : NodeId}
    (intact : original.Intact (original.AtOrAbove element) forest)
    {tag : String}
    {table : Table String String}
    {children : List Tree}
    (found : original.tree? element = some (.element tag table children)) :
    forest.markup? element = original.markup? element := by
  have kept := intact.tree?
    (fun reached member => reached.under (wellFormed.parentOfChild member)) (.inl rfl) found
  rw [markup?_of_tree? found, markup?_of_tree? kept]

end Forest

/-! ## Pages with tags in small letters -/

section Pages

variable {page : Page}

theorem Page.hasSmallTags_fill
    (small : page.forest.HasSmallTags)
    {content : PageContent}
    (head : TreesEvery HasSmallTag content.head)
    (body : TreesEvery HasSmallTag content.body) :
    (page.fill content).forest.HasSmallTags :=
  ((small.appendTrees page.head head).appendTrees page.body body).modifyAttributes page.body _

/-- The content that a markup text describes has tags in small letters. -/
theorem PageContent.every_hasSmallTag_of_parseTrees
    {markup : String}
    {trees : List Tree}
    (parsed : parseTrees markup = .ok trees) :
    TreesEvery HasSmallTag (ofTrees trees).head ∧
      TreesEvery HasSmallTag (ofTrees trees).body := by
  have sound :=
    (treesEvery_isSound_of_parseTrees parsed).and (treesEvery_hasSmallTag_of_parseTrees parsed)
  obtain ⟨head, -, body⟩ := every_ofTops (fun both => both.1.attributes) (every_tops sound)
  exact ⟨head.imp And.right, body.imp And.right⟩

/-- An edit makes elements with tags in small letters alone. -/
theorem Edit.hasSmallTags_apply
    (small : page.forest.HasSmallTags)
    (edit : Edit) :
    (edit.apply page).forest.HasSmallTags := by
  cases edit with
  | createElement tag attributes =>
      exact small.createElement tag _
  | createText data =>
      exact small.createText none data
  | createTrees markup =>
      rw [apply]
      cases parsed : parseTrees markup with
      | error error =>
          exact small
      | ok trees =>
          exact .addTrees none (treesEvery_hasSmallTag_of_parseTrees parsed) small
  | append target child =>
      exact small.append target child
  | detach node =>
      exact small.detach node
  | clear target =>
      exact small.clear target
  | clone node =>
      rw [apply, Forest.clone?]
      cases found : page.forest.tree? node with
      | none =>
          exact small
      | some tree =>
          exact .addTree none (small.every_treeWithin found) small
  | setContent target markup =>
      rw [apply, Page.setContent]
      cases parsed : parseTrees markup with
      | error error =>
          exact small.clear target
      | ok trees =>
          exact
            (small.clear target).appendTrees target (treesEvery_hasSmallTag_of_parseTrees parsed)
  | appendElement target tag attributes =>
      exact ((small.createElement tag ⟨[]⟩).modifyAttributes _ _).append target _
  | openPage =>
      exact small.openPage
  | load markup =>
      rw [apply, Page.reload]
      cases parsed : parseTrees markup with
      | error error =>
          exact small
      | ok trees =>
          obtain ⟨head, body⟩ := PageContent.every_hasSmallTag_of_parseTrees parsed
          exact Page.hasSmallTags_fill small.openPage head body

/-- The tags on every page that edits make are in small letters. -/
theorem Page.Reachable.hasSmallTags
    (reachable : page.Reachable) :
    page.forest.HasSmallTags := by
  induction reachable with
  | blank =>
      have nothing : Forest.empty.HasSmallTags := by
        rintro id tag ⟨⟩
      have opened := nothing.openPage
      rwa [Page.openPage_empty] at opened
  | @edit page edit _ _ inductionHypothesis =>
      exact edit.hasSmallTags_apply inductionHypothesis

end Pages

/--
Every element can be copied: the copy is a new tree of equal shape and markup, and all
nodes stay as they are.  Whatever is done later to other nodes than those of the original
leaves the markup of the original as it is, and the same holds of the copy; and copying node
by node comes to the same.
-/
theorem clones_are_equal_and_apart
    {page : Page}
    (wellFormed : page.forest.WellFormed)
    {element : NodeId}
    (isElement : page.forest.isElement element = true) :
    ∃ copied root,
      page.forest.clone? element = some (copied, root) ∧
        page.forest.Clones copied element root ∧
        (page.forest.HasSmallTags → page.forest.copy? element = some (copied, root)) ∧
        ∀ mutations : List Mutation,
          let later := (mutations.foldl Mutation.apply { page with forest := copied }).forest
          ((∀ mutation ∈ mutations, ∀ node ∈ mutation.named,
              ¬ page.forest.AtOrAbove element node) →
            later.markup? element = page.forest.markup? element) ∧
          ((∀ mutation ∈ mutations, ∀ node ∈ mutation.named,
              ¬ copied.AtOrAbove root node) →
            later.markup? root = page.forest.markup? element) := by
  obtain ⟨copied, root, made, clones⟩ := Forest.exists_clones wellFormed isElement
  have inForest := Forest.lt_size_of_isElement isElement
  refine ⟨copied, root, made, clones, ?_, ?_⟩
  · intro smallTags
    rw [Forest.copy?_eq_clone? wellFormed smallTags inForest, made]
  · intro mutations later
    obtain ⟨tag, table, children, found⟩ :=
      Forest.exists_tree?_of_isElement wellFormed isElement
    obtain ⟨tree, elementTree, rootTree⟩ := clones.equal
    obtain rfl := Option.some.inj (found.symm.trans elementTree)
    constructor
    · intro elsewhere
      have start :
          page.forest.Intact (page.forest.AtOrAbove element)
            { page with forest := copied }.forest :=
        clones.intact inForest
      exact (Mutation.intact_foldl_apply start elsewhere).markup? wellFormed found
    · intro elsewhere
      have rootKnown := ((clones.new root).mp (.inl rfl)).2
      have start :
          copied.Intact (copied.AtOrAbove root) { page with forest := copied }.forest :=
        Forest.intact_below rootKnown
      rw [← clones.sameMarkup]
      exact (Mutation.intact_foldl_apply start elsewhere).markup? clones.wellFormed rootTree

/-- A paragraph keeps its markup when its copy gets another attribute and a child. -/
theorem clones_are_equal_and_apart_of_paragraph :
    let page := (Edit.appendElement 2 "p" [("id", "a")]).apply .blank
    ∃ copied root,
      page.forest.clone? 3 = some (copied, root) ∧
        page.forest.copy? 3 = some (copied, root) ∧
        ([Mutation.attributes root fun table => table.insert "id" "b",
            .edit (.appendElement root "b" [])].foldl Mutation.apply
              { page with forest := copied }).forest.markup? 3 =
          page.forest.markup? 3 := by
  intro page
  have reachable : page.Reachable := .edit .blank rfl
  have isElement : page.forest.isElement 3 = true := by
    decide +kernel
  obtain ⟨copied, root, made, clones, inPlace, later⟩ :=
    clones_are_equal_and_apart reachable.wellFormed isElement
  have rootNew : page.forest.nodes.size ≤ root := ((clones.new root).mp (.inl rfl)).1
  have notBelow : ¬ page.forest.AtOrAbove 3 root := fun reached =>
    Nat.not_lt.mpr rootNew (reached.lt_size (by decide +kernel))
  refine ⟨copied, root, made, inPlace reachable.hasSmallTags, (later _).1 ?_⟩
  simp [Mutation.named, Edit.named, notBelow]

end PageScript.Document
