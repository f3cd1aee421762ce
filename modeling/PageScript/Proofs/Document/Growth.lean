import PageScript.Proofs.Document.Subtree
import PageScript.Proofs.Markup.Tree

namespace PageScript

/-!
# Adding trees to a forest

Trees are added as new nodes: the nodes that were there keep their places and
contents, and each new node stands at the top of an added tree or is listed by a
new node with a smaller name.  Adding trees at the end of an element keeps the
forest well formed and gives the element the trees in order.
-/

namespace Document.Forest

open Markup

/--
A forest has grown by new nodes for some trees, whose tops have the given parent
without being listed by it.
-/
structure Grows
    (forest grown : Forest)
    (parent : Option NodeId)
    (roots : List NodeId)
    (trees : List Tree) : Prop where
  size_le :
    forest.nodes.size ≤ grown.nodes.size
  old :
    ∀ id, id < forest.nodes.size → grown.node? id = forest.node? id
  root :
    ∀ id : Nat,
      id ∈ roots →
        forest.nodes.size ≤ id ∧
          id < grown.nodes.size ∧
          grown.parent? id = parent
  rootsNodup :
    roots.Nodup
  inner :
    ∀ id,
      forest.nodes.size ≤ id →
        id < grown.nodes.size →
          id ∈ roots ∨
            ∃ upper,
              forest.nodes.size ≤ upper ∧
                upper < id ∧
                grown.parent? id = some upper ∧
                id ∈ grown.children upper
  listed :
    ∀ upper id,
      forest.nodes.size ≤ upper →
        id ∈ grown.children upper →
          upper < id ∧ grown.parent? id = some upper
  childrenNodup :
    ∀ id, forest.nodes.size ≤ id → (grown.children id).Nodup
  attributesNodup :
    ∀ id, forest.nodes.size ≤ id → (grown.attributes id).keys.Nodup
  /-- The new nodes alone decide which trees stand below the tops. -/
  spans :
    ∀ other : Forest,
      (∀ id,
          forest.nodes.size ≤ id →
            id < grown.nodes.size →
              other.content? id = grown.content? id) →
        other.SpansAll roots trees

variable {forest : Forest}

/-- A name without a node has no parent, no children and no attributes. -/
theorem missing_of_size_le
    {id : NodeId}
    (beyond : forest.nodes.size ≤ id) :
    forest.parent? id = none ∧
      forest.children id = [] ∧
      forest.attributes id = ⟨[]⟩ := by
  have missing : forest.node? id = none :=
    Array.getElem?_eq_none beyond
  simp [parent?, children, attributes, missing]

namespace Grows

variable {grown : Forest} {parent : Option NodeId}

/-- Old nodes keep their parents, children and attributes. -/
theorem same_of_lt
    {roots : List NodeId}
    {trees : List Tree}
    (grows : forest.Grows grown parent roots trees)
    {id : NodeId}
    (known : id < forest.nodes.size) :
    grown.parent? id = forest.parent? id ∧
      grown.children id = forest.children id ∧
      grown.attributes id = forest.attributes id := by
  have same := grows.old id known
  simp [parent?, children, attributes, same]

theorem nil :
    forest.Grows forest parent [] [] where
  size_le := Nat.le_refl _
  old _ _ := rfl
  root _ member := by simp at member
  rootsNodup := List.nodup_nil
  inner _ new known := absurd known (Nat.not_lt.mpr new)
  listed _ _ new member := by
    simp [(missing_of_size_le new).2.1] at member
  childrenNodup _ new := by
    simp [(missing_of_size_le new).2.1]
  attributesNodup _ new := by
    simp [(missing_of_size_le new).2.2, Table.keys]
  spans _ _ := .nil

/-- Growth by one tree and then by others is growth by all of them. -/
theorem cons
    {middle : Forest}
    {root : NodeId}
    {roots : List NodeId}
    {tree : Tree}
    {trees : List Tree}
    (first : forest.Grows middle parent [root] [tree])
    (others : middle.Grows grown parent roots trees) :
    forest.Grows grown parent (root :: roots) (tree :: trees) := by
  -- The first tree ends at the size of `middle`, and the others start there, so
  -- every new node is settled by one of the two.
  have firstLe := first.size_le
  have othersLe := others.size_le
  have rootPlace := first.root root List.mem_cons_self
  refine
    { size_le := Nat.le_trans firstLe othersLe
      old := ?_
      root := ?_
      rootsNodup := ?_
      inner := ?_
      listed := ?_
      childrenNodup := ?_
      attributesNodup := ?_
      spans := ?_ }
  · intro id known
    rw [others.old id (Nat.lt_of_lt_of_le known firstLe), first.old id known]
  · intro id member
    rcases List.mem_cons.mp member with rfl | inRoots
    · rw [(others.same_of_lt rootPlace.2.1).1]
      exact
        ⟨rootPlace.1, Nat.lt_of_lt_of_le rootPlace.2.1 othersLe,
          rootPlace.2.2⟩
    · have place := others.root id inRoots
      exact ⟨Nat.le_trans firstLe place.1, place.2.1, place.2.2⟩
  · refine List.nodup_cons.mpr ⟨?_, others.rootsNodup⟩
    intro member
    have place := others.root root member
    omega
  · intro id new known
    by_cases inMiddle : id < middle.nodes.size
    · rcases first.inner id new inMiddle with isRoot | inside
      · rw [List.mem_singleton.mp isRoot]
        exact .inl List.mem_cons_self
      · obtain ⟨upper, upperNew, smaller, parentKnown, member⟩ := inside
        refine .inr ⟨upper, upperNew, smaller, ?_, ?_⟩
        · rw [(others.same_of_lt inMiddle).1]
          exact parentKnown
        · rw [(others.same_of_lt (Nat.lt_trans smaller inMiddle)).2.1]
          exact member
    · rcases others.inner id (Nat.not_lt.mp inMiddle) known with
        isRoot | inside
      · exact .inl (List.mem_cons_of_mem _ isRoot)
      · obtain ⟨upper, upperNew, rest⟩ := inside
        exact .inr ⟨upper, Nat.le_trans firstLe upperNew, rest⟩
  · intro upper id new member
    by_cases inMiddle : upper < middle.nodes.size
    · rw [(others.same_of_lt inMiddle).2.1] at member
      obtain ⟨smaller, parentKnown⟩ := first.listed upper id new member
      obtain ⟨content, found⟩ := node?_of_parent? parentKnown
      rw [(others.same_of_lt (lt_size_of_node? found)).1]
      exact ⟨smaller, parentKnown⟩
    · exact others.listed upper id (Nat.not_lt.mp inMiddle) member
  · intro id new
    by_cases inMiddle : id < middle.nodes.size
    · rw [(others.same_of_lt inMiddle).2.1]
      exact first.childrenNodup id new
    · exact others.childrenNodup id (Nat.not_lt.mp inMiddle)
  · intro id new
    by_cases inMiddle : id < middle.nodes.size
    · rw [(others.same_of_lt inMiddle).2.2]
      exact first.attributesNodup id new
    · exact others.attributesNodup id (Nat.not_lt.mp inMiddle)
  · intro other agrees
    have firstSpans := first.spans other fun id new known => by
      rw [agrees id new (Nat.lt_of_lt_of_le known othersLe), content?, content?,
        others.old id known]
    have othersSpans := others.spans other fun id new known =>
      agrees id (Nat.le_trans firstLe new) known
    cases firstSpans with
    | cons head _ =>
        exact .cons head othersSpans

/-- A new text is growth by its tree. -/
theorem text
    (parent : Option NodeId)
    (data : String) :
    forest.Grows (forest.create ⟨parent, .text data⟩).1 parent
      [forest.nodes.size] [.text data] := by
  have newNode :
      (forest.create ⟨parent, .text data⟩).1.node? forest.nodes.size =
        some ⟨parent, .text data⟩ := by
    simp [node?_create]
  have beyond :
      ∀ id,
        forest.nodes.size ≤ id →
          (forest.create ⟨parent, .text data⟩).1.children id = [] ∧
            (forest.create ⟨parent, .text data⟩).1.attributes id =
              ⟨[]⟩ := by
    intro id new
    by_cases isNew : id = forest.nodes.size
    · simp [isNew, children, attributes, newNode]
    · have larger :
          (forest.create ⟨parent, .text data⟩).1.nodes.size ≤ id := by
        rw [size_create]
        omega
      exact (missing_of_size_le larger).2
  refine
    { size_le := by rw [size_create]; omega
      old := ?_
      root := ?_
      rootsNodup := List.nodup_singleton _
      inner := ?_
      listed := ?_
      childrenNodup := fun id new => by simp [(beyond id new).1]
      attributesNodup := fun id new => by
        simp [(beyond id new).2, Table.keys]
      spans := ?_ }
  · intro id known
    rw [node?_create, if_neg (Nat.ne_of_lt known)]
  · intro id member
    rw [List.mem_singleton.mp member, size_create]
    exact ⟨Nat.le_refl _, Nat.lt_succ_self _, by simp [parent?, newNode]⟩
  · intro id new known
    rw [size_create] at known
    exact .inl (List.mem_singleton.mpr (by omega))
  · intro upper id new member
    simp [(beyond upper new).1] at member
  · intro other agrees
    refine .cons (.text ?_) .nil
    rw [agrees _ (Nat.le_refl _) (by rw [size_create]; omega),
      content?, newNode]
    rfl

/-- A new element with its grown children is growth by its tree. -/
theorem element
    {tag : String}
    {table : Table String String}
    {roots : List NodeId}
    {trees : List Tree}
    (tableNodup : table.keys.Nodup)
    (below :
      (forest.create ⟨parent, .element tag table []⟩).1.Grows grown
        (some forest.nodes.size) roots trees) :
    forest.Grows
      (grown.modifyChildren forest.nodes.size fun _ => roots) parent
      [forest.nodes.size] [.element tag table trees] := by
  have larger := below.size_le
  rw [size_create] at larger
  have newNode :
      grown.node? forest.nodes.size =
        some ⟨parent, .element tag table []⟩ := by
    rw [below.old _ (by rw [size_create]; omega), node?_create]
    simp
  have topNode :
      (grown.modifyChildren forest.nodes.size fun _ => roots).node?
          forest.nodes.size =
        some ⟨parent, .element tag table roots⟩ := by
    rw [node?_modifyChildren, newNode]
    simp [Content.withChildren]
  have otherNode :
      ∀ id,
        id ≠ forest.nodes.size →
          (grown.modifyChildren forest.nodes.size fun _ => roots).node? id =
            grown.node? id := by
    intro id different
    rw [node?_modifyChildren]
    simp [different]
  -- Listing the children last changes the new element and no other node.
  have sameParent :
      ∀ id,
        (grown.modifyChildren forest.nodes.size fun _ => roots).parent? id =
          grown.parent? id := by
    intro id
    by_cases isTop : id = forest.nodes.size
    · simp [isTop, parent?, topNode, newNode]
    · simp [parent?, otherNode id isTop]
  have topChildren :
      (grown.modifyChildren forest.nodes.size fun _ => roots).children
          forest.nodes.size = roots := by
    simp [children, topNode]
  have otherChildren :
      ∀ id,
        id ≠ forest.nodes.size →
          (grown.modifyChildren forest.nodes.size
              fun _ => roots).children id =
            grown.children id := by
    intro id different
    simp [children, otherNode id different]
  refine
    { size_le := by rw [modifyChildren, size_modify]; omega
      old := ?_
      root := ?_
      rootsNodup := List.nodup_singleton _
      inner := ?_
      listed := ?_
      childrenNodup := ?_
      attributesNodup := ?_
      spans := ?_ }
  · intro id known
    rw [otherNode id (Nat.ne_of_lt known),
      below.old id (by rw [size_create]; omega), node?_create,
      if_neg (Nat.ne_of_lt known)]
  · intro id member
    rw [List.mem_singleton.mp member, sameParent, modifyChildren,
      size_modify]
    exact ⟨Nat.le_refl _, larger, by simp [parent?, newNode]⟩
  · intro id new known
    rw [modifyChildren, size_modify] at known
    by_cases isTop : id = forest.nodes.size
    · exact .inl (List.mem_singleton.mpr isTop)
    · right
      rcases below.inner id (by rw [size_create]; omega) known with
        isRoot | inside
      · refine ⟨forest.nodes.size, Nat.le_refl _, by omega, ?_, ?_⟩
        · rw [sameParent]
          exact (below.root id isRoot).2.2
        · rw [topChildren]
          exact isRoot
      · obtain ⟨upper, upperNew, smaller, parentKnown, member⟩ := inside
        rw [size_create] at upperNew
        refine ⟨upper, by omega, smaller, ?_, ?_⟩
        · rw [sameParent]
          exact parentKnown
        · rw [otherChildren upper (by omega)]
          exact member
  · intro upper id new member
    rw [sameParent]
    by_cases isTop : upper = forest.nodes.size
    · subst upper
      rw [topChildren] at member
      have place := below.root id member
      rw [size_create] at place
      exact ⟨by omega, place.2.2⟩
    · rw [otherChildren upper isTop] at member
      exact below.listed upper id (by rw [size_create]; omega) member
  · intro id new
    by_cases isTop : id = forest.nodes.size
    · rw [isTop, topChildren]
      exact below.rootsNodup
    · rw [otherChildren id isTop]
      exact below.childrenNodup id (by rw [size_create]; omega)
  · intro id new
    by_cases isTop : id = forest.nodes.size
    · simpa [isTop, attributes, topNode] using tableNodup
    · have same :
          (grown.modifyChildren forest.nodes.size
              fun _ => roots).attributes id =
            grown.attributes id := by
        simp [attributes, otherNode id isTop]
      rw [same]
      exact below.attributesNodup id (by rw [size_create]; omega)
  · intro other agrees
    have topContent :
        other.content? forest.nodes.size = some (.element tag table roots) := by
      rw [agrees _ (Nat.le_refl _)
        (by rw [modifyChildren, size_modify]; omega), content?, topNode]
      rfl
    refine .cons (.element topContent ?_) .nil
    apply below.spans other
    intro id new known
    rw [size_create] at new
    rw [agrees id (by omega)
      (by rw [modifyChildren, size_modify]; exact known), content?,
      content?, otherNode id (by omega)]

end Grows

mutual

/-- Adding a tree is growth by it. -/
theorem grows_addTree :
    ∀ (tree : Tree) (forest : Forest) (parent : Option NodeId),
      tree.AttributesNodup →
        forest.Grows (forest.addTree parent tree).1 parent
          [(forest.addTree parent tree).2] [tree]
  | .text data, _, parent, _ => by
      exact .text parent data
  | .element _ _ children, forest, parent, distinct => by
      rw [Tree.AttributesNodup] at distinct
      exact .element distinct.1
        (grows_addTrees children _ (some forest.nodes.size) distinct.2)

/-- Adding neighbouring trees is growth by them. -/
theorem grows_addTrees :
    ∀ (trees : List Tree) (forest : Forest) (parent : Option NodeId),
      AttributesNodupAll trees →
        forest.Grows (forest.addTrees parent trees).1 parent
          (forest.addTrees parent trees).2 trees
  | [], _, _, _ => by
      exact .nil
  | tree :: rest, forest, parent, distinct => by
      rw [AttributesNodupAll] at distinct
      exact .cons (grows_addTree tree forest parent distinct.1)
        (grows_addTrees rest _ parent distinct.2)

end

end Document.Forest

end PageScript
