import PageScript.Proofs.Document.PageShape

namespace PageScript.Document.Forest

open Markup

/-!
# Moving nodes

A node is taken out of its place, put at the end of an element, copied, or made
anew.  Each of these edits keeps a forest well formed, as long as no node is put
below itself.
-/

variable {forest : Forest}

/-! ## Elements stay elements -/

section Elements

variable (id other : NodeId)

@[simp] theorem isElement_setParent
    (parent : Option NodeId) :
    (forest.setParent id parent).isElement other =
      forest.isElement other := by
  rw [isElement, isElement, tag?, tag?, node?_setParent]
  rcases forest.node? other with _ | ⟨upper, content⟩
  · rfl
  · by_cases same : other = id <;> cases content <;> simp [same]

@[simp] theorem isElement_modifyChildren
    (change : List NodeId → List NodeId) :
    (forest.modifyChildren id change).isElement other =
      forest.isElement other := by
  rw [isElement, isElement, tag?, tag?, node?_modifyChildren]
  rcases forest.node? other with _ | ⟨upper, content⟩
  · rfl
  · by_cases same : other = id <;>
      cases content <;> simp [same, Content.withChildren]

@[simp] theorem isElement_modifyAttributes
    (change : Table String String → Table String String) :
    (forest.modifyAttributes id change).isElement other =
      forest.isElement other := by
  rw [isElement, isElement, tag?, tag?, node?_modifyAttributes]
  rcases forest.node? other with _ | ⟨upper, content⟩
  · rfl
  · by_cases same : other = id <;>
      cases content <;> simp [same, Content.withAttributes]

end Elements

theorem isElement_create_of_lt
    {id : NodeId}
    (old : id < forest.nodes.size)
    (node : Node) :
    (forest.create node).1.isElement id = forest.isElement id := by
  rw [isElement, isElement, tag?, tag?, node?_create,
    if_neg (Nat.ne_of_lt old)]

/-! ## Taking a node out -/

/-- Taking a node out changes its own parent and the list that held it. -/
theorem node?_detach
    {id parent : NodeId}
    (known : forest.parent? id = some parent)
    (other : NodeId) :
    (forest.detach id).node? other =
      (forest.node? other).map fun node =>
        { parent := if other = id then none else node.parent
          content :=
            if other = parent then
              Content.withChildren (·.erase id) node.content
            else
              node.content } := by
  rw [detach, known]
  dsimp only
  rw [node?_setParent, node?_modifyChildren, Option.map_map]
  refine Option.map_congr fun node _ => ?_
  split_ifs <;> rfl

theorem parent?_detach
    (id other : NodeId) :
    (forest.detach id).parent? other =
      if other = id then none else forest.parent? other := by
  cases known : forest.parent? id with
  | none =>
      rw [detach_of_top known]
      split
      · next same =>
          rw [same, known]
      · rfl
  | some parent =>
      rw [parent?, node?_detach known, parent?]
      cases forest.node? other <;> simp

/-- A node that is taken out leaves every list of children. -/
theorem children_detach
    (wellFormed : forest.WellFormed)
    (id other : NodeId) :
    (forest.detach id).children other = (forest.children other).erase id := by
  have notListed
      (elsewhere : forest.parent? id ≠ some other) :
      id ∉ forest.children other :=
    fun member => elsewhere (wellFormed.parentOfChild member)
  cases known : forest.parent? id with
  | none =>
      rw [detach_of_top known, List.erase_of_not_mem]
      exact notListed (by rw [known]; nofun)
  | some parent =>
      rw [children_eq_content?, children_eq_content?, content?, content?,
        node?_detach known]
      by_cases isParent : other = parent
      · cases forest.node? other with
        | none =>
            simp
        | some node =>
            rcases node with ⟨upper, content⟩
            cases content <;>
              simp [isParent, Content.withChildren, Content.listed]
      · have absent :=
          notListed (by rw [known]; exact mt Option.some.inj (Ne.symm isParent))
        rw [children_eq_content?, content?] at absent
        rw [List.erase_of_not_mem absent]
        cases forest.node? other <;> simp [isParent]

@[simp] theorem attributes_detach
    (id other : NodeId) :
    (forest.detach id).attributes other = forest.attributes other := by
  cases known : forest.parent? id with
  | none =>
      rw [detach_of_top known]
  | some parent =>
      rw [attributes, attributes, node?_detach known]
      cases forest.node? other with
      | none =>
          rfl
      | some node =>
          rcases node with ⟨upper, content⟩
          by_cases isParent : other = parent <;>
            cases content <;> simp [isParent, Content.withChildren]

@[simp] theorem isElement_detach
    (id other : NodeId) :
    (forest.detach id).isElement other = forest.isElement other := by
  rw [detach]
  split
  · rfl
  · rw [isElement_setParent, isElement_modifyChildren]

@[simp] theorem size_detach
    (id : NodeId) :
    (forest.detach id).nodes.size = forest.nodes.size := by
  rw [detach]
  split
  · rfl
  · rw [setParent, size_modify, modifyChildren, size_modify]

/-- What is above a node after another was taken out was above it before. -/
theorem Above.of_detach
    {id upper lower : NodeId}
    (above : (forest.detach id).Above upper lower) :
    forest.Above upper lower := by
  have old :
      ∀ {parent child : NodeId},
        (forest.detach id).parent? child = some parent →
          forest.parent? child = some parent := by
    intro parent child known
    rw [parent?_detach] at known
    split at known
    · cases known
    · exact known
  induction above with
  | parent known =>
      exact .parent (old known)
  | step known _ inductionHypothesis =>
      exact .step (old known) inductionHypothesis

theorem WellFormed.detach
    (wellFormed : forest.WellFormed)
    (id : NodeId) :
    (forest.detach id).WellFormed where
  parentOfChild {parent child} member := by
    rw [children_detach wellFormed] at member
    obtain ⟨different, listed⟩ :=
      (wellFormed.childrenNodup parent).mem_erase_iff.mp member
    rw [parent?_detach, if_neg different]
    exact wellFormed.parentOfChild listed
  childOfParent {parent child} known := by
    rw [parent?_detach] at known
    split at known
    · cases known
    · next different =>
        rw [children_detach wellFormed]
        exact
          (List.mem_erase_of_ne different).mpr
            (wellFormed.childOfParent known)
  childrenNodup other := by
    rw [children_detach wellFormed]
    exact (wellFormed.childrenNodup other).erase id
  grounded := by
    refine Subrelation.wf ?_ wellFormed.grounded
    intro upper lower known
    rw [parent?_detach] at known
    split at known
    · cases known
    · exact known
  attributesNodup other := by
    rw [attributes_detach]
    exact wellFormed.attributesNodup other

/-! ## Putting a node under an element -/

/-- A node is appended by taking it out and adding it where it is in no tree. -/
theorem append_eq_appendAll_detach
    (target child : NodeId) :
    forest.append target child =
      (forest.detach child).appendAll target [child] := by
  have isTop : (forest.detach child).parent? child = none := by
    rw [parent?_detach, if_pos rfl]
  rw [appendAll, List.foldl_cons, List.foldl_nil, append, append,
    detach_of_top isTop]

/--
Appending a node keeps a forest well formed, unless the node is the element or
above it.
-/
theorem WellFormed.append
    (wellFormed : forest.WellFormed)
    {target child : NodeId}
    (isElement : forest.isElement target = true)
    (inForest : child < forest.nodes.size)
    (outside : ¬ forest.AtOrAbove child target) :
    (forest.append target child).WellFormed := by
  rw [append_eq_appendAll_detach]
  refine (wellFormed.detach child).appendAll ?_ ?_ (List.nodup_singleton _) ?_ ?_
  · intro other member
    rw [parent?_detach, if_pos (List.mem_singleton.mp member)]
  · intro other member
    rw [List.mem_singleton.mp member, size_detach]
    exact inForest
  · rw [isElement_detach]
    exact isElement
  · intro other member reached
    rw [List.mem_singleton.mp member] at reached
    exact outside (reached.imp id Above.of_detach)

@[simp] theorem isElement_append
    (target child other : NodeId) :
    (forest.append target child).isElement other =
      forest.isElement other := by
  rw [append, isElement_modifyChildren, isElement_setParent,
    isElement_detach]

@[simp] theorem size_append
    (target child : NodeId) :
    (forest.append target child).nodes.size = forest.nodes.size := by
  rw [append, modifyChildren, size_modify, setParent, size_modify,
    size_detach]

/-- An appended node is the last child of the element, and no child of another. -/
theorem children_append
    (wellFormed : forest.WellFormed)
    {target child : NodeId}
    (isElement : forest.isElement target = true)
    (different : target ≠ child)
    (other : NodeId) :
    (forest.append target child).children other =
      if other = target then
        (forest.children other).erase child ++ [child]
      else
        (forest.children other).erase child := by
  have isTop : (forest.detach child).parent? child = none := by
    rw [parent?_detach, if_pos rfl]
  rw [append_eq_appendAll_detach,
    children_appendAll (by simpa using isTop) (List.nodup_singleton _)
      (by simpa using different) (by simpa using isElement),
    children_detach wellFormed]

theorem WellFormed.not_above_of_children
    (wellFormed : forest.WellFormed)
    {id other : NodeId}
    (noChildren : forest.children id = []) :
    ¬ forest.Above id other := by
  intro above
  obtain ⟨child, known, -⟩ := above.exists_child
  have member := wellFormed.childOfParent known
  rw [noChildren] at member
  cases member

/-! ## Making nodes -/

/-- A new node that is in no tree and lists no children keeps a forest well formed. -/
theorem WellFormed.create
    (wellFormed : forest.WellFormed)
    {content : Content}
    (noChildren : content.listed = [])
    (attributesNodup : ∀ tag table listed,
      content = .element tag table listed → table.keys.Nodup) :
    (forest.create ⟨none, content⟩).1.WellFormed := by
  have missing := missing_of_size_le (Nat.le_refl forest.nodes.size)
  refine wellFormed.of_same_edges ?_ ?_ ?_
  · intro id
    rw [parent?, node?_create]
    split
    · next isNew =>
        rw [isNew, missing.1]
        rfl
    · rfl
  · intro id
    rw [children_eq_content?, content?, node?_create]
    split
    · next isNew =>
        rw [isNew, missing.2.1]
        simpa using noChildren
    · rw [children_eq_content?, content?]
  · intro id
    have before := wellFormed.attributesNodup id
    rw [attributes, node?_create]
    split_ifs with isNew
    · cases content with
      | text data =>
          exact List.nodup_nil
      | element tag table listed =>
          exact attributesNodup tag table listed rfl
    · exact before

theorem WellFormed.createText
    (wellFormed : forest.WellFormed)
    (data : String) :
    (forest.createText data).1.WellFormed :=
  wellFormed.create rfl nofun

theorem WellFormed.createElement
    (wellFormed : forest.WellFormed)
    (tag : String)
    {table : Table String String}
    (nodup : table.keys.Nodup) :
    (forest.createElement tag table).1.WellFormed :=
  wellFormed.create rfl fun _ _ _ same => by
    cases same
    exact nodup

/-- A new element can be put under any element that was there before. -/
theorem WellFormed.append_createElement
    (wellFormed : forest.WellFormed)
    {target : NodeId}
    (isElement : forest.isElement target = true)
    (tag : String)
    {change : Table String String → Table String String}
    (nodup : ∀ table, table.keys.Nodup → (change table).keys.Nodup) :
    (((forest.createElement tag ⟨[]⟩).1.modifyAttributes forest.nodes.size
        change).append target forest.nodes.size).WellFormed := by
  -- The new element lists nothing, so it is above nothing, the target included.
  have targetOld := lt_size_of_isElement isElement
  have created : (forest.createElement tag ⟨[]⟩).1.WellFormed :=
    wellFormed.createElement tag List.nodup_nil
  have attributed := created.modifyAttributes forest.nodes.size nodup
  have noChildren :
      ((forest.createElement tag ⟨[]⟩).1.modifyAttributes forest.nodes.size
          change).children forest.nodes.size = [] := by
    rw [children_eq_content?, content?, node?_modifyAttributes,
      Forest.createElement, node?_create]
    simp [Content.withAttributes, Content.listed]
  refine attributed.append ?_ ?_ ?_
  · rw [isElement_modifyAttributes, Forest.createElement,
      isElement_create_of_lt targetOld]
    exact isElement
  · rw [Forest.modifyAttributes, size_modify, Forest.createElement,
      size_create]
    exact Nat.lt_succ_self _
  · rintro (same | above)
    · exact Nat.lt_irrefl _ (same ▸ targetOld)
    · exact attributed.not_above_of_children noChildren above

/-! ## Copying a tree -/

mutual

/-- No element of a tree in a well-formed forest lists an attribute twice. -/
theorem Spans.attributesNodup
    (wellFormed : forest.WellFormed)
    {id : NodeId} :
    ∀ {tree : Tree}, forest.Spans id tree → tree.AttributesNodup
  | .text _, .text _ => trivial
  | .element _ _ _, .element known below => by
      have nodup := wellFormed.attributesNodup id
      rw [attributes_of_content? known] at nodup
      exact ⟨nodup, SpansAll.attributesNodup wellFormed below⟩

theorem SpansAll.attributesNodup
    (wellFormed : forest.WellFormed)
    {ids : List NodeId} :
    ∀ {trees : List Tree},
      forest.SpansAll ids trees → AttributesNodupAll trees
  | [], .nil => trivial
  | _ :: _, .cons first rest =>
      ⟨Spans.attributesNodup wellFormed first,
        SpansAll.attributesNodup wellFormed rest⟩

end

/-- Every node can be copied, and the copy is a new tree of the same shape. -/
theorem exists_clone
    (wellFormed : forest.WellFormed)
    {id : NodeId}
    (inForest : id < forest.nodes.size) :
    ∃ tree copied root,
      forest.Spans id tree ∧
        forest.clone? id = some (copied, root) ∧
        forest.Grows copied none [root] [tree] := by
  obtain ⟨tree, spans⟩ := exists_spans wellFormed inForest
  refine ⟨tree, _, _, spans, ?_,
    grows_addTree tree forest none (spans.attributesNodup wellFormed)⟩
  rw [clone?, (tree?_eq_some wellFormed).mpr spans]
  rfl

end PageScript.Document.Forest
