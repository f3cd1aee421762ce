import PageScript.Proofs.Document.Edit
import PageScript.Proofs.Markup.Tree

namespace PageScript.Document.Forest

/-!
# Trees below nodes

A node spans a tree when its content and the contents of everything below it are
those of the tree.  In a well-formed forest every node spans exactly one tree,
and the bounded walk down finds it.  A node precedes the nodes below it, and
everything at or below an earlier child precedes everything at or below a later child
of the same parent: the descendants of a node are listed in this order, each once.
When all nodes of a subtree are reworded in place, the subtree is the reworded tree.
-/

open Markup

mutual

/-- A node and everything below it have the shape of a tree. -/
inductive Spans (forest : Forest) : NodeId → Tree → Prop where
  | text
      {id : NodeId}
      {data : String} :
      forest.content? id = some (.text data) →
      Spans forest id (.text data)
  | element
      {id : NodeId}
      {tag : String}
      {table : Table String String}
      {listed : List NodeId}
      {trees : List Tree} :
      forest.content? id = some (.element tag table listed) →
      SpansAll forest listed trees →
      Spans forest id (.element tag table trees)

/-- Nodes and everything below them have the shapes of trees, one by one. -/
inductive SpansAll (forest : Forest) : List NodeId → List Tree → Prop where
  | nil :
      SpansAll forest [] []
  | cons
      {id : NodeId}
      {rest : List NodeId}
      {tree : Tree}
      {trees : List Tree} :
      Spans forest id tree →
      SpansAll forest rest trees →
      SpansAll forest (id :: rest) (tree :: trees)

end

variable {forest : Forest}

mutual

/-- A node spans at most one tree. -/
theorem Spans.unique
    {id : NodeId} :
    ∀ {first second : Tree},
      forest.Spans id first →
        forest.Spans id second →
          first = second
  | .text _, _, .text known, right => by
      cases right with
      | text other =>
          cases known.symm.trans other
          rfl
      | element other _ =>
          cases known.symm.trans other
  | .element _ _ _, _, .element known below, right => by
      cases right with
      | text other =>
          cases known.symm.trans other
      | element other otherBelow =>
          cases known.symm.trans other
          rw [SpansAll.unique below otherBelow]

theorem SpansAll.unique
    {ids : List NodeId} :
    ∀ {first second : List Tree},
      forest.SpansAll ids first →
        forest.SpansAll ids second →
          first = second
  | [], _, .nil, right => by
      cases right
      rfl
  | _ :: _, _, .cons head rest, right => by
      cases right with
      | cons otherHead otherRest =>
          rw [Spans.unique head otherHead, SpansAll.unique rest otherRest]

end

/-- A node that spans a tree exists. -/
theorem Spans.lt_size
    {id : NodeId}
    {tree : Tree}
    (spans : forest.Spans id tree) :
    id < forest.nodes.size := by
  cases spans with
  | text known =>
      exact lt_size_of_content? known
  | element known _ =>
      exact lt_size_of_content? known

theorem SpansAll.lt_size
    {ids : List NodeId}
    {trees : List Tree}
    (spans : forest.SpansAll ids trees)
    {id : Nat}
    (member : id ∈ ids) :
    id < forest.nodes.size := by
  induction ids generalizing trees with
  | nil =>
      cases member
  | cons first rest inductionHypothesis =>
      cases spans with
      | cons firstSpans restSpans =>
          rcases List.mem_cons.mp member with rfl | inRest
          · exact firstSpans.lt_size
          · exact inductionHypothesis restSpans inRest

/-- The list walk finds the trees that the single walk finds one by one. -/
theorem treesWithin_eq_some
    {depth : Nat}
    {ids : List NodeId}
    {trees : List Tree} :
    forest.treesWithin depth ids = some trees ↔
      List.Forall₂
        (fun id tree => forest.treeWithin depth id = some tree) ids trees := by
  induction ids generalizing trees with
  | nil =>
      cases trees <;> simp [treesWithin]
  | cons id rest inductionHypothesis =>
      constructor
      · intro found
        unfold treesWithin at found
        split at found
        · next tree others headFound restFound =>
            obtain rfl : tree :: others = trees := Option.some.inj found
            exact .cons headFound (inductionHypothesis.mp restFound)
        · simp at found
      · intro found
        cases found with
        | cons headFound restFound =>
            simp [treesWithin, headFound,
              inductionHypothesis.mpr restFound]

/-- Whatever a bounded walk down finds is spanned. -/
theorem spans_of_treeWithin
    {depth : Nat}
    {id : NodeId}
    {tree : Tree}
    (found : forest.treeWithin depth id = some tree) :
    forest.Spans id tree := by
  induction depth generalizing id tree with
  | zero =>
      simp [treeWithin] at found
  | succ depth inductionHypothesis =>
      have spansAll :
          ∀ {ids : List NodeId} {trees : List Tree},
            List.Forall₂
                (fun id tree => forest.treeWithin depth id = some tree)
                ids trees →
              forest.SpansAll ids trees := by
        intro ids trees each
        induction each with
        | nil =>
            exact .nil
        | cons head _ restSpans =>
            exact .cons (inductionHypothesis head) restSpans
      unfold treeWithin at found
      split at found
      · simp at found
      · next parent data nodeFound =>
          obtain rfl := Option.some.inj found
          exact .text (by simp [content?, nodeFound])
      · next parent tag table listed nodeFound =>
          obtain ⟨trees, treesFound, rfl⟩ :=
            Option.map_eq_some_iff.mp found
          exact .element (by simp [content?, nodeFound])
            (spansAll (treesWithin_eq_some.mp treesFound))

/--
A walk down from a node of a well-formed forest ends when its bound and the
length of the way up make up the number of nodes.
-/
theorem exists_treeWithin
    (wellFormed : forest.WellFormed)
    (depth : Nat)
    {id : NodeId}
    {upper : List NodeId}
    (way : forest.Lineage id upper)
    (inForest : id < forest.nodes.size)
    (deep : forest.nodes.size ≤ upper.length + depth) :
    ∃ tree, forest.treeWithin depth id = some tree := by
  induction depth generalizing id upper with
  | zero =>
      have short := way.length_lt_size wellFormed inForest
      omega
  | succ depth inductionHypothesis =>
      have found : forest.node? id = some forest.nodes[id] :=
        Array.getElem?_eq_getElem inForest
      have walked :
          ∀ ids : List NodeId,
            (∀ child ∈ ids, child ∈ forest.children id) →
              ∃ trees, forest.treesWithin depth ids = some trees := by
        intro ids members
        induction ids with
        | nil =>
            exact ⟨[], by simp [treesWithin]⟩
        | cons child rest restWalked =>
            obtain ⟨trees, treesFound⟩ :=
              restWalked fun other member =>
                members other (List.mem_cons_of_mem _ member)
            have known :=
              wellFormed.parentOfChild (members child List.mem_cons_self)
            obtain ⟨content, childFound⟩ := node?_of_parent? known
            obtain ⟨tree, treeFound⟩ :=
              inductionHypothesis (.under known way)
                (lt_size_of_node? childFound)
                (by rw [List.length_cons]; omega)
            exact ⟨tree :: trees, by simp [treesWithin, treeFound, treesFound]⟩
      -- One level of the bound is spent, and the way up of a child is longer by one.
      rw [treeWithin, found]
      rcases shape : forest.nodes[id] with ⟨parent, content⟩
      cases content with
      | text data =>
          exact ⟨_, rfl⟩
      | element tag table listed =>
          have listedChildren : forest.children id = listed := by
            simp [children, found, shape]
          obtain ⟨trees, treesFound⟩ :=
            walked listed fun child member => by
              rwa [listedChildren]
          exact ⟨.element tag table trees, by simp [treesFound]⟩

/-- In a well-formed forest the tree below a node is the one that it spans. -/
theorem tree?_eq_some
    (wellFormed : forest.WellFormed)
    {id : NodeId}
    {tree : Tree} :
    forest.tree? id = some tree ↔ forest.Spans id tree := by
  constructor
  · exact spans_of_treeWithin
  · intro spans
    obtain ⟨upper, way⟩ := Lineage.ofWellFormed wellFormed id
    obtain ⟨found, treeFound⟩ :=
      exists_treeWithin wellFormed forest.depthBound way
        spans.lt_size (by unfold depthBound; omega)
    rw [tree?, treeFound, (spans_of_treeWithin treeFound).unique spans]

/-- In a well-formed forest every node has a tree below it. -/
theorem exists_spans
    (wellFormed : forest.WellFormed)
    {id : NodeId}
    (inForest : id < forest.nodes.size) :
    ∃ tree, forest.Spans id tree := by
  obtain ⟨upper, way⟩ := Lineage.ofWellFormed wellFormed id
  obtain ⟨tree, found⟩ :=
    exists_treeWithin wellFormed forest.depthBound way
      inForest (by unfold depthBound; omega)
  exact ⟨tree, spans_of_treeWithin found⟩

/-- A bounded walk through the descendants finds only nodes below. -/
theorem above_of_mem_descendantsWithin
    (wellFormed : forest.WellFormed)
    {depth : Nat}
    {id other : NodeId}
    (member : other ∈ forest.descendantsWithin depth id) :
    forest.Above id other := by
  induction depth generalizing id with
  | zero =>
      simp [descendantsWithin] at member
  | succ depth inductionHypothesis =>
      obtain ⟨child, listed, reached⟩ := List.mem_flatMap.mp member
      have known := wellFormed.parentOfChild listed
      rcases List.mem_cons.mp reached with rfl | deeper
      · exact .parent known
      · exact (Above.parent known).trans (inductionHypothesis deeper)

/--
A walk through the descendants that is deep enough finds every node below.
-/
theorem mem_descendantsWithin_of_above
    (wellFormed : forest.WellFormed)
    {depth : Nat}
    {id other : NodeId}
    {upper : List NodeId}
    (way : forest.Lineage id upper)
    (deep : forest.nodes.size ≤ upper.length + depth)
    (above : forest.Above id other) :
    other ∈ forest.descendantsWithin depth id := by
  induction depth generalizing id upper with
  | zero =>
      obtain ⟨child, known, -⟩ := above.exists_child
      obtain ⟨content, found⟩ := node?_of_parent? known
      have short :=
        (Lineage.under known way).length_lt_size wellFormed
          (lt_size_of_node? found)
      rw [List.length_cons] at short
      omega
  | succ depth inductionHypothesis =>
      obtain ⟨child, known, reached⟩ := above.exists_child
      refine List.mem_flatMap.mpr
        ⟨child, wellFormed.childOfParent known, ?_⟩
      rcases reached with rfl | deeper
      · exact List.mem_cons_self
      · refine List.mem_cons_of_mem _
          (inductionHypothesis (.under known way) ?_ deeper)
        rw [List.length_cons]
        omega

/-- The descendants of a node are exactly the nodes below it. -/
theorem mem_descendants
    (wellFormed : forest.WellFormed)
    {id other : NodeId} :
    other ∈ forest.descendants id ↔ forest.Above id other := by
  constructor
  · exact above_of_mem_descendantsWithin wellFormed
  · intro above
    obtain ⟨upper, way⟩ := Lineage.ofWellFormed wellFormed id
    exact mem_descendantsWithin_of_above wellFormed way
      (by unfold depthBound; omega) above

/--
A level below the last node on every way down does not change the walk through the
descendants.
-/
theorem descendantsWithin_succ
    (wellFormed : forest.WellFormed)
    (depth : Nat)
    {id : NodeId}
    {upper : List NodeId}
    (way : forest.Lineage id upper)
    (deep : forest.nodes.size ≤ upper.length + depth) :
    forest.descendantsWithin (depth + 1) id = forest.descendantsWithin depth id := by
  induction depth generalizing id upper with
  | zero =>
      refine List.flatMap_eq_nil_iff.mpr fun child listed => ?_
      have above : forest.Above id child := .parent (wellFormed.parentOfChild listed)
      simpa [descendantsWithin] using mem_descendantsWithin_of_above wellFormed way deep above
  | succ depth inductionHypothesis =>
      refine List.flatMap_congr fun child listed => congrArg (child :: ·) ?_
      refine inductionHypothesis (.under (wellFormed.parentOfChild listed) way) ?_
      rw [List.length_cons]
      omega

/-- The nodes below a node are its children, each followed by the nodes below it. -/
theorem descendants_eq
    (wellFormed : forest.WellFormed)
    (id : NodeId) :
    forest.descendants id =
      (forest.children id).flatMap fun child => child :: forest.descendants child := by
  refine List.flatMap_congr fun child _ => congrArg (child :: ·) ?_
  obtain ⟨upper, way⟩ := Lineage.ofWellFormed wellFormed child
  exact (descendantsWithin_succ wellFormed _ way (Nat.le_add_left _ _)).symm

/-! ## Document order -/

section Order

open List

/-- The first node comes before the second one in document order. -/
def Precedes (forest : Forest) (first second : NodeId) : Prop :=
  forest.Above first second ∨
    ∃ parent earlier later,
      [earlier, later] <+ forest.children parent ∧
        forest.AtOrAbove earlier first ∧
        forest.AtOrAbove later second

variable {forest : Forest}

/-- Two listed children of a node are different children of it. -/
theorem WellFormed.children_of_pair
    (wellFormed : forest.WellFormed)
    {parent earlier later : NodeId}
    (ordered : [earlier, later] <+ forest.children parent) :
    forest.parent? earlier = some parent ∧
      forest.parent? later = some parent ∧
      earlier ≠ later := by
  have members := ordered.subset
  refine
    ⟨wellFormed.parentOfChild (members (by simp)),
      wellFormed.parentOfChild (members (by simp)), ?_⟩
  have pairNodup := ordered.nodup (wellFormed.childrenNodup parent)
  simpa using pairNodup

/-- No node comes before itself. -/
theorem WellFormed.not_precedes_self
    (wellFormed : forest.WellFormed)
    (id : NodeId) :
    ¬ forest.Precedes id id := by
  rintro (above | ⟨parent, earlier, later, ordered, left, right⟩)
  · exact wellFormed.not_above_self id above
  · obtain ⟨leftChild, rightChild, different⟩ :=
      wellFormed.children_of_pair ordered
    exact different
      (wellFormed.child_unique leftChild rightChild left right)

/-- A bounded walk through the descendants follows document order. -/
theorem pairwise_descendantsWithin
    (wellFormed : forest.WellFormed)
    (depth : Nat)
    (id : NodeId) :
    (forest.descendantsWithin depth id).Pairwise forest.Precedes := by
  induction depth generalizing id with
  | zero =>
      simp [descendantsWithin]
  | succ depth inductionHypothesis =>
      have atOrBelow :
          ∀ {child other : NodeId},
            other ∈ child :: forest.descendantsWithin depth child →
              forest.AtOrAbove child other := by
        intro child other member
        rcases List.mem_cons.mp member with rfl | deeper
        · exact .inl rfl
        · exact .inr (above_of_mem_descendantsWithin wellFormed deeper)
      rw [descendantsWithin, List.pairwise_flatMap]
      constructor
      · intro child _
        refine List.pairwise_cons.mpr ⟨?_, inductionHypothesis child⟩
        intro other member
        exact .inl (above_of_mem_descendantsWithin wellFormed member)
      -- Nodes from different children are ordered as these children are listed.
      · apply List.pairwise_of_forall_sublist
        intro earlier later ordered first firstMember second secondMember
        exact .inr
          ⟨id, earlier, later, ordered,
            atOrBelow firstMember, atOrBelow secondMember⟩

theorem pairwise_descendants
    (wellFormed : forest.WellFormed)
    (id : NodeId) :
    (forest.descendants id).Pairwise forest.Precedes :=
  pairwise_descendantsWithin wellFormed forest.depthBound id

/-- A list in document order has no node twice. -/
theorem nodup_of_pairwise_precedes
    (wellFormed : forest.WellFormed)
    {ids : List NodeId}
    (ordered : ids.Pairwise forest.Precedes) :
    ids.Nodup := by
  refine ordered.imp ?_
  rintro first second precedes rfl
  exact wellFormed.not_precedes_self first precedes

theorem nodup_descendants
    (wellFormed : forest.WellFormed)
    (id : NodeId) :
    (forest.descendants id).Nodup :=
  nodup_of_pairwise_precedes wellFormed
    (pairwise_descendants wellFormed id)

end Order

end PageScript.Document.Forest

namespace PageScript.Document

/-! ## Rewording nodes -/

/-- Change all strings of a node. -/
def Content.reword (change : String → String) : Content → Content
  | .text data => .text (change data)
  | .element tag attributes children =>
      .element tag (attributes.mapValues change) children

@[simp] theorem Content.reword_id
    (content : Content) :
    content.reword id = content := by
  cases content <;> simp [reword]

/-- The strings of a node: its characters, or the values of its attributes. -/
def Content.strings : Content → List String
  | .text data => [data]
  | .element _ attributes _ => attributes.values

/-- Two changes that agree on the strings of a node change it alike. -/
theorem Content.reword_congr
    {first second : String → String}
    (content : Content)
    (agree : ∀ s ∈ content.strings, first s = second s) :
    content.reword first = content.reword second := by
  cases content with
  | text data =>
      exact congrArg Content.text (agree data List.mem_cons_self)
  | element tag attributes listed =>
      have sameValues :
          attributes.mapValues first = attributes.mapValues second := by
        refine congrArg Table.mk (List.map_congr_left fun entry member => ?_)
        rw [agree entry.2 (List.mem_map_of_mem member)]
      simp [reword, sameValues]

namespace Forest

open Markup

variable {forest other : Forest} {change : String → String}

mutual

/-- A subtree whose nodes are reworded in place is the reworded tree. -/
theorem Spans.reword
    (wellFormed : forest.WellFormed)
    {id : NodeId} :
    ∀ {tree : Tree},
      forest.Spans id tree →
        (∀ node,
          forest.AtOrAbove id node →
            other.content? node =
              (forest.content? node).map (Content.reword change)) →
          other.Spans id (tree.reword change)
  | .text _, .text known, changed => by
      refine .text ?_
      rw [changed id (.inl rfl), known]
      rfl
  | .element _ _ _, .element known below, changed => by
      refine .element ?_ (SpansAll.reword wellFormed below ?_)
      · rw [changed id (.inl rfl), known]
        rfl
      · intro child listed node reached
        have parentKnown := wellFormed.parent?_of_listed known listed
        refine changed node (.inr ?_)
        rcases reached with rfl | above
        · exact .parent parentKnown
        · exact Above.trans (.parent parentKnown) above

theorem SpansAll.reword
    (wellFormed : forest.WellFormed)
    {ids : List NodeId} :
    ∀ {trees : List Tree},
      forest.SpansAll ids trees →
        (∀ id ∈ ids, ∀ node,
          forest.AtOrAbove id node →
            other.content? node =
              (forest.content? node).map (Content.reword change)) →
          other.SpansAll ids (rewordAll change trees)
  | [], .nil, _ => .nil
  | _ :: _, .cons first rest, changed =>
      .cons
        (Spans.reword wellFormed first fun node reached =>
          changed _ List.mem_cons_self node reached)
        (SpansAll.reword wellFormed rest fun id member =>
          changed id (List.mem_cons_of_mem _ member))

end

/-- Neighbouring subtrees whose nodes are kept are the same trees. -/
theorem SpansAll.keep
    (wellFormed : forest.WellFormed)
    {ids : List NodeId}
    {trees : List Tree}
    (spans : forest.SpansAll ids trees)
    (same :
      ∀ id ∈ ids, ∀ node,
        forest.AtOrAbove id node →
          other.content? node = forest.content? node) :
    other.SpansAll ids trees := by
  rw [← rewordAll_id trees]
  refine spans.reword wellFormed fun id member node reached => ?_
  rw [same id member node reached]
  cases forest.content? node <;> simp

mutual

/-- The strings of a node at or below another one are in the tree of that one. -/
theorem Spans.mem_strings
    (wellFormed : forest.WellFormed)
    {id node : NodeId}
    {content : Content}
    {s : String}
    (reached : forest.AtOrAbove id node)
    (known : forest.content? node = some content)
    (member : s ∈ content.strings) :
    ∀ {tree : Tree}, forest.Spans id tree → s ∈ tree.strings
  | .text _, .text own => by
      rcases reached with rfl | above
      · cases own.symm.trans known
        exact member
      · obtain ⟨child, parentKnown, -⟩ := above.exists_child
        have listed := wellFormed.childOfParent parentKnown
        rw [children_eq_content?, own] at listed
        cases listed
  | .element _ _ _, .element own below => by
      rcases reached with rfl | above
      · cases own.symm.trans known
        exact List.mem_append_left _ member
      · obtain ⟨child, parentKnown, lower⟩ := above.exists_child
        have listed := wellFormed.childOfParent parentKnown
        rw [children_of_content? own] at listed
        exact
          List.mem_append_right _
            (SpansAll.mem_strings wellFormed listed lower known member below)

theorem SpansAll.mem_strings
    (wellFormed : forest.WellFormed)
    {id node : NodeId}
    {ids : List NodeId}
    {content : Content}
    {s : String}
    (listed : id ∈ ids)
    (reached : forest.AtOrAbove id node)
    (known : forest.content? node = some content)
    (member : s ∈ content.strings) :
    ∀ {trees : List Tree}, forest.SpansAll ids trees → s ∈ treesStrings trees
  | [], .nil => by
      cases listed
  | _ :: _, .cons first rest => by
      rcases List.mem_cons.mp listed with rfl | inRest
      · exact
          List.mem_append_left _
            (Spans.mem_strings wellFormed reached known member first)
      · exact
          List.mem_append_right _
            (SpansAll.mem_strings wellFormed inRest reached known member rest)

end

end Forest

end PageScript.Document
