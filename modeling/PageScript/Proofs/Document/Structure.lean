import Mathlib.Data.List.Nodup
import Mathlib.Data.List.Perm.Subperm
import PageScript.Document.Traversal

namespace PageScript.Document.Forest

/-!
# Well-formed forests

Every edge of a forest is stored at both of its ends.  A forest is well formed
when the two ends agree, no child is listed twice, and every way up ends.  In
such a forest the bounded walks of `Traversal` miss nothing: the ancestors of a
node are exactly the nodes above it.
-/

/-- `upper` is reached from `lower` by one or more steps to a parent. -/
inductive Above (forest : Forest) : NodeId → NodeId → Prop where
  | parent
      {upper lower : NodeId} :
      forest.parent? lower = some upper →
      Above forest upper lower
  | step
      {upper middle lower : NodeId} :
      forest.parent? lower = some middle →
      Above forest upper middle →
      Above forest upper lower

/-- `upper` is `lower` itself or above it. -/
def AtOrAbove (forest : Forest) (upper lower : NodeId) : Prop :=
  upper = lower ∨ forest.Above upper lower

/-- Both ends of every edge agree, and every way up ends. -/
structure WellFormed (forest : Forest) : Prop where
  /-- A listed child knows its parent. -/
  parentOfChild :
    ∀ {parent child : NodeId},
      child ∈ forest.children parent →
        forest.parent? child = some parent
  /-- A parent lists its child. -/
  childOfParent :
    ∀ {parent child : NodeId},
      forest.parent? child = some parent →
        child ∈ forest.children parent
  /-- No child is listed twice. -/
  childrenNodup :
    ∀ id, (forest.children id).Nodup
  /-- Every way up ends. -/
  grounded :
    WellFounded fun upper lower => forest.parent? lower = some upper
  /-- No attribute of an element is listed twice. -/
  attributesNodup :
    ∀ id, (forest.attributes id).keys.Nodup

/-- The nodes on the way up from a node, nearest first. -/
inductive Lineage (forest : Forest) : NodeId → List NodeId → Prop where
  | top
      {id : NodeId} :
      forest.parent? id = none →
      Lineage forest id []
  | under
      {id parent : NodeId}
      {upper : List NodeId} :
      forest.parent? id = some parent →
      Lineage forest parent upper →
      Lineage forest id (parent :: upper)

section Nodes

variable {forest : Forest}

theorem lt_size_of_node?
    {id : NodeId}
    {node : Node}
    (found : forest.node? id = some node) :
    id < forest.nodes.size :=
  (Array.getElem?_eq_some_iff.mp found).1

theorem node?_of_parent?
    {id parent : NodeId}
    (known : forest.parent? id = some parent) :
    ∃ content, forest.node? id = some ⟨some parent, content⟩ := by
  cases found : forest.node? id with
  | none =>
      simp [parent?, found] at known
  | some node =>
      rcases node with ⟨upper, content⟩
      have same : upper = some parent := by
        simpa [parent?, found] using known
      exact ⟨content, by rw [same]⟩

/-- An element exists. -/
theorem lt_size_of_isElement
    {id : NodeId}
    (isElement : forest.isElement id = true) :
    id < forest.nodes.size := by
  cases found : forest.node? id with
  | none =>
      simp [Forest.isElement, tag?, found] at isElement
  | some node =>
      exact lt_size_of_node? found

/-- Only an element has children. -/
theorem isElement_of_mem_children
    {parent child : NodeId}
    (member : child ∈ forest.children parent) :
    forest.isElement parent = true := by
  cases found : forest.node? parent with
  | none =>
      simp [children, found] at member
  | some node =>
      rcases node with ⟨upper, content⟩
      cases content with
      | text data =>
          simp [children, found] at member
      | element tag attributes listed =>
          simp [isElement, tag?, found]

end Nodes

namespace Above

variable {forest : Forest}

theorem trans
    {upper middle lower : NodeId}
    (high : forest.Above upper middle)
    (low : forest.Above middle lower) :
    forest.Above upper lower := by
  induction low with
  | parent known =>
      exact .step known high
  | step known _ inductionHypothesis =>
      exact .step known inductionHypothesis

/-- The lowest step of a way up goes to the parent of the lower node. -/
theorem exists_parent
    {upper lower : NodeId}
    (above : forest.Above upper lower) :
    ∃ parent,
      forest.parent? lower = some parent ∧
        forest.AtOrAbove upper parent := by
  cases above with
  | parent known =>
      exact ⟨upper, known, .inl rfl⟩
  | step known rest =>
      exact ⟨_, known, .inr rest⟩

/--
The highest step of a way up comes from a node whose parent is the upper node.
-/
theorem exists_child
    {upper lower : NodeId}
    (above : forest.Above upper lower) :
    ∃ child,
      forest.parent? child = some upper ∧
        forest.AtOrAbove child lower := by
  induction above with
  | parent known =>
      exact ⟨_, known, .inl rfl⟩
  | step known _ inductionHypothesis =>
      obtain ⟨child, parentKnown, reached⟩ := inductionHypothesis
      refine ⟨child, parentKnown, .inr ?_⟩
      rcases reached with rfl | higher
      · exact .parent known
      · exact .step known higher

/-- A node with something above it exists. -/
theorem lower_lt_size
    {upper lower : NodeId}
    (above : forest.Above upper lower) :
    lower < forest.nodes.size := by
  obtain ⟨parent, known, -⟩ := above.exists_parent
  obtain ⟨content, found⟩ := node?_of_parent? known
  exact lt_size_of_node? found

end Above

namespace WellFormed

variable {forest : Forest}

/-- No node is above itself. -/
theorem not_above_self
    (wellFormed : forest.WellFormed)
    (id : NodeId) :
    ¬ forest.Above id id := by
  induction id using wellFormed.grounded.induction with
  | _ id inductionHypothesis =>
      intro cycle
      obtain ⟨parent, known, reached⟩ := cycle.exists_parent
      have turned : forest.Above parent parent := by
        rcases reached with rfl | higher
        · exact cycle
        · exact (Above.parent known).trans higher
      exact inductionHypothesis parent known turned

theorem not_above_of_above
    (wellFormed : forest.WellFormed)
    {upper lower : NodeId}
    (above : forest.Above upper lower) :
    ¬ forest.Above lower upper :=
  fun back => wellFormed.not_above_self lower (back.trans above)

theorem isElement_of_parent?
    (wellFormed : forest.WellFormed)
    {parent child : NodeId}
    (known : forest.parent? child = some parent) :
    forest.isElement parent = true :=
  isElement_of_mem_children (wellFormed.childOfParent known)

theorem isElement_of_above
    (wellFormed : forest.WellFormed)
    {upper lower : NodeId}
    (above : forest.Above upper lower) :
    forest.isElement upper = true := by
  obtain ⟨child, known, -⟩ := above.exists_child
  exact wellFormed.isElement_of_parent? known

/-- A node is below at most one of the children of a node. -/
theorem child_unique
    (wellFormed : forest.WellFormed)
    {parent left right lower : NodeId}
    (leftChild : forest.parent? left = some parent)
    (rightChild : forest.parent? right = some parent)
    (leftReaches : forest.AtOrAbove left lower)
    (rightReaches : forest.AtOrAbove right lower) :
    left = right := by
  -- A sibling above a sibling would put their parent above itself.
  have not_below_sibling :
      ∀ {first second : NodeId},
        forest.parent? first = some parent →
          forest.parent? second = some parent →
            ¬ forest.Above first second := by
    intro first second firstChild secondChild above
    obtain ⟨upper, known, reached⟩ := above.exists_parent
    obtain rfl : parent = upper :=
      Option.some.inj (secondChild.symm.trans known)
    rcases reached with rfl | higher
    · exact wellFormed.not_above_self _ (.parent firstChild)
    · exact wellFormed.not_above_of_above higher (.parent firstChild)
  induction lower using wellFormed.grounded.induction with
  | _ lower inductionHypothesis =>
      rcases leftReaches with rfl | leftAbove
      · rcases rightReaches with rfl | rightAbove
        · rfl
        · exact (not_below_sibling rightChild leftChild rightAbove).elim
      · rcases rightReaches with rfl | rightAbove
        · exact (not_below_sibling leftChild rightChild leftAbove).elim
        · obtain ⟨upper, known, leftReached⟩ := leftAbove.exists_parent
          obtain ⟨other, otherKnown, rightReached⟩ :=
            rightAbove.exists_parent
          obtain rfl : upper = other :=
            Option.some.inj (known.symm.trans otherKnown)
          exact inductionHypothesis upper known leftReached rightReached

end WellFormed

namespace Lineage

variable {forest : Forest}

/-- The way up from a node is determined by the node. -/
theorem unique
    {id : NodeId}
    {first second : List NodeId}
    (firstWay : forest.Lineage id first)
    (secondWay : forest.Lineage id second) :
    first = second := by
  induction firstWay generalizing second with
  | top isTop =>
      cases secondWay with
      | top _ =>
          rfl
      | under known _ =>
          simp [isTop] at known
  | under known _ inductionHypothesis =>
      cases secondWay with
      | top isTop =>
          simp [known] at isTop
      | under otherKnown rest =>
          obtain rfl :=
            Option.some.inj (known.symm.trans otherKnown)
          rw [inductionHypothesis rest]

/-- In a well-formed forest every node has a way up. -/
theorem ofWellFormed
    (wellFormed : forest.WellFormed)
    (id : NodeId) :
    ∃ upper, forest.Lineage id upper := by
  induction id using wellFormed.grounded.induction with
  | _ id inductionHypothesis =>
      cases known : forest.parent? id with
      | none =>
          exact ⟨[], .top known⟩
      | some parent =>
          obtain ⟨upper, way⟩ := inductionHypothesis parent known
          exact ⟨parent :: upper, .under known way⟩

/-- The nodes on the way up are exactly the nodes above. -/
theorem mem_iff_above
    {id other : NodeId}
    {upper : List NodeId}
    (way : forest.Lineage id upper) :
    other ∈ upper ↔ forest.Above other id := by
  induction way with
  | top isTop =>
      constructor
      · simp
      · intro above
        obtain ⟨parent, known, -⟩ := above.exists_parent
        simp [isTop] at known
  | @under id parent rest known _ inductionHypothesis =>
      constructor
      · intro member
        rcases List.mem_cons.mp member with rfl | inRest
        · exact .parent known
        · exact .step known (inductionHypothesis.mp inRest)
      · intro above
        obtain ⟨nearest, nearestKnown, reached⟩ := above.exists_parent
        obtain rfl : parent = nearest :=
          Option.some.inj (known.symm.trans nearestKnown)
        rcases reached with rfl | higher
        · exact List.mem_cons_self
        · exact List.mem_cons_of_mem _ (inductionHypothesis.mpr higher)

/-- A node and the nodes on its way up are pairwise different. -/
theorem nodup
    (wellFormed : forest.WellFormed)
    {id : NodeId}
    {upper : List NodeId}
    (way : forest.Lineage id upper) :
    (id :: upper).Nodup := by
  induction way with
  | top _ =>
      simp
  | under known rest inductionHypothesis =>
      refine List.nodup_cons.mpr ⟨?_, inductionHypothesis⟩
      intro member
      exact wellFormed.not_above_self _
        ((Lineage.under known rest).mem_iff_above.mp member)

/-- A way up from a node of the forest is shorter than the number of nodes. -/
theorem length_lt_size
    (wellFormed : forest.WellFormed)
    {id : NodeId}
    {upper : List NodeId}
    (way : forest.Lineage id upper)
    (inForest : id < forest.nodes.size) :
    upper.length < forest.nodes.size := by
  -- The nodes on the way are different names below the number of nodes.
  have bounded :
      ∀ other ∈ id :: upper, other ∈ List.range forest.nodes.size := by
    intro other member
    rw [List.mem_range]
    rcases List.mem_cons.mp member with rfl | inUpper
    · exact inForest
    · obtain ⟨child, known, -⟩ :=
        (way.mem_iff_above.mp inUpper).exists_child
      exact lt_size_of_isElement (wellFormed.isElement_of_parent? known)
  have shorter :=
    (List.subperm_of_subset (way.nodup wellFormed) bounded).length_le
  rw [List.length_cons, List.length_range] at shorter
  exact shorter

/-- A bounded walk up takes the nearest nodes of the way up. -/
theorem ancestorsWithin_eq_take
    {id : NodeId}
    {upper : List NodeId}
    (way : forest.Lineage id upper)
    (height : Nat) :
    forest.ancestorsWithin height id = upper.take height := by
  induction way generalizing height with
  | top isTop =>
      cases height with
      | zero =>
          rfl
      | succ height =>
          simp [ancestorsWithin, isTop]
  | under known _ inductionHypothesis =>
      cases height with
      | zero =>
          rfl
      | succ height =>
          simp [ancestorsWithin, known, inductionHypothesis]

/-- The ancestors of a node are its whole way up. -/
theorem ancestors_eq
    (wellFormed : forest.WellFormed)
    {id : NodeId}
    {upper : List NodeId}
    (way : forest.Lineage id upper) :
    forest.ancestors id = upper := by
  have short : upper.length ≤ forest.depthBound := by
    cases way with
    | top _ =>
        exact Nat.zero_le _
    | under known rest =>
        obtain ⟨content, found⟩ := node?_of_parent? known
        have shorter :=
          (Lineage.under known rest).length_lt_size wellFormed
            (lt_size_of_node? found)
        unfold depthBound
        omega
  rw [ancestors, way.ancestorsWithin_eq_take, List.take_of_length_le short]

end Lineage

/-- The ancestors of a node are exactly the nodes above it. -/
theorem mem_ancestors
    {forest : Forest}
    (wellFormed : forest.WellFormed)
    {id other : NodeId} :
    other ∈ forest.ancestors id ↔ forest.Above other id := by
  obtain ⟨upper, way⟩ := Lineage.ofWellFormed wellFormed id
  rw [way.ancestors_eq wellFormed, way.mem_iff_above]

end PageScript.Document.Forest
