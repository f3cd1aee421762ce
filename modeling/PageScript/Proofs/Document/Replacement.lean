import PageScript.Document.Page
import PageScript.Proofs.Document.Growth

namespace PageScript.Document.Forest

/-!
# Replacing the content of an element

Clearing an element and appending trees to it keep a forest well formed.  Every
node outside the element stays as it is, except that the old children of a
cleared element have no parent any more.
-/

open Markup

variable {forest : Forest}

/-! ## Clearing -/

/-- After clearing, exactly the old children have lost their parent. -/
theorem parent?_clear
    (target id : NodeId) :
    (forest.clear target).parent? id =
      if id ∈ forest.children target then none else forest.parent? id := by
  rw [parent?, node?_clear, parent?]
  cases forest.node? id <;> simp

/-- After clearing, only the cleared element lists other children. -/
theorem children_clear
    (target id : NodeId) :
    (forest.clear target).children id =
      if id = target then [] else forest.children id := by
  rw [children_eq_content?, children_eq_content?, content?, content?,
    node?_clear]
  cases forest.node? id with
  | none =>
      simp
  | some node =>
      rcases node with ⟨parent, content⟩
      by_cases isTarget : id = target
      · cases content <;>
          simp [isTarget, Content.withChildren, Content.listed]
      · simp [isTarget]

@[simp] theorem attributes_clear
    (target id : NodeId) :
    (forest.clear target).attributes id = forest.attributes id := by
  rw [attributes, attributes, node?_clear]
  cases forest.node? id with
  | none =>
      rfl
  | some node =>
      rcases node with ⟨parent, content⟩
      by_cases isTarget : id = target <;>
        cases content <;> simp [isTarget, Content.withChildren]

/-- Clearing an element keeps a forest well formed. -/
theorem WellFormed.clear
    (wellFormed : forest.WellFormed)
    (target : NodeId) :
    (forest.clear target).WellFormed where
  parentOfChild {parent child} member := by
    rw [children_clear] at member
    split at member
    · simp at member
    · next different =>
        have known := wellFormed.parentOfChild member
        rw [parent?_clear, if_neg]
        · exact known
        · intro listed
          have other := wellFormed.parentOfChild listed
          exact different (Option.some.inj (known.symm.trans other))
  childOfParent {parent child} known := by
    rw [parent?_clear] at known
    split at known
    · simp at known
    · next notListed =>
        have listed := wellFormed.childOfParent known
        rw [children_clear, if_neg]
        · exact listed
        · rintro rfl
          exact notListed listed
  childrenNodup id := by
    rw [children_clear]
    split
    · exact List.nodup_nil
    · exact wellFormed.childrenNodup id
  grounded := by
    refine Subrelation.wf ?_ wellFormed.grounded
    intro upper lower known
    rw [parent?_clear] at known
    split at known
    · simp at known
    · exact known
  attributesNodup id := by
    rw [attributes_clear]
    exact wellFormed.attributesNodup id

/-! ## Appending nodes that are in no tree -/

section Append

variable {target : NodeId} {added : List NodeId}

/-- Appended nodes get the element as their parent. -/
theorem parent?_appendAll
    (tops : ∀ child ∈ added, forest.parent? child = none)
    (inForest : ∀ child : Nat, child ∈ added → child < forest.nodes.size)
    (addedNodup : added.Nodup)
    (targetNotAdded : target ∉ added)
    (id : NodeId) :
    (forest.appendAll target added).parent? id =
      if id ∈ added then some target else forest.parent? id := by
  rw [parent?, node?_appendAll tops addedNodup targetNotAdded, parent?]
  cases found : forest.node? id with
  | none =>
      have notAdded : id ∉ added := by
        intro member
        have known := Array.getElem?_eq_getElem (inForest id member)
        rw [node?, known] at found
        simp at found
      simp [notAdded]
  | some node =>
      simp

/-- Appended nodes are listed after the children that were there. -/
theorem children_appendAll
    (tops : ∀ child ∈ added, forest.parent? child = none)
    (addedNodup : added.Nodup)
    (targetNotAdded : target ∉ added)
    (isElement : forest.isElement target = true)
    (id : NodeId) :
    (forest.appendAll target added).children id =
      if id = target then
        forest.children id ++ added
      else
        forest.children id := by
  rw [children_eq_content?, children_eq_content?, content?, content?,
    node?_appendAll tops addedNodup targetNotAdded]
  by_cases isTarget : id = target
  · subst id
    obtain ⟨tag, attributes, listed, known⟩ :=
      exists_content?_of_isElement isElement
    obtain ⟨node, found, shape⟩ := Option.map_eq_some_iff.mp known
    simp [found, shape, Content.withChildren, Content.listed]
  · cases forest.node? id <;> simp [isTarget]

theorem attributes_appendAll
    (tops : ∀ child ∈ added, forest.parent? child = none)
    (addedNodup : added.Nodup)
    (targetNotAdded : target ∉ added)
    (id : NodeId) :
    (forest.appendAll target added).attributes id =
      forest.attributes id := by
  rw [attributes, attributes,
    node?_appendAll tops addedNodup targetNotAdded]
  cases forest.node? id with
  | none =>
      rfl
  | some node =>
      rcases node with ⟨parent, content⟩
      by_cases isTarget : id = target <;>
        cases content <;> simp [isTarget, Content.withChildren]

/--
Every way up still ends when nodes are put under a node that is not at or below
one of them.
-/
theorem WellFormed.grounded_of_parent?
    {other : Forest}
    (wellFormed : forest.WellFormed)
    (parentIs :
      ∀ id,
        other.parent? id =
          if id ∈ added then some target else forest.parent? id)
    (outside : ∀ child ∈ added, ¬ forest.AtOrAbove child target) :
    WellFounded fun upper lower => other.parent? lower = some upper := by
  -- A way up that is not below a moved node is an old way up, so it ends.
  have apart :
      ∀ id,
        (∀ child ∈ added, ¬ forest.AtOrAbove child id) →
          Acc (fun upper lower => other.parent? lower = some upper) id := by
    intro id
    induction id using wellFormed.grounded.induction with
    | _ id inductionHypothesis =>
        intro separate
        refine .intro id ?_
        intro upper known
        have notAdded : id ∉ added :=
          fun member => separate id member (.inl rfl)
        rw [parentIs, if_neg notAdded] at known
        refine inductionHypothesis upper known ?_
        intro child member reached
        refine separate child member (.inr ?_)
        rcases reached with rfl | higher
        · exact .parent known
        · exact .step known higher
  refine ⟨fun id => ?_⟩
  induction id using wellFormed.grounded.induction with
  | _ id inductionHypothesis =>
      refine .intro id ?_
      intro upper known
      rw [parentIs] at known
      split at known
      · obtain rfl := Option.some.inj known
        exact apart target outside
      · exact inductionHypothesis upper known

/--
Appending nodes that are in no tree keeps a forest well formed, unless the
element is at or below one of them.
-/
theorem WellFormed.appendAll
    (wellFormed : forest.WellFormed)
    (tops : ∀ child ∈ added, forest.parent? child = none)
    (inForest : ∀ child : Nat, child ∈ added → child < forest.nodes.size)
    (addedNodup : added.Nodup)
    (isElement : forest.isElement target = true)
    (outside : ∀ child ∈ added, ¬ forest.AtOrAbove child target) :
    (forest.appendAll target added).WellFormed := by
  -- From here on only what `appendAll` does to parents and children is used.
  have targetNotAdded : target ∉ added :=
    fun member => outside target member (.inl rfl)
  have parentIs :=
    parent?_appendAll tops inForest addedNodup targetNotAdded
  have childrenAre :=
    children_appendAll tops addedNodup targetNotAdded isElement
  have notListed :
      ∀ {parent child : NodeId},
        child ∈ added → child ∉ forest.children parent := by
    intro parent child member listed
    have known := wellFormed.parentOfChild listed
    simp [tops child member] at known
  refine
    { parentOfChild := ?_
      childOfParent := ?_
      childrenNodup := ?_
      grounded := wellFormed.grounded_of_parent? parentIs outside
      attributesNodup := ?_ }
  · intro parent child member
    rw [childrenAre] at member
    rw [parentIs]
    by_cases isAdded : child ∈ added
    · rw [if_pos isAdded]
      split at member
      · next isTarget =>
          rw [isTarget]
      · exact (notListed isAdded member).elim
    · rw [if_neg isAdded]
      split at member
      · exact wellFormed.parentOfChild
          ((List.mem_append.mp member).resolve_right isAdded)
      · exact wellFormed.parentOfChild member
  · intro parent child known
    rw [parentIs] at known
    rw [childrenAre]
    split at known
    · next isAdded =>
        obtain rfl := Option.some.inj known
        rw [if_pos rfl]
        exact List.mem_append_right _ isAdded
    · have listed := wellFormed.childOfParent known
      split
      · exact List.mem_append_left _ listed
      · exact listed
  · intro id
    rw [childrenAre]
    split
    · refine List.nodup_append.mpr
        ⟨wellFormed.childrenNodup id, addedNodup, ?_⟩
      rintro child listed other isAdded rfl
      exact notListed isAdded listed
    · exact wellFormed.childrenNodup id
  · intro id
    rw [attributes_appendAll tops addedNodup targetNotAdded]
    exact wellFormed.attributesNodup id

end Append

/-! ## Appending trees -/

namespace Grows

variable {grown : Forest} {roots : List NodeId} {trees : List Tree}

/-- What is above an old node is old. -/
theorem lt_size_of_above
    {parent : Option NodeId}
    (grows : forest.Grows grown parent roots trees)
    (wellFormed : forest.WellFormed)
    {upper lower : Nat}
    (above : grown.Above upper lower)
    (known : lower < forest.nodes.size) :
    upper < forest.nodes.size := by
  have parentOld :
      ∀ {id above : Nat},
        grown.parent? id = some above →
          id < forest.nodes.size →
            above < forest.nodes.size := by
    intro id above parentKnown old
    rw [(grows.same_of_lt old).1] at parentKnown
    exact lt_size_of_isElement (wellFormed.isElement_of_parent? parentKnown)
  induction above with
  | parent parentKnown =>
      exact parentOld parentKnown known
  | step parentKnown _ inductionHypothesis =>
      exact inductionHypothesis (parentOld parentKnown known)

/-- Growth by trees at the top keeps a forest well formed. -/
theorem wellFormed
    (grows : forest.Grows grown none roots trees)
    (wellFormed : forest.WellFormed) :
    grown.WellFormed where
  parentOfChild {parent child} member := by
    by_cases old : parent < forest.nodes.size
    · rw [(grows.same_of_lt old).2.1] at member
      have known := wellFormed.parentOfChild member
      obtain ⟨content, found⟩ := node?_of_parent? known
      rw [(grows.same_of_lt (lt_size_of_node? found)).1]
      exact known
    · exact (grows.listed parent child (Nat.not_lt.mp old) member).2
  childOfParent {parent child} known := by
    by_cases old : child < forest.nodes.size
    · have parentOld :=
        grows.lt_size_of_above wellFormed (.parent known) old
      rw [(grows.same_of_lt old).1] at known
      rw [(grows.same_of_lt parentOld).2.1]
      exact wellFormed.childOfParent known
    · obtain ⟨content, found⟩ := node?_of_parent? known
      rcases grows.inner child (Nat.not_lt.mp old)
          (lt_size_of_node? found) with isRoot | inside
      · have isTop := (grows.root child isRoot).2.2
        simp [known] at isTop
      · obtain ⟨upper, -, -, upperKnown, member⟩ := inside
        obtain rfl := Option.some.inj (known.symm.trans upperKnown)
        exact member
  childrenNodup id := by
    by_cases old : id < forest.nodes.size
    · rw [(grows.same_of_lt old).2.1]
      exact wellFormed.childrenNodup id
    · exact grows.childrenNodup id (Nat.not_lt.mp old)
  grounded := by
    -- Old nodes keep their ways up, and the parent of a new node that is not at
    -- the top has a smaller name.
    have oldGrounded :
        ∀ id : Nat,
          id < forest.nodes.size →
            Acc (fun upper lower => grown.parent? lower = some upper) id := by
      intro id
      induction id using wellFormed.grounded.induction with
      | _ id inductionHypothesis =>
          intro old
          refine .intro id ?_
          intro upper known
          have upperOld :=
            grows.lt_size_of_above wellFormed (.parent known) old
          rw [(grows.same_of_lt old).1] at known
          exact inductionHypothesis upper known upperOld
    refine ⟨fun id => ?_⟩
    induction id using Nat.strongRecOn with
    | _ id inductionHypothesis =>
        by_cases old : id < forest.nodes.size
        · exact oldGrounded id old
        · refine .intro id ?_
          intro upper known
          obtain ⟨content, found⟩ := node?_of_parent? known
          rcases grows.inner id (Nat.not_lt.mp old)
              (lt_size_of_node? found) with isRoot | inside
          · have isTop := (grows.root id isRoot).2.2
            simp [known] at isTop
          · obtain ⟨other, -, smaller, otherKnown, -⟩ := inside
            obtain rfl := Option.some.inj (known.symm.trans otherKnown)
            exact inductionHypothesis upper smaller
  attributesNodup id := by
    by_cases old : id < forest.nodes.size
    · rw [(grows.same_of_lt old).2.2]
      exact wellFormed.attributesNodup id
    · exact grows.attributesNodup id (Nat.not_lt.mp old)

end Grows

/-- An element has received trees as its last children. -/
structure Receives
    (forest received : Forest)
    (target : NodeId)
    (roots : List NodeId)
    (trees : List Tree) : Prop where
  wellFormed :
    received.WellFormed
  rootsNew :
    ∀ id : Nat, id ∈ roots → forest.nodes.size ≤ id
  spans :
    received.SpansAll roots trees
  old :
    ∀ id : Nat,
      id < forest.nodes.size →
        received.node? id =
          (forest.node? id).map fun node =>
            if id = target then
              { node with
                content := Content.withChildren (· ++ roots) node.content }
            else
              node

/-- An element receives the trees that are appended to it. -/
theorem exists_receives
    (wellFormed : forest.WellFormed)
    {target : NodeId}
    (isElement : forest.isElement target = true)
    {trees : List Tree}
    (distinct : AttributesNodupAll trees) :
    ∃ roots,
      forest.Receives (forest.appendTrees target trees) target roots trees := by
  have grows := grows_addTrees trees forest none distinct
  rw [appendTrees]
  generalize forest.addTrees none trees = added at grows ⊢
  rcases added with ⟨grown, roots⟩
  dsimp only at grows ⊢
  have targetOld : target < forest.nodes.size :=
    lt_size_of_isElement isElement
  have tops : ∀ child ∈ roots, grown.parent? child = none :=
    fun child member => (grows.root child member).2.2
  have outside : ∀ child ∈ roots, ¬ grown.AtOrAbove child target := by
    intro child member reached
    have childNew := (grows.root child member).1
    rcases reached with rfl | above
    · exact Nat.not_lt.mpr childNew targetOld
    · exact Nat.not_lt.mpr childNew
        (grows.lt_size_of_above wellFormed above targetOld)
  have targetNotRoot : target ∉ roots :=
    fun member => outside target member (.inl rfl)
  have targetElement : grown.isElement target = true := by
    rw [Forest.isElement, tag?, grows.old target targetOld]
    exact isElement
  have nodeIs := node?_appendAll tops grows.rootsNodup targetNotRoot
  refine
    ⟨roots,
      { wellFormed :=
          (grows.wellFormed wellFormed).appendAll tops
            (fun child member => (grows.root child member).2.1)
            grows.rootsNodup targetElement outside
        rootsNew := fun id member => (grows.root id member).1
        spans := ?_
        old := ?_ }⟩
  · apply grows.spans
    intro id new _
    have different : id ≠ target := by
      rintro rfl
      exact Nat.not_lt.mpr new targetOld
    rw [content?, content?, nodeIs]
    cases grown.node? id <;> simp [different]
  · intro id old
    have notRoot : id ∉ roots := by
      intro member
      exact Nat.not_lt.mpr (grows.root id member).1 old
    rw [nodeIs, grows.old id old]
    cases forest.node? id with
    | none =>
        rfl
    | some node =>
        by_cases isTarget : id = target <;>
          simp [isTarget, notRoot, targetNotRoot]

/-! ## Replacing -/

/-- The content of an element has been replaced by trees. -/
structure Replaced
    (forest replaced : Forest)
    (target : NodeId)
    (trees : List Tree) : Prop where
  wellFormed :
    replaced.WellFormed
  /-- The element keeps its place, its tag and its attributes. -/
  element :
    ∀ tag table listed,
      forest.content? target = some (.element tag table listed) →
        replaced.Spans target (.element tag table trees) ∧
          replaced.parent? target = forest.parent? target
  /-- Other old nodes stay as they are, apart from the old children. -/
  old :
    ∀ id : Nat,
      id < forest.nodes.size →
        id ≠ target →
          replaced.node? id =
            (forest.node? id).map fun node =>
              if id ∈ forest.children target then
                { node with parent := none }
              else
                node
  /-- No other old node is below the element. -/
  apart :
    ∀ id : Nat,
      id < forest.nodes.size →
        id ≠ target →
          ¬ replaced.AtOrAbove target id

/-- An old node is above another one only if it was above it before. -/
theorem Receives.above_of_lt_size
    {received : Forest}
    {target : NodeId}
    {roots : List NodeId}
    {trees : List Tree}
    (receives : forest.Receives received target roots trees)
    (wellFormed : forest.WellFormed)
    {upper lower : Nat}
    (above : received.Above upper lower)
    (known : lower < forest.nodes.size) :
    forest.Above upper lower := by
  have sameParent :
      ∀ {id : Nat},
        id < forest.nodes.size →
          received.parent? id = forest.parent? id := by
    intro id old
    rw [parent?, parent?, receives.old id old]
    cases forest.node? id with
    | none =>
        rfl
    | some node =>
        by_cases isTarget : id = target <;> simp [isTarget]
  induction above with
  | parent parentKnown =>
      rw [sameParent known] at parentKnown
      exact .parent parentKnown
  | step parentKnown _ inductionHypothesis =>
      rw [sameParent known] at parentKnown
      refine .step parentKnown (inductionHypothesis ?_)
      exact lt_size_of_isElement (wellFormed.isElement_of_parent? parentKnown)

/--
Clearing an element and appending trees to it replaces its content by the trees.
-/
theorem replaced_appendTrees_clear
    (wellFormed : forest.WellFormed)
    {target : NodeId}
    (isElement : forest.isElement target = true)
    {trees : List Tree}
    (distinct : AttributesNodupAll trees) :
    forest.Replaced ((forest.clear target).appendTrees target trees) target
      trees := by
  have cleared := wellFormed.clear target
  obtain ⟨tag, table, listed, known⟩ := exists_content?_of_isElement isElement
  obtain ⟨⟨parent, content⟩, found, rfl⟩ :=
    Option.map_eq_some_iff.mp known
  have notOwnChild : target ∉ forest.children target := by
    intro member
    exact
      wellFormed.not_above_self target
        (.parent (wellFormed.parentOfChild member))
  have clearedTarget :
      (forest.clear target).node? target =
        some ⟨parent, .element tag table []⟩ := by
    rw [node?_clear, found]
    simp [notOwnChild, Content.withChildren]
  have clearedElement : (forest.clear target).isElement target = true := by
    rw [Forest.isElement, tag?, clearedTarget]
    rfl
  obtain ⟨roots, receives⟩ := exists_receives cleared clearedElement distinct
  have receivedTarget :=
    receives.old target (lt_size_of_node? clearedTarget)
  rw [clearedTarget] at receivedTarget
  refine
    { wellFormed := receives.wellFormed
      element := ?_
      old := ?_
      apart := ?_ }
  · intro otherTag otherTable otherListed content
    rw [known] at content
    cases content
    constructor
    · refine .element ?_ receives.spans
      rw [content?, receivedTarget]
      simp [Content.withChildren]
    · rw [parent?, receivedTarget, parent?, found]
      simp
  · intro id old different
    rw [receives.old id (by rw [size_clear]; exact old), node?_clear]
    cases forest.node? id with
    | none =>
        rfl
    | some node =>
        by_cases member : id ∈ forest.children target <;>
          simp [different, member]
  · rintro id old different (rfl | above)
    · exact different rfl
    · have before :=
        receives.above_of_lt_size cleared above (by rw [size_clear]; exact old)
      obtain ⟨child, parentKnown, -⟩ := before.exists_child
      have member := cleared.childOfParent parentKnown
      rw [children_clear, if_pos rfl] at member
      cases member

end PageScript.Document.Forest
