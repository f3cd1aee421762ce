import PageScript.Proofs.Document.Replacement
import PageScript.Proofs.Markup.Parsed

namespace PageScript.Document

open Markup

/-!
# Pages as trees

A page with given content is a well-formed forest, and its root spans an `html`
element with exactly that content in its `head` and its `body`.  In particular
every page that is read from markup is well formed.
-/

namespace Forest

variable {forest other : Forest}

/-- A forest with the same edges as a well-formed one is well formed. -/
theorem WellFormed.of_same_edges
    (wellFormed : forest.WellFormed)
    (sameParents : ∀ id, other.parent? id = forest.parent? id)
    (sameChildren : ∀ id, other.children id = forest.children id)
    (attributesNodup : ∀ id, (other.attributes id).keys.Nodup) :
    other.WellFormed where
  parentOfChild {parent child} member := by
    rw [sameParents]
    rw [sameChildren] at member
    exact wellFormed.parentOfChild member
  childOfParent {parent child} known := by
    rw [sameChildren]
    rw [sameParents] at known
    exact wellFormed.childOfParent known
  childrenNodup id := by
    rw [sameChildren]
    exact wellFormed.childrenNodup id
  grounded := by
    refine Subrelation.wf ?_ wellFormed.grounded
    intro upper lower known
    rw [sameParents] at known
    exact known
  attributesNodup := attributesNodup

@[simp] theorem parent?_modifyAttributes
    (id other : NodeId)
    (change : Table String String → Table String String) :
    (forest.modifyAttributes id change).parent? other = forest.parent? other := by
  rw [parent?, parent?, node?_modifyAttributes]
  cases forest.node? other with
  | none =>
      rfl
  | some node =>
      by_cases same : other = id <;> simp [same]

@[simp] theorem children_modifyAttributes
    (id other : NodeId)
    (change : Table String String → Table String String) :
    (forest.modifyAttributes id change).children other = forest.children other := by
  rw [children, children, node?_modifyAttributes]
  cases forest.node? other with
  | none =>
      rfl
  | some node =>
      rcases node with ⟨parent, content⟩
      by_cases same : other = id <;>
        cases content <;> simp [same, Content.withAttributes]

/-- New attributes without repetition keep a forest well formed. -/
theorem WellFormed.modifyAttributes
    (wellFormed : forest.WellFormed)
    (id : NodeId)
    {change : Table String String → Table String String}
    (nodup : ∀ table, table.keys.Nodup → (change table).keys.Nodup) :
    (forest.modifyAttributes id change).WellFormed := by
  have nodeIs := fun other => @node?_modifyAttributes forest id other change
  refine wellFormed.of_same_edges ?_ ?_ ?_
  · intro other
    simp
  · intro other
    simp
  · intro other
    have before := wellFormed.attributesNodup other
    rw [attributes] at before ⊢
    rw [nodeIs]
    cases found : forest.node? other with
    | none =>
        exact List.nodup_nil
    | some node =>
        rw [found] at before
        rcases node with ⟨parent, content⟩
        cases content with
        | text data =>
            by_cases same : other = id <;>
              simpa [same, Content.withAttributes] using before
        | element tag table listed =>
            by_cases same : other = id
            · simpa [same, Content.withAttributes] using nodup table before
            · simpa [same] using before

theorem AtOrAbove.lt_size
    {upper lower : Nat}
    (reached : forest.AtOrAbove upper lower)
    (known : upper < forest.nodes.size) :
    lower < forest.nodes.size := by
  rcases reached with rfl | above
  · exact known
  · exact above.lower_lt_size

end Forest

namespace Page

/-- The blank page is well formed. -/
theorem blank_wellFormed :
    blank.forest.WellFormed := by
  have emptyWellFormed : Forest.empty.WellFormed := by
    have nothing := fun id : NodeId =>
      @Forest.missing_of_size_le .empty id (Nat.zero_le id)
    refine
      { parentOfChild := fun {parent child} member => ?_
        childOfParent := fun {parent child} known => ?_
        childrenNodup := fun id => ?_
        grounded := ⟨fun lower => .intro lower fun upper known => ?_⟩
        attributesNodup := fun id => ?_ }
    · rw [(nothing parent).2.1] at member
      cases member
    · rw [(nothing child).1] at known
      cases known
    · rw [(nothing id).2.1]
      exact List.nodup_nil
    · rw [(nothing lower).1] at known
      cases known
    · rw [(nothing id).2.2]
      exact List.nodup_nil
  have grows :=
    Forest.grows_addTree
      (.element "html" ⟨[]⟩
        [.element "head" ⟨[]⟩ [], .element "body" ⟨[]⟩ []])
      .empty none
      ⟨List.nodup_nil, ⟨List.nodup_nil, trivial⟩, ⟨List.nodup_nil, trivial⟩,
        trivial⟩
  exact grows.wellFormed emptyWellFormed

/-- The tree of a page with the given content. -/
def contentTree (content : PageContent) : Tree :=
  .element "html" ⟨[]⟩
    [.element "head" ⟨[]⟩ content.head,
      .element "body" content.bodyAttributes content.body]

/-- The root, the head and the body of a page, with what the last two list. -/
structure Frame
    (forest : Forest)
    (headRoots : List NodeId)
    (attributes : Table String String)
    (bodyRoots : List NodeId) : Prop where
  root :
    forest.node? 0 = some ⟨none, .element "html" ⟨[]⟩ [1, 2]⟩
  head :
    forest.node? 1 = some ⟨some 0, .element "head" ⟨[]⟩ headRoots⟩
  body :
    forest.node? 2 = some ⟨some 0, .element "body" attributes bodyRoots⟩

namespace Frame

variable {forest other : Forest} {headRoots bodyRoots roots : List NodeId}
  {attributes : Table String String} {trees : List Tree}

theorem blank :
    Frame Page.blank.forest [] ⟨[]⟩ [] :=
  ⟨rfl, rfl, rfl⟩

/-- The head lists the trees that it receives. -/
theorem receivesHead
    (frame : Frame forest headRoots attributes bodyRoots)
    (receives : forest.Receives other 1 roots trees) :
    Frame other (headRoots ++ roots) attributes bodyRoots where
  root := by
    rw [receives.old 0 (Forest.lt_size_of_node? frame.root), frame.root]
    rfl
  head := by
    rw [receives.old 1 (Forest.lt_size_of_node? frame.head), frame.head]
    rfl
  body := by
    rw [receives.old 2 (Forest.lt_size_of_node? frame.body), frame.body]
    rfl

theorem receivesBody
    (frame : Frame forest headRoots attributes bodyRoots)
    (receives : forest.Receives other 2 roots trees) :
    Frame other headRoots attributes (bodyRoots ++ roots) where
  root := by
    rw [receives.old 0 (Forest.lt_size_of_node? frame.root), frame.root]
    rfl
  head := by
    rw [receives.old 1 (Forest.lt_size_of_node? frame.head), frame.head]
    rfl
  body := by
    rw [receives.old 2 (Forest.lt_size_of_node? frame.body), frame.body]
    rfl

/-- The body can be given other attributes. -/
theorem modifyAttributes
    (frame : Frame forest headRoots attributes bodyRoots)
    (table : Table String String) :
    Frame (forest.modifyAttributes 2 fun _ => table) headRoots table
      bodyRoots where
  root := by
    rw [Forest.node?_modifyAttributes, frame.root]
    rfl
  head := by
    rw [Forest.node?_modifyAttributes, frame.head]
    rfl
  body := by
    rw [Forest.node?_modifyAttributes, frame.body]
    rfl

/-- Below a node that was added later there is no body. -/
theorem not_atOrAbove_body
    (frame : Frame forest headRoots attributes bodyRoots)
    {id : Nat}
    (later : 2 < id) :
    ¬ forest.AtOrAbove id 2 := by
  have bodyParent : forest.parent? 2 = some 0 := by
    rw [Forest.parent?, frame.body]
    rfl
  have rootParent : forest.parent? 0 = none := by
    rw [Forest.parent?, frame.root]
    rfl
  rintro (rfl | above)
  · exact Nat.lt_irrefl _ later
  · obtain ⟨parent, known, reached⟩ := above.exists_parent
    obtain rfl := Option.some.inj (bodyParent.symm.trans known)
    rcases reached with rfl | higher
    · exact Nat.not_lt_zero _ later
    · obtain ⟨upper, upperKnown, -⟩ := higher.exists_parent
      rw [rootParent] at upperKnown
      cases upperKnown

/-- Trees at nodes that were added later are kept when only the body changes. -/
theorem keep
    (frame : Frame forest headRoots attributes bodyRoots)
    (wellFormed : forest.WellFormed)
    (spans : forest.SpansAll roots trees)
    (later : ∀ id : Nat, id ∈ roots → 2 < id)
    (same :
      ∀ id,
        id < forest.nodes.size →
          id ≠ 2 → other.content? id = forest.content? id) :
    other.SpansAll roots trees := by
  refine spans.keep wellFormed fun id member node reached => ?_
  refine same node (reached.lt_size (spans.lt_size member)) ?_
  rintro rfl
  exact frame.not_atOrAbove_body (later id member) reached

/-- The root of a page spans what its head and its body span. -/
theorem spans
    {content : PageContent}
    (frame : Frame forest headRoots content.bodyAttributes bodyRoots)
    (head : forest.SpansAll headRoots content.head)
    (body : forest.SpansAll bodyRoots content.body) :
    forest.Spans 0 (contentTree content) := by
  have rootContent :
      forest.content? 0 = some (.element "html" ⟨[]⟩ [1, 2]) := by
    rw [Forest.content?, frame.root]
    rfl
  have headContent :
      forest.content? 1 = some (.element "head" ⟨[]⟩ headRoots) := by
    rw [Forest.content?, frame.head]
    rfl
  have bodyContent :
      forest.content? 2 =
        some (.element "body" content.bodyAttributes bodyRoots) := by
    rw [Forest.content?, frame.body]
    rfl
  exact
    .element rootContent
      (.cons (.element headContent head)
        (.cons (.element bodyContent body) .nil))

end Frame

/--
The page with given content is well formed, and its root spans this content.
-/
theorem ofContent_spans
    {content : PageContent}
    (headNodup : AttributesNodupAll content.head)
    (attributesNodup : content.bodyAttributes.keys.Nodup)
    (bodyNodup : AttributesNodupAll content.body) :
    (ofContent content).forest.WellFormed ∧
      (ofContent content).forest.Spans (ofContent content).root
        (contentTree content) := by
  change
    (((blank.forest.appendTrees 1 content.head).appendTrees 2
        content.body).modifyAttributes 2
      fun _ => content.bodyAttributes).WellFormed ∧
      (((blank.forest.appendTrees 1 content.head).appendTrees 2
          content.body).modifyAttributes 2
        fun _ => content.bodyAttributes).Spans 0 (contentTree content)
  obtain ⟨headRoots, first⟩ :=
    @Forest.exists_receives _ blank_wellFormed 1 rfl _ headNodup
  generalize blank.forest.appendTrees 1 content.head = withHead at first ⊢
  have headFrame := Frame.blank.receivesHead first
  have isElement : withHead.isElement 2 = true := by
    rw [Forest.isElement, Forest.tag?, headFrame.body]
    rfl
  obtain ⟨bodyRoots, second⟩ :=
    @Forest.exists_receives _ first.wellFormed 2 isElement _ bodyNodup
  generalize withHead.appendTrees 2 content.body = withBody at second ⊢
  have bodyFrame := headFrame.receivesBody second
  -- The trees in the head stay when the body is filled, and both stay when the
  -- body gets its attributes, because the body is below none of them.
  have keptByBody :
      ∀ id,
        id < withHead.nodes.size →
          id ≠ 2 → withBody.content? id = withHead.content? id := by
    intro id old different
    rw [Forest.content?, Forest.content?, second.old id old]
    cases withHead.node? id <;> simp [different]
  have keptByAttributes :
      ∀ id,
        id < withBody.nodes.size →
          id ≠ 2 →
            (withBody.modifyAttributes 2
                fun _ => content.bodyAttributes).content? id =
              withBody.content? id := by
    intro id _ different
    rw [Forest.content?, Forest.content?, Forest.node?_modifyAttributes]
    cases withBody.node? id <;> simp [different]
  have headLater : ∀ id : Nat, id ∈ headRoots → 2 < id := first.rootsNew
  have bodyLater : ∀ id : Nat, id ∈ bodyRoots → 2 < id :=
    fun id member =>
      Nat.lt_of_lt_of_le (Forest.lt_size_of_node? headFrame.body)
        (second.rootsNew id member)
  have headSpans :=
    bodyFrame.keep second.wellFormed
      (headFrame.keep first.wellFormed first.spans headLater keptByBody)
      headLater keptByAttributes
  have bodySpans :=
    bodyFrame.keep second.wellFormed second.spans bodyLater keptByAttributes
  exact
    ⟨second.wellFormed.modifyAttributes 2 fun _ _ => attributesNodup,
      (bodyFrame.modifyAttributes content.bodyAttributes).spans headSpans
        bodySpans⟩

end Page

namespace PageContent

variable {property : ElementProperty}

theorem treesEvery_append
    {first second : List Tree}
    (firstEvery : TreesEvery property first)
    (secondEvery : TreesEvery property second) :
    TreesEvery property (first ++ second) := by
  rw [treesEvery_iff] at firstEvery secondEvery ⊢
  exact List.forall_mem_append.mpr ⟨firstEvery, secondEvery⟩

/-- Trees of sound elements are distributed to such trees. -/
theorem every_ofTops
    (attributesSound :
      ∀ {tag attributes children},
        property tag attributes children → AttributesSound attributes)
    {tops : List Tree}
    (every : TreesEvery property tops) :
    TreesEvery property (ofTops tops).head ∧
      AttributesSound (ofTops tops).bodyAttributes ∧
      TreesEvery property (ofTops tops).body := by
  induction tops with
  | nil =>
      exact ⟨trivial, .empty, trivial⟩
  | cons top rest inductionHypothesis =>
      obtain ⟨topEvery, restEvery⟩ := every
      obtain ⟨head, attributes, body⟩ := inductionHypothesis restEvery
      unfold ofTops
      dsimp only
      split
      · exact ⟨treesEvery_append topEvery.2 head, attributes, body⟩
      · exact
          ⟨head, (attributesSound topEvery.1).insertAll attributes,
            treesEvery_append topEvery.2 body⟩
      · exact ⟨head, attributes, topEvery, body⟩

/-- A property of all elements holds of those that are distributed. -/
theorem every_tops
    {trees : List Tree}
    (every : TreesEvery property trees) :
    TreesEvery property (tops trees) := by
  rw [tops]
  split
  · next children found =>
      obtain ⟨tree, member, isHtml⟩ := List.exists_of_findSome?_eq_some found
      have treeEvery := treesEvery_iff.mp every tree member
      split at isHtml
      · cases isHtml
        exact treeEvery.2
      · cases isHtml
  · exact every

end PageContent

namespace Page

/--
A page that is read is well formed, and its root spans the content of the
markup.
-/
theorem ofMarkup_spans
    {markup : String}
    {trees : List Tree}
    (readable : parseTrees markup = .ok trees) :
    ∃ page,
      ofMarkup markup = .ok page ∧
        page.forest.WellFormed ∧
        page.forest.Spans page.root
          (contentTree (PageContent.ofTrees trees)) := by
  obtain ⟨head, attributes, body⟩ :=
    PageContent.every_ofTops IsSound.attributes
      (PageContent.every_tops (treesEvery_isSound_of_parseTrees readable))
  refine
    ⟨ofContent (PageContent.ofTrees trees), ?_,
      ofContent_spans head.attributesNodupAll attributes.once
        body.attributesNodupAll⟩
  rw [ofMarkup, readable]
  rfl

end Page

end PageScript.Document
