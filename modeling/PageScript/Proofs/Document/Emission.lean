import PageScript.Proofs.Document.Cloning

namespace PageScript

/-!
# What is written out

A node is written out with another when it is this node, or a child of an element that
is written out and has an end tag: a void element is written without what it lists.
The markup of a node that is written out is part of the markup.  When an element gets
another content, the markup holds this content if the content of the element is written
out, and stays as it was if not.
-/

namespace Markup

/-- A tree is written as a part of the markup of its neighbours. -/
theorem write_infix_writeTrees
    (raw : Bool)
    {tree : Tree}
    {trees : List Tree}
    (member : tree ∈ trees) :
    tree.write raw <:+: writeTrees raw trees := by
  induction trees with
  | nil =>
      cases member
  | cons first rest inductionHypothesis =>
      rw [writeTrees]
      rcases List.mem_cons.mp member with rfl | later
      · exact (List.prefix_append _ _).isInfix
      · exact (inductionHypothesis later).trans (List.suffix_append _ _).isInfix

theorem writeTrees_append
    (raw : Bool)
    (first second : List Tree) :
    writeTrees raw (first ++ second) = writeTrees raw first ++ writeTrees raw second := by
  induction first with
  | nil =>
      rfl
  | cons tree rest inductionHypothesis =>
      rw [List.cons_append, writeTrees, writeTrees, inductionHypothesis, List.append_assoc]

/-- A void element is written as its start tag. -/
theorem write_of_isVoidTag
    {tag : String}
    (isVoid : isVoidTag tag = true)
    (attributes : Table String String)
    (children : List Tree)
    (raw : Bool) :
    (Tree.element tag attributes children).write raw = writeStartTag tag attributes := by
  rw [Tree.write, if_pos isVoid]

/-- An element with an end tag is written with its content. -/
theorem writeTrees_infix_write
    {tag : String}
    (closed : isVoidTag tag = false)
    (attributes : Table String String)
    (children : List Tree)
    (raw : Bool) :
    writeTrees (isRawTag tag) children <:+: (Tree.element tag attributes children).write raw := by
  rw [Tree.write, closed]
  exact ⟨writeStartTag tag attributes, writeEndTag tag, rfl⟩

end Markup

namespace Document.Forest

open Markup

variable {forest other : Forest} {root target id : NodeId} {tree : Tree}

/-! ## Nodes that are written out -/

/--
A node is written out with another: it is this node, or an element that is written out
lists it and has an end tag.
-/
inductive Emits (forest : Forest) (root : NodeId) : NodeId → Prop where
  | self :
      Emits forest root root
  | child
      {parent id : NodeId}
      {tag : String}
      {table : Table String String}
      {listed : List NodeId} :
      Emits forest root parent →
      forest.content? parent = some (.element tag table listed) →
      isVoidTag tag = false →
      id ∈ listed →
      Emits forest root id

/-- The content of an element is written out: the element is, and it has an end tag. -/
def EmitsContent (forest : Forest) (root target : NodeId) : Prop :=
  forest.Emits root target ∧
    ∃ tag, forest.tag? target = some tag ∧ isVoidTag tag = false

theorem Emits.trans
    {middle : NodeId}
    (first : forest.Emits root middle)
    (second : forest.Emits middle id) :
    forest.Emits root id := by
  induction second with
  | self =>
      exact first
  | child _ known closed listed inductionHypothesis =>
      exact .child inductionHypothesis known closed listed

/-- What is written out with a node is this node or below it. -/
theorem Emits.atOrAbove
    (wellFormed : forest.WellFormed)
    (emits : forest.Emits root id) :
    forest.AtOrAbove root id := by
  induction emits with
  | self =>
      exact .inl rfl
  | child _ known _ member inductionHypothesis =>
      exact inductionHypothesis.under (wellFormed.parent?_of_listed known member)

/-- A listed node spans one of the trees that are spanned together. -/
theorem SpansAll.exists_mem
    {ids : List NodeId}
    {trees : List Tree}
    (spans : forest.SpansAll ids trees)
    (member : id ∈ ids) :
    ∃ tree ∈ trees, forest.Spans id tree := by
  induction ids generalizing trees with
  | nil =>
      cases member
  | cons first rest inductionHypothesis =>
      cases spans with
      | cons firstSpans restSpans =>
          rcases List.mem_cons.mp member with rfl | later
          · exact ⟨_, List.mem_cons_self, firstSpans⟩
          · obtain ⟨tree, among, found⟩ := inductionHypothesis restSpans later
            exact ⟨tree, List.mem_cons_of_mem _ among, found⟩

theorem SpansAll.append
    {first second : List NodeId}
    {trees others : List Tree}
    (spans : forest.SpansAll first trees)
    (otherSpans : forest.SpansAll second others) :
    forest.SpansAll (first ++ second) (trees ++ others) := by
  induction first generalizing trees with
  | nil =>
      cases spans
      exact otherSpans
  | cons id rest inductionHypothesis =>
      cases spans with
      | cons firstSpans restSpans =>
          exact .cons firstSpans (inductionHypothesis restSpans)

/-- The texts in an element are written as its tag says. -/
theorem WellFormed.isRawPlace_of_listed
    (wellFormed : forest.WellFormed)
    {parent : NodeId}
    {tag : String}
    {table : Table String String}
    {listed : List NodeId}
    (known : forest.content? parent = some (.element tag table listed))
    (member : id ∈ listed) :
    forest.isRawPlace id = isRawTag tag := by
  rw [isRawPlace, wellFormed.parent?_of_listed known member, Option.bind_some,
    tag?_of_content? known]

/-- The markup of a node that is written out is part of the markup. -/
theorem Emits.write_infix
    (wellFormed : forest.WellFormed)
    (emits : forest.Emits root id)
    {whole part : Tree}
    (spans : forest.Spans root whole)
    (partSpans : forest.Spans id part) :
    part.write (forest.isRawPlace id) <:+: whole.write (forest.isRawPlace root) := by
  induction emits generalizing part with
  | self =>
      obtain rfl := spans.unique partSpans
      exact List.infix_rfl
  | @child parent id tag table listed _ known closed member inductionHypothesis =>
      obtain ⟨upper, upperSpans⟩ := exists_spans wellFormed (lt_size_of_content? known)
      refine List.IsInfix.trans ?_ (inductionHypothesis upperSpans)
      cases upperSpans with
      | text other =>
          cases known.symm.trans other
      | element other below =>
          cases known.symm.trans other
          obtain ⟨tree, among, found⟩ := below.exists_mem member
          rw [wellFormed.isRawPlace_of_listed known member, partSpans.unique found]
          exact
            (write_infix_writeTrees _ among).trans (writeTrees_infix_write closed _ _ _)

/-- The inner markup of an element is the markup of the trees inside it. -/
theorem innerMarkup?_of_spans
    (wellFormed : forest.WellFormed)
    {tag : String}
    {table : Table String String}
    {trees : List Tree}
    (spans : forest.Spans id (.element tag table trees)) :
    forest.innerMarkup? id = some (String.ofList (writeTrees (isRawTag tag) trees)) := by
  rw [innerMarkup?, (tree?_eq_some wellFormed).mpr spans]

/-! ## Another content for an element -/

/-- Two forests agree on the nodes of the first, but for the children that one element lists. -/
structure DiffersAt (forest other : Forest) (target : NodeId) : Prop where
  others :
    ∀ id : Nat,
      id < forest.nodes.size →
        id ≠ target →
          other.content? id = forest.content? id
  element :
    ∃ tag table listed changed,
      forest.content? target = some (.element tag table listed) ∧
        other.content? target = some (.element tag table changed)

theorem DiffersAt.refl
    (isElement : forest.isElement target = true) :
    forest.DiffersAt forest target := by
  obtain ⟨tag, table, listed, known⟩ := exists_content?_of_isElement isElement
  exact ⟨fun _ _ _ => rfl, tag, table, listed, listed, known, known⟩

theorem Replaced.differsAt
    {trees : List Tree}
    (replaced : forest.Replaced other target trees)
    (isElement : forest.isElement target = true) :
    forest.DiffersAt other target := by
  obtain ⟨tag, table, listed, known⟩ := exists_content?_of_isElement isElement
  obtain ⟨spans, -⟩ := replaced.element tag table listed known
  refine ⟨fun id old different => ?_, ?_⟩
  · rw [content?, content?, replaced.old id old different]
    cases forest.node? id with
    | none =>
        rfl
    | some node =>
        by_cases member : id ∈ forest.children target <;> simp [member]
  · cases spans with
    | element changed _ =>
        exact ⟨tag, table, listed, _, known, changed⟩

theorem Receives.content?_target
    {roots : List NodeId}
    {trees : List Tree}
    (receives : forest.Receives other target roots trees)
    {tag : String}
    {table : Table String String}
    {listed : List NodeId}
    (known : forest.content? target = some (.element tag table listed)) :
    other.content? target = some (.element tag table (listed ++ roots)) := by
  obtain ⟨node, found, shape⟩ := Option.map_eq_some_iff.mp known
  rw [content?, receives.old target (lt_size_of_node? found), found]
  simp [shape, Content.withChildren]

theorem Receives.differsAt
    {roots : List NodeId}
    {trees : List Tree}
    (receives : forest.Receives other target roots trees)
    (isElement : forest.isElement target = true) :
    forest.DiffersAt other target := by
  obtain ⟨tag, table, listed, known⟩ := exists_content?_of_isElement isElement
  refine
    ⟨fun id old different => ?_, tag, table, listed, listed ++ roots, known,
      receives.content?_target known⟩
  rw [content?, content?, receives.old id old]
  cases forest.node? id <;> simp [different]

namespace DiffersAt

/-- What is written out and is not inside the element is written out afterwards. -/
theorem emits
    (differs : forest.DiffersAt other target)
    (wellFormed : forest.WellFormed)
    (emits : forest.Emits root id)
    (notInside : ¬ forest.Above target id) :
    other.Emits root id := by
  induction emits with
  | self =>
      exact .self
  | @child parent id tag table listed _ known closed member inductionHypothesis =>
      have parentKnown := wellFormed.parent?_of_listed known member
      have different : parent ≠ target := by
        rintro rfl
        exact notInside (.parent parentKnown)
      have upper := inductionHypothesis fun above => notInside (.step parentKnown above)
      have same := differs.others parent (lt_size_of_content? known) different
      exact .child upper (same.trans known) closed member

mutual

/-- A node is written as before when the content of the element is not written out with it. -/
theorem write_eq
    (differs : forest.DiffersAt other target)
    {id : NodeId} :
    ∀ {before after : Tree},
      forest.Spans id before →
        other.Spans id after →
        ¬ forest.EmitsContent id target →
        ∀ raw, after.write raw = before.write raw
  | .text _, _, .text known, spans, _, _ => by
      obtain ⟨tag, table, listed, changed, element, -⟩ := differs.element
      have different : id ≠ target := by
        rintro rfl
        cases known.symm.trans element
      have same := differs.others id (lt_size_of_content? known) different
      cases spans with
      | text now =>
          cases known.symm.trans (same.symm.trans now)
          rfl
      | element now _ =>
          cases known.symm.trans (same.symm.trans now)
  | .element tag table trees, _, .element known below, spans, hidden, raw => by
      by_cases here : id = target
      · -- The content of the element is hidden here by its own tag.
        obtain ⟨otherTag, otherTable, listed, changed, element, now⟩ := differs.element
        rw [← here] at element now
        cases known.symm.trans element
        have isVoid : isVoidTag tag = true := by
          refine (Bool.not_eq_false _).mp fun closed => hidden ⟨?_, tag, ?_, closed⟩
          · rw [here]
            exact .self
          · rw [← here]
            exact tag?_of_content? known
        cases spans with
        | text other =>
            cases now.symm.trans other
        | element other _ =>
            cases now.symm.trans other
            rw [write_of_isVoidTag isVoid, write_of_isVoidTag isVoid]
      · have same := differs.others id (lt_size_of_content? known) here
        cases spans with
        | text now =>
            cases known.symm.trans (same.symm.trans now)
        | element now belowAfter =>
            cases known.symm.trans (same.symm.trans now)
            cases closed : isVoidTag tag with
            | true =>
                rw [write_of_isVoidTag closed, write_of_isVoidTag closed]
            | false =>
                rw [Tree.write, Tree.write,
                  writeTrees_eq differs below belowAfter fun child member shown =>
                    hidden ⟨(Emits.child .self known closed member).trans shown.1, shown.2⟩]

theorem writeTrees_eq
    (differs : forest.DiffersAt other target)
    {ids : List NodeId} :
    ∀ {before after : List Tree},
      forest.SpansAll ids before →
        other.SpansAll ids after →
        (∀ id ∈ ids, ¬ forest.EmitsContent id target) →
        ∀ raw, writeTrees raw after = writeTrees raw before
  | [], _, .nil, spans, _, _ => by
      cases spans
      rfl
  | _ :: _, _, .cons first rest, spans, hidden, raw => by
      cases spans with
      | cons firstAfter restAfter =>
          rw [writeTrees, writeTrees,
            write_eq differs first firstAfter (hidden _ List.mem_cons_self),
            writeTrees_eq differs rest restAfter fun id member =>
              hidden id (List.mem_cons_of_mem _ member)]

end

/-- The element keeps its tag, and so do all nodes. -/
theorem tag?
    (differs : forest.DiffersAt other target)
    {id : Nat}
    (old : id < forest.nodes.size) :
    other.tag? id = forest.tag? id := by
  by_cases here : id = target
  · obtain ⟨tag, table, listed, changed, element, now⟩ := differs.element
    rw [here, tag?_of_content? element, tag?_of_content? now]
  · rw [tag?_eq_content?, tag?_eq_content?, differs.others id old here]

/-- The markup of an element whose content is written out holds this content. -/
theorem inner_infix
    (differs : forest.DiffersAt other target)
    (wellFormed : forest.WellFormed)
    (otherWellFormed : other.WellFormed)
    (emitsContent : forest.EmitsContent root target)
    {tag : String}
    {table : Table String String}
    {trees : List Tree}
    {whole : Tree}
    (spans : other.Spans target (.element tag table trees))
    (rootSpans : other.Spans root whole) :
    writeTrees (isRawTag tag) trees <:+: whole.write (other.isRawPlace root) := by
  obtain ⟨emits, otherTag, known, closed⟩ := emitsContent
  have same : otherTag = tag := by
    obtain ⟨_, _, _, _, element, now⟩ := differs.element
    rw [tag?_of_content? element] at known
    cases known
    cases spans with
    | element other _ =>
        cases now.symm.trans other
        rfl
  subst same
  have after := differs.emits wellFormed emits (wellFormed.not_above_self target)
  exact
    (writeTrees_infix_write closed table trees _).trans
      (after.write_infix otherWellFormed rootSpans spans)

/--
What the element holds afterwards is part of the markup when the content of the element
is written out, and otherwise the markup stays as it was.
-/
theorem markup_cases
    (differs : forest.DiffersAt other target)
    (wellFormed : forest.WellFormed)
    (otherWellFormed : other.WellFormed)
    (isElement : forest.isElement root = true) :
    ∃ whole inner,
      other.markup? root = some whole ∧
        other.innerMarkup? target = some inner ∧
        (forest.EmitsContent root target → inner.toList <:+: whole.toList) ∧
        (¬ forest.EmitsContent root target → forest.markup? root = some whole) := by
  obtain ⟨_, _, _, _, -, now⟩ := differs.element
  have otherIsElement : other.isElement root = true := by
    rw [Forest.isElement, differs.tag? (lt_size_of_isElement isElement)]
    exact isElement
  have targetIsElement := isElement_of_content? now
  obtain ⟨_, _, _, before⟩ := exists_tree?_of_isElement wellFormed isElement
  obtain ⟨_, _, _, after⟩ := exists_tree?_of_isElement otherWellFormed otherIsElement
  obtain ⟨_, _, _, inside⟩ := exists_tree?_of_isElement otherWellFormed targetIsElement
  have spans := (tree?_eq_some wellFormed).mp before
  have rootSpans := (tree?_eq_some otherWellFormed).mp after
  have targetSpans := (tree?_eq_some otherWellFormed).mp inside
  refine
    ⟨_, _, markup?_of_tree? after, innerMarkup?_of_spans otherWellFormed targetSpans,
      fun shown => ?_, fun hidden => ?_⟩
  · rw [Tree.markup, String.toList_ofList, String.toList_ofList]
    exact differs.inner_infix wellFormed otherWellFormed shown targetSpans rootSpans
  · rw [markup?_of_tree? before, Tree.markup, Tree.markup,
      differs.write_eq spans rootSpans hidden]

end DiffersAt

/-- An element that receives trees spans what it spanned with these trees at its end. -/
theorem Receives.spans_target
    (wellFormed : forest.WellFormed)
    {roots : List NodeId}
    {tag : String}
    {table : Table String String}
    {trees added : List Tree}
    (receives : forest.Receives other target roots added)
    (spans : forest.Spans target (.element tag table trees)) :
    other.Spans target (.element tag table (trees ++ added)) := by
  cases spans with
  | @element _ _ _ listed _ known below =>
      have isElement := isElement_of_content? known
      refine
        .element (receives.content?_target known)
          (SpansAll.append (below.keep wellFormed ?_) receives.spans)
      intro child member node reached
      have parentKnown := wellFormed.parent?_of_listed known member
      refine
        (receives.differsAt isElement).others node
          (reached.lt_size (below.lt_size member)) ?_
      rintro rfl
      rcases reached with rfl | above
      · exact wellFormed.not_above_self _ (.parent parentKnown)
      · exact wellFormed.not_above_of_above above (.parent parentKnown)

end Document.Forest

end PageScript
