import PageScript.Proofs.Markup.RoundTrip

namespace PageScript.Document

/-!
# Pages that are read again

The markup of a page of sound elements can be read.  The page that is read has
the skeleton that follows from the children of the root: what stands in a head
goes to the head and everything else to the body.  A page whose root lists a head
and a body alone keeps its skeleton.
-/

open Markup

/-! ## Elements of a subtree -/

namespace Forest

variable {forest : Forest} {property : ElementProperty}

/-- A node has a property unless it is a text. -/
def Has (forest : Forest) (property : ElementProperty) (node : NodeId) : Prop :=
  ∀ tag attributes children,
    forest.Spans node (.element tag attributes children) →
      property tag attributes children

/-- A child and the nodes below it are below its parent. -/
theorem AtOrAbove.of_child
    (wellFormed : forest.WellFormed)
    {parent child node : NodeId}
    (listed : child ∈ forest.children parent)
    (reached : forest.AtOrAbove child node) :
    forest.AtOrAbove parent node := by
  have known := wellFormed.parentOfChild listed
  rcases reached with rfl | above
  · exact .inr (.parent known)
  · exact .inr ((Above.parent known).trans above)

mutual

/-- A property of all nodes below a node holds of every element of its tree. -/
theorem Spans.every
    (wellFormed : forest.WellFormed)
    {id : NodeId} :
    ∀ {tree : Tree},
      forest.Spans id tree →
        (∀ node, forest.AtOrAbove id node → forest.Has property node) →
        tree.Every property
  | .text _, _, _ => trivial
  | .element _ _ _, .element known below, each => by
      refine ⟨each id (.inl rfl) _ _ _ (.element known below), ?_⟩
      refine SpansAll.every wellFormed below fun child member node reached => ?_
      rw [← children_of_content? known] at member
      exact each node (reached.of_child wellFormed member)

theorem SpansAll.every
    (wellFormed : forest.WellFormed)
    {ids : List NodeId} :
    ∀ {trees : List Tree},
      forest.SpansAll ids trees →
        (∀ id ∈ ids, ∀ node,
          forest.AtOrAbove id node → forest.Has property node) →
        TreesEvery property trees
  | [], .nil, _ => trivial
  | _ :: _, .cons first rest, each =>
      ⟨first.every wellFormed (each _ List.mem_cons_self),
        rest.every wellFormed fun id member =>
          each id (List.mem_cons_of_mem _ member)⟩

end

mutual

/-- A property of every element of a tree holds of all nodes that it spans. -/
theorem Spans.has
    (wellFormed : forest.WellFormed)
    {id node : NodeId}
    (reached : forest.AtOrAbove id node) :
    ∀ {tree : Tree},
      forest.Spans id tree → tree.Every property → forest.Has property node
  | .text _, .text known, _ => by
      rcases reached with rfl | above
      · intro _ _ _ spans
        cases (Spans.text known).unique spans
      · obtain ⟨child, parentKnown, -⟩ := above.exists_child
        have listed := wellFormed.childOfParent parentKnown
        rw [children_eq_content?, known] at listed
        cases listed
  | .element _ _ _, .element known below, ⟨here, each⟩ => by
      rcases reached with rfl | above
      · intro _ _ _ spans
        cases (Spans.element known below).unique spans
        exact here
      · obtain ⟨child, parentKnown, lower⟩ := above.exists_child
        have listed := wellFormed.childOfParent parentKnown
        rw [children_of_content? known] at listed
        exact SpansAll.has wellFormed listed lower below each

theorem SpansAll.has
    (wellFormed : forest.WellFormed)
    {id node : NodeId}
    {ids : List NodeId}
    (listed : id ∈ ids)
    (reached : forest.AtOrAbove id node) :
    ∀ {trees : List Tree},
      forest.SpansAll ids trees →
        TreesEvery property trees → forest.Has property node
  | [], .nil, _ => by
      cases listed
  | _ :: _, .cons first rest, ⟨here, each⟩ => by
      rcases List.mem_cons.mp listed with rfl | inRest
      · exact Spans.has wellFormed reached first here
      · exact SpansAll.has wellFormed inRest reached rest each

end

end Forest

end PageScript.Document

namespace PageScript.Markup

open Document

/-! ## The skeleton of a document -/

/-- Names in order, followed by the new ones of another list. -/
def joinNames (names more : List String) : List String :=
  more.foldl (fun joined name => if name ∈ joined then joined else joined ++ [name])
    names

namespace Skeleton

/-- What an element at the top of a document adds to the head. -/
def headPart : Skeleton → List Skeleton
  | .element "head" _ children => children
  | _ => []

/-- What an element at the top of a document adds to the body. -/
def bodyPart : Skeleton → List Skeleton
  | .element "head" _ _ => []
  | .element "body" _ children => children
  | skeleton => [skeleton]

/-- The names of the attributes of all bodies. -/
def bodyNames : List Skeleton → List String
  | [] => []
  | .element "body" names _ :: rest => joinNames names (bodyNames rest)
  | _ :: rest => bodyNames rest

/-- The skeleton of a page that distributes elements to its head and body. -/
def document (tops : List Skeleton) : Skeleton :=
  .element "html" []
    [.element "head" [] (tops.flatMap headPart),
      .element "body" (bodyNames tops) (tops.flatMap bodyPart)]

/-- An element that is neither a head nor a body goes to the body. -/
theorem parts_of_ne
    {tag : String}
    (notHead : tag ≠ "head")
    (notBody : tag ≠ "body")
    (names : List String)
    (children rest : List Skeleton) :
    headPart (.element tag names children) = [] ∧
      bodyPart (.element tag names children) = [.element tag names children] ∧
      bodyNames (.element tag names children :: rest) = bodyNames rest := by
  refine ⟨?_, ?_, ?_⟩
  · unfold headPart
    split
    · next same =>
        cases same
        exact absurd rfl notHead
    · rfl
  · unfold bodyPart
    split
    · next same =>
        cases same
        exact absurd rfl notHead
    · next same =>
        cases same
        exact absurd rfl notBody
    · rfl
  · rw [bodyNames]
    rintro otherNames otherChildren same
    cases same
    exact absurd rfl notBody

/-- A head and a body alone stay as they are. -/
theorem document_of_parts
    (head : List Skeleton)
    (names : List String)
    (body : List Skeleton) :
    document [.element "head" [] head, .element "body" names body] =
      .element "html" []
        [.element "head" [] head, .element "body" names body] := by
  simp [document, headPart, bodyPart, bodyNames, joinNames]

end Skeleton

theorem treesSkeletons_append
    (first second : List Tree) :
    treesSkeletons (first ++ second) =
      treesSkeletons first ++ treesSkeletons second := by
  induction first with
  | nil =>
      rfl
  | cons tree rest inductionHypothesis =>
      rw [List.cons_append, treesSkeletons, treesSkeletons,
        inductionHypothesis, List.append_assoc]

/-- Binding attributes adds their names. -/
theorem keys_insertAll
    (attributes : Table String String)
    (entries : List (String × String)) :
    (attributes.insertAll entries).keys =
      joinNames attributes.keys (entries.map (·.1)) := by
  induction entries generalizing attributes with
  | nil =>
      rfl
  | cons entry rest inductionHypothesis =>
      have others := inductionHypothesis (attributes.insert entry.1 entry.2)
      rw [Table.keys_insert] at others
      exact others

/-- Trees are distributed like their skeletons. -/
theorem skeletons_ofTops
    (tops : List Tree) :
    treesSkeletons (PageContent.ofTops tops).head =
        (treesSkeletons tops).flatMap Skeleton.headPart ∧
      (PageContent.ofTops tops).bodyAttributes.keys =
        Skeleton.bodyNames (treesSkeletons tops) ∧
      treesSkeletons (PageContent.ofTops tops).body =
        (treesSkeletons tops).flatMap Skeleton.bodyPart := by
  induction tops with
  | nil =>
      exact ⟨rfl, rfl, rfl⟩
  | cons top rest inductionHypothesis =>
      obtain ⟨head, names, body⟩ := inductionHypothesis
      unfold PageContent.ofTops
      dsimp only
      rw [treesSkeletons, List.flatMap_append, List.flatMap_append]
      split
      · refine ⟨?_, names, ?_⟩
        · rw [treesSkeletons_append, head]
          simp [Tree.skeletons, Skeleton.headPart]
        · rw [body]
          simp [Tree.skeletons, Skeleton.bodyPart]
      · refine ⟨head, ?_, ?_⟩
        · rw [keys_insertAll]
          exact congrArg (joinNames _) names
        · rw [treesSkeletons_append, body]
          simp [Tree.skeletons, Skeleton.bodyPart]
      · next notHead notBody =>
          cases top with
          | text data =>
              exact ⟨head, names, body⟩
          | element tag attributes children =>
              have tagNotHead : tag ≠ "head" := by
                rintro rfl
                exact notHead _ _ rfl
              have tagNotBody : tag ≠ "body" := by
                rintro rfl
                exact notBody _ _ rfl
              obtain ⟨headPart, bodyPart, bodyNames⟩ :=
                Skeleton.parts_of_ne tagNotHead tagNotBody attributes.keys
                  (treesSkeletons children) (treesSkeletons rest)
              refine ⟨?_, ?_, ?_⟩
              · simp [Tree.skeletons, headPart, head]
              · simp [Tree.skeletons, bodyNames, names]
              · simp [treesSkeletons, Tree.skeletons, bodyPart, body]

/-- The skeleton of a page that is made of trees follows from their skeletons. -/
theorem skeletons_contentTree_ofTops
    (tops : List Tree) :
    (Page.contentTree (PageContent.ofTops tops)).skeletons =
      [.document (treesSkeletons tops)] := by
  obtain ⟨head, names, body⟩ := skeletons_ofTops tops
  rw [Skeleton.document, ← head, ← names, ← body]
  rfl

end PageScript.Markup

namespace PageScript.Document.Page

open Markup

/-- The skeleton of the elements of a page. -/
def skeleton? (page : Page) : Option (List Skeleton) :=
  (page.forest.tree? page.root).map Tree.skeletons

/-- The skeleton of the page that is read from the markup of a page. -/
def rereadSkeleton? (page : Page) : Option (List Skeleton) :=
  page.markup?.bind fun emitted => (ofMarkup emitted).toOption.bind skeleton?

/--
A page with the markup of sound elements is read again, and the skeleton follows
from these elements.
-/
theorem rereadSkeleton?_of_write
    {page : Page}
    {attributes writtenAttributes : Table String String}
    {children written : List Tree}
    (known :
      page.forest.tree? page.root =
        some (.element "html" attributes children))
    (same :
      Tree.write false (.element "html" attributes children) =
        Tree.write false (.element "html" writtenAttributes written))
    (sound :
      (Tree.element "html" writtenAttributes written).Every IsSoundAndPlain) :
    page.rereadSkeleton? = some [.document (treesSkeletons written)] := by
  have readable :
      TreesReadable (joinedAll [.element "html" writtenAttributes written]) :=
    treesReadable_joinedAll ⟨sound, trivial⟩
  have parsed := parseTrees_document readable rfl
  rw [writeTrees_joinedAll, writeTrees, writeTrees, List.append_nil, ← same]
    at parsed
  have markupIs :
      page.markup? =
        some
          ("<!DOCTYPE html>\n" ++
            String.ofList
              (Tree.write false (.element "html" attributes children))) := by
    rw [markup?, Forest.markup?, known]
    rfl
  obtain ⟨reread, read, wellFormed, spans⟩ := ofMarkup_spans parsed
  rw [rereadSkeleton?, markupIs, Option.bind_some, read]
  change reread.skeleton? = _
  rw [skeleton?, (Forest.tree?_eq_some wellFormed).mpr spans]
  change
    some (contentTree (PageContent.ofTops (joinedAll written))).skeletons = _
  rw [skeletons_contentTree_ofTops, treesSkeletons_joinedAll]

end PageScript.Document.Page
