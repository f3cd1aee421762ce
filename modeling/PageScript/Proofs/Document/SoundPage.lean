import PageScript.Proofs.Document.Reread
import PageScript.Proofs.Document.Slots

namespace PageScript.Document

/-!
# Sound pages

Filling an element of a sound page with sound trees leaves all other elements
sound.  The filled element itself is sound unless it is a script or a style, whose
new content may be anything.  The same holds after a change of strings, except
for scripts and styles whose content it changes.
-/

open Markup

/-- The start tag of an element stands for it, and a void element has no children. -/
structure HasSoundTag
    (tag : String)
    (attributes : Table String String)
    (children : List Tree) : Prop where
  plain : IsPlainName tag
  attributes : AttributesSound attributes
  childless : isVoidTag tag = true → children = []

/-- The content of a script or a style does not end it. -/
def HasSoundContent : ElementProperty :=
  fun tag _ children => isRawTag tag = true → RawClosed tag children

theorem isSoundAndPlain_iff
    {tag : String}
    {attributes : Table String String}
    {children : List Tree} :
    IsSoundAndPlain tag attributes children ↔
      HasSoundTag tag attributes children ∧
        HasSoundContent tag attributes children := by
  constructor
  · rintro ⟨sound, plain⟩
    exact ⟨⟨plain, sound.attributes, sound.childless⟩, sound.closed⟩
  · rintro ⟨⟨plain, ⟨named, once⟩, childless⟩, closed⟩
    exact ⟨⟨named, once, childless, closed⟩, plain⟩

namespace Forest

variable {forest replaced : Forest} {root target : NodeId} {trees : List Tree}

/-- The elements below a node are sound, apart from the content of one of them. -/
structure SoundApartFrom (forest : Forest) (target root : NodeId) : Prop where
  tags : ∀ node, forest.AtOrAbove root node → forest.Has HasSoundTag node
  contents :
    ∀ node,
      forest.AtOrAbove root node →
        node ≠ target → forest.Has HasSoundContent node

/-! ## Filling an element -/

namespace Replaced

/-- Other old nodes keep their content. -/
theorem content?_old
    (filled : forest.Replaced replaced target trees)
    {id : NodeId}
    (old : id < forest.nodes.size)
    (different : id ≠ target) :
    replaced.content? id = forest.content? id := by
  rw [content?, content?, filled.old id old different, Option.map_map]
  refine Option.map_congr fun node _ => ?_
  dsimp only [Function.comp_apply]
  split <;> rfl

/-- The children of other old nodes stay where they are. -/
theorem parent?_old
    (filled : forest.Replaced replaced target trees)
    (wellFormed : forest.WellFormed)
    {parent child : NodeId}
    (old : parent < forest.nodes.size)
    (different : parent ≠ target)
    (known : replaced.parent? child = some parent) :
    forest.parent? child = some parent := by
  have listed := filled.wellFormed.childOfParent known
  rw [children_eq_content?, filled.content?_old old different,
    ← children_eq_content?] at listed
  exact wellFormed.parentOfChild listed

end Replaced

/-- Where a node below the root stands after an element has been filled. -/
inductive Place
    (forest replaced : Forest)
    (root target node : NodeId) : Prop where
  /-- It is the filled element or below it. -/
  | filled :
      forest.AtOrAbove root target →
      replaced.AtOrAbove target node →
      Place forest replaced root target node
  /-- It is another old node, which was below the root before. -/
  | old :
      node < forest.nodes.size →
      node ≠ target →
      forest.AtOrAbove root node →
      Place forest replaced root target node

namespace Place

variable {node : NodeId}

theorem of_lt_size
    (known : node < forest.nodes.size)
    (reached : forest.AtOrAbove root node) :
    Place forest replaced root target node := by
  by_cases isTarget : node = target
  · subst isTarget
    exact .filled reached (.inl rfl)
  · exact .old known isTarget reached

/-- The children of a node stand where the node stands, or in the filled element. -/
theorem child
    (filled : forest.Replaced replaced target trees)
    (wellFormed : forest.WellFormed)
    {parent : NodeId}
    (place : Place forest replaced root target parent)
    (known : replaced.parent? node = some parent) :
    Place forest replaced root target node := by
  cases place with
  | filled targetReached reached =>
      refine .filled targetReached (.inr ?_)
      rcases reached with rfl | above
      · exact .parent known
      · exact .step known above
  | old parentOld different reached =>
      have before := filled.parent?_old wellFormed parentOld different known
      obtain ⟨content, found⟩ := node?_of_parent? before
      refine of_lt_size (lt_size_of_node? found) (.inr ?_)
      rcases reached with rfl | above
      · exact .parent before
      · exact .step before above

theorem of_atOrAbove
    (filled : forest.Replaced replaced target trees)
    (wellFormed : forest.WellFormed)
    (known : root < forest.nodes.size)
    (reached : replaced.AtOrAbove root node) :
    Place forest replaced root target node := by
  have start : Place forest replaced root target root :=
    of_lt_size known (.inl rfl)
  rcases reached with rfl | above
  · exact start
  · induction above with
    | parent parentKnown =>
        exact start.child filled wellFormed parentKnown
    | step parentKnown _ inductionHypothesis =>
        exact inductionHypothesis.child filled wellFormed parentKnown

end Place

/-- Texts are kept where the contents of texts are. -/
theorem SpansAll.keep_texts
    {other : Forest}
    (kept :
      ∀ id data,
        forest.content? id = some (.text data) →
          other.content? id = some (.text data))
    {ids : List NodeId}
    {texts : List String}
    (spans : forest.SpansAll ids (texts.map .text)) :
    other.SpansAll ids (texts.map .text) := by
  induction texts generalizing ids with
  | nil =>
      cases spans
      exact .nil
  | cons data rest inductionHypothesis =>
      cases spans with
      | cons first others =>
          cases first with
          | text known =>
              exact .cons (.text (kept _ _ known)) (inductionHypothesis others)

/-- The children of an element span trees. -/
theorem exists_spansAll
    (wellFormed : forest.WellFormed)
    {node : NodeId}
    {tag : String}
    {attributes : Table String String}
    {listed : List NodeId}
    (known : forest.content? node = some (.element tag attributes listed)) :
    ∃ children, forest.SpansAll listed children := by
  obtain ⟨tree, spans⟩ :=
    exists_spans wellFormed (lt_size_of_content? known)
  cases spans with
  | text textKnown =>
      cases known.symm.trans textKnown
  | element elementKnown below =>
      cases known.symm.trans elementKnown
      exact ⟨_, below⟩

/-- No children are spanned by no nodes alone. -/
theorem SpansAll.eq_nil
    {other : Forest}
    {ids : List NodeId}
    {children : List Tree}
    (spans : forest.SpansAll ids children)
    (none : other.SpansAll ids []) :
    children = [] := by
  cases none
  cases spans
  rfl

namespace Replaced

variable {tree : Tree}

/-- An old element keeps its tag and its attributes. -/
theorem exists_spans_element
    (filled : forest.Replaced replaced target trees)
    {node : NodeId}
    {tag : String}
    {attributes : Table String String}
    {listed : List NodeId}
    (known : forest.content? node = some (.element tag attributes listed)) :
    ∃ children, replaced.Spans node (.element tag attributes children) := by
  by_cases isTarget : node = target
  · subst isTarget
    exact ⟨trees, (filled.element tag attributes listed known).1⟩
  · rw [← filled.content?_old (lt_size_of_content? known) isTarget] at known
    obtain ⟨children, below⟩ := exists_spansAll filled.wellFormed known
    exact ⟨children, .element known below⟩

/-- Another old element keeps its tag and its attributes, and a void one stays empty. -/
theorem has_soundTag_old
    (filled : forest.Replaced replaced target trees)
    (wellFormed : forest.WellFormed)
    {node : NodeId}
    (old : node < forest.nodes.size)
    (different : node ≠ target)
    (sound : forest.Has HasSoundTag node) :
    replaced.Has HasSoundTag node := by
  intro tag attributes children spans
  cases spans with
  | element known below =>
      rw [filled.content?_old old different] at known
      obtain ⟨before, beforeBelow⟩ := exists_spansAll wellFormed known
      obtain ⟨plain, attributesSound, childless⟩ :=
        sound tag attributes before (.element known beforeBelow)
      refine ⟨plain, attributesSound, fun void => ?_⟩
      rw [childless void] at beforeBelow
      exact below.eq_nil beforeBelow

theorem has_soundContent_old
    (filled : forest.Replaced replaced target trees)
    (wellFormed : forest.WellFormed)
    (isElement : forest.isElement target = true)
    {node : NodeId}
    (old : node < forest.nodes.size)
    (different : node ≠ target)
    (sound : forest.Has HasSoundContent node) :
    replaced.Has HasSoundContent node := by
  intro tag attributes children spans raw
  cases spans with
  | element known below =>
      rw [filled.content?_old old different] at known
      obtain ⟨before, beforeBelow⟩ := exists_spansAll wellFormed known
      obtain ⟨texts, rfl, noEnd⟩ :=
        sound tag attributes before (.element known beforeBelow) raw
      -- The filled element is no text, so the texts are kept.
      have kept :
          ∀ id data,
            forest.content? id = some (.text data) →
              replaced.content? id = some (.text data) := by
        intro id data textKnown
        rw [filled.content?_old (lt_size_of_content? textKnown), textKnown]
        rintro rfl
        obtain ⟨_, _, _, elementKnown⟩ := exists_content?_of_isElement isElement
        cases textKnown.symm.trans elementKnown
      exact ⟨texts, below.unique (beforeBelow.keep_texts kept), noEnd⟩

/-- Below the filled element stand the new trees. -/
theorem has_of_above
    (filled : forest.Replaced replaced target trees)
    (isElement : forest.isElement target = true)
    {property : ElementProperty}
    (each : TreesEvery property trees)
    {node : NodeId}
    (above : replaced.Above target node) :
    replaced.Has property node := by
  obtain ⟨tag, attributes, listed, known⟩ :=
    exists_content?_of_isElement isElement
  obtain ⟨spans, -⟩ := filled.element tag attributes listed known
  obtain ⟨child, parentKnown, reached⟩ := above.exists_child
  have childListed := filled.wellFormed.childOfParent parentKnown
  cases spans with
  | element targetKnown below =>
      rw [children_of_content? targetKnown] at childListed
      exact below.has filled.wellFormed childListed reached each

/-- Filling an element with sound trees leaves the other elements sound. -/
theorem soundApartFrom
    (filled : forest.Replaced replaced target trees)
    (wellFormed : forest.WellFormed)
    (isElement : forest.isElement target = true)
    (notVoid : ∀ tag, forest.tag? target = some tag → isVoidTag tag = false)
    (spans : forest.Spans root tree)
    (sound : tree.Every IsSoundAndPlain)
    (treesSound : TreesEvery IsSoundAndPlain trees) :
    replaced.SoundApartFrom target root := by
  have before :
      ∀ node,
        forest.AtOrAbove root node →
          forest.Has HasSoundTag node ∧ forest.Has HasSoundContent node := by
    intro node reached
    have has := spans.has wellFormed reached sound
    exact
      ⟨fun _ _ _ nodeSpans => (isSoundAndPlain_iff.mp (has _ _ _ nodeSpans)).1,
        fun _ _ _ nodeSpans => (isSoundAndPlain_iff.mp (has _ _ _ nodeSpans)).2⟩
  obtain ⟨tag, attributes, listed, known⟩ :=
    exists_content?_of_isElement isElement
  obtain ⟨targetSpans, -⟩ := filled.element tag attributes listed known
  have inside :
      ∀ node,
        replaced.Above target node → replaced.Has IsSoundAndPlain node :=
    fun node => filled.has_of_above isElement treesSound
  refine ⟨fun node reached => ?_, fun node reached different => ?_⟩
  · cases Place.of_atOrAbove filled wellFormed spans.lt_size reached with
    | filled targetReached nodeReached =>
        rcases nodeReached with rfl | above
        · intro _ _ _ nodeSpans
          cases nodeSpans.unique targetSpans
          obtain ⟨children, below⟩ := exists_spansAll wellFormed known
          obtain ⟨plain, attributesSound, -⟩ :=
            (before _ targetReached).1 _ _ _ (.element known below)
          refine ⟨plain, attributesSound, fun void => ?_⟩
          rw [notVoid tag (tag?_of_content? known)] at void
          cases void
        · intro _ _ _ nodeSpans
          exact (isSoundAndPlain_iff.mp (inside node above _ _ _ nodeSpans)).1
    | old nodeOld different nodeReached =>
        exact
          filled.has_soundTag_old wellFormed nodeOld different
            (before node nodeReached).1
  · cases Place.of_atOrAbove filled wellFormed spans.lt_size reached with
    | filled _ nodeReached =>
        rcases nodeReached with rfl | above
        · exact absurd rfl different
        · intro _ _ _ nodeSpans
          exact (isSoundAndPlain_iff.mp (inside node above _ _ _ nodeSpans)).2
    | old nodeOld _ nodeReached =>
        exact
          filled.has_soundContent_old wellFormed isElement nodeOld different
            (before node nodeReached).2

end Replaced

/-! ## Changing strings -/

/--
The scripts and styles below the root whose content has changed hold texts without
an end tag of their own, and so does the filled element if it is one of them.
-/
def ScriptsStayClosed
    (forest other : Forest)
    (root target : NodeId) : Prop :=
  ∀ id tag attributes children,
    other.AtOrAbove root id →
      other.tree? id = some (.element tag attributes children) →
        isRawTag tag = true →
          (id = target ∨
            ∀ before, forest.tree? id ≠ some (.element tag before children)) →
            RawClosed tag children

/-- Where there are no scripts and no styles, none of them changes. -/
theorem scriptsStayClosed_of_tags
    {other : Forest}
    (ordinary :
      ∀ id < other.nodes.size, ∀ tag ∈ other.tag? id, isRawTag tag = false) :
    ScriptsStayClosed forest other root target := by
  intro id tag attributes children _ known raw _
  have spans := spans_of_treeWithin known
  have tagKnown : other.tag? id = some tag := by
    cases spans with
    | element content _ =>
        exact tag?_of_content? content
  rw [ordinary id spans.lt_size tag tagKnown] at raw
  cases raw

/-- What is above a node in a forest is above it in every forest with the same shape. -/
theorem AtOrAbove.of_shape
    {other : Forest}
    (same : other.shape = forest.shape)
    {upper lower : NodeId}
    (reached : other.AtOrAbove upper lower) :
    forest.AtOrAbove upper lower := by
  have sameParent : ∀ id, other.parent? id = forest.parent? id := by
    intro id
    rw [← parent?_shape, same, parent?_shape]
  rcases reached with rfl | above
  · exact .inl rfl
  · refine .inr ?_
    induction above with
    | parent known =>
        exact .parent (by rwa [sameParent] at known)
    | step known _ inductionHypothesis =>
        exact .step (by rwa [sameParent] at known) inductionHypothesis

/-- All elements are sound after a change of strings that leaves scripts and styles closed. -/
theorem SoundApartFrom.every
    {other : Forest}
    {tree : Tree}
    (sound : forest.SoundApartFrom target root)
    (wellFormed : forest.WellFormed)
    (same : other.shape = forest.shape)
    (closed : ScriptsStayClosed forest other root target)
    (spans : other.Spans root tree) :
    tree.Every IsSoundAndPlain := by
  have otherWellFormed := wellFormed.of_shape same
  refine spans.every otherWellFormed fun node reached => ?_
  intro tag attributes children nodeSpans
  have reachedBefore := reached.of_shape same
  cases nodeSpans with
  | element known below =>
      obtain ⟨before, knownBefore, keys⟩ :=
        exists_element_of_shape same.symm known
      obtain ⟨childrenBefore, belowBefore⟩ :=
        exists_spansAll wellFormed knownBefore
      have spansBefore := Spans.element knownBefore belowBefore
      refine isSoundAndPlain_iff.mpr ⟨?_, fun raw => ?_⟩
      · obtain ⟨plain, ⟨named, once⟩, childless⟩ :=
          sound.tags node reachedBefore _ _ _ spansBefore
        rw [keys] at named once
        refine ⟨plain, ⟨named, once⟩, fun void => ?_⟩
        rw [childless void] at belowBefore
        exact below.eq_nil belowBefore
      · by_cases kept : node ≠ target ∧ childrenBefore = children
        · obtain ⟨different, rfl⟩ := kept
          exact sound.contents node reachedBefore different _ _ _ spansBefore raw
        · refine
            closed node tag attributes children reached
              ((tree?_eq_some otherWellFormed).mpr (.element known below)) raw ?_
          by_cases isTarget : node = target
          · exact .inl isTarget
          · refine .inr fun values treeBefore => kept ⟨isTarget, ?_⟩
            have again :=
              ((tree?_eq_some wellFormed).mp treeBefore).unique spansBefore
            exact ((Tree.element.inj again).2.2).symm

end Forest

/-! ## Filled pages -/

/-- An ordinary element is sound. -/
theorem isSoundAndPlain_ordinary
    {tag : String}
    (plain : IsPlainName tag)
    (ordinary : isVoidTag tag = false ∧ isRawTag tag = false)
    {attributes : Table String String}
    (attributesSound : AttributesSound attributes)
    (children : List Tree) :
    IsSoundAndPlain tag attributes children :=
  ⟨attributesSound.isSound_ordinary ordinary.1 ordinary.2 children, plain⟩

namespace Page

/-- The page of sound trees is sound. -/
theorem every_contentTree
    {trees : List Tree}
    (sound : TreesEvery IsSoundAndPlain trees) :
    (contentTree (PageContent.ofTrees trees)).Every IsSoundAndPlain := by
  obtain ⟨head, attributes, body⟩ :=
    PageContent.every_ofTops (fun both => both.1.attributes)
      (PageContent.every_tops sound)
  have ordinary :
      ∀ {table : Table String String} {children : List Tree},
        AttributesSound table →
          IsSoundAndPlain "html" table children ∧
            IsSoundAndPlain "head" table children ∧
            IsSoundAndPlain "body" table children :=
    fun tableSound =>
      ⟨isSoundAndPlain_ordinary (by decide) (by decide) tableSound _,
        isSoundAndPlain_ordinary (by decide) (by decide) tableSound _,
        isSoundAndPlain_ordinary (by decide) (by decide) tableSound _⟩
  exact
    ⟨(ordinary .empty).1, ⟨(ordinary .empty).2.1, head⟩,
      ⟨(ordinary attributes).2.2, body⟩, trivial⟩

/-- A filled page has a head and a body as before, unless its root was filled. -/
theorem exists_spans_contentTree
    {forest filled : Forest}
    {root target : NodeId}
    {trees : List Tree}
    {content : PageContent}
    (replaced : forest.Replaced filled target trees)
    (spans : forest.Spans root (contentTree content))
    (different : target ≠ root) :
    ∃ kept, filled.Spans root (contentTree kept) := by
  have old := spans.lt_size
  cases spans with
  | element known below =>
      rw [← replaced.content?_old old different.symm] at known
      cases below with
      | cons head rest =>
          cases rest with
          | cons body none =>
              cases none
              cases head with
              | element headKnown _ =>
                  cases body with
                  | element bodyKnown _ =>
                      obtain ⟨headTrees, headSpans⟩ :=
                        replaced.exists_spans_element headKnown
                      obtain ⟨bodyTrees, bodySpans⟩ :=
                        replaced.exists_spans_element bodyKnown
                      exact
                        ⟨⟨headTrees, content.bodyAttributes, bodyTrees⟩,
                          .element known
                            (.cons headSpans (.cons bodySpans .nil))⟩

/--
Filling an element of a sound page decides the skeleton of the page, whatever
strings are changed afterwards.  It is also the skeleton of the page that is read
from the markup, unless a script or a style has been given an end tag.
-/
theorem exists_skeleton
    {page : Page}
    {content : PageContent}
    {filled : Forest}
    {target : NodeId}
    {trees : List Tree}
    (wellFormed : page.forest.WellFormed)
    (spans : page.forest.Spans page.root (contentTree content))
    (sound : (contentTree content).Every IsSoundAndPlain)
    (isElement : page.forest.isElement target = true)
    (notVoid :
      ∀ tag, page.forest.tag? target = some tag → isVoidTag tag = false)
    (different : target ≠ page.root)
    (replaced : page.forest.Replaced filled target trees)
    (treesSound : TreesEvery IsSoundAndPlain trees) :
    ∃ skeletons : List Skeleton,
      ∀ reached : Page,
        reached.root = page.root →
          reached.forest.shape = filled.shape →
            reached.skeleton? = some skeletons ∧
              (filled.ScriptsStayClosed reached.forest page.root target →
                reached.rereadSkeleton? = some skeletons) := by
  have filledWellFormed := replaced.wellFormed
  obtain ⟨kept, filledSpans⟩ :=
    exists_spans_contentTree replaced spans different
  refine ⟨(contentTree kept).skeletons, fun reached sameRoot same => ?_⟩
  have reachedWellFormed := filledWellFormed.of_shape same
  -- The root of the reached page spans an element with the same skeleton.
  obtain ⟨attributes, children, reachedSpans⟩ :
      ∃ attributes children,
        reached.forest.Spans page.root (.element "html" attributes children) := by
    cases filledSpans with
    | element known _ =>
        obtain ⟨changed, reachedKnown, -⟩ :=
          Forest.exists_element_of_shape same known
        obtain ⟨children, below⟩ :=
          Forest.exists_spansAll reachedWellFormed reachedKnown
        exact ⟨changed, children, .element reachedKnown below⟩
  have treeIs :
      reached.forest.tree? reached.root =
        some (.element "html" attributes children) := by
    rw [sameRoot]
    exact (Forest.tree?_eq_some reachedWellFormed).mpr reachedSpans
  have sameSkeletons :
      (Tree.element "html" attributes children).skeletons =
        (contentTree kept).skeletons :=
    filledSpans.skeletons_eq same reachedSpans
  refine ⟨?_, fun closed => ?_⟩
  · rw [skeleton?, treeIs, Option.map_some, sameSkeletons]
  · have filledSound :=
      replaced.soundApartFrom wellFormed isElement notVoid spans sound treesSound
    have every := filledSound.every filledWellFormed same closed reachedSpans
    obtain ⟨-, -, sameChildren⟩ :=
      Skeleton.element.inj (List.head_eq_of_cons_eq sameSkeletons)
    rw [rereadSkeleton?_of_write treeIs rfl every, sameChildren]
    exact
      congrArg (fun document => some [document])
        (Skeleton.document_of_parts (treesSkeletons kept.head)
          kept.bodyAttributes.keys (treesSkeletons kept.body))

end Page

end PageScript.Document
