import PageScript.Markup.Builder
import PageScript.Proofs.Markup.Tree
import PageScript.Proofs.Markup.Writable

namespace PageScript.Markup

/-!
# Trees that are read back

A tree is read back from its markup when no text is empty, no texts are
neighbours, every attribute is read under its name, and the text inside a script
or a style holds no end tag.  Sound elements differ from this only in their
texts.  Joining the texts that stand next to one another changes neither the
markup nor the skeleton of a tree: its tags, its attribute names and the way its
elements are nested.

The builder finishes sound elements only.  An open element that is neither void
nor a script nor a style becomes sound whatever is added to it, and the
attributes of a start tag make a table that lists each of their names once.
-/

/-! ## Sound elements -/

/-- Inside a script or a style stand texts only, and none of its end tags starts in them. -/
def RawClosed (tag : String) (children : List Tree) : Prop :=
  ∃ texts : List String,
    children = texts.map .text ∧
      holdsEndTag tag.toList (texts.flatMap String.toList) = false

/-- The markup of an element stands for this element, apart from the form of its tag. -/
structure IsSound
    (tag : String)
    (attributes : Table String String)
    (children : List Tree) : Prop where
  named : ∀ name ∈ attributes.keys, IsAttributeName name
  once : attributes.keys.Nodup
  childless : isVoidTag tag = true → children = []
  closed : isRawTag tag = true → RawClosed tag children

/-- The tag of an element is plain. -/
def HasPlainTag
    (tag : String)
    (_attributes : Table String String)
    (_children : List Tree) : Prop :=
  IsPlainName tag

/-- An element is sound and has a plain tag. -/
def IsSoundAndPlain : ElementProperty :=
  fun tag attributes children =>
    IsSound tag attributes children ∧ HasPlainTag tag attributes children

mutual

/-- A tree is read back from its markup. -/
def Tree.Readable : Tree → Prop
  | .text data => data ≠ ""
  | .element tag attributes children =>
      IsPlainName tag ∧
        IsSound tag attributes children ∧
        TreesReadable children

/-- Neighbouring trees are read back from their markup. -/
def TreesReadable : List Tree → Prop
  | [] => True
  | tree :: rest =>
      tree.Readable ∧
        (startsWithText [tree] = true → startsWithText rest = false) ∧
        TreesReadable rest

end

/-! ## Writable trees -/

/-- A text that does not look like an end tag holds none. -/
theorem holdsEndTag_of_not_occursIn
    {data : List Char}
    (noTag : Text.occursIn ['<', '/'] data = false)
    (name : List Char) :
    holdsEndTag name data = false := by
  induction data with
  | nil =>
      rfl
  | cons c rest inductionHypothesis =>
      rw [Text.occursIn, Bool.or_eq_false_iff] at noTag
      obtain ⟨notHere, notLater⟩ := noTag
      rw [holdsEndTag, inductionHypothesis notLater, Bool.or_false,
        Bool.and_eq_false_imp]
      intro isLess
      obtain rfl := of_decide_eq_true isLess
      unfold closesRaw
      split
      · simp at notHere
      · rfl

mutual

theorem Tree.Writable.readable :
    ∀ {tree : Tree}, tree.Writable → tree.Readable
  | .text _, nonempty => nonempty
  | .element tag attributes children, ⟨plain, names, once, childless, content⟩ => by
      have named : ∀ name ∈ attributes.keys, IsAttributeName name :=
        fun name member => (names name member).isAttributeName
      cases raw : isRawTag tag with
      | false =>
          rw [raw] at content
          refine ⟨plain, ⟨named, once, childless, ?_⟩, content.readable⟩
          simp [raw]
      | true =>
          rw [raw, if_pos rfl] at content
          rcases content with rfl | ⟨data, rfl, nonempty, noTag⟩
          · exact ⟨plain, ⟨named, once, childless, fun _ => ⟨[], rfl, rfl⟩⟩, trivial⟩
          · have noEnd := holdsEndTag_of_not_occursIn noTag tag.toList
            refine
              ⟨plain, ⟨named, once, childless, fun _ => ⟨[data], rfl, ?_⟩⟩,
                nonempty, fun _ => rfl, trivial⟩
            simpa using noEnd

/-- Trees from which writing loses nothing are read back. -/
theorem TreesWritable.readable :
    ∀ {trees : List Tree}, TreesWritable trees → TreesReadable trees
  | [], _ => trivial
  | _ :: _, ⟨here, apart, rest⟩ => ⟨here.readable, apart, rest.readable⟩

end

/-! ## Joined texts -/

/-- Put a text before trees, joined to a text that stands first. -/
def joinText (data : String) : List Tree → List Tree
  | .text other :: rest => .text (data ++ other) :: rest
  | rest => if data = "" then rest else .text data :: rest

mutual

/-- Put a tree before others, with all texts that are neighbours joined. -/
def Tree.joinTo : Tree → List Tree → List Tree
  | .text data, rest => joinText data rest
  | .element tag attributes children, rest =>
      .element tag attributes (joinedAll children) :: rest

/-- Neighbouring trees with all texts joined that are neighbours. -/
def joinedAll : List Tree → List Tree
  | [] => []
  | tree :: rest => tree.joinTo (joinedAll rest)

end

/-- A joined text is written like its parts. -/
theorem writeTrees_joinText
    (raw : Bool)
    (data : String)
    (rest : List Tree) :
    writeTrees raw (joinText data rest) =
      (Tree.text data).write raw ++ writeTrees raw rest := by
  unfold joinText
  split
  · next other rest =>
      rw [writeTrees, writeTrees, Tree.write, Tree.write, Tree.write]
      cases raw <;> simp [escapeText]
  · split
    · next empty =>
        subst empty
        cases raw <;> simp [Tree.write, escapeText]
    · rfl

mutual

theorem Tree.writeTrees_joinTo
    (raw : Bool) :
    ∀ (tree : Tree) (rest : List Tree),
      writeTrees raw (tree.joinTo rest) = tree.write raw ++ writeTrees raw rest
  | .text data, rest => writeTrees_joinText raw data rest
  | .element tag attributes children, rest => by
      rw [Tree.joinTo, writeTrees, Tree.write, Tree.write,
        writeTrees_joinedAll _ children]

/-- Joining texts keeps the markup. -/
theorem writeTrees_joinedAll
    (raw : Bool) :
    ∀ trees : List Tree,
      writeTrees raw (joinedAll trees) = writeTrees raw trees
  | [] => rfl
  | tree :: rest => by
      rw [joinedAll, Tree.writeTrees_joinTo raw tree, writeTrees,
        writeTrees_joinedAll raw rest]

end

/-- Texts without elements are joined to one text. -/
theorem exists_joinedAll_texts
    (texts : List String) :
    ∃ joined : List String,
      joinedAll (texts.map .text) = joined.map .text ∧
        joined.flatMap String.toList = texts.flatMap String.toList := by
  induction texts with
  | nil =>
      exact ⟨[], rfl, rfl⟩
  | cons data rest inductionHypothesis =>
      obtain ⟨joined, restJoined, same⟩ := inductionHypothesis
      rw [List.map_cons, joinedAll, Tree.joinTo, restJoined, List.flatMap_cons,
        ← same]
      cases joined with
      | nil =>
          by_cases empty : data = ""
          · exact ⟨[], if_pos empty, by simp [empty]⟩
          · exact ⟨[data], if_neg empty, by simp⟩
      | cons other others =>
          exact ⟨(data ++ other) :: others, rfl, by simp⟩

/-- Joining the texts of an element keeps it sound. -/
theorem IsSound.joined
    {tag : String}
    {attributes : Table String String}
    {children : List Tree}
    (sound : IsSound tag attributes children) :
    IsSound tag attributes (joinedAll children) := by
  refine ⟨sound.named, sound.once, fun void => ?_, fun raw => ?_⟩
  · rw [sound.childless void]
    rfl
  · obtain ⟨texts, rfl, noEnd⟩ := sound.closed raw
    obtain ⟨joined, shape, same⟩ := exists_joinedAll_texts texts
    exact ⟨joined, shape, by rwa [same]⟩

theorem TreesReadable.joinText
    {rest : List Tree}
    (readable : TreesReadable rest)
    (data : String) :
    TreesReadable (joinText data rest) := by
  unfold Markup.joinText
  split
  · next other rest =>
      obtain ⟨nonempty, apart, restReadable⟩ := readable
      refine ⟨?_, apart, restReadable⟩
      simp only [Tree.Readable] at nonempty ⊢
      simp [nonempty]
  · next noText =>
      split
      · exact readable
      · next nonempty =>
          refine ⟨nonempty, fun _ => ?_, readable⟩
          cases rest with
          | nil =>
              rfl
          | cons tree others =>
              cases tree with
              | text other =>
                  exact absurd rfl (noText other others)
              | element tag attributes children =>
                  rfl

mutual

theorem Tree.readable_joinTo :
    ∀ {tree : Tree} {rest : List Tree},
      tree.Every IsSoundAndPlain →
        TreesReadable rest →
        TreesReadable (tree.joinTo rest)
  | .text data, _, _, readable => readable.joinText data
  | .element .., _, ⟨⟨sound, plain⟩, below⟩, readable =>
      ⟨⟨plain, sound.joined, treesReadable_joinedAll below⟩, nofun, readable⟩

/-- Sound trees with plain tags are read back once their texts are joined. -/
theorem treesReadable_joinedAll :
    ∀ {trees : List Tree},
      TreesEvery IsSoundAndPlain trees →
        TreesReadable (joinedAll trees)
  | [], _ => trivial
  | _ :: _, ⟨here, rest⟩ =>
      Tree.readable_joinTo here (treesReadable_joinedAll rest)

end

/-! ## Skeletons -/

/-- An element without texts and attribute values. -/
inductive Skeleton where
  /-- A tag, attribute names in order and the skeletons of the child elements. -/
  | element (tag : String) (names : List String) (children : List Skeleton)
  deriving Repr

mutual

/-- Skeletons can be compared. -/
def Skeleton.decideEq : (first second : Skeleton) → Decidable (first = second)
  | .element tag names children, .element otherTag otherNames otherChildren =>
      have := Skeleton.decideEqAll children otherChildren
      decidable_of_iff
        (tag = otherTag ∧ names = otherNames ∧ children = otherChildren)
        (by simp)

/-- Neighbouring skeletons can be compared. -/
def Skeleton.decideEqAll : (first second : List Skeleton) → Decidable (first = second)
  | [], [] => .isTrue rfl
  | [], _ :: _ => .isFalse nofun
  | _ :: _, [] => .isFalse nofun
  | skeleton :: rest, other :: others =>
      have := Skeleton.decideEq skeleton other
      have := Skeleton.decideEqAll rest others
      decidable_of_iff (skeleton = other ∧ rest = others) (by simp)

end

instance : DecidableEq Skeleton :=
  Skeleton.decideEq

mutual

/-- The skeleton of a tree, if it is an element. -/
def Tree.skeletons : Tree → List Skeleton
  | .text _ => []
  | .element tag attributes children =>
      [.element tag attributes.keys (treesSkeletons children)]

/-- The skeletons of the elements among neighbouring trees. -/
def treesSkeletons : List Tree → List Skeleton
  | [] => []
  | tree :: rest => tree.skeletons ++ treesSkeletons rest

end

theorem treesSkeletons_joinText
    (data : String)
    (rest : List Tree) :
    treesSkeletons (joinText data rest) = treesSkeletons rest := by
  unfold joinText
  split
  · rfl
  · split <;> rfl

mutual

theorem Tree.skeletons_joinTo :
    ∀ (tree : Tree) (rest : List Tree),
      treesSkeletons (tree.joinTo rest) = tree.skeletons ++ treesSkeletons rest
  | .text data, rest => treesSkeletons_joinText data rest
  | .element tag attributes children, rest => by
      rw [Tree.joinTo, treesSkeletons, Tree.skeletons, Tree.skeletons,
        treesSkeletons_joinedAll children]

/-- Joining texts keeps the skeletons. -/
theorem treesSkeletons_joinedAll :
    ∀ trees : List Tree,
      treesSkeletons (joinedAll trees) = treesSkeletons trees
  | [] => rfl
  | tree :: rest => by
      rw [joinedAll, tree.skeletons_joinTo, treesSkeletons,
        treesSkeletons_joinedAll rest]

end

/-! ## What the builder adds -/

/-- The attributes of a start tag are read under their names. -/
def Event.IsNamed : Event → Prop
  | .opening _ attributes => ∀ entry ∈ attributes, IsAttributeName entry.1
  | .closed _ attributes => ∀ entry ∈ attributes, IsAttributeName entry.1
  | _ => True

/-- The mode after an event: behind the start tag of a script or a style all is data. -/
def Event.mode : Event → RawMode
  | .opening tag _ => modeAfter tag
  | _ => none

/-- Attributes are listed once and read under their names. -/
structure AttributesSound (attributes : Table String String) : Prop where
  named : ∀ name ∈ attributes.keys, IsAttributeName name
  once : attributes.keys.Nodup

theorem attributesSound_attributeTable
    {attributes : List (String × String)}
    (named : ∀ entry ∈ attributes, IsAttributeName entry.1) :
    AttributesSound (Builder.attributeTable attributes) := by
  refine ⟨fun name member => ?_, Table.nodup_keys_ofList attributes⟩
  obtain ⟨entry, listed, rfl⟩ :=
    List.mem_map.mp (Table.mem_keys_ofList.mp member)
  exact named entry listed

theorem IsSound.attributes
    {tag : String}
    {attributes : Table String String}
    {children : List Tree}
    (sound : IsSound tag attributes children) :
    AttributesSound attributes :=
  ⟨sound.named, sound.once⟩

namespace AttributesSound

variable {attributes : Table String String}

theorem empty :
    AttributesSound ⟨[]⟩ :=
  ⟨List.forall_mem_nil _, List.nodup_nil⟩

theorem insertAll
    {others : Table String String}
    (sound : AttributesSound attributes)
    (othersSound : AttributesSound others) :
    AttributesSound (attributes.insertAll others.entries) := by
  refine ⟨fun name member => ?_, Table.nodup_keys_insertAll sound.once _⟩
  rcases Table.mem_keys_insertAll.mp member with listed | added
  · exact sound.named name listed
  · exact othersSound.named name added

/-- An element without children is sound. -/
theorem isSound_nil
    (sound : AttributesSound attributes)
    (tag : String) :
    IsSound tag attributes [] :=
  ⟨sound.named, sound.once, fun _ => rfl, fun _ => ⟨[], rfl, rfl⟩⟩

/-- An element that may have all kinds of children is sound. -/
theorem isSound_ordinary
    (sound : AttributesSound attributes)
    {tag : String}
    (notVoid : isVoidTag tag = false)
    (notRaw : isRawTag tag = false)
    (children : List Tree) :
    IsSound tag attributes children := by
  refine ⟨sound.named, sound.once, ?_, ?_⟩
  · simp [notVoid]
  · simp [notRaw]

end AttributesSound

/-- An open element that becomes sound whatever is added to it. -/
structure OpenElement.IsOrdinary (element : OpenElement) : Prop where
  attributes : AttributesSound element.attributes
  notVoid : isVoidTag element.tag = false
  notRaw : isRawTag element.tag = false
  below : TreesEvery IsSound element.children

/-- All elements in a builder are sound, or become so. -/
structure Builder.IsSound (builder : Builder) : Prop where
  opened : ∀ element ∈ builder.opened, element.IsOrdinary
  finished : TreesEvery Markup.IsSound builder.finished

namespace Builder.IsSound

variable {builder : Builder}

theorem empty :
    Builder.empty.IsSound :=
  ⟨List.forall_mem_nil _, trivial⟩

theorem add
    (sound : builder.IsSound)
    {tree : Tree}
    (treeSound : tree.Every Markup.IsSound) :
    (builder.add tree).IsSound := by
  rcases builder with ⟨opened, finished⟩
  cases opened with
  | nil =>
      exact ⟨sound.opened, ⟨treeSound, sound.finished⟩⟩
  | cons inner outer =>
      obtain ⟨ordinary, outerSound⟩ := List.forall_mem_cons.mp sound.opened
      refine ⟨List.forall_mem_cons.mpr ⟨?_, outerSound⟩, sound.finished⟩
      exact { ordinary with below := ⟨treeSound, ordinary.below⟩ }

/-- Data have no elements. -/
theorem joinData
    (characters : List Char)
    {trees : List Tree}
    (sound : TreesEvery Markup.IsSound trees) :
    TreesEvery Markup.IsSound (Builder.joinData characters trees) := by
  match trees with
  | [] =>
      exact ⟨trivial, sound⟩
  | .text _ :: _ =>
      exact ⟨trivial, sound.2⟩
  | .element .. :: _ =>
      exact ⟨trivial, sound⟩

theorem addData
    (sound : builder.IsSound)
    (characters : List Char) :
    (builder.addData characters).IsSound := by
  rcases builder with ⟨opened, finished⟩
  cases opened with
  | nil =>
      exact ⟨sound.opened, joinData characters sound.finished⟩
  | cons inner outer =>
      obtain ⟨ordinary, outerSound⟩ := List.forall_mem_cons.mp sound.opened
      refine ⟨List.forall_mem_cons.mpr ⟨?_, outerSound⟩, sound.finished⟩
      exact { ordinary with below := joinData characters ordinary.below }

theorem closeInnermost
    (sound : builder.IsSound) :
    builder.closeInnermost.IsSound := by
  rcases builder with ⟨opened, finished⟩
  cases opened with
  | nil =>
      exact sound
  | cons inner outer =>
      obtain ⟨ordinary, outerSound⟩ := List.forall_mem_cons.mp sound.opened
      have outside : Builder.IsSound ⟨outer, finished⟩ :=
        ⟨outerSound, sound.finished⟩
      refine outside.add ⟨?_, ?_⟩
      · exact
          ordinary.attributes.isSound_ordinary ordinary.notVoid ordinary.notRaw _
      · have below := ordinary.below
        rw [treesEvery_iff] at below ⊢
        exact fun tree member => below tree (List.mem_reverse.mp member)

theorem closeMany
    (sound : builder.IsSound)
    (count : Nat) :
    (Builder.closeMany count builder).IsSound := by
  induction count generalizing builder with
  | zero =>
      exact sound
  | succ count inductionHypothesis =>
      exact inductionHypothesis sound.closeInnermost

/-- The elements stay sound when an event is taken, unless it starts a script or a style. -/
theorem take
    (sound : builder.IsSound)
    {event : Event}
    (named : event.IsNamed)
    (ordinary : event.mode = none) :
    (builder.take event).IsSound := by
  cases event with
  | opening tag attributes =>
      have attributesSound := attributesSound_attributeTable named
      rw [Builder.take]
      split
      · exact sound.add ⟨attributesSound.isSound_nil tag, trivial⟩
      · next notVoid =>
          have notRaw : isRawTag tag = false := by
            simpa [Event.mode, modeAfter] using ordinary
          refine ⟨List.forall_mem_cons.mpr ⟨?_, sound.opened⟩, sound.finished⟩
          exact ⟨attributesSound, by simpa using notVoid, notRaw, trivial⟩
  | closed tag attributes =>
      exact
        sound.add
          ⟨(attributesSound_attributeTable named).isSound_nil tag, trivial⟩
  | closing tag =>
      rw [Builder.take]
      split
      · exact sound.closeMany _
      · exact sound
  | data characters =>
      exact sound.addData characters

end Builder.IsSound

end PageScript.Markup
