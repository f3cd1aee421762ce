import Mathlib.Data.List.Chain
import PageScript.Proofs.Markup.Parsed

namespace PageScript.Markup

/-!
# The order of events

The builder adds everything at the end of the last branch of its trees, so the
elements and the characters of the trees come in the order of their events.  The
open elements are those on the last branch; an end tag changes which of them are
open and nothing else.
-/

/-! ## Elements and texts of trees -/

mutual

/-- The elements of a tree in document order. -/
def Tree.elements : Tree → List Tree
  | .text _ => []
  | .element tag attributes children =>
      .element tag attributes children :: treesElements children

/-- The elements of neighbouring trees in document order. -/
def treesElements : List Tree → List Tree
  | [] => []
  | tree :: rest => tree.elements ++ treesElements rest

end

/-- Of two neighbours at most one is a text. -/
def Tree.ApartFrom (left right : Tree) : Prop :=
  left.tag? = none → right.tag? ≠ none

/-- Inside an element no text stands beside a text. -/
def HasTextsApart : ElementProperty :=
  fun _ _ children => children.IsChain Tree.ApartFrom

@[simp] theorem treesElements_append
    (trees others : List Tree) :
    treesElements (trees ++ others) = treesElements trees ++ treesElements others := by
  induction trees with
  | nil =>
      rfl
  | cons tree rest inductionHypothesis =>
      simp [treesElements, inductionHypothesis]

@[simp] theorem treesTextContent_append
    (trees others : List Tree) :
    treesTextContent (trees ++ others) =
      treesTextContent trees ++ treesTextContent others := by
  induction trees with
  | nil =>
      rfl
  | cons tree rest inductionHypothesis =>
      simp [treesTextContent, inductionHypothesis]

mutual

/-- A property of all elements in document order is one of every element of the tree. -/
theorem Tree.every_of_elements
    {property : ElementProperty} :
    ∀ {tree : Tree},
      (∀ tag attributes children,
        .element tag attributes children ∈ tree.elements →
          property tag attributes children) →
        tree.Every property
  | .text _, _ => trivial
  | .element tag attributes children, each =>
      ⟨each tag attributes children List.mem_cons_self,
        treesEvery_of_elements fun tag attributes children member =>
          each tag attributes children (List.mem_cons_of_mem _ member)⟩

theorem treesEvery_of_elements
    {property : ElementProperty} :
    ∀ {trees : List Tree},
      (∀ tag attributes children,
        .element tag attributes children ∈ treesElements trees →
          property tag attributes children) →
        TreesEvery property trees
  | [], _ => trivial
  | _ :: _, each =>
      ⟨Tree.every_of_elements fun tag attributes children member =>
          each tag attributes children (List.mem_append_left _ member),
        treesEvery_of_elements fun tag attributes children member =>
          each tag attributes children (List.mem_append_right _ member)⟩

end

/-! ## What events make -/

/-- Whether an event makes an element. -/
def Event.makesElement : Event → Bool
  | .opening .. => true
  | .closed .. => true
  | _ => false

/-- The characters of an event. -/
def Event.characters : Event → List Char
  | .data characters => characters
  | _ => []

/--
The element that a start tag makes has the tag and the attributes that are written, and
it stays without children when it is void or closed at once.
-/
inductive Event.Makes : Event → Tree → Prop where
  | opening
      {tag : String}
      {attributes : List (String × String)}
      {children : List Tree} :
      (isVoidTag tag = true → children = []) →
      Event.Makes (.opening tag attributes)
        (.element tag (Builder.attributeTable attributes) children)
  | closed
      {tag : String}
      {attributes : List (String × String)} :
      Event.Makes (.closed tag attributes)
        (.element tag (Builder.attributeTable attributes) [])

/-- Trees hold what events give, in order, and nothing else. -/
structure Accounts (found : List Event) (trees : List Tree) : Prop where
  /-- In document order there is one element for each start tag. -/
  elements :
    List.Forall₂ Event.Makes (found.filter Event.makesElement) (treesElements trees)
  /-- The texts in document order are the data. -/
  text :
    treesTextContent trees = found.flatMap Event.characters
  /-- No two texts are neighbours. -/
  apart :
    trees.IsChain Tree.ApartFrom
  /-- No two texts are neighbours inside an element. -/
  apartBelow :
    TreesEvery HasTextsApart trees

theorem treesEvery_concat
    {property : ElementProperty}
    {trees : List Tree}
    {tree : Tree} :
    TreesEvery property (trees ++ [tree]) ↔
      TreesEvery property trees ∧ tree.Every property := by
  simp [treesEvery_iff, or_imp, forall_and]

namespace Accounts

variable {found more : List Event} {trees : List Tree}

theorem nil :
    Accounts [] [] :=
  ⟨.nil, rfl, .nil, trivial⟩

/-- An element behind trees holds the events behind theirs. -/
theorem append_element
    (before : Accounts found trees)
    {tree : Tree}
    (isElement : tree.tag? ≠ none)
    (last : Accounts more [tree]) :
    Accounts (found ++ more) (trees ++ [tree]) where
  elements := by
    simpa using List.rel_append before.elements last.elements
  text := by
    simp [before.text, last.text]
  apart := by
    refine List.isChain_append.mpr ⟨before.apart, last.apart, ?_⟩
    intro left _ right first _
    obtain rfl := Option.some.inj first
    exact isElement
  apartBelow :=
    treesEvery_concat.mpr ⟨before.apartBelow, last.apartBelow.1⟩

/-- An element that was open holds its start tag and what its children hold. -/
theorem element
    (below : Accounts found trees)
    {tag : String}
    (notVoid : isVoidTag tag = false)
    (attributes : List (String × String)) :
    Accounts (.opening tag attributes :: found)
      [.element tag (Builder.attributeTable attributes) trees] where
  elements := by
    refine .cons (.opening fun void => ?_) ?_
    · simp [notVoid] at void
    · simpa [treesElements] using below.elements
  text := by
    simpa [treesTextContent, Tree.textContent, Event.characters] using below.text
  apart := .singleton _
  apartBelow := ⟨⟨below.apart, below.apartBelow⟩, trivial⟩

/-- An element without children holds the event that makes it. -/
theorem childless
    {event : Event}
    {tag : String}
    {table : Table String String}
    (makes : event.Makes (.element tag table [])) :
    Accounts [event] [.element tag table []] where
  elements := by
    cases makes with
    | opening childless =>
        exact .cons (.opening childless) .nil
    | closed =>
        exact .cons .closed .nil
  text := by
    cases makes <;> rfl
  apart := .singleton _
  apartBelow := ⟨⟨.nil, trivial⟩, trivial⟩

/-- An end tag gives nothing. -/
theorem append_closing
    (before : Accounts found trees)
    (tag : String) :
    Accounts (found ++ [.closing tag]) trees where
  elements := by
    simpa [Event.makesElement] using before.elements
  text := by
    simpa [Event.characters] using before.text
  apart := before.apart
  apartBelow := before.apartBelow

/-- Data behind an element become a text. -/
theorem append_text
    (before : Accounts found trees)
    (behindElement : ∀ last ∈ trees.getLast?, last.tag? ≠ none)
    (characters : List Char) :
    Accounts (found ++ [.data characters])
      (trees ++ [.text (String.ofList characters)]) where
  elements := by
    simpa [Event.makesElement, treesElements, Tree.elements] using before.elements
  text := by
    simpa [Event.characters, treesTextContent, Tree.textContent] using before.text
  apart := by
    refine List.isChain_append.mpr ⟨before.apart, .singleton _, ?_⟩
    intro left last right _ isText
    exact absurd isText (behindElement left last)
  apartBelow := treesEvery_concat.mpr ⟨before.apartBelow, trivial⟩

/-- Data behind a text are joined to it. -/
theorem extend_text
    {data : String}
    (before : Accounts found (trees ++ [.text data]))
    (characters : List Char) :
    Accounts (found ++ [.data characters])
      (trees ++ [.text (data ++ String.ofList characters)]) where
  elements := by
    simpa [Event.makesElement, treesElements, Tree.elements] using before.elements
  text := by
    have text := before.text
    simp only [treesTextContent_append, treesTextContent, Tree.textContent] at text
    simp [Event.characters, treesTextContent, Tree.textContent, ← text]
  apart := by
    obtain ⟨front, -, beforeText⟩ := List.isChain_append.mp before.apart
    refine List.isChain_append.mpr ⟨front, .singleton _, ?_⟩
    intro left last right first
    obtain rfl := Option.some.inj first
    have beside : left.ApartFrom (.text data) := beforeText left last _ rfl
    exact beside
  apartBelow := treesEvery_concat.mpr ⟨(treesEvery_concat.mp before.apartBelow).1, trivial⟩

theorem joinData
    {children : List Tree}
    (before : Accounts found children.reverse)
    (characters : List Char) :
    Accounts (found ++ [.data characters])
      (Builder.joinData characters children).reverse := by
  match children with
  | [] =>
      exact before.append_text (by simp) characters
  | .text data :: others =>
      simp only [List.reverse_cons] at before
      simpa [Builder.joinData] using before.extend_text characters
  | .element tag table listed :: others =>
      simpa [Builder.joinData] using
        before.append_text (by simp [Tree.tag?]) characters

end Accounts

/-! ## What a builder holds -/

/--
A builder holds events when each open element started at an event of its own and
what was added to it holds the events from there on.
-/
inductive Builder.Holds : List Event → Builder → Prop where
  | finished
      {found : List Event}
      {finished : List Tree} :
      Accounts found finished.reverse →
      Builder.Holds found ⟨[], finished⟩
  | opened
      {found more : List Event}
      {tag : String}
      {attributes : List (String × String)}
      {children finished : List Tree}
      {outer : List OpenElement} :
      Builder.Holds found ⟨outer, finished⟩ →
      isVoidTag tag = false →
      Accounts more children.reverse →
      Builder.Holds (found ++ .opening tag attributes :: more)
        ⟨⟨tag, Builder.attributeTable attributes, children⟩ :: outer, finished⟩

namespace Builder.Holds

variable {found more : List Event} {builder : Builder}

theorem add
    (holds : builder.Holds found)
    {tree : Tree}
    (isElement : tree.tag? ≠ none)
    (last : Accounts more [tree]) :
    (builder.add tree).Holds (found ++ more) := by
  cases holds with
  | finished accounts =>
      refine .finished ?_
      simpa using accounts.append_element isElement last
  | opened outside notVoid accounts =>
      rw [List.append_assoc]
      refine .opened outside notVoid ?_
      simpa using accounts.append_element isElement last

theorem addData
    (holds : builder.Holds found)
    (characters : List Char) :
    (builder.addData characters).Holds (found ++ [.data characters]) := by
  cases holds with
  | finished accounts =>
      exact .finished (accounts.joinData characters)
  | opened outside notVoid accounts =>
      rw [List.append_assoc]
      exact .opened outside notVoid (accounts.joinData characters)

theorem append_closing
    (holds : builder.Holds found)
    (tag : String) :
    builder.Holds (found ++ [.closing tag]) := by
  cases holds with
  | finished accounts =>
      exact .finished (accounts.append_closing tag)
  | opened outside notVoid accounts =>
      rw [List.append_assoc]
      exact .opened outside notVoid (accounts.append_closing tag)

/-- Closing an element loses no event. -/
theorem closeInnermost
    (holds : builder.Holds found) :
    builder.closeInnermost.Holds found := by
  cases holds with
  | finished accounts =>
      exact .finished accounts
  | opened outside notVoid accounts =>
      exact outside.add (by simp [close, Tree.tag?]) (accounts.element notVoid _)

theorem closeMany
    (holds : builder.Holds found)
    (count : Nat) :
    (Builder.closeMany count builder).Holds found := by
  induction count generalizing builder with
  | zero =>
      exact holds
  | succ count inductionHypothesis =>
      exact inductionHypothesis holds.closeInnermost

/-- A builder that takes an event holds it behind those that it held. -/
theorem take
    (holds : builder.Holds found)
    (event : Event) :
    (builder.take event).Holds (found ++ [event]) := by
  cases event with
  | opening tag attributes =>
      cases void : isVoidTag tag with
      | true =>
          simpa [Builder.take, void] using
            holds.add (by simp [Tree.tag?])
              (.childless (.opening fun _ => rfl))
      | false =>
          simpa [Builder.take, void] using .opened holds void .nil
  | closed tag attributes =>
      exact holds.add (by simp [Tree.tag?]) (.childless .closed)
  | closing tag =>
      rw [Builder.take]
      split
      · exact (holds.append_closing tag).closeMany _
      · exact holds.append_closing tag
  | data characters =>
      exact holds.addData characters

/-- A builder that takes events holds them behind those that it held. -/
theorem foldl_take
    (holds : builder.Holds found)
    (later : List Event) :
    (later.foldl Builder.take builder).Holds (found ++ later) := by
  induction later generalizing builder found with
  | nil =>
      simpa using holds
  | cons event rest inductionHypothesis =>
      simpa using inductionHypothesis (holds.take event)

end Builder.Holds

/-! ## Open elements -/

/-- The tag and the attributes of an element. -/
abbrev Head :=
  String × Table String String

/-- The tag and the attributes of an open element. -/
def OpenElement.head (element : OpenElement) : Head :=
  (element.tag, element.attributes)

/-- The open elements, innermost first. -/
def Builder.heads (builder : Builder) : List Head :=
  builder.opened.map OpenElement.head

/--
Open elements, outermost first, stand on the last branch of trees: the first one is the
last of the trees, and each other one is the last child of the one before.  The children
that an open element has so far come first among its children.
-/
inductive OnLastBranch : List Tree → List OpenElement → Prop where
  | nothing
      {trees : List Tree} :
      OnLastBranch trees []
  | last
      {earlier children : List Tree}
      {element : OpenElement}
      {inner : List OpenElement} :
      element.children.reverse <+: children →
      OnLastBranch children inner →
      OnLastBranch (earlier ++ [.element element.tag element.attributes children])
        (element :: inner)

/--
The open elements before and after an event.  A start tag opens its element inside the
innermost one, unless it is void or closed at once.  An end tag closes the innermost
element of its name with everything inside it, and it changes nothing when no element of
its name is open.
-/
inductive Opens : List Head → Event → List Head → Prop where
  | opening
      {stack : List Head}
      {tag : String}
      {attributes : List (String × String)} :
      isVoidTag tag = false →
      Opens stack (.opening tag attributes)
        ((tag, Builder.attributeTable attributes) :: stack)
  | void
      {stack : List Head}
      {tag : String}
      {attributes : List (String × String)} :
      isVoidTag tag = true →
      Opens stack (.opening tag attributes) stack
  | closed
      {stack : List Head}
      {tag : String}
      {attributes : List (String × String)} :
      Opens stack (.closed tag attributes) stack
  | data
      {stack : List Head}
      {characters : List Char} :
      Opens stack (.data characters) stack
  | closing
      {inner outer : List Head}
      {element : Head} :
      (∀ other ∈ inner, other.1 ≠ element.1) →
      Opens (inner ++ element :: outer) (.closing element.1) outer
  | ignored
      {stack : List Head}
      {tag : String} :
      (∀ other ∈ stack, other.1 ≠ tag) →
      Opens stack (.closing tag) stack

namespace Builder

@[simp] theorem heads_add
    (builder : Builder)
    (tree : Tree) :
    (builder.add tree).heads = builder.heads := by
  rcases builder with ⟨_ | ⟨inner, outer⟩, finished⟩ <;> rfl

@[simp] theorem heads_addData
    (builder : Builder)
    (characters : List Char) :
    (builder.addData characters).heads = builder.heads := by
  rcases builder with ⟨_ | ⟨inner, outer⟩, finished⟩ <;> rfl

@[simp] theorem heads_closeInnermost
    (builder : Builder) :
    builder.closeInnermost.heads = builder.heads.tail := by
  rcases builder with ⟨_ | ⟨inner, outer⟩, finished⟩
  · rfl
  · exact heads_add ⟨outer, finished⟩ (close inner)

theorem heads_closeMany
    (count : Nat)
    (builder : Builder) :
    (closeMany count builder).heads = builder.heads.drop count := by
  induction count generalizing builder with
  | zero =>
      rfl
  | succ count inductionHypothesis =>
      simp [closeMany, inductionHypothesis]

/-- The trees are those after the innermost element is closed. -/
theorem trees_closeInnermost
    (builder : Builder) :
    builder.closeInnermost.trees = builder.trees := by
  rcases builder with ⟨_ | ⟨inner, outer⟩, finished⟩
  · rfl
  · have outerCount :
        (add ⟨outer, finished⟩ (close inner)).opened.length = outer.length := by
      simpa [heads] using
        congrArg List.length (heads_add ⟨outer, finished⟩ (close inner))
    simp [trees, closeInnermost, closeMany, outerCount]

/-- Closing elements changes no tree. -/
theorem trees_closeMany
    (count : Nat)
    (builder : Builder) :
    (closeMany count builder).trees = builder.trees := by
  induction count generalizing builder with
  | zero =>
      rfl
  | succ count inductionHypothesis =>
      simp [closeMany, inductionHypothesis, trees_closeInnermost]

/-- What a builder holds is in its trees. -/
theorem Holds.accounts
    {found : List Event}
    {builder : Builder}
    (holds : builder.Holds found) :
    Accounts found builder.trees := by
  have all := holds.closeMany builder.opened.length
  have nothingOpen : (Builder.closeMany builder.opened.length builder).heads = [] := by
    rw [heads_closeMany]
    simp [heads]
  rw [trees]
  revert all nothingOpen
  generalize Builder.closeMany builder.opened.length builder = closed
  intro all nothingOpen
  cases all with
  | finished accounts =>
      exact accounts
  | opened =>
      cases nothingOpen

/-- The elements around the last of some trees stand on the last branch with those in it. -/
theorem onLastBranch_add
    (outer : List OpenElement)
    (finished : List Tree)
    {tree : Tree}
    {chain : List OpenElement}
    (below : ∀ earlier, OnLastBranch (earlier ++ [tree]) chain) :
    OnLastBranch (add ⟨outer, finished⟩ tree).trees (outer.reverse ++ chain) := by
  induction outer generalizing tree chain with
  | nil =>
      simpa [add, trees, closeMany] using below finished.reverse
  | cons inner outer inductionHypothesis =>
      have around :
          ∀ earlier,
            OnLastBranch
              (earlier ++ [close { inner with children := tree :: inner.children }])
              (inner :: chain) := by
        intro earlier
        have listed :
            close { inner with children := tree :: inner.children } =
              .element inner.tag inner.attributes (inner.children.reverse ++ [tree]) := by
          simp [close]
        rw [listed]
        exact .last (List.prefix_append ..) (below inner.children.reverse)
      have whole := inductionHypothesis around
      rw [List.reverse_cons, List.append_assoc]
      rwa [← trees_closeInnermost]

/-- The open elements stand on the last branch of the trees. -/
theorem onLastBranch_trees
    (builder : Builder) :
    OnLastBranch builder.trees builder.opened.reverse := by
  rcases builder with ⟨_ | ⟨inner, outer⟩, finished⟩
  · exact .nothing
  · rw [← trees_closeInnermost, List.reverse_cons]
    refine onLastBranch_add outer finished fun earlier => ?_
    exact .last List.prefix_rfl .nothing

/-- An end tag closes elements up to the innermost one of its name, or it is left alone. -/
theorem take_closing_cases
    (builder : Builder)
    (tag : String) :
    (∃ inner element outer,
      builder.heads = inner ++ element :: outer ∧
        element.1 = tag ∧
        (∀ other ∈ inner, other.1 ≠ tag) ∧
        builder.take (.closing tag) = closeMany (inner.length + 1) builder) ∨
      (∀ other ∈ builder.heads, other.1 ≠ tag) ∧
        builder.take (.closing tag) = builder := by
  rw [take]
  split
  · next depth found =>
      obtain ⟨inside, isNamed, notBefore⟩ := List.findIdx?_eq_some_iff_getElem.mp found
      have fromDepth :
          builder.heads.drop depth =
            builder.opened[depth].head :: builder.heads.drop (depth + 1) := by
        simp only [heads, ← List.map_drop]
        rw [List.drop_eq_getElem_cons inside, List.map_cons]
      refine
        .inl ⟨builder.heads.take depth, builder.opened[depth].head,
          builder.heads.drop (depth + 1), ?_, eq_of_beq isNamed, ?_, ?_⟩
      · rw [← fromDepth, List.take_append_drop]
      · intro other member
        obtain ⟨index, below, rfl⟩ := List.mem_take_iff_getElem.mp member
        have before := notBefore index (by omega)
        simpa [heads, OpenElement.head] using before
      · have short : depth ≤ builder.heads.length := by
          simpa [heads] using Nat.le_of_lt inside
        rw [List.length_take_of_le short]
  · next found =>
      refine .inr ⟨?_, rfl⟩
      simpa [heads, OpenElement.head] using found

/-- The open elements change as the event says. -/
theorem opens_take
    (builder : Builder)
    (event : Event) :
    Opens builder.heads event (builder.take event).heads := by
  cases event with
  | opening tag attributes =>
      cases void : isVoidTag tag with
      | true =>
          simpa [take, void] using Opens.void void
      | false =>
          simpa [take, void, heads, OpenElement.head] using Opens.opening void
  | closed tag attributes =>
      simpa [take] using Opens.closed
  | closing tag =>
      rcases take_closing_cases builder tag with
        ⟨inner, element, outer, division, rfl, notInner, taken⟩ | ⟨absent, taken⟩
      · rw [taken, heads_closeMany, division]
        simpa using Opens.closing notInner
      · rw [taken]
        exact .ignored absent
  | data characters =>
      simpa [take] using Opens.data

/-- An end tag changes no tree. -/
theorem trees_take_closing
    (builder : Builder)
    (tag : String) :
    (builder.take (.closing tag)).trees = builder.trees := by
  rcases take_closing_cases builder tag with ⟨_, _, _, -, -, -, taken⟩ | ⟨-, taken⟩
  · rw [taken, trees_closeMany]
  · rw [taken]

end Builder

/-! ## Tags of parsed trees -/

/-- The tag of an element is in small letters. -/
def HasSmallTag : ElementProperty :=
  fun tag _ _ => IsSmallTag tag

theorem Event.Makes.isSmallTag
    {event : Event}
    {tag : String}
    {attributes : Table String String}
    {children : List Tree}
    (makes : event.Makes (.element tag attributes children))
    (small : event.HasSmallTag) :
    IsSmallTag tag := by
  cases makes <;> exact small

/-- Elements that are made by start tags in small letters have such tags. -/
theorem Accounts.hasSmallTags
    {found : List Event}
    {trees : List Tree}
    (accounts : Accounts found trees)
    (small : ∀ event ∈ found, event.HasSmallTag) :
    TreesEvery HasSmallTag trees := by
  refine treesEvery_of_elements fun tag attributes children member => ?_
  obtain ⟨place, isThere⟩ := List.get_of_mem member
  have counted : place < (found.filter Event.makesElement).length := by
    rw [accounts.elements.length_eq]
    exact place.isLt
  have makes := accounts.elements.get counted place.isLt
  rw [isThere] at makes
  exact makes.isSmallTag (small _ (List.mem_of_mem_filter (List.get_mem ..)))

/-- Every element that is read has a tag in small letters. -/
theorem treesEvery_hasSmallTag_of_parseTrees
    {markup : String}
    {trees : List Tree}
    (readable : parseTrees markup = .ok trees) :
    TreesEvery HasSmallTag trees := by
  rw [parseTrees] at readable
  cases read : events markup.toList with
  | error error =>
      rw [read] at readable
      cases readable
  | ok found =>
      rw [read] at readable
      cases readable
      have start : Builder.empty.Holds [] := .finished .nil
      exact (start.foldl_take found).accounts.hasSmallTags (hasSmallTag_of_eventsWithin read)

/--
After any events the trees hold what the events give, in order, and the open elements
stand on their last branch.  The next event opens and closes elements as its kind says; an
end tag changes no tree, and it changes nothing when no element of its name is open.
-/
theorem events_keep_their_order
    (found : List Event) :
    let builder := found.foldl Builder.take .empty
    Accounts found builder.trees ∧
      OnLastBranch builder.trees builder.opened.reverse ∧
      (∀ event, Opens builder.heads event (builder.take event).heads) ∧
      ∀ tag,
        (builder.take (.closing tag)).trees = builder.trees ∧
          ((∀ element ∈ builder.heads, element.1 ≠ tag) →
            builder.take (.closing tag) = builder) := by
  intro builder
  have start : Builder.empty.Holds [] := .finished .nil
  have holds : builder.Holds found := start.foldl_take found
  refine ⟨holds.accounts, builder.onLastBranch_trees, builder.opens_take, fun tag => ?_⟩
  refine ⟨builder.trees_take_closing tag, fun absent => ?_⟩
  rcases builder.take_closing_cases tag with
    ⟨inner, element, outer, division, named, -, -⟩ | ⟨-, taken⟩
  · exact absurd named (absent element (by simp [division]))
  · exact taken

/-- A stray end tag inside an open paragraph changes nothing. -/
theorem events_keep_their_order_of_stray_end :
    let builder :=
      [Event.opening "p" [("id", "x")], .data ['a'], .opening "br" []].foldl
        Builder.take .empty
    (∀ element ∈ builder.heads, element.1 ≠ "b") ∧
      builder.take (.closing "b") = builder := by
  intro builder
  have absent : ∀ element ∈ builder.heads, element.1 ≠ "b" := by
    simp [builder, Builder.take, Builder.empty, Builder.heads, Builder.add, Builder.addData,
      isVoidTag, voidTags, OpenElement.head, Builder.joinData]
  exact ⟨absent, ((events_keep_their_order _).2.2.2 "b").2 absent⟩

end PageScript.Markup
