import PageScript.Proofs.Document.Framed

namespace PageScript.Document

open Markup

/-!
# Where the content of a page comes from

A page that is read keeps everything that counts: the trees inside the first `html`
element at the top of the markup, or all trees when there is none.  The nodes below the
head are, in document order, the places inside the heads among these trees, and the
nodes below the body are all other places apart from the heads and bodies themselves.
Trees beside the `html` element are in neither.
-/

/-! ## What counts -/

/--
The trees that count are those inside the first `html` element among the trees of a
markup text, or all of them when there is none.
-/
inductive Counts : List Tree → List Tree → Prop where
  | everything
      {trees : List Tree}
      (without : ∀ tree ∈ trees, tree.tag? ≠ some "html") :
      Counts trees trees
  | inside
      {before children after : List Tree}
      {attributes : Table String String}
      (without : ∀ tree ∈ before, tree.tag? ≠ some "html") :
      Counts (before ++ .element "html" attributes children :: after) children

/-- A tree that is no element with a tag has another tag or none. -/
theorem tag?_ne
    {tree : Tree}
    {tag : String}
    (other : ∀ attributes children, tree ≠ .element tag attributes children) :
    tree.tag? ≠ some tag := by
  intro same
  cases tree with
  | text data =>
      cases same
  | element _ attributes children =>
      obtain rfl := Option.some.inj same
      exact other attributes children rfl

theorem counts_tops
    (trees : List Tree) :
    Counts trees (PageContent.tops trees) := by
  rw [PageContent.tops]
  split
  · next children found =>
      obtain ⟨before, tree, after, rfl, isHtml, unmatched⟩ :=
        List.findSome?_eq_some_iff.mp found
      split at isHtml
      · cases isHtml
        refine .inside fun other member => tag?_ne fun attributes inner same => ?_
        subst same
        cases unmatched _ member
      · cases isHtml
  · next found =>
      refine .everything fun tree member => tag?_ne fun attributes inner same => ?_
      subst same
      cases List.findSome?_eq_none_iff.mp found _ member

/-! ## Places of heads and bodies -/

/-- An address among top-level trees is that of a head or a body. -/
def IsWrapper (trees : List Tree) : List Nat → Prop
  | [number] =>
      trees[number]?.bind Tree.tag? = some "head" ∨
        trees[number]?.bind Tree.tag? = some "body"
  | _ => False

/-- An address among top-level trees leads into a head. -/
def IsInHead (trees : List Tree) : List Nat → Prop
  | [] => False
  | number :: below => trees[number]?.bind Tree.tag? = some "head" ∧ below ≠ []

section Places

variable {tree : Tree} {trees : List Tree}

theorem isWrapper_zero
    {below : List Nat} :
    IsWrapper (tree :: trees) (0 :: below) ↔
      (tree.tag? = some "head" ∨ tree.tag? = some "body") ∧ below = [] := by
  cases below <;> simp [IsWrapper]

theorem isInHead_zero
    {below : List Nat} :
    IsInHead (tree :: trees) (0 :: below) ↔ tree.tag? = some "head" ∧ below ≠ [] :=
  Iff.rfl

theorem isWrapper_modifyHead
    {address : List Nat} :
    IsWrapper (tree :: trees) (address.modifyHead (· + 1)) ↔ IsWrapper trees address := by
  rcases address with _ | ⟨number, _ | ⟨next, below⟩⟩ <;> simp [IsWrapper]

theorem isInHead_modifyHead
    {address : List Nat} :
    IsInHead (tree :: trees) (address.modifyHead (· + 1)) ↔ IsInHead trees address := by
  cases address <;> simp [IsInHead]

end Places

/-! ## Kept places -/

/--
Nodes keep places of trees: there is one node for each wanted place, in document order,
and it spans the tree at its place.
-/
structure KeepsPlaces
    (forest : Forest)
    (reach : List Nat → Option Tree)
    (wanted : List Nat → Prop)
    (ids : List NodeId)
    (addresses : List (List Nat)) :
    Prop where
  increasing : addresses.Pairwise (· < ·)
  complete :
    ∀ address,
      address ∈ addresses ↔
        wanted address ∧ ∃ tree, reach address = some tree
  kept :
    List.Forall₂
      (fun id address => ∃ tree, reach address = some tree ∧ forest.Spans id tree)
      ids addresses

namespace KeepsPlaces

variable
  {forest : Forest}
  {reach : List Nat → Option Tree}
  {wanted other : List Nat → Prop}
  {id : NodeId}
  {ids others : List NodeId}
  {tag : String}
  {attributes : Table String String}
  {tree : Tree}
  {children trees : List Tree}
  {here there addresses : List (List Nat)}

/-- Nothing is kept where nothing is wanted. -/
theorem nothing
    (unwanted : ∀ address, wanted address → reach address = none) :
    KeepsPlaces forest reach wanted [] [] where
  increasing := .nil
  complete address := by
    simp only [List.not_mem_nil, false_iff, not_and, not_exists]
    intro isWanted found reached
    cases (unwanted address isWanted).symm.trans reached
  kept := .nil

/-- What is wanted can be said in other words. -/
theorem congr
    (keeps : KeepsPlaces forest reach wanted ids addresses)
    (same : ∀ address, other address ↔ wanted address) :
    KeepsPlaces forest reach other ids addresses where
  increasing := keeps.increasing
  complete address := by
    rw [keeps.complete, same]
  kept := keeps.kept

/-- The empty address leads to no neighbouring tree. -/
theorem nil_not_mem
    (keeps : KeepsPlaces forest (treeAt? trees) wanted ids addresses) :
    [] ∉ addresses := by
  intro member
  obtain ⟨-, tree, reached⟩ := (keeps.complete []).mp member
  cases reached

/-- The places among the children of an element are the places inside it. -/
theorem inside
    (keeps : KeepsPlaces forest (treeAt? children) (fun _ => True) ids addresses) :
    KeepsPlaces forest (Tree.element tag attributes children).at? (· ≠ []) ids addresses where
  increasing := keeps.increasing
  complete address := by
    cases address with
    | nil =>
        simp [keeps.nil_not_mem]
    | cons number below =>
        rw [keeps.complete]
        simp [treeAt?, Tree.at?, Tree.children]
  kept := by
    refine keeps.kept.imp ?_
    rintro id (_ | ⟨number, below⟩) ⟨found, reached, spans⟩
    · cases reached
    · exact ⟨found, reached, spans⟩

/-- A tree is kept by a node for itself before the nodes for what is inside it. -/
theorem whole
    (spans : forest.Spans id tree)
    (keeps : KeepsPlaces forest tree.at? (· ≠ []) ids addresses) :
    KeepsPlaces forest tree.at? (fun _ => True) (id :: ids) ([] :: addresses) where
  increasing := by
    refine List.pairwise_cons.mpr ⟨fun address member => ?_, keeps.increasing⟩
    have notEmpty := ((keeps.complete address).mp member).1
    cases address with
    | nil =>
        exact (notEmpty rfl).elim
    | cons number below =>
        exact List.nil_lt_cons number below
  complete address := by
    cases address with
    | nil =>
        simp [Tree.at?]
    | cons number below =>
        simpa using keeps.complete (number :: below)
  kept := .cons ⟨tree, rfl, spans⟩ keeps.kept

/-- The places in a tree come before the places in the trees behind it. -/
theorem cons
    (first : KeepsPlaces forest tree.at? (fun below => wanted (0 :: below)) ids here)
    (rest :
      KeepsPlaces forest (treeAt? trees) (fun address => wanted (address.modifyHead (· + 1)))
        others there) :
    KeepsPlaces forest (treeAt? (tree :: trees)) wanted (ids ++ others)
      (joinAddresses here there) where
  increasing := pairwise_joinAddresses first.increasing rest.increasing rest.nil_not_mem
  complete address := by
    rcases address with _ | ⟨_ | number, below⟩
    · simp [treeAt?, rest.nil_not_mem]
    · rw [treeAt?_cons_zero, zero_cons_mem_joinAddresses, first.complete]
    · rw [succ_cons_mem_joinAddresses, rest.complete]
      rfl
  kept := by
    refine List.rel_append ?_ ?_
    · exact List.forall₂_map_right_iff.mpr first.kept
    · refine List.forall₂_map_right_iff.mpr (rest.kept.imp ?_)
      rintro id address ⟨found, reached, spans⟩
      exact ⟨found, (treeAt?_cons_modifyHead tree trees address).trans reached, spans⟩

end KeepsPlaces

namespace Forest

variable {forest : Forest}

/-- Nodes, each followed by the nodes below it. -/
def withDescendants (forest : Forest) (ids : List NodeId) : List NodeId :=
  ids.flatMap fun id => id :: forest.descendants id

/-- The children of a node with the nodes below them are the nodes below it. -/
theorem withDescendants_children
    (wellFormed : forest.WellFormed)
    (id : NodeId) :
    forest.withDescendants (forest.children id) = forest.descendants id :=
  (descendants_eq wellFormed id).symm

theorem withDescendants_append
    (first second : List NodeId) :
    forest.withDescendants (first ++ second) =
      forest.withDescendants first ++ forest.withDescendants second :=
  List.flatMap_append

/-- The children of a node span the trees inside the tree that the node spans. -/
theorem Spans.children
    {id : NodeId}
    {tag : String}
    {table : Table String String}
    {trees : List Tree}
    (spans : forest.Spans id (.element tag table trees)) :
    forest.SpansAll (forest.children id) trees := by
  cases spans with
  | element known below =>
      rw [children_of_content? known]
      exact below

mutual

/-- The nodes below a node keep the places inside the tree that the node spans. -/
theorem Spans.exists_keeps
    (wellFormed : forest.WellFormed)
    {id : NodeId} :
    ∀ {tree : Tree},
      forest.Spans id tree →
        ∃ addresses,
          KeepsPlaces forest tree.at? (· ≠ []) (forest.descendants id) addresses
  | .text _, .text known => by
      refine ⟨[], ?_⟩
      rw [← withDescendants_children wellFormed, children_eq_content?, known]
      refine .nothing fun address notEmpty => ?_
      cases address with
      | nil =>
          exact (notEmpty rfl).elim
      | cons number below =>
          rfl
  | .element _ _ _, .element known below => by
      obtain ⟨addresses, keeps⟩ := SpansAll.exists_keeps wellFormed below
      refine ⟨addresses, ?_⟩
      rw [← withDescendants_children wellFormed, children_of_content? known]
      exact keeps.inside

theorem SpansAll.exists_keeps
    (wellFormed : forest.WellFormed)
    {ids : List NodeId} :
    ∀ {trees : List Tree},
      forest.SpansAll ids trees →
        ∃ addresses,
          KeepsPlaces forest (treeAt? trees) (fun _ => True) (forest.withDescendants ids)
            addresses
  | [], .nil => ⟨[], .nothing fun address _ => by cases address <;> rfl⟩
  | _ :: _, .cons first rest => by
      obtain ⟨here, keeps⟩ := Spans.exists_keeps wellFormed first
      obtain ⟨there, others⟩ := SpansAll.exists_keeps wellFormed rest
      exact ⟨_, (KeepsPlaces.whole first keeps).cons others⟩

end

/-- Nodes that span two lists of trees span one after the other. -/
theorem SpansAll.exists_append
    {first second : List Tree}
    {ids : List NodeId}
    (spans : forest.SpansAll ids (first ++ second)) :
    ∃ left right,
      ids = left ++ right ∧ forest.SpansAll left first ∧ forest.SpansAll right second := by
  induction first generalizing ids with
  | nil =>
      exact ⟨[], ids, rfl, .nil, spans⟩
  | cons tree rest inductionHypothesis =>
      cases spans with
      | cons head below =>
          obtain ⟨left, right, rfl, leftSpans, rightSpans⟩ := inductionHypothesis below
          exact ⟨_ :: left, right, rfl, .cons head leftSpans, rightSpans⟩

end Forest

/-! ## Distribution -/

namespace PageContent

variable {forest : Forest}

/-- The nodes of the head keep what is inside the heads. -/
theorem exists_keeps_head
    (wellFormed : forest.WellFormed)
    (trees : List Tree)
    {ids : List NodeId}
    (spans : forest.SpansAll ids (ofTops trees).head) :
    ∃ addresses,
      KeepsPlaces forest (treeAt? trees) (IsInHead trees) (forest.withDescendants ids)
        addresses := by
  induction trees generalizing ids with
  | nil =>
      cases spans
      exact ⟨[], .nothing fun address _ => by cases address <;> rfl⟩
  | cons tree rest inductionHypothesis =>
      have pass :
          tree.tag? ≠ some "head" →
            forest.SpansAll ids (ofTops rest).head →
            ∃ addresses,
              KeepsPlaces forest (treeAt? (tree :: rest)) (IsInHead (tree :: rest))
                (forest.withDescendants ids) addresses := by
        intro notHead restSpans
        obtain ⟨there, keeps⟩ := inductionHypothesis restSpans
        have here :
            KeepsPlaces forest tree.at? (fun below => IsInHead (tree :: rest) (0 :: below))
              [] [] :=
          .nothing fun below inHead => (notHead inHead.1).elim
        exact ⟨_, here.cons (keeps.congr fun _ => isInHead_modifyHead)⟩
      unfold ofTops at spans
      dsimp only at spans
      split at spans
      · obtain ⟨left, right, rfl, leftSpans, rightSpans⟩ := spans.exists_append
        obtain ⟨here, inside⟩ := leftSpans.exists_keeps wellFormed
        obtain ⟨there, keeps⟩ := inductionHypothesis rightSpans
        rw [Forest.withDescendants_append]
        refine
          ⟨_,
            (inside.inside.congr fun below => ?_).cons
              (keeps.congr fun _ => isInHead_modifyHead)⟩
        simp [isInHead_zero, Tree.tag?]
      · exact pass (by simp [Tree.tag?]) spans
      · next notHead notBody =>
          exact pass (tag?_ne notHead) spans

/-- The nodes of the body keep everything but the heads and the bodies themselves. -/
theorem exists_keeps_body
    (wellFormed : forest.WellFormed)
    (trees : List Tree)
    {ids : List NodeId}
    (spans : forest.SpansAll ids (ofTops trees).body) :
    ∃ addresses,
      KeepsPlaces forest (treeAt? trees)
        (fun address => ¬ IsWrapper trees address ∧ ¬ IsInHead trees address)
        (forest.withDescendants ids) addresses := by
  induction trees generalizing ids with
  | nil =>
      cases spans
      exact ⟨[], .nothing fun address _ => by cases address <;> rfl⟩
  | cons tree rest inductionHypothesis =>
      have behind :
          ∀ address,
            ¬ IsWrapper (tree :: rest) (address.modifyHead (· + 1)) ∧
                ¬ IsInHead (tree :: rest) (address.modifyHead (· + 1)) ↔
              ¬ IsWrapper rest address ∧ ¬ IsInHead rest address := by
        intro address
        rw [isWrapper_modifyHead, isInHead_modifyHead]
      unfold ofTops at spans
      dsimp only at spans
      split at spans
      · obtain ⟨there, keeps⟩ := inductionHypothesis spans
        refine ⟨_, (KeepsPlaces.nothing fun below wanted => ?_).cons (keeps.congr behind)⟩
        simp [isWrapper_zero, isInHead_zero, Tree.tag?] at wanted
      · obtain ⟨left, right, rfl, leftSpans, rightSpans⟩ := spans.exists_append
        obtain ⟨here, inside⟩ := leftSpans.exists_keeps wellFormed
        obtain ⟨there, keeps⟩ := inductionHypothesis rightSpans
        rw [Forest.withDescendants_append]
        refine ⟨_, (inside.inside.congr fun below => ?_).cons (keeps.congr behind)⟩
        simp [isWrapper_zero, isInHead_zero, Tree.tag?]
      · next notHead notBody =>
          have noHead := tag?_ne notHead
          have noBody := tag?_ne notBody
          cases spans with
          | cons first restSpans =>
              obtain ⟨here, inside⟩ := first.exists_keeps wellFormed
              obtain ⟨there, keeps⟩ := inductionHypothesis restSpans
              refine
                ⟨_,
                  ((KeepsPlaces.whole first inside).congr fun below => ?_).cons
                    (keeps.congr behind)⟩
              simp [isWrapper_zero, isInHead_zero, noHead, noBody]

end PageContent

/-! ## Pages that are read -/

/--
Every markup that the parser accepts is read as a page: below its head are, each once
and in document order, the places inside the heads among the trees that count, and
below its body all their other places apart from the heads and bodies themselves.
-/
theorem read_pages_keep_what_counts
    {markup : String}
    {trees : List Tree}
    (accepted : parseTrees markup = .ok trees) :
    ∃ page counted inHead inBody,
      Page.ofMarkup markup = .ok page ∧
        Counts trees counted ∧
        KeepsPlaces page.forest (treeAt? counted) (IsInHead counted)
          (page.forest.descendants page.head) inHead ∧
        KeepsPlaces page.forest (treeAt? counted)
          (fun address => ¬ IsWrapper counted address ∧ ¬ IsInHead counted address)
          (page.forest.descendants page.body) inBody ∧
        page.forest.descendants page.root =
          page.head :: page.forest.descendants page.head ++
            page.body :: page.forest.descendants page.body ∧
        (page.forest.descendants page.root).Nodup := by
  obtain ⟨page, read, wellFormed, spans⟩ := Page.ofMarkup_spans accepted
  have framed := Page.framed_ofMarkup read
  have below := spans.children
  rw [framed.listed] at below
  rcases below with _ | ⟨headSpans, _ | ⟨bodySpans, -⟩⟩
  obtain ⟨inHead, head⟩ := PageContent.exists_keeps_head wellFormed _ headSpans.children
  obtain ⟨inBody, body⟩ := PageContent.exists_keeps_body wellFormed _ bodySpans.children
  rw [Forest.withDescendants_children wellFormed] at head body
  refine
    ⟨page, _, inHead, inBody, read, counts_tops trees, head, body, ?_,
      Forest.nodup_descendants wellFormed page.root⟩
  rw [Forest.descendants_eq wellFormed page.root, framed.listed]
  simp

/-- A page with content before, between and behind its head and its body. -/
def looseMarkup : String :=
  "<html>a<head><i>b</i></head>c<body><p>d</p></body><head>e</head>f</html>"

/-- The trees of `looseMarkup`. -/
def looseTrees : List Tree :=
  [.element "html" ⟨[]⟩
    [.text "a", .element "head" ⟨[]⟩ [.element "i" ⟨[]⟩ [.text "b"]], .text "c",
      .element "body" ⟨[]⟩ [.element "p" ⟨[]⟩ [.text "d"]],
      .element "head" ⟨[]⟩ [.text "e"], .text "f"]]

/-- The page with loose content keeps all of it. -/
theorem read_pages_keep_what_counts_of_loose_content :
    parseTrees looseMarkup = .ok looseTrees ∧
      ∃ page counted inHead inBody,
        Page.ofMarkup looseMarkup = .ok page ∧
          Counts looseTrees counted ∧
          KeepsPlaces page.forest (treeAt? counted) (IsInHead counted)
            (page.forest.descendants page.head) inHead ∧
          KeepsPlaces page.forest (treeAt? counted)
            (fun address => ¬ IsWrapper counted address ∧ ¬ IsInHead counted address)
            (page.forest.descendants page.body) inBody ∧
          page.forest.descendants page.root =
            page.head :: page.forest.descendants page.head ++
              page.body :: page.forest.descendants page.body ∧
          (page.forest.descendants page.root).Nodup :=
  ⟨rfl, read_pages_keep_what_counts (rfl : parseTrees looseMarkup = .ok looseTrees)⟩

/--
A paragraph before an empty `html` element is lost: the page that is read is blank,
although without the element the body holds the paragraph.
-/
theorem paragraph_beside_html_is_lost :
    parseTrees "<p>a</p><html></html>" =
        .ok [.element "p" ⟨[]⟩ [.text "a"], .element "html" ⟨[]⟩ []] ∧
      Page.ofMarkup "<p>a</p><html></html>" = .ok .blank ∧
      ∃ page,
        Page.ofMarkup "<p>a</p>" = .ok page ∧
          page.forest.Spans page.root
            (.element "html" ⟨[]⟩
              [.element "head" ⟨[]⟩ [],
                .element "body" ⟨[]⟩ [.element "p" ⟨[]⟩ [.text "a"]]]) := by
  have accepted :
      parseTrees "<p>a</p><html></html>" =
        .ok [.element "p" ⟨[]⟩ [.text "a"], .element "html" ⟨[]⟩ []] := rfl
  refine ⟨accepted, ?_, ?_⟩
  · rw [Page.ofMarkup, accepted]
    rfl
  · have alone : parseTrees "<p>a</p>" = .ok [.element "p" ⟨[]⟩ [.text "a"]] := rfl
    obtain ⟨page, read, -, spans⟩ := Page.ofMarkup_spans alone
    exact ⟨page, read, spans⟩

end PageScript.Document
