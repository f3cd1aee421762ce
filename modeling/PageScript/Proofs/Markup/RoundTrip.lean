import PageScript.Proofs.Document.PageShape
import PageScript.Proofs.Markup.Parsed
import PageScript.Proofs.Markup.Readable

namespace PageScript.Markup

/-!
# Reading undoes writing

Trees from which writing loses nothing are read back as they were.  The reader
finds the events of the trees in order, whatever follows the markup, and the
builder adds the trees that these events describe.  A page is read back with its
head, its body and the attributes of its body.  Markup of any other kind, with stray
end tags, elements that are never closed or odd attribute names, is read and written
once to come to a normal form, as long as all tags are plain.
-/

mutual

/-- The events of a tree in the order of its markup. -/
def Tree.events : Tree → List Event
  | .text data => [.data data.toList]
  | .element tag attributes children =>
      if isVoidTag tag then
        [.opening tag attributes.entries]
      else
        .opening tag attributes.entries ::
          (treesEvents children ++ [.closing tag])

/-- The events of neighbouring trees in the order of their markup. -/
def treesEvents : List Tree → List Event
  | [] => []
  | tree :: rest => tree.events ++ treesEvents rest

end

/-! ## Reading the events -/

theorem toList_ne_nil
    {data : String}
    (nonempty : data ≠ "") :
    data.toList ≠ [] := by
  intro nothing
  exact nonempty (String.toList_injective nothing)

theorem length_lt_writeStartTag
    (tag : String)
    (attributes : Table String String)
    (rest : List Char) :
    rest.length < (writeStartTag tag attributes ++ rest).length := by
  rw [writeStartTag, List.length_append, List.length_append, List.length_cons]
  omega

theorem length_lt_writeEndTag
    (tag : String)
    (rest : List Char) :
    rest.length < (writeEndTag tag ++ rest).length := by
  rw [writeEndTag, List.length_append, List.length_append, List.length_cons]
  omega

/-- The markup of an element starts with a tag. -/
theorem startsMarkup_writeTrees
    {trees : List Tree}
    (noText : startsWithText trees = false)
    {rest : List Char}
    (starts : StartsMarkup rest) :
    StartsMarkup (writeTrees false trees ++ rest) := by
  match trees with
  | [] =>
      exact starts
  | .text data :: others =>
      cases noText
  | .element tag attributes children :: others =>
      rw [writeTrees, Tree.write]
      split
      · exact .inr ⟨_, rfl⟩
      · exact .inr ⟨_, rfl⟩

/-- Two lists of events do the same to every builder. -/
def SameEffect (found expected : List Event) : Prop :=
  ∀ builder : Builder,
    found.foldl Builder.take builder = expected.foldl Builder.take builder

theorem SameEffect.refl
    (found : List Event) :
    SameEffect found found :=
  fun _ => rfl

theorem SameEffect.append
    {found expected more moreExpected : List Event}
    (first : SameEffect found expected)
    (second : SameEffect more moreExpected) :
    SameEffect (found ++ more) (expected ++ moreExpected) := by
  intro builder
  rw [List.foldl_append, List.foldl_append, first, second]

/-- Data are added piece by piece or at once. -/
theorem Builder.addData_addData
    (builder : Builder)
    (first second : List Char) :
    (builder.addData first).addData second = builder.addData (first ++ second) := by
  have joined :
      ∀ trees : List Tree,
        joinData second (joinData first trees) = joinData (first ++ second) trees := by
    intro trees
    match trees with
    | [] =>
        simp [joinData]
    | .text data :: others =>
        simp [joinData, String.append_assoc]
    | .element .. :: others =>
        simp [joinData]
  rcases builder with ⟨_ | ⟨inner, outer⟩, finished⟩
  · exact congrArg (Builder.mk []) (joined finished)
  · exact
      congrArg
        (fun children =>
          Builder.mk ({ inner with children := children } :: outer) finished)
        (joined inner.children)

/-- Pieces of data do the same as the data. -/
theorem sameEffect_pieces
    {pieces : List (List Char)}
    (filled : [] ∉ pieces) :
    SameEffect (pieces.map .data) (dataEvents pieces.flatten) := by
  induction pieces with
  | nil =>
      exact .refl []
  | cons piece rest inductionHypothesis =>
      obtain ⟨pieceFilled, restFilled⟩ := not_or.mp (mt List.mem_cons.mpr filled)
      intro builder
      have nonempty : piece ≠ [] := fun empty => pieceFilled empty.symm
      rw [List.map_cons, List.foldl_cons, inductionHypothesis restFilled,
        List.flatten_cons, dataEvents, dataEvents]
      rw [if_neg (by simp [nonempty] : ¬ (piece ++ rest.flatten).isEmpty = true)]
      cases rest.flatten with
      | nil =>
          simp
      | cons c others =>
          exact builder.addData_addData piece (c :: others)

/-- The texts inside a script or a style are written as they are and hold no end tag. -/
theorem RawClosed.content
    {tag : String}
    {children : List Tree}
    (closed : RawClosed tag children)
    (readable : TreesReadable children) :
    holdsEndTag tag.toList (writeTrees true children) = false ∧
      treesEvents children = dataEvents (writeTrees true children) := by
  obtain ⟨texts, rfl, noEnd⟩ := closed
  rcases texts with _ | ⟨data, _ | ⟨other, others⟩⟩
  · exact ⟨rfl, rfl⟩
  · have written : writeTrees true [Tree.text data] = data.toList := by
      simp [writeTrees, Tree.write]
    have filled : ¬ data.toList.isEmpty = true := by
      simpa using toList_ne_nil readable.1
    refine ⟨?_, ?_⟩
    · rw [List.map_singleton, written]
      simpa using noEnd
    · rw [List.map_singleton, written, dataEvents, if_neg filled]
      rfl
  · cases readable.2.1 rfl

mutual

/-- The events of a written tree are read, whatever markup follows. -/
theorem Tree.reads :
    ∀ {tree : Tree} {rest : List Char},
      tree.Readable →
        (startsWithText [tree] = true → StartsMarkup rest) →
        ∃ found,
          Reads none (tree.write false ++ rest) found none rest ∧
            SameEffect found tree.events
  | .text data, rest, nonempty, starts => by
      rw [Tree.Readable] at nonempty
      have taken :=
        step_escapeText (toList_ne_nil nonempty) (starts rfl)
      refine ⟨_, .single taken ?_, .refl _⟩
      have written := List.length_pos_iff.mpr
        (escapeText_ne_nil (toList_ne_nil nonempty))
      change rest.length < (escapeText data.toList ++ rest).length
      rw [List.length_append]
      omega
  | .element tag attributes children, rest, readable, _ => by
      rw [Tree.Readable] at readable
      obtain ⟨plain, sound, below⟩ := readable
      rw [Tree.write, Tree.events]
      split
      · next void =>
          have taken := step_writeStartTag plain sound.named rest
          rw [modeAfter, isRawTag_of_isVoidTag void] at taken
          exact
            ⟨_, .single taken (length_lt_writeStartTag tag attributes rest),
              .refl _⟩
      · rw [List.append_assoc, List.append_assoc]
        have opened :=
          Reads.single (step_writeStartTag plain sound.named _)
            (length_lt_writeStartTag tag attributes
              (writeTrees (isRawTag tag) children ++ (writeEndTag tag ++ rest)))
        -- Inside a script or a style the content is written and read as it is.
        cases raw : isRawTag tag with
        | true =>
            obtain ⟨noEnd, events⟩ := (sound.closed raw).content below
            obtain ⟨pieces, joined, filled, content⟩ :=
              reads_rawContent raw noEnd rest
            rw [modeAfter, raw, if_pos rfl] at opened
            rw [← joined] at events
            rw [events]
            exact
              ⟨_, opened.trans content,
                (SameEffect.refl [_]).append
                  ((sameEffect_pieces filled).append (.refl _))⟩
        | false =>
            obtain ⟨found, content, same⟩ :=
              Trees.reads below (.inr ⟨_, rfl⟩)
            have closed :=
              Reads.single (step_writeEndTag plain rest)
                (length_lt_writeEndTag tag rest)
            rw [modeAfter, raw] at opened
            exact
              ⟨_, opened.trans (content.trans closed),
                (SameEffect.refl [_]).append (same.append (.refl _))⟩

/-- The events of neighbouring written trees are read up to the next tag. -/
theorem Trees.reads :
    ∀ {trees : List Tree} {rest : List Char},
      TreesReadable trees →
        StartsMarkup rest →
        ∃ found,
          Reads none (writeTrees false trees ++ rest) found none rest ∧
            SameEffect found (treesEvents trees)
  | [], _, _, _ => ⟨[], .done, .refl []⟩
  | tree :: others, rest, readable, starts => by
      obtain ⟨treeReadable, apart, othersReadable⟩ := readable
      rw [writeTrees, treesEvents, List.append_assoc]
      obtain ⟨more, othersRead, othersSame⟩ := Trees.reads othersReadable starts
      obtain ⟨found, treeRead, treeSame⟩ :=
        Tree.reads treeReadable fun isText =>
          startsMarkup_writeTrees (apart isText) starts
      exact ⟨_, treeRead.trans othersRead, treeSame.append othersSame⟩

end

/-! ## Adding the trees -/

namespace Builder

/-- The trees at the innermost place, last first. -/
def innermost (builder : Builder) : List Tree :=
  match builder.opened with
  | [] => builder.finished
  | inner :: _ => inner.children

@[simp] theorem innermost_add
    (builder : Builder)
    (tree : Tree) :
    (builder.add tree).innermost = tree :: builder.innermost := by
  rcases builder with ⟨_ | ⟨inner, outer⟩, finished⟩ <;> rfl

/-- Data after an element or at the start become a text. -/
theorem addData_eq_add
    {builder : Builder}
    (apart : startsWithText builder.innermost = false)
    (data : String) :
    builder.addData data.toList = builder.add (.text data) := by
  have joined :
      ∀ {trees : List Tree},
        startsWithText trees = false →
          joinData data.toList trees = .text data :: trees := by
    intro trees noText
    rcases trees with _ | ⟨_ | _, _⟩
    · simp [joinData]
    · cases noText
    · simp [joinData]
  rcases builder with ⟨_ | ⟨inner, outer⟩, finished⟩
  · exact congrArg (Builder.mk []) (joined apart)
  · exact
      congrArg
        (fun children =>
          Builder.mk ({ inner with children := children } :: outer) finished)
        (joined apart)

/-- Trees that are added to an open element become its children. -/
theorem foldl_add_opened
    (trees : List Tree)
    (inner : OpenElement)
    (outer : List OpenElement)
    (finished : List Tree) :
    trees.foldl add ⟨inner :: outer, finished⟩ =
      ⟨{ inner with children := trees.reverse ++ inner.children } :: outer,
        finished⟩ := by
  induction trees generalizing inner with
  | nil =>
      rfl
  | cons tree rest inductionHypothesis =>
      rw [List.foldl_cons]
      change
        rest.foldl add
            ⟨{ inner with children := tree :: inner.children } :: outer,
              finished⟩ =
          _
      rw [inductionHypothesis, List.reverse_cons, List.append_assoc]
      rfl

/-- Trees that are added outside all elements are finished. -/
theorem foldl_add_finished
    (trees finished : List Tree) :
    trees.foldl add ⟨[], finished⟩ = ⟨[], trees.reverse ++ finished⟩ := by
  induction trees generalizing finished with
  | nil =>
      rfl
  | cons tree rest inductionHypothesis =>
      rw [List.foldl_cons]
      change rest.foldl add ⟨[], tree :: finished⟩ = _
      rw [inductionHypothesis, List.reverse_cons, List.append_assoc]
      rfl

end Builder

mutual

/-- The events of a tree add the tree at the innermost place. -/
theorem Tree.foldl_take_events :
    ∀ {tree : Tree} {builder : Builder},
      tree.Readable →
        (startsWithText [tree] = true →
          startsWithText builder.innermost = false) →
        tree.events.foldl Builder.take builder = builder.add tree
  | .text data, builder, _, apart =>
      Builder.addData_eq_add (apart rfl) data
  | .element tag attributes children, builder, readable, _ => by
      obtain ⟨-, sound, below⟩ := readable
      have table : Builder.attributeTable attributes.entries = attributes :=
        Table.ofList_of_nodup sound.once
      rw [Tree.events]
      split
      · next void =>
          rw [List.foldl_cons, List.foldl_nil, Builder.take, if_pos void, table,
            sound.childless void]
      · next content =>
          rw [List.foldl_cons, List.foldl_append, Builder.take, if_neg content,
            table, Trees.foldl_take_events below fun _ => rfl,
            Builder.foldl_add_opened, List.foldl_cons, List.foldl_nil,
            Builder.take, List.findIdx?_cons, beq_self_eq_true, List.append_nil]
          -- The end tag finds the element itself innermost and closes it alone.
          change Builder.add builder (.element tag attributes _) = _
          rw [List.reverse_reverse]

/-- The events of neighbouring trees add them in order. -/
theorem Trees.foldl_take_events :
    ∀ {trees : List Tree} {builder : Builder},
      TreesReadable trees →
        (startsWithText trees = true →
          startsWithText builder.innermost = false) →
        (treesEvents trees).foldl Builder.take builder =
          trees.foldl Builder.add builder
  | [], _, _, _ => rfl
  | tree :: others, builder, readable, apart => by
      obtain ⟨treeReadable, between, othersReadable⟩ := readable
      have first : startsWithText [tree] = true →
          startsWithText builder.innermost = false := by
        intro isText
        cases tree with
        | text data =>
            exact apart rfl
        | element tag attributes children =>
            cases isText
      have second : startsWithText others = true →
          startsWithText (builder.add tree).innermost = false := by
        intro othersText
        rw [Builder.innermost_add]
        cases tree with
        | text data =>
            rw [between rfl] at othersText
            cases othersText
        | element tag attributes children =>
            rfl
      rw [treesEvents, List.foldl_append,
        Tree.foldl_take_events treeReadable first,
        Trees.foldl_take_events othersReadable second, List.foldl_cons]

end

/-- Trees are read when steps read events that do what theirs do. -/
theorem parseTrees_of_reads
    {markup : String}
    {trees : List Tree}
    (readable : TreesReadable trees)
    {found : List Event}
    (reads : Reads none markup.toList found none [])
    (same : SameEffect found (treesEvents trees)) :
    parseTrees markup = .ok trees := by
  rw [parseTrees, reads.events_eq]
  change Except.ok (Builder.ofEvents found) = _
  rw [Builder.ofEvents, same, Trees.foldl_take_events readable fun _ => rfl,
    Builder.empty, Builder.foldl_add_finished, List.append_nil]
  change Except.ok trees.reverse.reverse = _
  rw [List.reverse_reverse]

/-- Readable trees are read back. -/
theorem parseTrees_of_readable
    {trees : List Tree}
    (readable : TreesReadable trees) :
    parseTrees (String.ofList (writeTrees false trees)) = .ok trees := by
  obtain ⟨found, reads, same⟩ := Trees.reads readable (.inl rfl)
  rw [List.append_nil] at reads
  refine parseTrees_of_reads readable ?_ same
  rwa [String.toList_ofList]

/-- Trees from which writing loses nothing are read back. -/
theorem parseTrees_writeTrees
    {trees : List Tree}
    (writable : TreesWritable trees) :
    parseTrees (String.ofList (writeTrees false trees)) = .ok trees :=
  parseTrees_of_readable writable.readable

end PageScript.Markup

namespace PageScript.Document.Page

open Markup

/-- The document type gives no event. -/
theorem reads_documentType
    (rest : List Char) :
    Reads none ("<!DOCTYPE html>".toList ++ rest) [] none rest := by
  refine .single rfl ?_
  rw [List.length_append]
  exact Nat.lt_add_of_pos_left (by decide)

/--
Writing loses nothing of an ordinary element with such attributes and children.
-/
theorem writable_element
    {tag : String}
    {attributes : Table String String}
    {children : List Tree}
    (plain : IsPlainName tag)
    (ordinary : isVoidTag tag = false ∧ isRawTag tag = false)
    (names : ∀ name ∈ attributes.keys, IsPlainName name)
    (nodup : attributes.keys.Nodup)
    (writable : TreesWritable children) :
    (Tree.element tag attributes children).Writable := by
  obtain ⟨notVoid, notRaw⟩ := ordinary
  refine ⟨plain, names, nodup, ?_, ?_⟩
  · simp [notVoid]
  · rw [notRaw]
    exact writable

/-- Writing loses nothing of a page with such a head and body. -/
theorem writable_contentTree
    {content : PageContent}
    (head : TreesWritable content.head)
    (names : ∀ name ∈ content.bodyAttributes.keys, IsPlainName name)
    (nodup : content.bodyAttributes.keys.Nodup)
    (body : TreesWritable content.body) :
    (contentTree content).Writable := by
  have headWritable :
      (Tree.element "head" ⟨[]⟩ content.head).Writable :=
    writable_element (by decide) (by decide) (List.forall_mem_nil _)
      List.nodup_nil head
  have bodyWritable :
      (Tree.element "body" content.bodyAttributes content.body).Writable :=
    writable_element (by decide) (by decide) names nodup body
  exact
    writable_element (by decide) (by decide) (List.forall_mem_nil _)
      List.nodup_nil
      ⟨headWritable, fun _ => rfl, bodyWritable, fun _ => rfl, trivial⟩

/-- The tree of a page is distributed to the content that it was made of. -/
theorem ofTrees_contentTree
    (content : PageContent) :
    PageContent.ofTrees [.text "\n", contentTree content] = content := by
  rcases content with ⟨head, attributes, body⟩
  change PageContent.mk (head ++ []) (attributes.insertAll []) (body ++ []) = _
  rw [List.append_nil, List.append_nil]
  rfl

/-- A page is written as its document type and the markup of its tree. -/
theorem markup?_of_contentTree
    {page : Page}
    {content : PageContent}
    (known : page.forest.tree? page.root = some (contentTree content)) :
    page.markup? =
      some
        ("<!DOCTYPE html>\n" ++
          String.ofList ((contentTree content).write false)) := by
  rw [markup?, Forest.markup?, known]
  rfl

/-- The trees of a written document are a line break and the trees behind it. -/
theorem parseTrees_document
    {trees : List Tree}
    (readable : TreesReadable trees)
    (noText : startsWithText trees = false) :
    parseTrees
        ("<!DOCTYPE html>\n" ++ String.ofList (writeTrees false trees)) =
      .ok (.text "\n" :: trees) := by
  have lineBreak : "\n" ≠ "" := by
    decide
  have both : TreesReadable (.text "\n" :: trees) :=
    ⟨lineBreak, fun _ => noText, readable⟩
  have back := @String.toList_ofList (writeTrees false trees)
  have written :
      ("<!DOCTYPE html>\n" ++ String.ofList (writeTrees false trees)).toList =
        "<!DOCTYPE html>".toList ++
          (writeTrees false (.text "\n" :: trees) ++ []) := by
    rw [String.toList_append, back, writeTrees, List.append_nil]
    rfl
  obtain ⟨found, reads, same⟩ := Trees.reads both (.inl rfl)
  refine parseTrees_of_reads both ?_ same
  rw [written]
  exact (reads_documentType _).trans reads

/-- The trees of a written page are a line break and the tree of the page. -/
theorem parseTrees_contentTree
    {content : PageContent}
    (writable : (contentTree content).Writable) :
    parseTrees
        ("<!DOCTYPE html>\n" ++
          String.ofList ((contentTree content).write false)) =
      .ok [.text "\n", contentTree content] := by
  have readable : TreesReadable [contentTree content] :=
    ⟨writable.readable, nofun, trivial⟩
  have document := parseTrees_document readable rfl
  rwa [writeTrees, writeTrees, List.append_nil] at document

end PageScript.Document.Page

namespace PageScript.Markup

open Document

/--
Reading undoes writing, for trees and for pages.  Trees from which writing loses
nothing are read back.  A page whose `html` and `head` have no attributes is read
back with its head, its body and the attributes of its body when writing loses
nothing of them.
-/
theorem reading_undoes_writing :
    (∀ trees,
      TreesWritable trees →
        parseTrees (String.ofList (writeTrees false trees)) = .ok trees) ∧
      (∀ (page : Page) (head body : List Tree)
        (attributes : Table String String),
        page.forest.tree? page.root =
            some
              (.element "html" ⟨[]⟩
                [.element "head" ⟨[]⟩ head,
                  .element "body" attributes body]) →
          TreesWritable head →
          (∀ name ∈ attributes.keys, IsPlainName name) →
          attributes.keys.Nodup →
          TreesWritable body →
          ∃ markup found,
            page.markup? = some markup ∧
              Page.ofMarkup markup = .ok found ∧
              found.forest.tree? found.root = page.forest.tree? page.root) := by
  refine ⟨fun trees writable => parseTrees_writeTrees writable, ?_⟩
  intro page head body attributes known headWritable names nodup bodyWritable
  have writable : (Page.contentTree ⟨head, attributes, body⟩).Writable :=
    Page.writable_contentTree headWritable names nodup bodyWritable
  obtain ⟨found, readable, wellFormed, spans⟩ :=
    Page.ofMarkup_spans (Page.parseTrees_contentTree writable)
  rw [Page.ofTrees_contentTree] at spans
  have pageKnown :
      page.forest.tree? page.root =
        some (Page.contentTree ⟨head, attributes, body⟩) :=
    known
  refine ⟨_, found, Page.markup?_of_contentTree pageKnown, readable, ?_⟩
  rw [pageKnown]
  exact (Forest.tree?_eq_some wellFormed).mpr spans

/--
A note with a quotation and a script is read back, and so is the blank page.
-/
theorem reading_undoes_writing_of_note :
    parseTrees
          (String.ofList
            (writeTrees false
              [.element "p" ⟨[("title", "a \x22b\x22 & c")]⟩ [.text "1 < 2"],
                .element "script" ⟨[]⟩ [.text "a < b && c"]])) =
        .ok
          [.element "p" ⟨[("title", "a \x22b\x22 & c")]⟩ [.text "1 < 2"],
            .element "script" ⟨[]⟩ [.text "a < b && c"]] ∧
      ∃ markup found,
        Page.blank.markup? = some markup ∧
          Page.ofMarkup markup = .ok found ∧
          found.forest.tree? found.root =
            Page.blank.forest.tree? Page.blank.root := by
  obtain ⟨ofTrees, ofPages⟩ := reading_undoes_writing
  have textNotEmpty : "1 < 2" ≠ "" := by
    decide
  have rawText : IsRawText "a < b && c" :=
    ⟨by decide, by decide⟩
  have noteWritable :
      (Tree.element "p" ⟨[("title", "a \x22b\x22 & c")]⟩
        [.text "1 < 2"]).Writable := by
    refine
      Page.writable_element (by decide) (by decide) ?_ (by decide)
        ⟨textNotEmpty, fun _ => rfl, trivial⟩
    exact List.forall_mem_singleton.mpr (by decide)
  have scriptWritable :
      (Tree.element "script" ⟨[]⟩ [.text "a < b && c"]).Writable :=
    ⟨by decide, List.forall_mem_nil _, List.nodup_nil, nofun,
      .inr ⟨_, rfl, rawText⟩⟩
  have blankTree :
      Page.blank.forest.tree? Page.blank.root =
        some (Page.contentTree ⟨[], ⟨[]⟩, []⟩) := by
    rw [Forest.tree?_eq_some Page.blank_wellFormed]
    exact
      .element rfl
        (.cons (.element rfl .nil) (.cons (.element rfl .nil) .nil))
  exact
    ⟨ofTrees _ ⟨noteWritable, nofun, scriptWritable, nofun, trivial⟩,
      ofPages Page.blank [] [] ⟨[]⟩ blankTree trivial (List.forall_mem_nil _)
        List.nodup_nil trivial⟩

/-! ## Written markup is a normal form -/

/-- The markup of neighbouring trees. -/
def markupOf (trees : List Tree) : String :=
  String.join (trees.map Tree.markup)

/-- The markup that is written for what is read from a markup text. -/
def rewritten (markup : String) : Except MarkupError String :=
  (parseTrees markup).map markupOf

/-- Neighbouring trees are written one after the other. -/
theorem toList_markupOf
    (trees : List Tree) :
    (markupOf trees).toList = writeTrees false trees := by
  rw [markupOf, String.toList_join]
  induction trees with
  | nil =>
      rfl
  | cons tree rest inductionHypothesis =>
      rw [List.map_cons, List.flatMap_cons, inductionHypothesis, Tree.markup,
        String.toList_ofList, writeTrees]

theorem markupOf_eq
    (trees : List Tree) :
    markupOf trees = String.ofList (writeTrees false trees) := by
  rw [← toList_markupOf, String.ofList_toList]

/-- Joining texts keeps the markup. -/
theorem markupOf_joinedAll
    (trees : List Tree) :
    markupOf (joinedAll trees) = markupOf trees := by
  rw [markupOf_eq, markupOf_eq, writeTrees_joinedAll]

/-- What is written for sound trees with plain tags is read with its texts joined. -/
theorem parseTrees_markupOf
    {trees : List Tree}
    (sound : TreesEvery IsSoundAndPlain trees) :
    parseTrees (markupOf trees) = .ok (joinedAll trees) := by
  have readable := parseTrees_of_readable (treesReadable_joinedAll sound)
  rwa [writeTrees_joinedAll, ← markupOf_eq] at readable

/--
What is written for accepted markup with plain tags is accepted, and reading and writing
it once more changes nothing.
-/
theorem written_markup_is_normal
    (markup : String)
    (trees : List Tree)
    (accepted : parseTrees markup = .ok trees)
    (plain : TreesEvery HasPlainTag trees) :
    ∃ written,
      rewritten markup = .ok written ∧
        parseTrees written = .ok (joinedAll trees) ∧
        rewritten written = .ok written := by
  have reread :=
    parseTrees_markupOf ((treesEvery_isSound_of_parseTrees accepted).and plain)
  refine ⟨markupOf trees, ?_, reread, ?_⟩
  · rw [rewritten, accepted]
    rfl
  · rw [rewritten, reread]
    exact congrArg Except.ok (markupOf_joinedAll trees)

/--
Markup with an odd attribute name, a repeated attribute, a reference to no character, a
stray end tag, a comment, and a script that does not end.
-/
def untidyMarkup : String :=
  "<P =x ID='&#62;' id=c>1 < 2<br/></i><b>&#1;</b><!-- x -->x<Script>if (a</b) <"

/-- The trees of the untidy markup. -/
def untidyTrees : List Tree :=
  [.element "p" ⟨[("=x", ""), ("id", "c")]⟩
    [.text "1 < 2", .element "br" ⟨[]⟩ [], .element "b" ⟨[]⟩ [.text ""], .text "x",
      .element "script" ⟨[]⟩ []]]

/-- The untidy markup has a normal form, which is read without the empty text. -/
theorem written_markup_is_normal_of_untidy :
    parseTrees untidyMarkup = .ok untidyTrees ∧
      TreesEvery HasPlainTag untidyTrees ∧
      ∃ written,
        rewritten untidyMarkup = .ok written ∧
          parseTrees written = .ok (joinedAll untidyTrees) ∧
          rewritten written = .ok written := by
  have accepted : parseTrees untidyMarkup = .ok untidyTrees := rfl
  have plain : TreesEvery HasPlainTag untidyTrees := by
    simp only [untidyTrees, TreesEvery, Tree.Every, HasPlainTag]
    decide
  exact
    ⟨accepted, plain,
      written_markup_is_normal untidyMarkup untidyTrees accepted plain⟩

end PageScript.Markup
