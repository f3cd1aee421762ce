import PageScript.Proofs.Markup.RawContent
import PageScript.Proofs.Markup.Readable

namespace PageScript.Markup

/-!
# What is read

Every element that is read is sound.  A step outside scripts and styles reads at
most one event, whose attributes are under names that are read back.  Inside a
script or a style the data read so far hold no end tag, also not together with
the text that is left.
-/

/-! ## Names of attributes -/

/-- A text that is read as the name of an attribute. -/
def SpellsAttributeName (name : List Char) : Prop :=
  ∃ first rest,
    name = first :: rest ∧
      startsAttributeName first = true ∧
      ∀ c ∈ rest, isAttributeNameChar c = true

/-- A new letter goes on every part of a name. -/
theorem isAttributeNameChar_of_isNewLetter
    {c : Char}
    (new : Text.IsNewLetter c) :
    startsAttributeName c = true ∧ isAttributeNameChar c = true := by
  have different :
      ∀ {mark : Char}, ¬ 'a' ≤ mark → c ≠ mark := by
    rintro mark before rfl
    exact before new.afterMarks
  have notSlash : c ≠ '/' := different (by decide)
  have notGreater : c ≠ '>' := different (by decide)
  have notEquals : c ≠ '=' := different (by decide)
  have starts : startsAttributeName c = true := by
    simp [startsAttributeName, new.solid, notSlash, notGreater]
  exact ⟨starts, by simp [isAttributeNameChar, starts, notEquals]⟩

/-- The small form of a name is read as a name. -/
theorem SpellsAttributeName.isAttributeName
    {name : List Char}
    (spells : SpellsAttributeName name) :
    IsAttributeName (String.ofList (Text.lower name)) := by
  obtain ⟨first, rest, rfl, starts, continued⟩ := spells
  refine ⟨?_, ?_⟩
  · obtain ⟨c, others, small, firstSmall, othersSmall⟩ :=
      Text.exists_lower_cons first rest
    refine ⟨c, others, ?_, ?_, fun d member => ?_⟩
    · rw [String.toList_ofList, small]
    · rcases firstSmall with rfl | new
      · exact starts
      · exact (isAttributeNameChar_of_isNewLetter new).1
    · rcases othersSmall d member with old | new
      · exact continued d old
      · exact (isAttributeNameChar_of_isNewLetter new).2
  · rw [String.toList_ofList, Text.lower_lower]

theorem spellsAttributeName_of_attribute?
    {s : List Char}
    {read : AttributeRead}
    (found : attribute? s = some read) :
    SpellsAttributeName read.name := by
  cases s with
  | nil =>
      cases found
  | cons c rest =>
      rw [attribute?] at found
      split at found
      · cases found
      · next starts =>
          have spells : SpellsAttributeName (c :: rest.takeWhile isAttributeNameChar) :=
            ⟨c, _, rfl, by simpa using starts,
              fun _ member => List.mem_takeWhile_imp member⟩
          dsimp only at found
          split at found <;> cases found <;> exact spells

theorem spellsAttributeName_of_attributesWithin
    (fuel : Nat)
    (separated : Bool)
    (s : List Char) :
    ∀ entry ∈ (attributesWithin fuel separated s).1, SpellsAttributeName entry.1 := by
  induction fuel generalizing separated s with
  | zero =>
      exact List.forall_mem_nil _
  | succ fuel inductionHypothesis =>
      rw [attributesWithin]
      split
      · exact List.forall_mem_nil _
      · split
        · exact List.forall_mem_nil _
        · next read found =>
            exact
              List.forall_mem_cons.mpr
                ⟨spellsAttributeName_of_attribute? found,
                  inductionHypothesis read.separated read.rest⟩

theorem spellsAttributeName_of_attributes
    (separated : Bool)
    (s : List Char) :
    ∀ entry ∈ (attributes separated s).1, SpellsAttributeName entry.1 :=
  spellsAttributeName_of_attributesWithin s.length separated s

/-- Decoded attributes are under names that are read back. -/
theorem named_of_decodeAttributes
    {entries : List (List Char × List Char)}
    (spells : ∀ entry ∈ entries, SpellsAttributeName entry.1)
    {decoded : List (String × String)}
    (read : decodeAttributes entries = .ok decoded) :
    ∀ entry ∈ decoded, IsAttributeName entry.1 := by
  induction entries generalizing decoded with
  | nil =>
      cases read
      exact List.forall_mem_nil _
  | cons entry rest inductionHypothesis =>
      obtain ⟨entrySpells, restSpells⟩ := List.forall_mem_cons.mp spells
      rw [decodeAttributes] at read
      split at read
      · cases read
      · cases others : decodeAttributes rest with
        | error error =>
            rw [others] at read
            cases read
        | ok found =>
            rw [others] at read
            cases read
            exact
              List.forall_mem_cons.mpr
                ⟨entrySpells.isAttributeName,
                  inductionHypothesis restSpells others⟩

/-! ## One step outside scripts and styles -/

/-- A tag is written in small letters. -/
def IsSmallTag (tag : String) : Prop :=
  String.ofList (Text.lower tag.toList) = tag

theorem isSmallTag_lower
    (name : List Char) :
    IsSmallTag (String.ofList (Text.lower name)) := by
  rw [IsSmallTag, String.toList_ofList, Text.lower_lower]

/-- The tag of a start tag is in small letters. -/
def Event.HasSmallTag : Event → Prop
  | .opening tag _ => IsSmallTag tag
  | .closed tag _ => IsSmallTag tag
  | _ => True

/--
At most one event is read, with names that are read back and a tag in small letters,
and it decides the mode.
-/
def ReadsOne (found : List Event) (next : RawMode) : Prop :=
  found = [] ∧ next = none ∨
    ∃ event, found = [event] ∧ event.IsNamed ∧ event.HasSmallTag ∧ next = event.mode

/-- A step that reads something reads at most one event. -/
def Step.IsPlain : Step → Prop
  | .read found next _ => ReadsOne found next
  | _ => True

theorem isPlain_data
    (characters rest : List Char) :
    (Step.read [.data characters] none rest).IsPlain :=
  .inr ⟨.data characters, rfl, trivial, trivial, rfl⟩

theorem isPlain_closing
    (tag : String)
    (rest : List Char) :
    (Step.read [.closing tag] none rest).IsPlain :=
  .inr ⟨.closing tag, rfl, trivial, trivial, rfl⟩

theorem isPlain_decodedData
    (characters rest : List Char) :
    (decodedData characters rest).IsPlain := by
  rw [decodedData]
  split
  · trivial
  · exact isPlain_data _ rest

theorem isPlain_incomplete
    (s : List Char) :
    (incomplete s).IsPlain := by
  rw [incomplete]
  split
  · exact isPlain_decodedData _ _
  · split
    · exact isPlain_decodedData _ _
    · exact isPlain_decodedData _ _

theorem isPlain_skipTo
    (s : List Char)
    (rest : Option (List Char)) :
    (skipTo s rest).IsPlain := by
  cases rest with
  | none =>
      exact isPlain_incomplete s
  | some rest =>
      exact .inl ⟨rfl, rfl⟩

theorem isPlain_startTag
    (s : List Char) :
    (startTag s).IsPlain := by
  unfold startTag
  dsimp only
  have spells := spellsAttributeName_of_attributes
  split
  · split
    · trivial
    · next found decoded =>
        have named := named_of_decodeAttributes (spells _ _) decoded
        refine .inr ⟨.opening _ found, rfl, named, isSmallTag_lower _, ?_⟩
        rw [Event.mode, modeAfter, ← rawTags_contains, String.toList_ofList]
  · split
    · trivial
    · next found decoded =>
        have named := named_of_decodeAttributes (spells _ _) decoded
        exact .inr ⟨.closed _ found, rfl, named, isSmallTag_lower _, rfl⟩
  · exact isPlain_incomplete s
  · split
    · exact isPlain_incomplete s
    · split
      · trivial
      · exact isPlain_data _ _

theorem isPlain_endTag
    (s : List Char) :
    (endTag s).IsPlain := by
  rw [endTag]
  split
  · exact isPlain_incomplete _
  · split
    · exact isPlain_closing _ _
    · split
      · exact .inl ⟨rfl, rfl⟩
      · split
        · exact isPlain_closing _ _
        · exact .inl ⟨rfl, rfl⟩

theorem isPlain_markedSection
    (s : List Char) :
    (markedSection s).IsPlain := by
  unfold markedSection
  dsimp only
  split
  · exact isPlain_incomplete _
  · split
    · trivial
    · split
      · exact isPlain_incomplete _
      · split
        · exact isPlain_skipTo _ _
        · split
          · exact isPlain_skipTo _ _
          · trivial

theorem isPlain_markup
    (s : List Char) :
    (markup s).IsPlain := by
  unfold markup
  split
  · exact isPlain_data _ _
  · exact isPlain_endTag _
  · exact isPlain_skipTo _ _
  · exact isPlain_markedSection _
  · exact isPlain_skipTo _ _
  · exact isPlain_skipTo _ _
  · split
    · exact isPlain_startTag _
    · exact isPlain_data _ _

/-- Outside scripts and styles a step reads at most one event. -/
theorem isPlain_step
    (s : List Char) :
    (step none s).IsPlain := by
  unfold step
  dsimp only
  split
  · trivial
  · exact isPlain_markup _
  · exact isPlain_decodedData _ _

/-! ## Data inside scripts and styles -/

/-- No end tag of the name starts in the data when the rest follows them. -/
def EndsNowhere (name rest data : List Char) : Prop :=
  ∀ front back, data = front ++ '<' :: back → closesRaw name (back ++ rest) = false

namespace EndsNowhere

variable {name rest data : List Char}

theorem holdsEndTag_eq_false
    (nowhere : EndsNowhere name rest data) :
    holdsEndTag name data = false := by
  refine holdsEndTag_eq_false_iff.mpr fun front back split => ?_
  refine Bool.eq_false_iff.mpr fun closes => ?_
  have closed := nowhere front back split
  rw [closesRaw_append closes] at closed
  cases closed

theorem append
    {more : List Char}
    (first : EndsNowhere name (more ++ rest) data)
    (second : EndsNowhere name rest more) :
    EndsNowhere name rest (data ++ more) := by
  intro front back split
  rcases List.append_eq_append_iff.mp split with
    ⟨between, rfl, moreSplit⟩ | ⟨between, dataSplit, tail⟩
  · exact second between back moreSplit
  · cases between with
    | nil =>
        exact second [] back tail.symm
    | cons c others =>
        obtain ⟨rfl, tailSame⟩ := List.cons.inj tail
        change back = others ++ more at tailSame
        rw [tailSame, List.append_assoc]
        exact first front others dataSplit

/-- Where the reader stops no end tag has started before. -/
theorem of_stopsAt
    {s before tagText : List Char}
    (stops : StopsAt name s before tagText) :
    EndsNowhere name ('<' :: tagText) before := by
  intro front back split
  refine Bool.eq_false_iff.mpr fun closes => ?_
  have goesOn := stops.first front back split
  rw [endsRaw_of_closesRaw closes] at goesOn
  cases goesOn

/-- A piece that looks like an end tag starts none inside. -/
theorem of_piece
    {inner : List Char}
    (noTag : closesRaw name (inner ++ '>' :: rest) = false)
    (unmarked : ∀ c ∈ inner, isMark c = false) :
    EndsNowhere name rest ('<' :: inner ++ ['>']) := by
  intro front back split
  cases front with
  | nil =>
      obtain ⟨-, same⟩ := List.cons.inj split
      change inner ++ ['>'] = back at same
      rw [← same, List.append_assoc]
      exact noTag
  | cons c others =>
      obtain ⟨-, tail⟩ := List.cons.inj split
      have marked : '<' ∈ inner ++ ['>'] := by
        change inner ++ ['>'] = others ++ '<' :: back at tail
        rw [tail]
        simp
      rcases List.mem_append.mp marked with inside | last
      · cases unmarked '<' inside
      · cases List.mem_singleton.mp last

end EndsNowhere

/-- The children of an open script or style are its data so far, if there are any. -/
def HoldsData (children : List Tree) (data : List Char) : Prop :=
  children = [] ∧ data = [] ∨ children = [.text (String.ofList data)]

theorem HoldsData.joinData
    {children : List Tree}
    {data : List Char}
    (holds : HoldsData children data)
    (more : List Char) :
    HoldsData (Builder.joinData more children) (data ++ more) := by
  rcases holds with ⟨rfl, rfl⟩ | rfl
  · exact .inr rfl
  · exact .inr (by rw [Builder.joinData, String.ofList_append])

theorem HoldsData.rawClosed
    {children : List Tree}
    {data : List Char}
    (holds : HoldsData children data)
    {tag : String}
    (noEnd : holdsEndTag tag.toList data = false) :
    RawClosed tag children.reverse := by
  rcases holds with ⟨rfl, rfl⟩ | rfl
  · exact ⟨[], rfl, rfl⟩
  · exact ⟨[String.ofList data], rfl, by simpa using noEnd⟩

/-! ## Reading to the end -/

/-- The builder in each mode, before a text that is left. -/
inductive Builder.Within : RawMode → List Char → Builder → Prop where
  /-- No script and no style is open. -/
  | ordinary
      {s : List Char}
      {builder : Builder} :
      builder.IsSound →
      Builder.Within none s builder
  /-- A script or a style is open innermost and holds the data that were read. -/
  | raw
      {s data : List Char}
      {tag : String}
      {attributes : Table String String}
      {children finished : List Tree}
      {outer : List OpenElement} :
      Builder.IsSound ⟨outer, finished⟩ →
      isRawTag tag = true →
      AttributesSound attributes →
      HoldsData children data →
      EndsNowhere tag.toList s data →
      Builder.Within (some tag.toList) s
        ⟨⟨tag, attributes, children⟩ :: outer, finished⟩

namespace Builder.Within

variable {mode next : RawMode} {s rest : List Char} {builder : Builder}
  {found : List Event}

/-- The start tag of a script or a style opens it. -/
theorem take_opening
    (sound : builder.IsSound)
    {tag : String}
    (raw : isRawTag tag = true)
    {attributes : List (String × String)}
    (named : ∀ entry ∈ attributes, IsAttributeName entry.1)
    (s : List Char) :
    Builder.Within (some tag.toList) s (builder.take (.opening tag attributes)) := by
  have notVoid : isVoidTag tag = false := by
    refine Bool.eq_false_iff.mpr fun void => ?_
    rw [isRawTag_of_isVoidTag void] at raw
    cases raw
  rw [Builder.take, notVoid]
  refine
    .raw sound raw (attributesSound_attributeTable named) (.inl ⟨rfl, rfl⟩) ?_
  intro front back split
  cases front <;> cases split

/-- The open script or style becomes a sound element. -/
theorem isSound_closeInnermost
    (within : Builder.Within mode s builder) :
    builder.closeInnermost.IsSound := by
  cases within with
  | ordinary sound =>
      exact sound.closeInnermost
  | raw outside raw attributes holds nowhere =>
      have closed := holds.rawClosed nowhere.holdsEndTag_eq_false
      refine outside.add ⟨⟨attributes.named, attributes.once, ?_, fun _ => closed⟩, ?_⟩
      · intro void
        rw [isRawTag_of_isVoidTag void] at raw
        cases raw
      · obtain ⟨texts, shape, -⟩ := closed
        rw [shape, treesEvery_iff]
        intro tree member
        obtain ⟨data, -, rfl⟩ := List.mem_map.mp member
        trivial

/-- All elements are sound when everything is closed. -/
theorem treesEvery_finished
    (within : Builder.Within mode s builder) :
    TreesEvery Markup.IsSound
      (closeMany builder.opened.length builder).finished := by
  cases opened : builder.opened with
  | nil =>
      cases within with
      | ordinary sound =>
          exact sound.finished
      | raw =>
          cases opened
  | cons inner outer =>
      exact (within.isSound_closeInnermost.closeMany outer.length).finished

/-- Data inside a script or a style are added to it. -/
theorem foldl_take_dataEvents
    {tag : String}
    {attributes : Table String String}
    {children : List Tree}
    {outer : List OpenElement}
    {finished : List Tree}
    {data more : List Char}
    (holds : HoldsData children data) :
    ∃ grown,
      HoldsData grown (data ++ more) ∧
        (dataEvents more).foldl Builder.take
            ⟨⟨tag, attributes, children⟩ :: outer, finished⟩ =
          ⟨⟨tag, attributes, grown⟩ :: outer, finished⟩ := by
  cases more with
  | nil =>
      rw [List.append_nil]
      exact ⟨children, holds, rfl⟩
  | cons c others =>
      exact ⟨_, holds.joinData (c :: others), rfl⟩

/-- The end tag of a script or a style closes it alone. -/
theorem take_closing
    (tag : String)
    (attributes : Table String String)
    (children : List Tree)
    (outer : List OpenElement)
    (finished : List Tree) :
    Builder.take ⟨⟨tag, attributes, children⟩ :: outer, finished⟩ (.closing tag) =
      Builder.closeInnermost ⟨⟨tag, attributes, children⟩ :: outer, finished⟩ := by
  rw [Builder.take, List.findIdx?_cons, beq_self_eq_true]
  rfl

/-- What is read outside scripts and styles may open one. -/
theorem foldl_take_ordinary
    (sound : builder.IsSound)
    (taken : step none s = .read found next rest) :
    Builder.Within next rest (found.foldl Builder.take builder) := by
  have plain := isPlain_step s
  rw [taken] at plain
  rcases plain with ⟨rfl, rfl⟩ | ⟨event, rfl, named, -, rfl⟩
  · exact .ordinary sound
  · cases ordinary : event.mode with
    | none =>
        exact .ordinary (sound.take named ordinary)
    | some name =>
        cases event with
        | opening tag attributes =>
            rw [Event.mode, modeAfter] at ordinary
            split at ordinary
            · next raw =>
                cases ordinary
                exact take_opening sound raw named rest
            · cases ordinary
        | closed _ _ | closing _ | data _ =>
            cases ordinary

/-- What is read inside a script or a style is data of it or closes it. -/
theorem foldl_take_raw
    {data : List Char}
    {tag : String}
    {attributes : Table String String}
    {children finished : List Tree}
    {outer : List OpenElement}
    (outside : Builder.IsSound ⟨outer, finished⟩)
    (raw : isRawTag tag = true)
    (attributesSound : AttributesSound attributes)
    (holds : HoldsData children data)
    (nowhere : EndsNowhere tag.toList s data)
    (taken : rawContent tag.toList s = .read found next rest) :
    Builder.Within next rest
      (found.foldl Builder.take ⟨⟨tag, attributes, children⟩ :: outer, finished⟩) := by
  rcases rawContent_cases (isMarkless_of_isRawTag raw) s with
    ⟨-, finish⟩ | ⟨before, tagText, _, _, _, stops, read, same⟩
  · rw [taken] at finish
    cases finish
  rw [taken] at same
  cases same
  obtain ⟨grown, grownHolds, grownIs⟩ :=
    @foldl_take_dataEvents tag attributes children outer finished data before
      holds
  have beforeNowhere := EndsNowhere.of_stopsAt stops
  rw [stops.split] at nowhere
  have grownNowhere := nowhere.append beforeNowhere
  cases read with
  | closing closes closing =>
      rw [List.foldl_append, grownIs, String.ofList_toList, List.foldl_cons,
        List.foldl_nil, take_closing]
      exact
        .ordinary
          (Builder.Within.raw outside raw attributesSound grownHolds
            grownNowhere).isSound_closeInnermost
  | @piece inner _ noTag split unmarked =>
      rw [split] at noTag grownNowhere
      have shape :
          '<' :: (inner ++ '>' :: rest) = ('<' :: inner ++ ['>']) ++ rest := by
        simp
      rw [shape] at grownNowhere
      rw [List.foldl_append, grownIs]
      exact
        .raw outside raw attributesSound (grownHolds.joinData _)
          (grownNowhere.append (.of_piece noTag unmarked))

/-- A step leads to a builder in the mode after it. -/
theorem foldl_take
    (within : Builder.Within mode s builder)
    (taken : step mode s = .read found next rest) :
    Builder.Within next rest (found.foldl Builder.take builder) := by
  cases within with
  | ordinary sound =>
      exact foldl_take_ordinary sound taken
  | raw outside raw attributesSound holds nowhere =>
      exact foldl_take_raw outside raw attributesSound holds nowhere taken

/-- What is read from a text leaves the builder in some mode. -/
theorem of_eventsWithin
    {fuel : Nat}
    (within : Builder.Within mode s builder)
    (read : eventsWithin fuel mode s = .ok found) :
    ∃ last left, Builder.Within last left (found.foldl Builder.take builder) := by
  induction fuel generalizing mode s builder found with
  | zero =>
      cases read
      exact ⟨mode, s, within⟩
  | succ fuel inductionHypothesis =>
      rw [eventsWithin] at read
      split at read
      · cases read
      · cases read
        exact ⟨mode, s, within⟩
      · next first next rest taken =>
          cases more : eventsWithin fuel next rest with
          | error error =>
              rw [more] at read
              cases read
          | ok others =>
              rw [more] at read
              cases read
              rw [List.foldl_append]
              exact inductionHypothesis (within.foldl_take taken) more

end Builder.Within

/-! ## Tags -/

/-- No start tag is read inside a script or a style. -/
theorem hasSmallTag_of_rawContent
    {name s rest : List Char}
    {found : List Event}
    {next : RawMode}
    (taken : rawContent name s = .read found next rest) :
    ∀ event ∈ found, event.HasSmallTag := by
  have inData :
      ∀ characters, ∀ event ∈ dataEvents characters, event.HasSmallTag := by
    intro characters event member
    rw [dataEvents] at member
    split at member
    · cases member
    · rw [List.mem_singleton.mp member]
      trivial
  have behind
      {before : List Char}
      {last : Event}
      (small : last.HasSmallTag) :
      ∀ event ∈ dataEvents before ++ [last], event.HasSmallTag := by
    simpa [or_imp, forall_and, small] using inData before
  unfold rawContent at taken
  split at taken
  · cases taken
  · split at taken
    · split at taken <;> cases taken <;> exact behind trivial
    · split at taken <;> cases taken
      exact behind trivial

/-- All start tags of a text are read with tags in small letters. -/
theorem hasSmallTag_of_eventsWithin
    {fuel : Nat}
    {mode : RawMode}
    {s : List Char}
    {found : List Event}
    (read : eventsWithin fuel mode s = .ok found) :
    ∀ event ∈ found, event.HasSmallTag := by
  induction fuel generalizing mode s found with
  | zero =>
      cases read
      exact List.forall_mem_nil _
  | succ fuel inductionHypothesis =>
      rw [eventsWithin] at read
      split at read
      · cases read
      · cases read
        exact List.forall_mem_nil _
      · next first next rest taken =>
          have small : ∀ event ∈ first, event.HasSmallTag := by
            cases mode with
            | some name =>
                exact hasSmallTag_of_rawContent taken
            | none =>
                have plain := isPlain_step s
                rw [taken] at plain
                rcases plain with ⟨rfl, -⟩ | ⟨event, rfl, -, isSmall, -⟩
                · exact List.forall_mem_nil _
                · exact List.forall_mem_singleton.mpr isSmall
          cases more : eventsWithin fuel next rest with
          | error error =>
              rw [more] at read
              cases read
          | ok others =>
              rw [more] at read
              cases read
              exact List.forall_mem_append.mpr ⟨small, inductionHypothesis more⟩

/-! ## Parsed trees -/

/-- Every element that is read is sound. -/
theorem treesEvery_isSound_of_parseTrees
    {markup : String}
    {trees : List Tree}
    (readable : parseTrees markup = .ok trees) :
    TreesEvery IsSound trees := by
  rw [parseTrees] at readable
  cases found : events markup.toList with
  | error error =>
      rw [found] at readable
      cases readable
  | ok events =>
      rw [found] at readable
      cases readable
      obtain ⟨last, left, within⟩ :=
        (Builder.Within.ordinary Builder.IsSound.empty).of_eventsWithin found
      have finished := within.treesEvery_finished
      rw [Builder.ofEvents, Builder.trees]
      rw [treesEvery_iff] at finished ⊢
      exact fun tree member => finished tree (List.mem_reverse.mp member)

mutual

theorem Tree.Every.attributesNodup :
    ∀ {tree : Tree}, tree.Every IsSound → tree.AttributesNodup
  | .text _, _ => trivial
  | .element .., ⟨sound, below⟩ => ⟨sound.once, below.attributesNodupAll⟩

theorem TreesEvery.attributesNodupAll :
    ∀ {trees : List Tree}, TreesEvery IsSound trees → AttributesNodupAll trees
  | [], _ => trivial
  | _ :: _, ⟨here, rest⟩ => ⟨here.attributesNodup, rest.attributesNodupAll⟩

end

/-- No tree that is read lists an attribute twice. -/
theorem attributesNodupAll_of_parseTrees
    {markup : String}
    {trees : List Tree}
    (readable : parseTrees markup = .ok trees) :
    AttributesNodupAll trees :=
  (treesEvery_isSound_of_parseTrees readable).attributesNodupAll

end PageScript.Markup
