import PageScript.Proofs.Markup.Reading
import PageScript.Proofs.Text.LowerCase

namespace PageScript.Markup

/-!
# The content of scripts and styles

Inside a script or a style everything up to the end tag of its name is data.
Other end tags are data too, and so are end tags that are spelled with variants
of the letters, so the data are read in pieces that join to one text.  A text is
read back whole when no end tag of the name starts in it.
-/

open Text (cutAt?_run)

/-! ## Where the reader stops -/

/-- A text goes on after its letters, compared without case. -/
theorem afterLetters?_lowerAfter
    {word : List Char}
    (continued : ∀ c ∈ word, isEndTagNameChar c = true)
    (before rest : List Char) :
    Text.afterLetters? (Text.lowerAfter before word) (word ++ rest) =
      some rest := by
  induction word generalizing before with
  | nil =>
      rfl
  | cons c others inductionHypothesis =>
      obtain ⟨first, othersContinued⟩ := List.forall_mem_cons.mp continued
      have basic := (of_isEndTagNameChar first).1
      have notSigma : c ≠ 'Σ' := by
        rintro rfl
        revert basic
        decide
      have notDotted : c ≠ 'İ' := by
        rintro rfl
        revert basic
        decide
      rw [Text.lowerAfter_cons, Text.smallLetters, if_neg notSigma,
        if_neg notDotted]
      change
        (if Text.sameLetter (Text.lowerChar c) c = true then
            Text.afterLetters? _ (others ++ rest)
          else
            none) =
          some rest
      rw [if_pos (Text.sameLetter_lowerChar notSigma notDotted)]
      exact inductionHypothesis othersContinued _

/-- The reader stops at the end tag of a script or a style. -/
theorem endsRaw_of_closesRaw
    {name s : List Char}
    (closes : closesRaw name s = true) :
    endsRaw name s = true := by
  obtain ⟨_, rest, rfl, gap, first, others, after, rfl, gapBlank, letter,
    continued, afterBlank, rfl⟩ := closesRaw_iff.mp closes
  have firstContinues := isEndTagNameChar_of_isLatinLetter letter
  have front :
      Text.trimStart (gap ++ (first :: others) ++ (after ++ '>' :: rest)) =
        (first :: others) ++ (after ++ '>' :: rest) := by
    rw [List.append_assoc]
    refine Text.trimStart_run_append gapBlank ?_
    simpa using (of_isEndTagNameChar firstContinues).2
  have finish : Text.trimStart (after ++ '>' :: rest) = '>' :: rest :=
    Text.trimStart_run_append afterBlank fun c isHead => by
      cases isHead
      decide
  have letters :=
    afterLetters?_lowerAfter
      (List.forall_mem_cons.mpr ⟨firstContinues, continued⟩) []
      (after ++ '>' :: rest)
  have shape :
      gap ++ first :: (others ++ after) ++ '>' :: rest =
        gap ++ (first :: others) ++ (after ++ '>' :: rest) := by
    simp
  rw [shape, endsRaw, front]
  rw [Text.lower, letters]
  dsimp only
  rw [finish]
  rfl

/-- No letter of the name is taken for a mark. -/
def IsMarkless (name : List Char) : Prop :=
  ∀ c ∈ name, Text.sameLetter c '<' = false ∧ Text.sameLetter c '>' = false

theorem isMarkless_of_isRawTag
    {tag : String}
    (raw : isRawTag tag = true) :
    IsMarkless tag.toList := by
  rw [isRawTag, Bool.or_eq_true, beq_iff_eq, beq_iff_eq] at raw
  rcases raw with rfl | rfl
  · exact List.all_iff_forall_prop.mp (by decide)
  · exact List.all_iff_forall_prop.mp (by decide)

/-- The letters that a name is compared with are no marks. -/
theorem of_afterLetters?_eq_some
    {name : List Char}
    (markless : IsMarkless name)
    {s rest : List Char}
    (found : Text.afterLetters? name s = some rest) :
    ∃ word, s = word ++ rest ∧ ∀ c ∈ word, isMark c = false := by
  induction name generalizing s with
  | nil =>
      cases found
      exact ⟨[], rfl, List.forall_mem_nil _⟩
  | cons expected others inductionHypothesis =>
      obtain ⟨⟨notLess, notGreater⟩, othersMarkless⟩ :=
        List.forall_mem_cons.mp markless
      cases s with
      | nil =>
          cases found
      | cons c tail =>
          rw [Text.afterLetters?] at found
          split at found
          · next same =>
              obtain ⟨word, rfl, wordMarkless⟩ :=
                inductionHypothesis othersMarkless found
              exact
                ⟨c :: word, rfl,
                  List.forall_mem_cons.mpr
                    ⟨not_isMark_of_test notLess notGreater same, wordMarkless⟩⟩
          · cases found

/-- Where the reader stops, a `>` comes before any other mark. -/
theorem exists_of_endsRaw
    {name : List Char}
    (markless : IsMarkless name)
    {s : List Char}
    (ends : endsRaw name s = true) :
    ∃ inner rest,
      s = inner ++ '>' :: rest ∧ ∀ c ∈ inner, isMark c = false := by
  unfold endsRaw at ends
  split at ends
  next start =>
    split at ends
    next after found =>
      obtain ⟨gap, gapBlank, split⟩ := Text.exists_blanks_trimStart start
      obtain ⟨word, trimmed, wordMarkless⟩ :=
        of_afterLetters?_eq_some markless found
      obtain ⟨blanks, blanksBlank, afterSplit⟩ :=
        Text.exists_blanks_trimStart after
      obtain ⟨rest, finish⟩ := List.head?_eq_some_iff.mp (by simpa using ends)
      refine ⟨'/' :: gap ++ word ++ blanks, rest, ?_, ?_⟩
      · rw [split, trimmed, afterSplit, finish]
        simp
      · simp only [List.forall_mem_append, List.forall_mem_cons]
        exact
          ⟨⟨⟨by decide, fun c member => not_isMark_of_isBlank (gapBlank c member)⟩,
              wordMarkless⟩,
            fun c member => not_isMark_of_isBlank (blanksBlank c member)⟩
    · cases ends
  · cases ends

/-- The reader stops behind some data, at the first `<` that looks like the start of an end tag. -/
structure StopsAt (name s before tagText : List Char) : Prop where
  split : s = before ++ '<' :: tagText
  ends : endsRaw name tagText = true
  first :
    ∀ front back,
      before = front ++ '<' :: back →
        endsRaw name (back ++ '<' :: tagText) = false

theorem stopsAt_of_rawData?
    {name s before tagText : List Char}
    (found : rawData? name s = some (before, tagText)) :
    StopsAt name s before tagText := by
  induction s generalizing before with
  | nil =>
      cases found
  | cons c rest inductionHypothesis =>
      rw [rawData?] at found
      split at found
      · next stops =>
          cases found
          obtain ⟨isLess, ends⟩ := (Bool.and_eq_true _ _).mp stops
          obtain rfl := of_decide_eq_true isLess
          refine ⟨rfl, ends, fun front back split => ?_⟩
          cases front <;> cases split
      · next goesOn =>
          obtain ⟨⟨others, _⟩, later, shape⟩ := Option.map_eq_some_iff.mp found
          cases shape
          obtain ⟨split, ends, first⟩ := inductionHypothesis later
          refine ⟨by rw [split]; rfl, ends, fun front back inside => ?_⟩
          rcases front with _ | ⟨_, front⟩
          · cases inside
            rw [split] at goesOn
            simpa using goesOn
          · cases inside
            exact first front back rfl

/-- The reader stops when an end tag seems to start somewhere. -/
theorem exists_rawData?
    {name tagText : List Char}
    (ends : endsRaw name tagText = true)
    (before : List Char) :
    ∃ parts, rawData? name (before ++ '<' :: tagText) = some parts := by
  induction before with
  | nil =>
      exact ⟨_, if_pos (by simpa using ends)⟩
  | cons c rest inductionHypothesis =>
      obtain ⟨parts, found⟩ := inductionHypothesis
      rw [List.cons_append, rawData?, found]
      split
      · exact ⟨_, rfl⟩
      · exact ⟨_, rfl⟩

/-- The reader stops at an end tag, or at a `<` in the data before it. -/
theorem StopsAt.at_or_before
    {name data tagText before stopText : List Char}
    (stops : StopsAt name (data ++ '<' :: tagText) before stopText)
    (ends : endsRaw name tagText = true) :
    before = data ∧ stopText = tagText ∨
      ∃ inside,
        data = before ++ '<' :: inside ∧ stopText = inside ++ '<' :: tagText := by
  rcases List.append_eq_append_iff.mp stops.split with
    ⟨more, beforeSplit, tagSplit⟩ | ⟨more, dataSplit, stopSplit⟩
  · cases more with
    | nil =>
        cases tagSplit
        exact .inl ⟨by rw [beforeSplit, List.append_nil], rfl⟩
    | cons c others =>
        obtain ⟨rfl, inTag⟩ := List.cons.inj tagSplit
        rw [inTag] at ends
        have goesOn := stops.first data others beforeSplit
        exact absurd ends (Bool.eq_false_iff.mp goesOn)
  · cases more with
    | nil =>
        cases stopSplit
        exact .inl ⟨by rw [dataSplit, List.append_nil], rfl⟩
    | cons c others =>
        cases stopSplit
        exact .inr ⟨others, dataSplit, rfl⟩

/-! ## What one step reads -/

/-- What is read where the reader stops: the end tag, or a piece of data that looks like one. -/
inductive RawRead (name before tagText : List Char) :
    List Event → RawMode → List Char → Prop where
  /-- The end tag ends the data. -/
  | closing
      {rest : List Char} :
      closesRaw name tagText = true →
      plainEndTag? (tagText.drop 1) = some (name, rest) →
      RawRead name before tagText
        (dataEvents before ++ [.closing (String.ofList name)]) none rest
  /-- A text up to a `>` belongs to the data. -/
  | piece
      {inner rest : List Char} :
      closesRaw name tagText = false →
      tagText = inner ++ '>' :: rest →
      (∀ c ∈ inner, isMark c = false) →
      RawRead name before tagText
        (dataEvents before ++ [.data ('<' :: inner ++ ['>'])]) (some name) rest

/-- Reading the content of a script or a style stops somewhere, or nothing is left. -/
theorem rawContent_cases
    {name : List Char}
    (markless : IsMarkless name)
    (s : List Char) :
    (rawData? name s = none ∧ rawContent name s = .finished) ∨
      ∃ before tagText found next rest,
        StopsAt name s before tagText ∧
          RawRead name before tagText found next rest ∧
          rawContent name s = .read found next rest := by
  cases stop : rawData? name s with
  | none =>
      exact .inl ⟨rfl, by rw [rawContent, stop]⟩
  | some parts =>
      rcases parts with ⟨before, tagText⟩
      have stops := stopsAt_of_rawData? stop
      obtain ⟨start, rfl⟩ : ∃ start, tagText = '/' :: start := by
        have ends := stops.ends
        unfold endsRaw at ends
        split at ends
        · exact ⟨_, rfl⟩
        · cases ends
      refine .inr ⟨before, '/' :: start, ?_⟩
      rw [rawContent, stop]
      dsimp only
      rw [List.drop_one, List.tail_cons]
      cases closing : plainEndTag? start with
      | none =>
          have noTag : closesRaw name ('/' :: start) = false := by
            rw [closesRaw, closing]
            rfl
          obtain ⟨inner, rest, split, unmarked⟩ :=
            exists_of_endsRaw markless stops.ends
          have absent : '>' ∉ inner := fun member => by
            cases unmarked '>' member
          rw [split] at stops noTag ⊢
          dsimp only
          rw [cutAt?_run absent]
          exact ⟨_, _, _, stops, .piece noTag rfl unmarked, rfl⟩
      | some read =>
          rcases read with ⟨closed, rest⟩
          dsimp only
          split
          · next same =>
              subst same
              have closes : closesRaw closed ('/' :: start) = true := by
                rw [closesRaw, closing]
                exact decide_eq_true rfl
              exact ⟨_, _, _, stops, .closing closes closing, rfl⟩
          · next different =>
              have noTag : closesRaw name ('/' :: start) = false := by
                rw [closesRaw, closing]
                exact decide_eq_false different
              obtain ⟨inner, rfl, spells⟩ := plainEndTag?_eq_some_iff.mp closing
              have taken :
                  ('/' :: (inner ++ '>' :: rest)).take
                      (('/' :: (inner ++ '>' :: rest)).length - rest.length) =
                    '/' :: inner ++ ['>'] := by
                have shape :
                    '/' :: (inner ++ '>' :: rest) =
                      ('/' :: inner ++ ['>']) ++ rest := by
                  simp
                rw [shape, List.length_append, Nat.add_sub_cancel,
                  List.take_left]
              have unmarked : ∀ c ∈ '/' :: inner, isMark c = false :=
                List.forall_mem_cons.mpr ⟨by decide, spells.not_isMark⟩
              rw [taken]
              exact ⟨_, _, _, stops, .piece noTag rfl unmarked, rfl⟩

/-! ## Reading data back -/

theorem isPlainName_of_isRawTag
    {tag : String}
    (raw : isRawTag tag = true) :
    IsPlainName tag := by
  rw [isRawTag, Bool.or_eq_true, beq_iff_eq, beq_iff_eq] at raw
  rcases raw with rfl | rfl
  · decide
  · decide

/-- Some data as one piece, if there are any. -/
def pieceOf (data : List Char) : List (List Char) :=
  if data.isEmpty then [] else [data]

theorem dataEvents_eq
    (data : List Char) :
    dataEvents data = (pieceOf data).map .data := by
  rw [dataEvents, pieceOf]
  split <;> rfl

theorem flatten_pieceOf
    (data : List Char) :
    (pieceOf data).flatten = data := by
  cases data <;> simp [pieceOf]

theorem nil_not_mem_pieceOf
    (data : List Char) :
    [] ∉ pieceOf data := by
  cases data <;> simp [pieceOf]

/-- Data that hold no end tag are read back in pieces, up to the end tag behind them. -/
theorem reads_rawContent
    {tag : String}
    (raw : isRawTag tag = true)
    {data : List Char}
    (noEnd : holdsEndTag tag.toList data = false)
    (rest : List Char) :
    ∃ pieces : List (List Char),
      pieces.flatten = data ∧
        [] ∉ pieces ∧
        Reads (some tag.toList) (data ++ (writeEndTag tag ++ rest))
          (pieces.map .data ++ [.closing tag]) none rest := by
  have written :
      writeEndTag tag ++ rest = '<' :: '/' :: (tag.toList ++ '>' :: rest) := by
    simp [writeEndTag]
  have back := plainEndTag?_written (isPlainName_of_isRawTag raw) rest
  have closes :
      closesRaw tag.toList ('/' :: (tag.toList ++ '>' :: rest)) = true := by
    rw [closesRaw, back]
    exact decide_eq_true rfl
  have ends := endsRaw_of_closesRaw closes
  rw [written]
  -- On the length of the data: a piece that looks like an end tag is left behind.
  induction size : data.length using Nat.strong_induction_on generalizing data with
  | _ size inductionHypothesis =>
  rcases rawContent_cases (isMarkless_of_isRawTag raw)
      (data ++ '<' :: '/' :: (tag.toList ++ '>' :: rest)) with
    ⟨nowhere, -⟩ | ⟨before, tagText, found, next, left, stops, read, taken⟩
  · obtain ⟨parts, somewhere⟩ := exists_rawData? ends data
    rw [nowhere] at somewhere
    cases somewhere
  rcases stops.at_or_before ends with ⟨rfl, rfl⟩ | ⟨inside, rfl, rfl⟩
  -- The reader stops at the end tag behind the data.
  · cases read with
    | closing _ closing =>
        rw [List.drop_one, List.tail_cons, back] at closing
        cases closing
        rw [String.ofList_toList, dataEvents_eq] at taken
        refine
          ⟨pieceOf before, flatten_pieceOf before, nil_not_mem_pieceOf before,
            .single taken ?_⟩
        simp only [List.length_append, List.length_cons]
        omega
    | piece noTag _ _ =>
        rw [closes] at noTag
        cases noTag
  -- It stops inside the data, where no end tag of the name starts.
  · have nowhere := holdsEndTag_eq_false_iff.mp noEnd
    cases read with
    | closing closesHere _ =>
        have inner := closesRaw_of_append closesHere
        rw [nowhere before inside rfl] at inner
        cases inner
    | @piece inner _ _ split unmarked =>
        obtain ⟨between, rfl, rfl⟩ := exists_of_append_eq unmarked split.symm
        have betweenNoEnd : holdsEndTag tag.toList between = false := by
          apply @holdsEndTag_of_append _ _ (before ++ '<' :: inner ++ ['>'])
          simpa using noEnd
        obtain ⟨pieces, joined, filled, more⟩ :=
          inductionHypothesis between.length (by simp at size; omega)
            betweenNoEnd rfl
        rw [dataEvents_eq] at taken
        refine
          ⟨pieceOf before ++ ('<' :: inner ++ ['>']) :: pieces, ?_, ?_, ?_⟩
        · rw [List.flatten_append, flatten_pieceOf, List.flatten_cons, joined]
          simp
        · rw [List.mem_append, List.mem_cons]
          simp [nil_not_mem_pieceOf, filled]
        · have shorter :
              (between ++ '<' :: '/' :: (tag.toList ++ '>' :: rest)).length <
                (before ++ '<' :: (inner ++ '>' :: between) ++
                  '<' :: '/' :: (tag.toList ++ '>' :: rest)).length := by
            simp only [List.length_append, List.length_cons]
            omega
          have first :
              step (some tag.toList)
                  (before ++ '<' :: (inner ++ '>' :: between) ++
                    '<' :: '/' :: (tag.toList ++ '>' :: rest)) =
                _ :=
            taken
          simpa using Reads.next first shorter more

end PageScript.Markup
