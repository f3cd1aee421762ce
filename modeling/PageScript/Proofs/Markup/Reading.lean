import PageScript.Markup.CharacterReference
import PageScript.Proofs.Markup.Writable

namespace PageScript.Markup

/-!
# Reading what was written

Each piece of written markup is read back by one step: an escaped text up to the
next tag, a start tag with its quoted attributes, and an end tag.  Steps that
consume something follow one another without regard to the fuel of the reader.  An
escape writes a character as itself or as a reference that stands for it, and no
character that is written as itself is an ampersand, so decoding an escaped text gives
the text back.
-/

/-! ## Decoding what was escaped -/

/--
Every character is written as itself or as a reference that stands for it.
-/
def IsEscape (escape : Char → List Char) : Prop :=
  ∀ c,
    (c ≠ '&' ∧ escape c = [c]) ∨
      ∃ written,
        escape c = '&' :: written ∧
          ∀ rest, referenceText? (written ++ rest) = .ok (some ([c], rest))

/-- A character that is no ampersand is kept. -/
theorem decodeWithin_plain
    {c : Char}
    (plain : c ≠ '&')
    (fuel : Nat)
    (rest : List Char) :
    decodeWithin (fuel + 1) (c :: rest) =
      (decodeWithin fuel rest).map (c :: ·) := by
  rw [decodeWithin, if_neg plain]

/-- A reference is replaced by its text. -/
theorem decodeWithin_reference
    {written text rest : List Char}
    (known : referenceText? written = .ok (some (text, rest)))
    (fuel : Nat) :
    decodeWithin (fuel + 1) ('&' :: written) =
      (decodeWithin fuel rest).map (text ++ ·) := by
  rw [decodeWithin, if_pos rfl, known]

/-- Decoding undoes an escape. -/
theorem decodeWithin_flatMap
    {escape : Char → List Char}
    (isEscape : IsEscape escape)
    (s : List Char)
    {fuel : Nat}
    (enough : (s.flatMap escape).length ≤ fuel) :
    decodeWithin fuel (s.flatMap escape) = .ok s := by
  -- On the text and not on its escape: one character may take several steps.
  induction s generalizing fuel with
  | nil =>
      cases fuel <;> rfl
  | cons c rest inductionHypothesis =>
      rw [List.flatMap_cons] at enough ⊢
      rcases isEscape c with ⟨plain, kept⟩ | ⟨written, reference, known⟩
      · rw [kept, List.singleton_append] at enough ⊢
        cases fuel with
        | zero =>
            cases Nat.not_succ_le_zero _ enough
        | succ fuel =>
            rw [decodeWithin_plain plain,
              inductionHypothesis (Nat.le_of_succ_le_succ enough)]
            rfl
      · rw [reference, List.cons_append] at enough ⊢
        cases fuel with
        | zero =>
            cases Nat.not_succ_le_zero _ enough
        | succ fuel =>
            have restEnough : (rest.flatMap escape).length ≤ fuel := by
              rw [List.length_cons, List.length_append] at enough
              omega
            rw [decodeWithin_reference (known _),
              inductionHypothesis restEnough]
            rfl

/-- What stands behind the ampersands of an escaped text. -/
def textReferences : List (List Char) :=
  ["amp;".toList, "lt;".toList, "gt;".toList]

/-- What stands behind the ampersands of an escaped attribute value. -/
def attributeReferences : List (List Char) :=
  "quot;".toList :: "#x27;".toList :: textReferences

/-- A character of a text is kept or written as a reference to it. -/
theorem escapeTextChar_cases
    (c : Char) :
    (c ≠ '&' ∧ c ≠ '<' ∧ escapeTextChar c = [c]) ∨
      ∃ written ∈ textReferences,
        escapeTextChar c = '&' :: written ∧
          ∀ rest, referenceText? (written ++ rest) = .ok (some ([c], rest)) := by
  rw [escapeTextChar]
  split
  · next isAmpersand =>
      subst isAmpersand
      exact .inr ⟨"amp;".toList, by decide, rfl, fun _ => rfl⟩
  · next notAmpersand =>
      split
      · next isLess =>
          subst isLess
          exact .inr ⟨"lt;".toList, by decide, rfl, fun _ => rfl⟩
      · next notLess =>
          split
          · next isGreater =>
              subst isGreater
              exact .inr ⟨"gt;".toList, by decide, rfl, fun _ => rfl⟩
          · exact .inl ⟨notAmpersand, notLess, rfl⟩

/--
A character of an attribute value is kept or written as a reference to it.
-/
theorem escapeAttributeChar_cases
    (c : Char) :
    (c ≠ '&' ∧ c ≠ '\x22' ∧ escapeAttributeChar c = [c]) ∨
      ∃ written ∈ attributeReferences,
        escapeAttributeChar c = '&' :: written ∧
          ∀ rest, referenceText? (written ++ rest) = .ok (some ([c], rest)) := by
  rw [escapeAttributeChar]
  split
  · next isDouble =>
      subst isDouble
      exact .inr ⟨"quot;".toList, by decide, rfl, fun _ => rfl⟩
  · next notDouble =>
      split
      · next isSingle =>
          subst isSingle
          exact .inr ⟨"#x27;".toList, by decide, rfl, fun _ => rfl⟩
      · rcases escapeTextChar_cases c with
          ⟨plain, -, kept⟩ | ⟨written, listed, reference⟩
        · exact .inl ⟨plain, notDouble, kept⟩
        · exact
            .inr
              ⟨written, List.mem_cons_of_mem _ (List.mem_cons_of_mem _ listed),
                reference⟩

theorem isEscape_escapeTextChar :
    IsEscape escapeTextChar := by
  intro c
  rcases escapeTextChar_cases c with
    ⟨plain, -, kept⟩ | ⟨written, -, reference⟩
  · exact .inl ⟨plain, kept⟩
  · exact .inr ⟨written, reference⟩

theorem isEscape_escapeAttributeChar :
    IsEscape escapeAttributeChar := by
  intro c
  rcases escapeAttributeChar_cases c with
    ⟨plain, -, kept⟩ | ⟨written, -, reference⟩
  · exact .inl ⟨plain, kept⟩
  · exact .inr ⟨written, reference⟩

/-- Decoding an escaped text gives the text back. -/
@[simp] theorem decode_escapeText
    (s : List Char) :
    decode (escapeText s) = .ok s :=
  decodeWithin_flatMap isEscape_escapeTextChar s (Nat.le_refl _)

@[simp] theorem decode_escapeAttribute
    (s : List Char) :
    decode (escapeAttribute s) = .ok s :=
  decodeWithin_flatMap isEscape_escapeAttributeChar s (Nat.le_refl _)

/-- No tag starts inside an escaped text. -/
theorem less_not_mem_escapeText
    (s : List Char) :
    '<' ∉ escapeText s := by
  intro member
  obtain ⟨c, -, inside⟩ := List.mem_flatMap.mp member
  rcases escapeTextChar_cases c with
    ⟨-, notLess, kept⟩ | ⟨written, listed, reference, -⟩
  · rw [kept] at inside
    exact notLess (List.mem_singleton.mp inside).symm
  · have absent :
        ∀ written ∈ textReferences, '<' ∉ '&' :: written := by
      decide
    rw [reference] at inside
    exact absent written listed inside

/-- No quotation ends inside an escaped attribute value. -/
theorem quote_not_mem_escapeAttribute
    (s : List Char) :
    '\x22' ∉ escapeAttribute s := by
  intro member
  obtain ⟨c, -, inside⟩ := List.mem_flatMap.mp member
  rcases escapeAttributeChar_cases c with
    ⟨-, notDouble, kept⟩ | ⟨written, listed, reference, -⟩
  · rw [kept] at inside
    exact notDouble (List.mem_singleton.mp inside).symm
  · have absent :
        ∀ written ∈ attributeReferences, '\x22' ∉ '&' :: written := by
      decide
    rw [reference] at inside
    exact absent written listed inside

theorem escapeText_ne_nil
    {s : List Char}
    (nonempty : s ≠ []) :
    escapeText s ≠ [] := by
  intro nothing
  have decoded := decode_escapeText s
  rw [nothing] at decoded
  cases decoded
  exact nonempty rfl

/-! ## Pieces of markup -/

open Text (takeWhile_run dropWhile_run cutAt?_run)

theorem length_skipGaps_le
    (s : List Char) :
    (skipGaps s).length ≤ s.length := by
  induction s with
  | nil =>
      exact Nat.le_refl _
  | cons c rest inductionHypothesis =>
      unfold skipGaps
      split
      · exact Nat.zero_le _
      · next same =>
          exact Nat.le_of_eq (congrArg List.length same.symm)
      · next same =>
          cases same
          split
          · exact Nat.le_succ_of_le inductionHypothesis
          · exact Nat.le_refl _

/-- There is no gap before the start of a name. -/
theorem skipGaps_of_starts
    {c : Char}
    (starts : startsAttributeName c = true)
    (rest : List Char) :
    skipGaps (c :: rest) = c :: rest := by
  simp only [startsAttributeName, Bool.not_eq_true', Bool.or_eq_false_iff,
    decide_eq_false_iff_not] at starts
  obtain ⟨⟨notBlank, notSlash⟩, -⟩ := starts
  unfold skipGaps
  split
  · next same =>
      cases same
  · next same =>
      cases same
      exact absurd rfl notSlash
  · next same =>
      cases same
      rw [if_neg]
      simp [notSlash, notBlank]

/-! ## Attributes -/

/-- A quoted value is read up to its closing quote. -/
theorem attributeValue?_quoted
    {value rest : List Char}
    (unquoted : '\x22' ∉ value) :
    attributeValue? ('=' :: '\x22' :: value ++ '\x22' :: rest) =
      some ⟨value, rest, true⟩ := by
  have trimmed :
      Text.trimStart ('=' :: '\x22' :: value ++ '\x22' :: rest) =
        '=' :: '\x22' :: (value ++ '\x22' :: rest) :=
    rfl
  have behind :
      ('=' :: '\x22' :: (value ++ '\x22' :: rest)).dropWhile (· = '=') =
        '\x22' :: (value ++ '\x22' :: rest) :=
    rfl
  have body :
      ('\x22' :: (value ++ '\x22' :: rest)).dropWhile Text.isBlank =
        '\x22' :: (value ++ '\x22' :: rest) :=
    rfl
  have quote : isQuote '\x22' = true := by
    decide
  rw [attributeValue?, trimmed, behind, body]
  dsimp only
  rw [quote, cutAt?_run unquoted]
  rfl

/--
An attribute with a quoted value is read with the gap after it.
-/
theorem attribute?_written
    {name : String}
    (named : IsAttributeName name)
    {value : List Char}
    (unquoted : '\x22' ∉ value)
    (rest : List Char) :
    attribute? (name.toList ++ '=' :: '\x22' :: value ++ '\x22' :: rest) =
      some ⟨name.toList, value, skipGaps rest, true⟩ := by
  obtain ⟨first, others, split, starts, continued⟩ := named.starts
  have ends : isAttributeNameChar '=' = false := by
    decide
  rw [split]
  simp only [List.cons_append, List.append_assoc, attribute?]
  rw [starts, takeWhile_run continued ends, dropWhile_run continued ends]
  have quoted := @attributeValue?_quoted value rest unquoted
  rw [List.cons_append, List.cons_append] at quoted
  rw [quoted]
  rfl

section Attributes

variable {entries : List (String × String)} {rest : List Char}

/-- The attributes of a start tag are written one after another. -/
theorem writeAttributes_cons
    (entry : String × String)
    (entries : List (String × String))
    (rest : List Char) :
    writeAttributes ⟨entry :: entries⟩ ++ rest =
      ' ' ::
        (entry.1.toList ++ '=' :: '\x22' :: escapeAttribute entry.2.toList ++
          '\x22' :: (writeAttributes ⟨entries⟩ ++ rest)) := by
  simp [writeAttributes]

/-- The gap before an attribute ends where its name starts. -/
theorem skipGaps_written
    {entry : String × String}
    (named : IsAttributeName entry.1) :
    skipGaps (writeAttributes ⟨entry :: entries⟩ ++ rest) =
      entry.1.toList ++ '=' :: '\x22' :: escapeAttribute entry.2.toList ++
        '\x22' :: (writeAttributes ⟨entries⟩ ++ rest) := by
  obtain ⟨first, others, split, starts, -⟩ := named.starts
  rw [writeAttributes_cons, split]
  change skipGaps (first :: _) = first :: _
  exact skipGaps_of_starts starts _

theorem attributesWithin_end
    (fuel : Nat)
    (separated : Bool)
    (rest : List Char) :
    attributesWithin fuel separated ('>' :: rest) = ([], '>' :: rest) := by
  cases fuel with
  | zero =>
      rfl
  | succ fuel =>
      cases separated <;> rfl

/-- The attributes of a start tag are read back with their escaped values. -/
theorem attributesWithin_written
    (named : ∀ entry ∈ entries, IsAttributeName entry.1)
    {fuel : Nat}
    (enough :
      (skipGaps (writeAttributes ⟨entries⟩ ++ '>' :: rest)).length ≤ fuel) :
    attributesWithin fuel true
        (skipGaps (writeAttributes ⟨entries⟩ ++ '>' :: rest)) =
      (entries.map fun entry =>
          (entry.1.toList, escapeAttribute entry.2.toList),
        '>' :: rest) := by
  induction entries generalizing fuel with
  | nil =>
      exact attributesWithin_end fuel true rest
  | cons entry others inductionHypothesis =>
      obtain ⟨entryNamed, othersNamed⟩ := List.forall_mem_cons.mp named
      rw [skipGaps_written entryNamed] at enough ⊢
      have shorter :=
        length_skipGaps_le (writeAttributes ⟨others⟩ ++ '>' :: rest)
      cases fuel with
      | zero =>
          simp at enough
      | succ fuel =>
          have restEnough :
              (skipGaps (writeAttributes ⟨others⟩ ++ '>' :: rest)).length ≤
                fuel := by
            simp only [List.length_append, List.length_cons] at enough shorter
            omega
          rw [attributesWithin,
            attribute?_written entryNamed
              (quote_not_mem_escapeAttribute entry.2.toList)]
          dsimp only
          rw [inductionHypothesis othersNamed restEnough]
          rfl

/-- Escaped attributes are decoded to what was written. -/
theorem decodeAttributes_written
    (named : ∀ entry ∈ entries, IsAttributeName entry.1) :
    decodeAttributes
        (entries.map fun entry =>
          (entry.1.toList, escapeAttribute entry.2.toList)) =
      .ok entries := by
  induction entries with
  | nil =>
      rfl
  | cons entry others inductionHypothesis =>
      obtain ⟨entryNamed, othersNamed⟩ := List.forall_mem_cons.mp named
      rw [List.map_cons, decodeAttributes, decode_escapeAttribute]
      dsimp only
      rw [inductionHypothesis othersNamed, entryNamed.small,
        String.ofList_toList, String.ofList_toList]
      rfl

end Attributes

/-! ## Tags -/

/-- A letter after `<` starts a start tag. -/
theorem markup_of_letter
    {c : Char}
    (letter : Text.isLatinLetter c = true)
    (rest : List Char) :
    markup (c :: rest) = startTag (c :: rest) := by
  have isLetter :
      ∀ {mark : Char}, Text.isLatinLetter mark = false → c ≠ mark := by
    rintro mark notLetter rfl
    rw [letter] at notLetter
    cases notLetter
  unfold markup
  split
  · next same =>
      cases same
  · next same =>
      cases same
      exact absurd rfl (isLetter (by decide))
  · next same =>
      cases same
      exact absurd rfl (isLetter (by decide))
  · next same =>
      cases same
      exact absurd rfl (isLetter (by decide))
  · next same =>
      cases same
      exact absurd rfl (isLetter (by decide))
  · next same =>
      cases same
      exact absurd rfl (isLetter (by decide))
  · next same =>
      cases same
      rw [if_pos letter]

/-- The tags whose content is data are the tags of scripts and styles. -/
theorem rawTags_contains
    (tag : String) :
    rawTags.contains tag.toList = isRawTag tag := by
  have tags : rawTags = ["script".toList, "style".toList] := by
    decide
  rw [tags, isRawTag, List.contains_cons, List.contains_cons,
    List.contains_nil, Bool.or_false]
  simp only [Bool.beq_eq_decide_eq, String.toList_inj]

/-- The attributes of a written start tag are read up to its end. -/
theorem attributes_written
    {entries : List (String × String)}
    (named : ∀ entry ∈ entries, IsAttributeName entry.1)
    (rest : List Char)
    (separated : Bool) :
    attributes
        (separated ||
          decide
            ((skipGaps (writeAttributes ⟨entries⟩ ++ '>' :: rest)).length <
              (writeAttributes ⟨entries⟩ ++ '>' :: rest).length))
        (skipGaps (writeAttributes ⟨entries⟩ ++ '>' :: rest)) =
      (entries.map fun entry =>
          (entry.1.toList, escapeAttribute entry.2.toList),
        '>' :: rest) := by
  cases entries with
  | nil =>
      exact attributesWithin_end _ _ rest
  | cons entry others =>
      have shorter :
          (skipGaps (writeAttributes ⟨entry :: others⟩ ++ '>' :: rest)).length <
            (writeAttributes ⟨entry :: others⟩ ++ '>' :: rest).length := by
        rw [skipGaps_written (named entry List.mem_cons_self),
          writeAttributes_cons]
        exact Nat.lt_succ_self _
      rw [decide_eq_true shorter, Bool.or_true, attributes]
      exact attributesWithin_written named (Nat.le_refl _)

/-- After the name of a start tag comes a character that is no part of it. -/
theorem exists_stop_of_writeAttributes
    (entries : List (String × String))
    (rest : List Char) :
    ∃ stop tail,
      writeAttributes ⟨entries⟩ ++ '>' :: rest = stop :: tail ∧
        isTagNameChar stop = false := by
  cases entries with
  | nil =>
      exact ⟨'>', rest, rfl, by decide⟩
  | cons entry others =>
      exact ⟨' ', _, writeAttributes_cons entry others _, by decide⟩

/-- A start tag is read back. -/
theorem step_writeStartTag
    {tag : String}
    (tagPlain : IsPlainName tag)
    {attributes : Table String String}
    (named : ∀ name ∈ attributes.keys, IsAttributeName name)
    (rest : List Char) :
    step none (writeStartTag tag attributes ++ rest) =
      .read [.opening tag attributes.entries] (modeAfter tag) rest := by
  rcases attributes with ⟨entries⟩
  have entriesNamed : ∀ entry ∈ entries, IsAttributeName entry.1 :=
    fun entry member => named entry.1 (List.mem_map_of_mem member)
  have nameContinues : ∀ c ∈ tag.toList, isTagNameChar c = true :=
    fun c member =>
      (of_mem_nameCharacters c (tagPlain.characters c member)).1
  have written :
      writeStartTag tag ⟨entries⟩ ++ rest =
        '<' :: (tag.toList ++ (writeAttributes ⟨entries⟩ ++ '>' :: rest)) := by
    simp [writeStartTag]
  -- The name ends at a blank or at the end of the tag.
  obtain ⟨stop, tail, after, ends⟩ :=
    exists_stop_of_writeAttributes entries rest
  have name :
      (tag.toList ++ (writeAttributes ⟨entries⟩ ++ '>' :: rest)).takeWhile
          isTagNameChar =
        tag.toList := by
    rw [after]
    exact takeWhile_run nameContinues ends
  have afterName :
      (tag.toList ++ (writeAttributes ⟨entries⟩ ++ '>' :: rest)).dropWhile
          isTagNameChar =
        writeAttributes ⟨entries⟩ ++ '>' :: rest := by
    rw [after]
    exact dropWhile_run nameContinues ends
  have opens :
      markup (tag.toList ++ (writeAttributes ⟨entries⟩ ++ '>' :: rest)) =
        startTag (tag.toList ++ (writeAttributes ⟨entries⟩ ++ '>' :: rest)) := by
    obtain ⟨first, others, split, letter, -⟩ := tagPlain
    rw [split]
    exact markup_of_letter (of_mem_nameLetters first letter).1 _
  rw [written]
  change markup _ = _
  rw [opens, startTag, name, afterName]
  dsimp only
  rw [attributes_written entriesNamed, decodeAttributes_written entriesNamed,
    tagPlain.lower_eq, rawTags_contains, String.ofList_toList]
  rfl

/-- An end tag with a plain name is read back. -/
theorem step_writeEndTag
    {tag : String}
    (plain : IsPlainName tag)
    (rest : List Char) :
    step none (writeEndTag tag ++ rest) = .read [.closing tag] none rest := by
  have written :
      writeEndTag tag ++ rest = '<' :: '/' :: (tag.toList ++ '>' :: rest) := by
    simp [writeEndTag]
  have absent : '>' ∉ tag.toList := by
    intro member
    have character := plain.characters '>' member
    revert character
    decide
  rw [written]
  change endTag (tag.toList ++ '>' :: rest) = _
  rw [endTag, cutAt?_run absent]
  dsimp only
  rw [plainEndTag?_written plain]
  dsimp only
  rw [String.ofList_toList]

/-! ## Texts -/

/-- A text between tags ends where the markup ends or the next tag starts. -/
def StartsMarkup (s : List Char) : Prop :=
  s = [] ∨ ∃ rest, s = '<' :: rest

/-- An escaped text is read back up to the next tag. -/
theorem step_escapeText
    {data rest : List Char}
    (nonempty : data ≠ [])
    (starts : StartsMarkup rest) :
    step none (escapeText data ++ rest) = .read [.data data] none rest := by
  have decoded := decode_escapeText data
  have noTag := less_not_mem_escapeText data
  cases written : escapeText data with
  | nil =>
      exact absurd written (escapeText_ne_nil nonempty)
  | cons c others =>
      rw [written] at decoded noTag
      obtain ⟨different, othersDifferent⟩ :=
        not_or.mp (mt List.mem_cons.mpr noTag)
      have continued : ∀ other ∈ others, decide (other ≠ '<') = true := by
        intro other member
        refine decide_eq_true ?_
        rintro rfl
        exact othersDifferent member
      have run : (others ++ rest).takeWhile (· ≠ '<') = others := by
        rcases starts with rfl | ⟨tail, rfl⟩
        · rw [List.takeWhile_append_of_pos continued, List.takeWhile_nil,
            List.append_nil]
        · exact takeWhile_run continued (by decide)
      have left : (others ++ rest).dropWhile (· ≠ '<') = rest := by
        rcases starts with rfl | ⟨tail, rfl⟩
        · rw [List.dropWhile_append_of_pos continued, List.dropWhile_nil]
        · exact dropWhile_run continued (by decide)
      -- The first character is no `<`, so the step reads data.
      have plainStep :
          step none (c :: (others ++ rest)) =
            decodedData (c :: (others ++ rest).takeWhile (· ≠ '<'))
              ((others ++ rest).dropWhile (· ≠ '<')) := by
        rw [step]
        exact fun isTag => different isTag.symm
      rw [List.cons_append, plainStep, run, left, decodedData, decoded]

/-! ## Steps in order -/

/-- Steps that consume something read events and reach a mode and a rest. -/
inductive Reads :
    RawMode → List Char → List Event → RawMode → List Char → Prop where
  /-- No step is taken. -/
  | done
      {mode : RawMode}
      {s : List Char} :
      Reads mode s [] mode s
  /-- A step is followed by others. -/
  | next
      {mode middle last : RawMode}
      {s between rest : List Char}
      {found more : List Event} :
      step mode s = .read found middle between →
      between.length < s.length →
      Reads middle between more last rest →
      Reads mode s (found ++ more) last rest

namespace Reads

variable {mode middle last : RawMode} {s between rest : List Char}
  {found more : List Event}

theorem single
    (taken : step mode s = .read found last rest)
    (consumed : rest.length < s.length) :
    Reads mode s found last rest := by
  rw [← List.append_nil found]
  exact .next taken consumed .done

theorem trans
    (first : Reads mode s found middle between)
    (second : Reads middle between more last rest) :
    Reads mode s (found ++ more) last rest := by
  induction first with
  | done =>
      exact second
  | next taken consumed _ inductionHypothesis =>
      rw [List.append_assoc]
      exact .next taken consumed (inductionHypothesis second)

/-- Steps to the end of a text read all its events. -/
theorem eventsWithin_eq
    (reads : Reads mode s found last rest)
    (atEnd : last = none ∧ rest = [])
    {fuel : Nat}
    (enough : s.length < fuel) :
    eventsWithin fuel mode s = .ok found := by
  induction reads generalizing fuel with
  | done =>
      obtain ⟨rfl, rfl⟩ := atEnd
      cases fuel with
      | zero =>
          cases enough
      | succ fuel =>
          rfl
  | next taken consumed _ inductionHypothesis =>
      cases fuel with
      | zero =>
          cases enough
      | succ fuel =>
          rw [eventsWithin, taken]
          dsimp only
          rw [inductionHypothesis atEnd (by omega)]
          rfl

/-- The events of a text that steps read to its end. -/
theorem events_eq
    (reads : Reads none s found none []) :
    events s = .ok found :=
  reads.eventsWithin_eq ⟨rfl, rfl⟩ (Nat.lt_succ_self _)

end Reads

end PageScript.Markup
