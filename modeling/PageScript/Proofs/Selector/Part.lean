import PageScript.Proofs.Text.Run
import PageScript.Selector.Reader

namespace PageScript.Selector

open List

/-!
# The parts of a compound

A compound is written as a tag and parts: names of identities and classes,
texts between brackets, and structural tests.  This module says what the parts
look like and which of them write a test, apart from the reader.  The reader
delimits exactly such parts, and it reads a text between brackets as an
attribute test exactly when it has the form of one.
-/

/-! ## Written parts -/

/-- A simple selector after the tag of a compound, as it is written. -/
inductive Part where
  | id (name : List Char)
  | class (name : List Char)
  | bracket (inner : List Char)
  | pseudo (name : List Char) (argument : Option (List Char))
  deriving Repr, DecidableEq

/-- A name is a non-empty run of name characters. -/
structure IsName (name : List Char) : Prop where
  filled : name ≠ []
  all : ∀ c ∈ name, isNameChar c = true

namespace Part

/-- The text between the parentheses of an argument, with the parentheses. -/
def argumentText : Option (List Char) → List Char
  | none => []
  | some inner => '(' :: (inner ++ [')'])

/-- The text of a part. -/
def text : Part → List Char
  | id name => '#' :: name
  | .class name => '.' :: name
  | bracket inner => '[' :: (inner ++ [']'])
  | pseudo name argument => ':' :: (name ++ argumentText argument)

/-- What the reader delimits as a part. -/
inductive Shape : Part → Prop where
  | id {name} : IsName name → Shape (.id name)
  | class {name} : IsName name → Shape (.class name)
  | bracket {inner} : inner ≠ [] → ']' ∉ inner → Shape (.bracket inner)
  | pseudo {name argument} :
      IsName name →
      (∀ inner ∈ argument, ')' ∉ inner) →
      Shape (.pseudo name argument)

end Part

/-- Whether a character is a quote of an attribute value. -/
def isQuote (c : Char) : Bool :=
  c = '\x22' || c = '\x27'

/--
A value of an attribute test as it is written after the equals sign.  Blanks may
stand before the value and after its closing quote, and either quote may be
missing; a value without an opening quote starts with its first character that
is no blank.
-/
inductive ValueForm : List Char → List Char → Prop where
  | intro
      {lead opening value closing trail : List Char} :
      (∀ c ∈ lead, Text.isBlank c = true) →
      (opening = [] ∧
          (∀ c ∈ (value ++ closing).head?,
            Text.isBlank c = false ∧ isQuote c = false) ∨
        ∃ quote, isQuote quote = true ∧ opening = [quote]) →
      (∀ c ∈ value, isQuote c = false) →
      (closing = [] ∧ trail = [] ∨
        ∃ quote, isQuote quote = true ∧ closing = [quote]) →
      (∀ c ∈ trail, Text.isBlank c = true) →
      ValueForm (lead ++ (opening ++ (value ++ (closing ++ trail)))) value

/--
The text between the brackets of an attribute test: a name, or a name, an equals
sign and a value.  Blanks may stand around the name.
-/
inductive AttributeForm : List Char → String → Option String → Prop where
  | present
      {before name after : List Char} :
      (∀ c ∈ before, Text.isBlank c = true) →
      IsName name →
      (∀ c ∈ after, Text.isBlank c = true) →
      AttributeForm (before ++ (name ++ after)) (String.ofList name) none
  | equals
      {before name after written value : List Char} :
      (∀ c ∈ before, Text.isBlank c = true) →
      IsName name →
      (∀ c ∈ after, Text.isBlank c = true) →
      ValueForm written value →
      AttributeForm (before ++ (name ++ (after ++ '=' :: written)))
        (String.ofList name) (some (String.ofList value))

namespace Part

/-- The test that a part writes; only some texts between brackets write one. -/
inductive Writes : Part → WrittenTest → Prop where
  | id {name} : Writes (.id name) (.id (String.ofList name))
  | class {name} : Writes (.class name) (.class (String.ofList name))
  | bracket {inner name value} :
      AttributeForm inner name value →
      Writes (.bracket inner) (.attribute name value)
  | pseudo {name argument} :
      Writes (.pseudo name argument)
        (.pseudo name (Text.trim (argument.getD [])))

/-- A part is well formed when it writes a test. -/
def IsTest (part : Part) : Prop :=
  ∃ test, part.Writes test

end Part

/-! ## Reading attribute tests -/

section Attribute

variable {c : Char} {name value : List Char}

theorem isBlank_of_isNameChar
    (inName : isNameChar c = true) :
    Text.isBlank c = false := by
  rcases Bool.or_eq_true_iff.mp inName with word | hyphen
  · exact Text.isBlank_of_isWordChar word
  · rw [decide_eq_true_eq] at hyphen
    rw [hyphen]
    rfl

theorem isNameChar_of_isBlank
    (blank : Text.isBlank c = true) :
    isNameChar c = false := by
  by_contra inName
  rw [isBlank_of_isNameChar (by simpa using inName)] at blank
  cases blank

theorem isBlank_of_isQuote
    (quotes : isQuote c = true) :
    Text.isBlank c = false := by
  rcases Bool.or_eq_true_iff.mp quotes with double | single
  · rw [of_decide_eq_true double]
    rfl
  · rw [of_decide_eq_true single]
    rfl

theorem skipQuote_cons
    {quote : Char}
    (quotes : isQuote quote = true)
    (rest : List Char) :
    skipQuote (quote :: rest) = rest :=
  if_pos quotes

theorem skipQuote_of_head
    {s : List Char}
    (unquoted : ∀ c ∈ s.head?, isQuote c = false) :
    skipQuote s = s := by
  cases s with
  | nil =>
      rfl
  | cons c rest =>
      exact if_neg (Bool.eq_false_iff.mp (unquoted c rfl))

/-- A text without its first quote is what follows the quote. -/
theorem exists_quote_skipQuote
    (s : List Char) :
    ∃ opening,
      s = opening ++ skipQuote s ∧
        (opening = [] ∧ (∀ c ∈ s.head?, isQuote c = false) ∨
          ∃ quote, isQuote quote = true ∧ opening = [quote]) := by
  cases s with
  | nil =>
      exact ⟨[], rfl, .inl ⟨rfl, nofun⟩⟩
  | cons c rest =>
      cases quotes : isQuote c with
      | true =>
          rw [skipQuote_cons quotes]
          exact ⟨[c], rfl, .inr ⟨c, quotes, rfl⟩⟩
      | false =>
          have unquoted : ∀ d ∈ (c :: rest).head?, isQuote d = false := by
            simpa using quotes
          rw [skipQuote_of_head unquoted]
          exact ⟨[], rfl, .inl ⟨rfl, unquoted⟩⟩

/-- The value up to the closing quote; only blanks follow the quote. -/
theorem writtenValue?_eq
    (s : List Char) :
    writtenValue? s =
      let body := skipQuote (Text.trimStart s)
      if
        (Text.trimStart
          (skipQuote (body.dropWhile fun c => !isQuote c))).isEmpty
      then
        some (body.takeWhile fun c => !isQuote c)
      else
        none :=
  rfl

theorem writtenValue?_of_form
    {s : List Char}
    (form : ValueForm s value) :
    writtenValue? s = some value := by
  obtain ⟨leadBlank, opens, unquoted, closes, trailBlank⟩ := form
  next lead opening closing trail =>
  -- Quotes are no blanks, so the blanks at the start end at the quote or the value.
  have body :
      skipQuote
          (Text.trimStart
            (lead ++ (opening ++ (value ++ (closing ++ trail))))) =
        value ++ (closing ++ trail) := by
    rcases opens with ⟨rfl, head⟩ | ⟨quote, quotes, rfl⟩
    · have sameHead :
          ∀ c ∈ (value ++ (closing ++ trail)).head?,
            c ∈ (value ++ closing).head? := by
        rcases closes with ⟨rfl, rfl⟩ | ⟨quote, -, rfl⟩
        · simp
        · cases value <;> simp
      rw [List.nil_append,
        Text.trimStart_run_append leadBlank
          fun c member => (head c (sameHead c member)).1]
      exact skipQuote_of_head fun c member => (head c (sameHead c member)).2
    · rw [Text.trimStart_run_append leadBlank
          (by simpa using isBlank_of_isQuote quotes)]
      exact skipQuote_cons quotes _
  have inValue : ∀ c ∈ value, (!isQuote c) = true := by
    simpa using unquoted
  have stops : ∀ c ∈ (closing ++ trail).head?, (!isQuote c) = false := by
    rcases closes with ⟨rfl, rfl⟩ | ⟨quote, quotes, rfl⟩
    · exact nofun
    · simpa using quotes
  have nothingFollows :
      Text.trimStart (skipQuote (closing ++ trail)) = [] := by
    rcases closes with ⟨rfl, rfl⟩ | ⟨quote, quotes, rfl⟩
    · rfl
    · rw [List.singleton_append, skipQuote_cons quotes]
      exact Text.trimStart_eq_nil_iff.mpr trailBlank
  rw [writtenValue?_eq, body]
  dsimp only
  rw [Text.takeWhile_run_append inValue stops,
    Text.dropWhile_run_append inValue stops, nothingFollows]
  rfl

theorem form_of_writtenValue?
    {s : List Char}
    (read : writtenValue? s = some value) :
    ValueForm s value := by
  rw [writtenValue?_eq] at read
  dsimp only at read
  split_ifs at read with nothingFollows
  obtain ⟨lead, leadBlank, shape⟩ := Text.exists_blanks_trimStart s
  obtain ⟨opening, opened, opens⟩ :=
    exists_quote_skipQuote (Text.trimStart s)
  generalize skipQuote (Text.trimStart s) = body at opened read nothingFollows
  cases read
  obtain ⟨closing, closed, closes⟩ :=
    exists_quote_skipQuote (body.dropWhile fun c => !isQuote c)
  have bodyShape :=
    List.takeWhile_append_dropWhile (p := fun c => !isQuote c) (l := body)
  rw [← bodyShape, closed] at opened
  have startSolid :
      ∀ c ∈ (Text.trimStart s).head?, Text.isBlank c = false :=
    Text.head_dropWhile_not s
  rw [opened] at opens startSolid
  rw [shape, opened]
  refine .intro leadBlank ?_ ?_ ?_ ?_
  · rcases opens with ⟨rfl, noQuote⟩ | quoted
    · refine .inl ⟨rfl, fun c first => ?_⟩
      have first :
          c ∈ (([] : List Char) ++
            (body.takeWhile (fun c => !isQuote c) ++ (closing ++
              skipQuote (body.dropWhile fun c => !isQuote c)))).head? := by
        rw [List.nil_append, ← List.append_assoc]
        exact List.mem_head?_append_of_mem_head? first
      exact ⟨startSolid c first, noQuote c first⟩
    · exact .inr quoted
  · intro c member
    simpa using List.mem_takeWhile_imp member
  · refine closes.imp (fun unclosed => ?_) id
    -- The value ends at a quote or with the text, and there is no quote.
    have ended : (body.dropWhile fun c => !isQuote c) = [] := by
      refine List.head?_eq_none_iff.mp (Option.eq_none_iff_forall_not_mem.mpr ?_)
      intro c first
      have quotes := Text.head_dropWhile_not body c first
      rw [unclosed.2 c first] at quotes
      cases quotes
    rw [ended]
    exact ⟨unclosed.1, rfl⟩
  · exact Text.trimStart_eq_nil_iff.mp (List.isEmpty_iff.mp nothingFollows)

/-- A text is read as a value exactly when it has the form of one. -/
theorem writtenValue?_eq_some_iff
    {s : List Char} :
    writtenValue? s = some value ↔ ValueForm s value :=
  ⟨form_of_writtenValue?, writtenValue?_of_form⟩

theorem attributeTest?_of_form
    {inner : List Char}
    {name : String}
    {value : Option String}
    (form : AttributeForm inner name value) :
    attributeTest? inner = some (.attribute name value) := by
  have headOf
      {name rest : List Char}
      (isName : IsName name) :
      ∀ c ∈ (name ++ rest).head?, Text.isBlank c = false := by
    obtain ⟨first, others, rfl⟩ := List.exists_cons_of_ne_nil isName.filled
    simpa using isBlank_of_isNameChar (isName.all first List.mem_cons_self)
  cases form with
  | @present before name after beforeBlank isName afterBlank =>
      have ends : ∀ c ∈ after.head?, isNameChar c = false :=
        fun c member =>
          isNameChar_of_isBlank (afterBlank c (List.mem_of_mem_head? member))
      rw [attributeTest?, Text.trimStart_run_append beforeBlank (headOf isName),
        Text.takeWhile_run_append isName.all ends,
        Text.dropWhile_run_append isName.all ends,
        Text.trimStart_eq_nil_iff.mpr afterBlank, if_neg (by simpa using isName.filled)]
  | @equals before name after written value
      beforeBlank isName afterBlank valueForm =>
      have ends :
          ∀ c ∈ (after ++ '=' :: written).head?, isNameChar c = false := by
        cases after with
        | nil =>
            simpa using (by decide +kernel : isNameChar '=' = false)
        | cons first others =>
            simpa using
              isNameChar_of_isBlank (afterBlank first List.mem_cons_self)
      rw [attributeTest?, Text.trimStart_run_append beforeBlank (headOf isName),
        Text.takeWhile_run_append isName.all ends,
        Text.dropWhile_run_append isName.all ends,
        Text.trimStart_run_append afterBlank
          (by simpa using (by decide +kernel : Text.isBlank '=' = false)),
        if_neg (by simpa using isName.filled)]
      exact
        congrArg
          (Option.map fun value =>
            WrittenTest.attribute (String.ofList name)
              (some (String.ofList value)))
          (writtenValue?_of_form valueForm)

theorem form_of_attributeTest?
    {inner : List Char}
    {test : WrittenTest}
    (read : attributeTest? inner = some test) :
    ∃ name value,
      test = .attribute name value ∧ AttributeForm inner name value := by
  obtain ⟨before, beforeBlank, innerShape⟩ := Text.exists_blanks_trimStart inner
  rw [attributeTest?] at read
  generalize Text.trimStart inner = start at read innerShape
  split_ifs at read with unnamed
  have isName : IsName (start.takeWhile isNameChar) :=
    ⟨by simpa using unnamed, fun _ member => List.mem_takeWhile_imp member⟩
  obtain ⟨after, afterBlank, nameEnds⟩ :=
    Text.exists_blanks_trimStart (start.dropWhile isNameChar)
  have startShape :=
    List.takeWhile_append_dropWhile (p := isNameChar) (l := start)
  rw [← startShape, nameEnds] at innerShape
  split at read
  · next ended =>
      cases read
      rw [ended, List.append_nil] at innerShape
      rw [innerShape]
      exact ⟨_, _, rfl, .present beforeBlank isName afterBlank⟩
  · next rest equals =>
      rw [equals] at innerShape
      obtain ⟨value, readValue, rfl⟩ := Option.map_eq_some_iff.mp read
      refine ⟨_, _, rfl, ?_⟩
      rw [innerShape]
      exact
        .equals beforeBlank isName afterBlank (form_of_writtenValue? readValue)
  · cases read

/-- The texts that are read as attribute tests are exactly those of their form. -/
theorem attributeTest?_eq_some_iff
    {inner : List Char}
    {test : WrittenTest} :
    attributeTest? inner = some test ↔
      ∃ name value,
        test = .attribute name value ∧ AttributeForm inner name value := by
  constructor
  · exact form_of_attributeTest?
  · rintro ⟨name, value, rfl, form⟩
    exact attributeTest?_of_form form

end Attribute

/-! ## Delimiting parts -/

/-- The characters that start a part. -/
def isPartSign (c : Char) : Bool :=
  c = '#' || c = '.' || c = '[' || c = ':'

/-- The rest of a compound after a part: nothing, or the next part. -/
def PartEnd (rest : List Char) : Prop :=
  ∀ c ∈ rest.head?, isPartSign c = true

section Delimiting

variable {s rest name : List Char}

theorem partEnd_nil : PartEnd [] :=
  nofun

theorem isPartSign_cases
    {c : Char}
    (sign : isPartSign c = true) :
    c = '#' ∨ c = '.' ∨ c = '[' ∨ c = ':' := by
  simpa [isPartSign, or_assoc] using sign

theorem isNameChar_of_isPartSign
    {c : Char}
    (sign : isPartSign c = true) :
    isNameChar c = false := by
  rcases isPartSign_cases sign with rfl | rfl | rfl | rfl <;> decide +kernel

theorem Part.text_partEnd
    (part : Part)
    (rest : List Char) :
    PartEnd (part.text ++ rest) := by
  intro c first
  cases part <;>
    · obtain rfl := Option.some.inj first
      rfl

theorem partEnd_flatMap_text
    (parts : List Part) :
    PartEnd (parts.flatMap Part.text) := by
  cases parts with
  | nil =>
      exact partEnd_nil
  | cons part others =>
      rw [List.flatMap_cons]
      exact part.text_partEnd _

theorem PartEnd.noNameChar
    (ends : PartEnd rest) :
    ∀ c ∈ rest.head?, isNameChar c = false :=
  fun c first => isNameChar_of_isPartSign (ends c first)

/-- What follows a compound goes on with no name, no argument and no tag. -/
def Stops (rest : List Char) : Prop :=
  ∀ c ∈ rest.head?, isNameChar c = false ∧ c ≠ '(' ∧ c ≠ '*'

theorem PartEnd.stops
    (ends : PartEnd rest) :
    Stops rest := by
  intro c first
  refine ⟨ends.noNameChar c first, ?_⟩
  rcases isPartSign_cases (ends c first) with rfl | rfl | rfl | rfl <;> decide

theorem stops_of_isBlank
    (blank : ∀ c ∈ rest.head?, Text.isBlank c = true) :
    Stops rest := by
  intro c first
  refine ⟨isNameChar_of_isBlank (blank c first), ?_, ?_⟩
  · rintro rfl
    exact absurd (blank _ first) (by decide +kernel)
  · rintro rfl
    exact absurd (blank _ first) (by decide +kernel)

theorem Stops.noNameChar
    (stops : Stops rest) :
    ∀ c ∈ rest.head?, isNameChar c = false :=
  fun c first => (stops c first).1

theorem nameLength_append
    (isName : IsName name)
    (ends : ∀ c ∈ rest.head?, isNameChar c = false) :
    nameLength (name ++ rest) = name.length := by
  rw [nameLength, Text.takeWhile_run_append isName.all ends]

/-- Parentheses that are no part of an argument are not delimited. -/
theorem parenthesesLength_of_stops
    (stops : Stops rest) :
    parenthesesLength rest = 0 := by
  cases rest with
  | nil =>
      rfl
  | cons c others =>
      have notOpening := (stops c rfl).2.1
      unfold parenthesesLength
      split
      · next same =>
          exact absurd (List.cons.inj same).1 notOpening
      · rfl

/-- A part is delimited where it ends. -/
theorem partLength_of_shape
    {part : Part}
    (shape : part.Shape)
    (stops : Stops rest) :
    partLength (part.text ++ rest) = part.text.length := by
  cases shape with
  | @id name isName =>
      simp [Part.text, partLength, nameLength_append isName stops.noNameChar, isName.filled]
  | @«class» name isName =>
      simp [Part.text, partLength, nameLength_append isName stops.noNameChar, isName.filled]
  | @bracket inner filled absent =>
      simp [Part.text, partLength, Text.cutAt?_run absent, filled]
  | @pseudo name argument isName closed =>
      have delimited : nameLength (name ++ (Part.argumentText argument ++ rest)) = name.length := by
        refine nameLength_append isName ?_
        cases argument with
        | none =>
            exact stops.noNameChar
        | some inner =>
            simpa [Part.argumentText] using (by decide +kernel : isNameChar '(' = false)
      have argumentLength :
          parenthesesLength (Part.argumentText argument ++ rest) =
            (Part.argumentText argument).length := by
        cases argument with
        | none =>
            exact parenthesesLength_of_stops stops
        | some inner =>
            simp [Part.argumentText, parenthesesLength, Text.cutAt?_run (closed inner rfl)]
      simp [Part.text, partLength, delimited, isName.filled, argumentLength]
      omega

/-- No part is delimited where none starts. -/
theorem partLength_of_noPart
    (noPart : ∀ c ∈ rest.head?, isPartSign c = false) :
    partLength rest = 0 := by
  cases rest with
  | nil =>
      rfl
  | cons c others =>
      have noSign := noPart c rfl
      simp only [isPartSign, Bool.or_eq_false_iff, decide_eq_false_iff_not] at noSign
      obtain ⟨⟨⟨hash, dot⟩, bracket⟩, colon⟩ := noSign
      simp [partLength, hash, dot, bracket, colon]

theorem Part.text_ne_nil
    (part : Part) :
    part.text ≠ [] := by
  cases part <;> simp [text]

theorem length_le_flatMap_text
    (parts : List Part) :
    parts.length ≤ (parts.flatMap Part.text).length := by
  induction parts with
  | nil =>
      exact Nat.le_refl _
  | cons part others inductionHypothesis =>
      have filled := List.length_pos_iff.mpr part.text_ne_nil
      simp only [List.flatMap_cons, List.length_append, List.length_cons]
      omega

theorem stops_flatMap_text
    (parts : List Part)
    (stops : Stops rest) :
    Stops (parts.flatMap Part.text ++ rest) := by
  cases parts with
  | nil =>
      exact stops
  | cons part others =>
      rw [List.flatMap_cons, List.append_assoc]
      exact (part.text_partEnd _).stops

/-- Parts are delimited together when nothing after them starts a part. -/
theorem partsLength_of_shapes
    {parts : List Part}
    (shapes : ∀ part ∈ parts, part.Shape)
    (stops : Stops rest)
    (noPart : ∀ c ∈ rest.head?, isPartSign c = false)
    {fuel : Nat}
    (enough : parts.length ≤ fuel) :
    partsLength fuel (parts.flatMap Part.text ++ rest) = (parts.flatMap Part.text).length := by
  induction parts generalizing fuel with
  | nil =>
      cases fuel <;> simp [partsLength, partLength_of_noPart noPart]
  | cons part parts inductionHypothesis =>
      obtain ⟨fuel, rfl⟩ := Nat.exists_eq_add_of_le' enough
      obtain ⟨shape, laterShapes⟩ := List.forall_mem_cons.mp shapes
      have first := partLength_of_shape shape (stops_flatMap_text parts stops)
      have later := inductionHypothesis laterShapes (Nat.le_add_left parts.length fuel)
      have filled : part.text.length ≠ 0 := mt List.length_eq_zero_iff.mp part.text_ne_nil
      rw [List.flatMap_cons, List.append_assoc, List.length_cons, ← Nat.add_assoc, partsLength,
        first, if_neg filled, List.drop_left, later, List.length_append]

theorem takeWhile_isName
    (filled : nameLength s ≠ 0) :
    IsName (s.takeWhile isNameChar) :=
  ⟨fun empty => filled (by rw [nameLength, empty]; rfl),
    fun c member => List.mem_takeWhile_imp member⟩

theorem take_nameLength :
    s.take (nameLength s) = s.takeWhile isNameChar :=
  (List.prefix_iff_eq_take.mp (List.takeWhile_prefix _)).symm

theorem takeWhile_append_drop :
    s.takeWhile isNameChar ++ s.drop (nameLength s) = s := by
  rw [← take_nameLength, List.take_append_drop]

/-- The parentheses at the start of a text are an argument. -/
theorem exists_argument_of_parenthesesLength
    (s : List Char) :
    ∃ argument : Option (List Char),
      (∀ inner ∈ argument, ')' ∉ inner) ∧
        s = Part.argumentText argument ++ s.drop (parenthesesLength s) ∧
          parenthesesLength s = (Part.argumentText argument).length := by
  unfold parenthesesLength
  split
  · next rest =>
      split
      · next inner after cut =>
          obtain ⟨rfl, absent⟩ := Text.of_cutAt?_eq_some cut
          refine ⟨some inner, by simpa using absent, ?_, ?_⟩
          · simp [Part.argumentText]
          · simp [Part.argumentText]
      · exact ⟨none, nofun, rfl, rfl⟩
  · exact ⟨none, nofun, rfl, rfl⟩

/-- What is delimited as a part at the start of a text is one. -/
theorem exists_part_of_partLength
    (delimited : partLength s ≠ 0) :
    ∃ part : Part,
      part.Shape ∧ s = part.text ++ s.drop (partLength s) := by
  cases s with
  | nil =>
      exact (delimited rfl).elim
  | cons c rest =>
      rw [partLength] at delimited ⊢
      split_ifs at delimited ⊢ with sign named bracket colon named
      · exact (delimited rfl).elim
      · have shape := takeWhile_isName named
        rw [List.drop_succ_cons]
        rcases (by simpa using sign : c = '#' ∨ c = '.') with rfl | rfl
        · exact
            ⟨.id (rest.takeWhile isNameChar), .id shape,
              congrArg ('#' :: ·) takeWhile_append_drop.symm⟩
        · exact
            ⟨.class (rest.takeWhile isNameChar), .class shape,
              congrArg ('.' :: ·) takeWhile_append_drop.symm⟩
      · subst bracket
        split at delimited
        · next inner after cut =>
            obtain ⟨rfl, absent⟩ := Text.of_cutAt?_eq_some cut
            have filled : inner ≠ [] := by
              rintro rfl
              exact delimited rfl
            refine ⟨.bracket inner, .bracket filled absent, ?_⟩
            simp [filled, Part.text]
        · exact (delimited rfl).elim
      · exact (delimited rfl).elim
      · subst colon
        obtain ⟨argument, closed, shape, length⟩ :=
          exists_argument_of_parenthesesLength (rest.drop (nameLength rest))
        refine
          ⟨.pseudo (rest.takeWhile isNameChar) argument,
            .pseudo (takeWhile_isName named) closed, ?_⟩
        rw [Nat.add_right_comm, List.drop_succ_cons, ← List.drop_drop, Part.text,
          List.cons_append, List.append_assoc, ← shape, takeWhile_append_drop]
      · exact (delimited rfl).elim

/-- What is delimited as parts at the start of a text is a list of them. -/
theorem exists_parts_of_partsLength
    (fuel : Nat)
    (s : List Char) :
    ∃ parts : List Part,
      (∀ part ∈ parts, part.Shape) ∧
        s = parts.flatMap Part.text ++ s.drop (partsLength fuel s) := by
  induction fuel generalizing s with
  | zero =>
      exact ⟨[], nofun, rfl⟩
  | succ fuel inductionHypothesis =>
      rw [partsLength]
      split_ifs with nothing
      · exact ⟨[], nofun, rfl⟩
      · obtain ⟨part, partShape, first⟩ := exists_part_of_partLength nothing
        obtain ⟨parts, shapes, others⟩ :=
          inductionHypothesis (s.drop (partLength s))
        refine ⟨part :: parts, List.forall_mem_cons.mpr ⟨partShape, shapes⟩, ?_⟩
        rw [← List.drop_drop, List.flatMap_cons, List.append_assoc, ← others]
        exact first

end Delimiting

end PageScript.Selector
