import PageScript.Proofs.Markup.Writable
import PageScript.Proofs.Selector.Enforcement

namespace PageScript.Selector

open List

/-!
# Printed selectors are read back

A compound is printed as its tag and its parts: identities before classes, classes
before attributes, and attributes before structural tests; a compound that tests
nothing is printed as an asterisk.  Values stand between quotes, so blanks, signs
and parentheses in them have no meaning.  Reading a printed selector gives the
chains that were printed.
-/

/-! ## Printed compounds -/

/-- The number of a structural test, as it is written. -/
def PseudoClass.argument : PseudoClass → Option (List Char)
  | nthChild position => some (Nat.toDigits 10 position)
  | _ => none

/-- A position counts from one and has no more digits than a number may have. -/
def PseudoClass.IsReadable : PseudoClass → Prop
  | nthChild position => 1 ≤ position ∧ (Nat.toDigits 10 position).length ≤ Decimal.digitLimit
  | _ => True

/-- The text between the brackets of an attribute test. -/
def attributeText (name : String) : Option String → List Char
  | none => name.toList
  | some value => name.toList ++ '=' :: '\x22' :: (value.toList ++ ['\x22'])

namespace Compound

/-- The parts of a compound after its tag. -/
def parts (compound : Compound) : List Part :=
  compound.id.toList.map (fun name => .id name.toList) ++
    (compound.classes.map (fun name => .class name.toList) ++
      (compound.attributes.map (fun test => .bracket (attributeText test.1 test.2)) ++
        compound.pseudo.map fun pseudo => .pseudo pseudo.name.toList pseudo.argument))

/-- A compound as it is printed. -/
def written (compound : Compound) : WrittenCompound where
  tag :=
    match compound.tag with
    | some tag => tag.toList
    | none => if compound.parts.isEmpty then ['*'] else []
  parts := compound.parts

/-- The tests of a compound in the order of its parts. -/
def tests (compound : Compound) : List WrittenTest :=
  compound.id.toList.map .id ++
    (compound.classes.map .class ++
      (compound.attributes.map (fun test => .attribute test.1 test.2) ++
        compound.pseudo.map fun pseudo =>
          .pseudo pseudo.name.toList (pseudo.argument.getD [])))

/--
A compound with a plain tag, with names of word characters and hyphens, with values that hold
no quote, bracket or comma, and with positions that can be read.
-/
structure IsPlain (compound : Compound) : Prop where
  tag :
    ∀ tag ∈ compound.tag, Markup.IsPlainName tag
  id :
    ∀ name ∈ compound.id, IsName name.toList
  classes :
    ∀ name ∈ compound.classes, IsName name.toList
  names :
    ∀ test ∈ compound.attributes, IsName test.1.toList
  values :
    ∀ test ∈ compound.attributes,
      ∀ value ∈ test.2, ∀ c ∈ value.toList, isQuote c = false ∧ c ≠ ']' ∧ c ≠ ','
  positions :
    ∀ pseudo ∈ compound.pseudo, pseudo.IsReadable

end Compound

instance (name : List Char) : Decidable (IsName name) :=
  decidable_of_iff (name ≠ [] ∧ name.all isNameChar = true)
    ⟨fun ⟨filled, all⟩ => ⟨filled, List.all_eq_true.mp all⟩,
      fun ⟨filled, all⟩ => ⟨filled, List.all_eq_true.mpr all⟩⟩

instance (pseudo : PseudoClass) : Decidable pseudo.IsReadable :=
  match pseudo with
  | .firstChild | .lastChild | .onlyChild | .empty => inferInstanceAs (Decidable True)
  | .nthChild position =>
      inferInstanceAs
        (Decidable (1 ≤ position ∧ (Nat.toDigits 10 position).length ≤ Decimal.digitLimit))

instance (compound : Compound) : Decidable compound.IsPlain :=
  decidable_of_iff
    ((∀ tag ∈ compound.tag, Markup.IsPlainName tag) ∧
      (∀ name ∈ compound.id, IsName name.toList) ∧
      (∀ name ∈ compound.classes, IsName name.toList) ∧
      (∀ test ∈ compound.attributes, IsName test.1.toList) ∧
      (∀ test ∈ compound.attributes,
        ∀ value ∈ test.2,
          value.toList.all (fun c => isQuote c = false ∧ c ≠ ']' ∧ c ≠ ',') = true) ∧
      ∀ pseudo ∈ compound.pseudo, pseudo.IsReadable)
    ⟨fun ⟨tag, id, classes, names, values, positions⟩ =>
        ⟨tag, id, classes, names,
          fun test member value isValue =>
            List.all_iff_forall_prop.mp (values test member value isValue),
          positions⟩,
      fun ⟨tag, id, classes, names, values, positions⟩ =>
        ⟨tag, id, classes, names,
          fun test member value isValue =>
            List.all_iff_forall_prop.mpr (values test member value isValue),
          positions⟩⟩

/-- A part that the reader delimits and that holds no comma. -/
structure Part.IsSolid (part : Part) : Prop where
  shape : part.Shape
  noComma : ',' ∉ part.text

section Parts

variable {compound : Compound}

theorem IsName.noComma
    {name : List Char}
    (isName : IsName name) :
    ',' ∉ name :=
  fun member => absurd (isName.all _ member) (by decide +kernel)

theorem IsName.noBracket
    {name : List Char}
    (isName : IsName name) :
    ']' ∉ name :=
  fun member => absurd (isName.all _ member) (by decide +kernel)

theorem not_mem_attributeText
    {name : String}
    {value : Option String}
    {c : Char}
    (notInName : c ∉ name.toList)
    (notEquals : c ≠ '=')
    (notQuote : c ≠ '\x22')
    (notInValue : ∀ text ∈ value, c ∉ text.toList) :
    c ∉ attributeText name value := by
  cases value with
  | none =>
      exact notInName
  | some text =>
      simp [attributeText, notInName, notEquals, notQuote, notInValue text rfl]

/-- The text between the brackets of an attribute test has the form of one. -/
theorem attributeForm_attributeText
    {name : String}
    (isName : IsName name.toList)
    {value : Option String}
    (unquoted : ∀ text ∈ value, ∀ c ∈ text.toList, isQuote c = false) :
    AttributeForm (attributeText name value) name value := by
  cases value with
  | none =>
      have form :
          AttributeForm ([] ++ (name.toList ++ [])) (String.ofList name.toList) none :=
        .present nofun isName nofun
      simpa [attributeText] using form
  | some text =>
      have valueForm :
          ValueForm ([] ++ (['\x22'] ++ (text.toList ++ (['\x22'] ++ [])))) text.toList :=
        .intro nofun (.inr ⟨'\x22', rfl, rfl⟩) (unquoted text rfl) (.inr ⟨'\x22', rfl, rfl⟩) nofun
      have form : AttributeForm ([] ++ (name.toList ++ ([] ++ '=' :: _))) _ _ :=
        .equals nofun isName nofun valueForm
      simpa [attributeText] using form

theorem isPlainName_name
    (pseudo : PseudoClass) :
    Markup.IsPlainName pseudo.name := by
  cases pseudo with
  | nthChild position =>
      exact (by decide : Markup.IsPlainName "nth-child")
  | _ =>
      decide

/-- The characters of plain names are those of names. -/
theorem isNameChar_of_mem_nameCharacters :
    ∀ c ∈ Markup.nameCharacters, isNameChar c = true :=
  List.all_iff_forall_prop.mp (by decide)

theorem isName_of_isPlainName
    {name : String}
    (plain : Markup.IsPlainName name) :
    IsName name.toList where
  filled := by
    obtain ⟨first, rest, split, -⟩ := plain
    simp [split]
  all c member := isNameChar_of_mem_nameCharacters c (plain.characters c member)

/-- No digit of a position ends an argument or a group, or is blank. -/
theorem PseudoClass.solid_argument
    (pseudo : PseudoClass) :
    ∀ c ∈ pseudo.argument.getD [], Text.isWordChar c = true := by
  cases pseudo with
  | nthChild position =>
      exact Text.isWordChar_of_mem_toDigits position
  | _ =>
      exact nofun

theorem noComma_argumentText
    {argument : Option (List Char)}
    (noComma : ',' ∉ argument.getD []) :
    ',' ∉ Part.argumentText argument := by
  cases argument with
  | none =>
      exact List.not_mem_nil
  | some inner =>
      simpa [Part.argumentText] using noComma

/-- Each part of a printed compound writes the test at its place. -/
theorem writes_parts
    (plain : compound.IsPlain) :
    Forall₂ (fun part test => part.IsSolid ∧ part.Writes test)
      compound.parts compound.tests := by
  refine rel_append ?_ (rel_append ?_ (rel_append ?_ ?_)) <;>
    refine forall₂_map_left_iff.mpr (forall₂_map_right_iff.mpr (forall₂_same.mpr ?_))
  · intro name member
    have isName := plain.id name (Option.mem_toList.mp member)
    refine ⟨⟨.id isName, by simpa [Part.text] using isName.noComma⟩, ?_⟩
    have writes : (Part.id name.toList).Writes (.id (String.ofList name.toList)) := .id
    simpa using writes
  · intro name member
    have isName := plain.classes name member
    refine ⟨⟨.class isName, by simpa [Part.text] using isName.noComma⟩, ?_⟩
    have writes : (Part.class name.toList).Writes (.class (String.ofList name.toList)) := .class
    simpa using writes
  · rintro ⟨name, value⟩ member
    have isName := plain.names _ member
    have inValue := plain.values _ member
    have form := attributeForm_attributeText isName fun text isText c inText =>
      (inValue text isText c inText).1
    refine ⟨⟨.bracket ?_ ?_, ?_⟩, .bracket form⟩
    · cases value <;> simp [attributeText, isName.filled]
    · refine not_mem_attributeText isName.noBracket (by decide) (by decide) ?_
      exact fun text isText inText => (inValue text isText _ inText).2.1 rfl
    · have noComma : ',' ∉ attributeText name value := by
        refine not_mem_attributeText isName.noComma (by decide) (by decide) ?_
        exact fun text isText inText => (inValue text isText _ inText).2.2 rfl
      simpa [Part.text] using noComma
  · intro pseudo member
    have solid := pseudo.solid_argument
    have noComma : ',' ∉ pseudo.argument.getD [] := fun member =>
      absurd (solid _ member) (by decide +kernel)
    have isName := isName_of_isPlainName (isPlainName_name pseudo)
    refine ⟨⟨.pseudo isName ?_, ?_⟩, ?_⟩
    · intro inner isInner inText
      rw [Option.mem_def.mp isInner] at solid
      exact absurd (solid _ inText) (by decide +kernel)
    · simpa [Part.text, isName.noComma] using noComma_argumentText noComma
    · have trimmed := Text.trim_of_not_blank fun c member =>
        Text.isBlank_of_isWordChar (solid c member)
      have writes :
          (Part.pseudo pseudo.name.toList pseudo.argument).Writes
            (.pseudo pseudo.name.toList (Text.trim (pseudo.argument.getD []))) :=
        .pseudo
      simpa [trimmed] using writes

/-- The tests are found in the text of the parts one after the other. -/
theorem writtenTests_of_forall₂
    {parts : List Part}
    {tests : List WrittenTest}
    (each : Forall₂ (fun part test => part.IsSolid ∧ part.Writes test) parts tests) :
    writtenTests 0 (parts.flatMap Part.text) = tests := by
  induction each with
  | nil =>
      rfl
  | cons first _ inductionHypothesis =>
      rw [List.flatMap_cons,
        writtenTests_of_writes first.1.shape first.2 (partEnd_flatMap_text _),
        inductionHypothesis]

end Parts

/-! ## Reading the tests -/

section Tests

variable
  {selector : String}
  {compound start : Compound}

/-- The digits of a position are read as this position. -/
theorem readPosition_toDigits
    {position : Nat}
    (positive : 1 ≤ position)
    (short : (Nat.toDigits 10 position).length ≤ Decimal.digitLimit) :
    readPosition selector (Nat.toDigits 10 position) = .ok position := by
  have decimal := Text.isDecimalDigit_of_mem_toDigits position
  have whole :
      (Nat.toDigits 10 position).takeWhile Text.isDecimalDigit = Nat.toDigits 10 position :=
    List.takeWhile_eq_self_iff.mpr decimal
  have digitLike : (Nat.toDigits 10 position).all Text.isDigitLike = true :=
    List.all_eq_true.mpr fun c member => by simp [Text.isDigitLike, decimal c member]
  have filled : Nat.toDigits 10 position ≠ [] := Nat.toDigits_ne_nil
  simp [readPosition, filled, digitLike, whole, Nat.not_lt.mpr short,
    Text.digitsValue_toDigits, Nat.ne_of_gt positive]

theorem readPseudo_argument
    {pseudo : PseudoClass}
    (readable : pseudo.IsReadable) :
    readPseudo selector pseudo.name.toList (pseudo.argument.getD []) = .ok pseudo := by
  rw [readPseudo, (isPlainName_name pseudo).lower_eq, String.ofList_toList]
  cases pseudo with
  | nthChild position =>
      obtain ⟨positive, short⟩ := readable
      have read : readPosition selector (Nat.toDigits 10 position) = .ok position :=
        readPosition_toDigits positive short
      simp [PseudoClass.name, PseudoClass.argument, read, Except.map]
  | _ =>
      rfl

theorem addTests_classes
    (names : List String)
    (rest : List WrittenTest) :
    addTests selector start (names.map .class ++ rest) =
      addTests selector { start with classes := start.classes ++ names } rest := by
  induction names generalizing start with
  | nil =>
      simp
  | cons name others inductionHypothesis =>
      simp [addTests, inductionHypothesis]

theorem addTests_attributes
    (attributes : List (String × Option String))
    (rest : List WrittenTest) :
    addTests selector start (attributes.map (fun test => .attribute test.1 test.2) ++ rest) =
      addTests selector { start with attributes := start.attributes ++ attributes } rest := by
  induction attributes generalizing start with
  | nil =>
      simp
  | cons test others inductionHypothesis =>
      simp [addTests, inductionHypothesis]

theorem addTests_pseudo
    {pseudo : List PseudoClass}
    (readable :
      ∀ test ∈ pseudo,
        readPseudo selector test.name.toList (test.argument.getD []) = .ok test) :
    addTests selector start
        (pseudo.map fun test => .pseudo test.name.toList (test.argument.getD [])) =
      .ok { start with pseudo := start.pseudo ++ pseudo } := by
  induction pseudo generalizing start with
  | nil =>
      simp [addTests]
  | cons test others inductionHypothesis =>
      obtain ⟨first, later⟩ := List.forall_mem_cons.mp readable
      simp [addTests, first, inductionHypothesis later]

/-- The tests of a compound make this compound again. -/
theorem addTests_tests
    (plain : compound.IsPlain) :
    addTests selector { tag := compound.tag } compound.tests = .ok compound := by
  have readable :
      ∀ pseudo ∈ compound.pseudo,
        readPseudo selector pseudo.name.toList (pseudo.argument.getD []) = .ok pseudo :=
    fun pseudo member => readPseudo_argument (plain.positions pseudo member)
  obtain ⟨tag, id, classes, attributes, pseudo⟩ := compound
  cases id <;>
    simp [Compound.tests, addTests, addTests_classes, addTests_attributes,
      addTests_pseudo readable]

end Tests

/-! ## Reading a compound -/

section Compounds

variable
  {selector : String}
  {compound : Compound}

theorem tagForm_of_isPlainName
    {name : String}
    (plain : Markup.IsPlainName name) :
    TagForm name.toList := by
  obtain ⟨first, rest, split, letter, characters⟩ := plain
  rw [split]
  exact
    .name (Markup.of_mem_nameLetters first letter).1 fun c member =>
      isNameChar_of_mem_nameCharacters c (characters c member)

theorem Compound.IsPlain.solid
    (plain : compound.IsPlain) :
    ∀ part ∈ compound.parts, part.IsSolid :=
  ((forall₂_and_left _ _).mp (writes_parts plain)).1

theorem Compound.IsPlain.shape_written
    (plain : compound.IsPlain) :
    compound.written.Shape where
  tag := by
    rw [Compound.written]
    cases named : compound.tag with
    | none =>
        dsimp only
        split
        · exact .any
        · exact .none
    | some tag =>
        exact tagForm_of_isPlainName (plain.tag tag named)
  parts part member := (plain.solid part member).shape

/-- A printed compound is no empty text. -/
theorem Compound.IsPlain.written_text_ne_nil
    (plain : compound.IsPlain) :
    compound.written.text ≠ [] := by
  rw [WrittenCompound.text, Compound.written]
  cases named : compound.tag with
  | none =>
      cases compound.parts with
      | nil =>
          simp
      | cons part others =>
          simp [part.text_ne_nil]
  | some tag =>
      simp [(isName_of_isPlainName (plain.tag tag named)).filled]

/-- An asterisk or nothing tests no tag. -/
theorem testedTag_written
    (plain : compound.IsPlain) :
    testedTag compound.written.tag = compound.tag := by
  rw [Compound.written]
  cases named : compound.tag with
  | none =>
      dsimp only
      split <;> rfl
  | some tag =>
      have plainTag := plain.tag tag named
      have isName := isName_of_isPlainName plainTag
      have notAny : tag.toList ≠ ['*'] := by
        intro any
        exact absurd (isName.all '*' (by simp [any])) (by decide +kernel)
      simp [testedTag, isName.filled, notAny, plainTag.lower_eq]

/-- A printed compound is read back. -/
theorem readCompound_written
    (plain : compound.IsPlain) :
    readCompound selector compound.written.text = .ok compound := by
  have tagged :=
    tagLength_of_form plain.shape_written.tag (partEnd_flatMap_text compound.written.parts).stops
  rw [readCompound, WrittenCompound.text, tagged, List.take_left, List.drop_left,
    testedTag_written plain]
  have found := writtenTests_of_forall₂ (writes_parts plain)
  have made : addTests selector { tag := compound.tag } compound.tests = .ok compound :=
    addTests_tests plain
  rwa [← found] at made

/-- A written tag is nothing, an asterisk or a name. -/
theorem TagForm.cases
    {tag : List Char}
    (form : TagForm tag) :
    tag = [] ∨ tag = ['*'] ∨ IsName tag := by
  cases form with
  | none =>
      exact .inl rfl
  | any =>
      exact .inr (.inl rfl)
  | @name first others letter all =>
      have named : isNameChar first = true := by
        simp [isNameChar, Text.isWordChar, letter]
      exact .inr (.inr ⟨List.cons_ne_nil _ _, List.forall_mem_cons.mpr ⟨named, all⟩⟩)

/-- No comma stands in a printed compound. -/
theorem noComma_written
    (plain : compound.IsPlain) :
    ',' ∉ compound.written.text := by
  have inTag : ',' ∉ compound.written.tag := by
    rcases plain.shape_written.tag.cases with none | any | isName
    · simp [none]
    · simp [any]
    · exact isName.noComma
  have inParts : ',' ∉ compound.parts.flatMap Part.text := by
    intro member
    obtain ⟨part, isPart, inPart⟩ := List.mem_flatMap.mp member
    exact (plain.solid part isPart).noComma inPart
  exact fun member => (List.mem_append.mp member).elim inTag inParts

theorem IsName.trim
    {name : List Char}
    (isName : IsName name) :
    Text.trim name = name :=
  Text.trim_of_not_blank fun c member => isBlank_of_isNameChar (isName.all c member)

/-- A part has no blank at its ends. -/
theorem Part.Shape.trim
    {part : Part}
    (shape : part.Shape) :
    Text.trim part.text = part.text := by
  -- Signs are no blanks, so what stands between them has no part in this.
  have sign {c : Char} (solid : Text.isBlank c = false) : Text.trim [c] = [c] :=
    Text.trim_of_not_blank (by simpa using solid)
  cases shape with
  | id isName =>
      exact Text.trim_append (sign rfl) isName.trim
  | «class» isName =>
      exact Text.trim_append (sign rfl) isName.trim
  | bracket _ _ =>
      exact
        Text.trim_append_append (sign rfl) (sign rfl)
          (List.cons_ne_nil _ _) (List.cons_ne_nil _ _) _
  | @pseudo name argument isName _ =>
      have argumentTrimmed :
          Text.trim (Part.argumentText argument) = Part.argumentText argument := by
        cases argument with
        | none =>
            rfl
        | some inner =>
            exact
              Text.trim_append_append (sign rfl) (sign rfl)
                (List.cons_ne_nil _ _) (List.cons_ne_nil _ _) _
      exact
        Text.trim_append (sign rfl) (Text.trim_append isName.trim argumentTrimmed)

/-- A printed compound has no blank at its ends. -/
theorem trim_written
    (plain : compound.IsPlain) :
    Text.trim compound.written.text = compound.written.text := by
  refine Text.trim_append ?_ ?_
  · rcases plain.shape_written.tag.cases with none | any | isName
    · rw [none]
      rfl
    · rw [any]
      rfl
    · exact isName.trim
  · have shapes := plain.shape_written.parts
    generalize compound.written.parts = parts at shapes
    induction parts with
    | nil =>
        rfl
    | cons part others inductionHypothesis =>
        obtain ⟨shape, later⟩ := List.forall_mem_cons.mp shapes
        exact Text.trim_append shape.trim (inductionHypothesis later)

end Compounds

/-! ## Printed chains -/

section Chains

variable
  {selector : String}
  {gap : List Char}

/-- The text between two compounds; a gap of blanks says that the left one is above. -/
def jointText (gap : List Char) : Combinator → List Char
  | .descendant => gap
  | combinator => ' ' :: (combinator.sign.toList ++ [' '])

/-- A chain as it is printed. -/
def Chain.text (gap : List Char) : Chain → List Char
  | single compound => compound.written.text
  | step before combinator compound =>
      before.text gap ++ (jointText gap combinator ++ compound.written.text)

/-- The compounds of a chain in order. -/
def Chain.compounds : Chain → List Compound
  | single compound => [compound]
  | step before _ compound => before.compounds ++ [compound]

/-- A chain with further compounds, each with the combinator before it. -/
def Chain.extend (chain : Chain) (further : List (Combinator × Compound)) : Chain :=
  further.foldl (fun before joined => .step before joined.1 joined.2) chain

/-- The text of further compounds with the joints before them. -/
def furtherText (gap : List Char) (further : List (Combinator × Compound)) : List Char :=
  further.flatMap fun joined => jointText gap joined.1 ++ joined.2.written.text

/-- A gap is a run of blanks that is not empty. -/
structure IsGap (gap : List Char) : Prop where
  filled : gap ≠ []
  blank : ∀ c ∈ gap, Text.isBlank c = true

theorem isGap_space :
    IsGap [' '] where
  filled := List.cons_ne_nil _ _
  blank := by
    intro c member
    rw [List.mem_singleton.mp member]
    rfl

/-- A chain is its first compound and what is joined to it. -/
theorem Chain.exists_extend
    (gap : List Char)
    (chain : Chain) :
    ∃ first further,
      chain = (Chain.single first).extend further ∧
        chain.compounds = first :: further.map Prod.snd ∧
        chain.text gap = first.written.text ++ furtherText gap further := by
  induction chain with
  | single compound =>
      exact ⟨compound, [], by simp [extend, compounds, text, furtherText]⟩
  | step before combinator compound inductionHypothesis =>
      obtain ⟨first, further, same, members, printed⟩ := inductionHypothesis
      refine ⟨first, further ++ [(combinator, compound)], ?_, ?_, ?_⟩
      · simp [extend, same]
      · simp [compounds, members]
      · simp [text, printed, furtherText]

/-- The signs of combinators start no compound. -/
def isCombinatorSign (c : Char) : Bool :=
  c = '>' || c = '+' || c = '~'

/-- The signs of combinators are no blanks and stand in no names. -/
theorem of_isCombinatorSign
    {c : Char}
    (sign : isCombinatorSign c = true) :
    Text.isBlank c = false ∧ isNameChar c = false := by
  simp only [isCombinatorSign, Bool.or_eq_true, decide_eq_true_eq] at sign
  rcases sign with (rfl | rfl) | rfl <;> decide +kernel

theorem isCombinatorSign_of_isNameChar
    {c : Char}
    (inName : isNameChar c = true) :
    isCombinatorSign c = false := by
  by_contra sign
  have noName := (of_isCombinatorSign (by simpa using sign)).2
  rw [noName] at inName
  cases inName

/-- A printed compound starts with no blank and with no sign of a combinator. -/
theorem exists_head_written
    {compound : Compound}
    (plain : compound.IsPlain) :
    ∃ first others,
      compound.written.text = first :: others ∧
        Text.isBlank first = false ∧ isCombinatorSign first = false := by
  obtain ⟨first, others, division⟩ := List.exists_cons_of_ne_nil plain.written_text_ne_nil
  obtain ⟨start, -⟩ := (Text.trim_eq_self_iff _).mp (trim_written plain)
  refine ⟨first, others, division, start first (by simp [division]), ?_⟩
  rw [WrittenCompound.text] at division
  rcases plain.shape_written.tag.cases with none | any | isName
  · rw [none, List.nil_append] at division
    have sign := partEnd_flatMap_text compound.written.parts first (by simp [division])
    rcases isPartSign_cases sign with rfl | rfl | rfl | rfl <;> rfl
  · rw [any] at division
    obtain rfl := (List.cons.inj division).1
    rfl
  · obtain ⟨letter, rest, tag⟩ := List.exists_cons_of_ne_nil isName.filled
    rw [tag] at division
    obtain rfl := (List.cons.inj division).1
    exact isCombinatorSign_of_isNameChar (isName.all letter (by simp [tag]))

/-- A joint is read as its combinator. -/
theorem readCombinator?_joint
    (isGap : IsGap gap)
    (combinator : Combinator)
    {first : Char}
    (solid : Text.isBlank first = false)
    (noSign : isCombinatorSign first = false)
    (others : List Char) :
    readCombinator? (jointText gap combinator ++ first :: others) =
      some (combinator, first :: others) := by
  have space : Text.isBlank ' ' = true := by
    decide
  have beforeSign
      (sign : Char)
      (isSign : isCombinatorSign sign = true)
      (rest : List Char) :
      Text.trimStart (' ' :: sign :: rest) = sign :: rest := by
    simp [Text.trimStart, space, (of_isCombinatorSign isSign).1]
  have after : Text.trimStart (' ' :: first :: others) = first :: others := by
    simp [Text.trimStart, space, solid]
  cases combinator with
  | descendant =>
      have start : Text.trimStart (gap ++ first :: others) = first :: others :=
        Text.trimStart_run_append isGap.blank (by simpa using solid)
      have longer : 0 < gap.length := List.length_pos_iff.mpr isGap.filled
      simp only [isCombinatorSign, Bool.or_eq_false_iff, decide_eq_false_iff_not] at noSign
      obtain ⟨⟨child, adjacent⟩, sibling⟩ := noSign
      simp [jointText, readCombinator?, start, child, adjacent, sibling, longer]
  | child =>
      simp [jointText, Combinator.sign, readCombinator?, beforeSign '>' rfl, after]
  | adjacent =>
      simp [jointText, Combinator.sign, readCombinator?, beforeSign '+' rfl, after]
  | sibling =>
      simp [jointText, Combinator.sign, readCombinator?, beforeSign '~' rfl, after]

theorem isBlank_of_head_jointText
    (isGap : IsGap gap)
    (combinator : Combinator)
    (rest : List Char) :
    ∀ c ∈ (jointText gap combinator ++ rest).head?, Text.isBlank c = true := by
  intro c head
  cases combinator with
  | descendant =>
      obtain ⟨first, others, rfl⟩ := List.exists_cons_of_ne_nil isGap.filled
      obtain rfl := Option.some.inj head
      exact isGap.blank first List.mem_cons_self
  | _ =>
      obtain rfl := Option.some.inj head
      decide

/-- Nothing of a compound goes on in the joint after it. -/
theorem isBlank_of_head_furtherText
    (isGap : IsGap gap)
    (further : List (Combinator × Compound)) :
    ∀ c ∈ (furtherText gap further).head?, Text.isBlank c = true := by
  cases further with
  | nil =>
      exact nofun
  | cons joined others =>
      rw [furtherText, List.flatMap_cons, List.append_assoc]
      exact isBlank_of_head_jointText isGap joined.1 _

/-- A printed compound is delimited before the joint after it. -/
theorem compoundLength_written
    (isGap : IsGap gap)
    {compound : Compound}
    (plain : compound.IsPlain)
    (further : List (Combinator × Compound)) :
    compoundLength (compound.written.text ++ furtherText gap further) =
      compound.written.text.length := by
  have blank := isBlank_of_head_furtherText isGap further
  refine compoundLength_of_shape plain.shape_written (stops_of_isBlank blank) ?_
  intro c head
  by_contra sign
  rcases isPartSign_cases (by simpa using sign) with rfl | rfl | rfl | rfl <;>
    exact absurd (blank _ head) (by decide +kernel)

/-- A printed compound with nothing after it ends the chain. -/
theorem readChain_written_nil
    (isGap : IsGap gap)
    {compound : Compound}
    (plain : compound.IsPlain)
    (before : Option (Chain × Combinator))
    (fuel : Nat) :
    readChain selector (fuel + 1) before (compound.written.text ++ furtherText gap []) =
      .ok (extendChain before compound) := by
  have filled := mt List.length_eq_zero_iff.mp plain.written_text_ne_nil
  simp only [readChain, compoundLength_written isGap plain [], if_neg filled, List.take_left,
    List.drop_left, readCompound_written plain]
  rfl

/-- A printed compound with a joint after it is read, and what the joint leads to is next. -/
theorem readChain_written_append
    (isGap : IsGap gap)
    {compound : Compound}
    (plain : compound.IsPlain)
    {further : List (Combinator × Compound)}
    {combinator : Combinator}
    {after : List Char}
    (joint : readCombinator? (furtherText gap further) = some (combinator, after))
    (goesOn : (furtherText gap further).isEmpty = false)
    (notEnded : after.isEmpty = false)
    (before : Option (Chain × Combinator))
    (fuel : Nat) :
    readChain selector (fuel + 1) before (compound.written.text ++ furtherText gap further) =
      readChain selector fuel (some (extendChain before compound, combinator)) after := by
  have filled := mt List.length_eq_zero_iff.mp plain.written_text_ne_nil
  simp [readChain, compoundLength_written isGap plain further, filled,
    readCompound_written plain, joint, goesOn, notEnded]

/-- A printed chain is read compound by compound. -/
theorem readChain_furtherText
    (isGap : IsGap gap)
    {further : List (Combinator × Compound)}
    (furtherPlain : ∀ joined ∈ further, joined.2.IsPlain)
    {first : Compound}
    (firstPlain : first.IsPlain)
    {before : Option (Chain × Combinator)}
    {fuel : Nat}
    (enough : further.length ≤ fuel) :
    readChain selector (fuel + 1) before (first.written.text ++ furtherText gap further) =
      .ok ((extendChain before first).extend further) := by
  induction further generalizing first before fuel with
  | nil =>
      exact readChain_written_nil isGap firstPlain before fuel
  | cons joined others inductionHypothesis =>
      obtain ⟨fuel, rfl⟩ := Nat.exists_eq_add_of_le' enough
      obtain ⟨joinedPlain, othersPlain⟩ := List.forall_mem_cons.mp furtherPlain
      obtain ⟨letter, rest, division, solid, noSign⟩ := exists_head_written joinedPlain
      have nextText :
          furtherText gap (joined :: others) =
            jointText gap joined.1 ++ (joined.2.written.text ++ furtherText gap others) := by
        simp [furtherText]
      have joint :
          readCombinator? (furtherText gap (joined :: others)) =
            some (joined.1, joined.2.written.text ++ furtherText gap others) := by
        rw [nextText, division]
        exact readCombinator?_joint isGap joined.1 solid noSign _
      have goesOn : (furtherText gap (joined :: others)).isEmpty = false := by
        simp [nextText, division]
      have notEnded : (joined.2.written.text ++ furtherText gap others).isEmpty = false := by
        simp [division]
      have later :
          readChain selector (fuel + others.length + 1)
              (some (extendChain before first, joined.1))
              (joined.2.written.text ++ furtherText gap others) =
            .ok ((extendChain before first).extend (joined :: others)) :=
        inductionHypothesis othersPlain joinedPlain (Nat.le_add_left others.length fuel)
      exact (readChain_written_append isGap firstPlain joint goesOn notEnded _ _).trans later

end Chains

/-! ## Printed selectors -/

section Groups

variable
  {selector : String}
  {gap : List Char}

/-- A chain is plain when its compounds are. -/
def Chain.IsPlain (chain : Chain) : Prop :=
  ∀ compound ∈ chain.compounds, compound.IsPlain

instance (chain : Chain) : Decidable chain.IsPlain :=
  inferInstanceAs (Decidable (∀ compound ∈ chain.compounds, compound.IsPlain))

/-- The groups of a selector with a comma and a blank between neighbours. -/
def groupsText (gap : List Char) (chains : List Chain) : List Char :=
  Text.joinWith [',', ' '] (chains.map (Chain.text gap))

theorem noComma_of_isBlank
    {blanks : List Char}
    (blank : ∀ c ∈ blanks, Text.isBlank c = true) :
    ',' ∉ blanks :=
  fun member => absurd (blank _ member) (by decide +kernel)

theorem noComma_jointText
    (isGap : IsGap gap)
    (combinator : Combinator) :
    ',' ∉ jointText gap combinator := by
  cases combinator with
  | descendant =>
      exact noComma_of_isBlank isGap.blank
  | _ =>
      simp [jointText, Combinator.sign]

/-- A printed chain is a trimmed text without a comma. -/
theorem Chain.IsPlain.text
    (isGap : IsGap gap)
    {chain : Chain}
    (plain : chain.IsPlain) :
    chain.text gap ≠ [] ∧
      Text.trim (chain.text gap) = chain.text gap ∧ ',' ∉ chain.text gap := by
  induction chain with
  | single compound =>
      have compoundPlain := plain compound List.mem_cons_self
      exact
        ⟨compoundPlain.written_text_ne_nil, trim_written compoundPlain,
          noComma_written compoundPlain⟩
  | step before combinator compound inductionHypothesis =>
      obtain ⟨beforePlain, last⟩ := List.forall_mem_append.mp plain
      have compoundPlain := last compound List.mem_cons_self
      obtain ⟨filled, trimmed, noComma⟩ := inductionHypothesis beforePlain
      refine ⟨?_, ?_, ?_⟩
      · simp [Chain.text, filled]
      · exact
          Text.trim_append_append trimmed (trim_written compoundPlain) filled
            compoundPlain.written_text_ne_nil _
      · simp [Chain.text, noComma, noComma_jointText isGap, noComma_written compoundPlain]

theorem length_le_furtherText
    (gap : List Char)
    {further : List (Combinator × Compound)}
    (plain : ∀ joined ∈ further, joined.2.IsPlain) :
    further.length ≤ (furtherText gap further).length := by
  induction further with
  | nil =>
      exact Nat.le_refl _
  | cons joined others inductionHypothesis =>
      obtain ⟨first, later⟩ := List.forall_mem_cons.mp plain
      have filled := List.length_pos_iff.mpr first.written_text_ne_nil
      have fewer := inductionHypothesis later
      simp only [furtherText, List.flatMap_cons, List.length_append, List.length_cons] at fewer ⊢
      omega

/-- A printed chain is read back, with blanks before it. -/
theorem readGroup_text
    (isGap : IsGap gap)
    {chain : Chain}
    (plain : chain.IsPlain)
    {blanks : List Char}
    (blank : ∀ c ∈ blanks, Text.isBlank c = true) :
    readGroup selector (blanks ++ chain.text gap) = .ok chain := by
  obtain ⟨filled, trimmed, -⟩ := plain.text isGap
  have trimmedGroup : Text.trim (blanks ++ chain.text gap) = chain.text gap := by
    have surrounded : Text.trim (blanks ++ chain.text gap ++ []) = chain.text gap :=
      Text.trim_surrounded trimmed filled blank nofun
    simpa using surrounded
  obtain ⟨first, further, same, members, printed⟩ := chain.exists_extend gap
  rw [Chain.IsPlain, members] at plain
  obtain ⟨firstPlain, later⟩ := List.forall_mem_cons.mp plain
  have furtherPlain : ∀ joined ∈ further, joined.2.IsPlain :=
    fun joined member => later joined.2 (List.mem_map_of_mem member)
  have enough : further.length < (chain.text gap).length := by
    have firstFilled := List.length_pos_iff.mpr firstPlain.written_text_ne_nil
    have fewer := length_le_furtherText gap furtherPlain
    rw [printed, List.length_append]
    omega
  obtain ⟨fuel, length⟩ := Nat.exists_eq_add_of_lt enough
  have read :
      readChain selector (further.length + fuel + 1) none
          (first.written.text ++ furtherText gap further) =
        .ok ((Chain.single first).extend further) :=
    readChain_furtherText isGap furtherPlain firstPlain (Nat.le_add_right further.length fuel)
  rw [← printed, ← length] at read
  rw [readGroup, trimmedGroup, if_neg (by simpa using filled), read, same]

/-- Printed groups are read in order, also with blanks before the first of them. -/
theorem readGroups_blanks_groupsText
    (isGap : IsGap gap)
    {chains : List Chain}
    (filled : chains ≠ [])
    (plain : ∀ chain ∈ chains, chain.IsPlain)
    {blanks : List Char}
    (blank : ∀ c ∈ blanks, Text.isBlank c = true) :
    readGroups selector (Text.splitAt ',' (blanks ++ groupsText gap chains)) = .ok chains := by
  induction chains generalizing blanks with
  | nil =>
      exact absurd rfl filled
  | cons chain rest inductionHypothesis =>
      obtain ⟨chainPlain, restPlain⟩ := List.forall_mem_cons.mp plain
      have first : readGroup selector (blanks ++ chain.text gap) = .ok chain :=
        readGroup_text isGap chainPlain blank
      have noComma : ',' ∉ blanks ++ chain.text gap :=
        fun member =>
          (List.mem_append.mp member).elim (noComma_of_isBlank blank)
            (chainPlain.text isGap).2.2
      cases rest with
      | nil =>
          have single : groupsText gap [chain] = chain.text gap := by
            simp [groupsText, Text.joinWith]
          rw [single, Text.splitAt_of_not_mem noComma, readGroups, first]
          rfl
      | cons next others =>
          have division :
              blanks ++ groupsText gap (chain :: next :: others) =
                (blanks ++ chain.text gap) ++ ',' ::
                  ([' '] ++ groupsText gap (next :: others)) := by
            simp [groupsText, Text.joinWith, List.intercalate_cons_cons]
          have later := inductionHypothesis (List.cons_ne_nil _ _) restPlain isGap_space.blank
          rw [division, Text.splitAt_run noComma, readGroups, first, later]
          rfl

theorem readGroups_groupsText
    (isGap : IsGap gap)
    {chains : List Chain}
    (filled : chains ≠ [])
    (plain : ∀ chain ∈ chains, chain.IsPlain) :
    readGroups selector (Text.splitAt ',' (groupsText gap chains)) = .ok chains := by
  have read :
      readGroups selector (Text.splitAt ',' ([] ++ groupsText gap chains)) = .ok chains :=
    readGroups_blanks_groupsText isGap filled plain nofun
  simpa using read

/--
A selector is read as the chains that were printed, in their order, whatever run of blanks
stands between a compound and those below it.
-/
theorem printed_selectors_are_read_back
    (isGap : IsGap gap)
    {chains : List Chain}
    (filled : chains ≠ [])
    (plain : ∀ chain ∈ chains, chain.IsPlain) :
    read (String.ofList (groupsText gap chains)) = .ok chains := by
  rw [read, String.toList_ofList]
  exact readGroups_groupsText isGap filled plain

end Groups

/-- Signs in a quoted value are read as characters of the value. -/
theorem printed_selectors_are_read_back_of_menu :
    let link : Compound :=
      { tag := some "a"
        classes := ["on"]
        attributes := [("title", some "b > c.d")]
        pseudo := [.nthChild 2] }
    let chains :=
      [.step (.step (.single { id := some "nav" }) .descendant { tag := some "li" }) .child link,
        .single {}]
    groupsText [' '] chains = "#nav li > a.on[title=\"b > c.d\"]:nth-child(2), *".toList ∧
      read (String.ofList (groupsText [' '] chains)) = .ok chains := by
  intro link chains
  refine ⟨by decide +kernel, ?_⟩
  exact printed_selectors_are_read_back isGap_space (List.cons_ne_nil _ _) (by decide +kernel)

end PageScript.Selector
