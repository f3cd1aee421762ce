import PageScript.Proofs.Selector.Collecting
import PageScript.Proofs.Selector.Semantics

namespace PageScript.Selector

open Document List

/-!
# Selectors enforce what they write

Every accepted selector is divided into groups, steps, tags and parts without a
rest.  An element that satisfies a compound satisfies the tag and every part
that writes a test, except an identity that a later part may replace.  A text
between brackets that writes no test is accepted and asks for nothing of its
own.
-/

/-! ## Tests of a compound -/

/-- The structural test that a name and its argument write. -/
inductive PseudoForm : List Char → List Char → PseudoClass → Prop where
  | plain {name pseudo} :
      pseudo ∈ plainPseudoClasses →
      String.ofList (Text.lower name) = pseudo.name →
      PseudoForm name [] pseudo
  | nthChild {name digits} :
      String.ofList (Text.lower name) = "nth-child" →
      digits ≠ [] →
      (∀ c ∈ digits, Text.isDecimalDigit c = true) →
      1 ≤ Text.digitsValue digits →
      PseudoForm name digits (.nthChild (Text.digitsValue digits))

/-- A test is among the tests of a compound; an identity may have been replaced. -/
def WrittenTest.IsIn (compound : Compound) : WrittenTest → Prop
  | .id _ => True
  | .class name => name ∈ compound.classes
  | .attribute name value => (name, value) ∈ compound.attributes
  | .pseudo name argument =>
      ∃ pseudo ∈ compound.pseudo, PseudoForm name argument pseudo

/-- Tests were added to a compound; its identity may have been replaced. -/
structure Compound.Grows (before after : Compound) : Prop where
  tag : after.tag = before.tag
  classes : before.classes ⊆ after.classes
  attributes : before.attributes ⊆ after.attributes
  pseudo : before.pseudo ⊆ after.pseudo

section Tests

variable
  {selector : String}
  {start result : Compound}
  {tests : List WrittenTest}

theorem Compound.Grows.refl
    (compound : Compound) :
    compound.Grows compound :=
  ⟨rfl, .refl _, .refl _, .refl _⟩

theorem Compound.Grows.trans
    {first second third : Compound}
    (before : first.Grows second)
    (after : second.Grows third) :
    first.Grows third :=
  ⟨after.tag.trans before.tag,
    fun _ member => after.classes (before.classes member),
    fun _ member => after.attributes (before.attributes member),
    fun _ member => after.pseudo (before.pseudo member)⟩

/-- The digits of a position are decimal digits, and they write a positive number. -/
theorem of_readPosition_eq_ok
    {argument : List Char}
    {position : Nat}
    (given : readPosition selector argument = .ok position) :
    argument ≠ [] ∧
      (∀ c ∈ argument, Text.isDecimalDigit c = true) ∧
        position = Text.digitsValue argument ∧ 1 ≤ position := by
  rw [readPosition] at given
  split at given
  · cases given
  next digitForms =>
  dsimp only at given
  split_ifs at given with tooMany notDecimal notPositive
  cases given
  have whole :
      argument.takeWhile Text.isDecimalDigit = argument :=
    (List.takeWhile_prefix _).eq_of_length_le (Nat.le_of_not_lt notDecimal)
  rw [whole] at notPositive ⊢
  refine ⟨?_, List.takeWhile_eq_self_iff.mp whole, rfl, by omega⟩
  rintro rfl
  exact digitForms rfl

theorem form_of_readPseudo
    {name argument : List Char}
    {pseudo : PseudoClass}
    (given : readPseudo selector name argument = .ok pseudo) :
    PseudoForm name argument pseudo := by
  rw [readPseudo] at given
  split at given
  · next isNth =>
      cases read : readPosition selector argument with
      | error error =>
          rw [read] at given
          cases given
      | ok position =>
          rw [read] at given
          cases given
          obtain ⟨filled, digits, rfl, positive⟩ := of_readPosition_eq_ok read
          exact .nthChild (eq_of_beq isNth) filled digits positive
  · split at given
    · next found known =>
        split_ifs at given with noArgument
        cases given
        rw [List.isEmpty_iff.mp noArgument]
        have sameName := List.find?_some known
        exact
          .plain (List.mem_of_find?_eq_some known)
            (eq_of_beq sameName).symm
    · cases given

theorem PseudoForm.no_bracket
    {name argument : List Char}
    {pseudo : PseudoClass}
    (form : PseudoForm name argument pseudo) :
    ']' ∉ argument := by
  cases form with
  | plain _ _ =>
      exact List.not_mem_nil
  | nthChild _ _ digits _ =>
      intro member
      exact absurd (digits ']' member) (by decide +kernel)

/-- Adding tests keeps the tests that are there and adds each new one. -/
theorem grows_of_addTests
    (accepted : addTests selector start tests = .ok result) :
    start.Grows result ∧
      (∀ test ∈ tests, test.IsIn result ∧ ¬ test.Overruns) := by
  induction tests generalizing start with
  | nil =>
      cases accepted
      exact ⟨.refl _, nofun⟩
  | cons test rest inductionHypothesis =>
      have ofNext
          (next : Compound)
          (grows : start.Grows next)
          (accepted : addTests selector next rest = .ok result)
          (isIn : next.Grows result → test.IsIn result)
          (orderly : ¬ test.Overruns) :
          start.Grows result ∧
            (∀ other ∈ test :: rest, other.IsIn result ∧ ¬ other.Overruns) := by
        obtain ⟨laterGrows, later⟩ := inductionHypothesis accepted
        exact
          ⟨grows.trans laterGrows,
            List.forall_mem_cons.mpr ⟨⟨isIn laterGrows, orderly⟩, later⟩⟩
      cases test with
      | id name =>
          exact
            ofNext { start with id := some name }
              ⟨rfl, .refl _, .refl _, .refl _⟩
              accepted (fun _ => trivial) id
      | «class» name =>
          exact
            ofNext { start with classes := start.classes ++ [name] }
              ⟨rfl, List.subset_append_left _ _, .refl _, .refl _⟩
              accepted (fun grows => grows.classes (by simp)) id
      | «attribute» name value =>
          exact
            ofNext { start with attributes := start.attributes ++ [(name, value)] }
              ⟨rfl, .refl _, List.subset_append_left _ _, .refl _⟩
              accepted (fun grows => grows.attributes (by simp)) id
      | pseudo name argument =>
          rw [addTests] at accepted
          split at accepted
          · cases accepted
          · next pseudo read =>
              have form := form_of_readPseudo read
              exact
                ofNext { start with pseudo := start.pseudo ++ [pseudo] }
                  ⟨rfl, .refl _, .refl _, List.subset_append_left _ _⟩
                  accepted
                  (fun grows => ⟨pseudo, grows.pseudo (by simp), form⟩)
                  form.no_bracket

/-- The identity of a compound is that of the last test of an identity. -/
theorem id_of_addTests
    (accepted : addTests selector start tests = .ok result)
    (noId : ∀ test ∈ tests, ¬ test.IsId) :
    result.id = start.id := by
  induction tests generalizing start with
  | nil =>
      cases accepted
      rfl
  | cons test rest inductionHypothesis =>
      obtain ⟨first, later⟩ := List.forall_mem_cons.mp noId
      cases test with
      | id name =>
          exact (first trivial).elim
      | «class» name =>
          exact (inductionHypothesis accepted later :)
      | «attribute» name value =>
          exact (inductionHypothesis accepted later :)
      | pseudo name argument =>
          rw [addTests] at accepted
          split at accepted
          · cases accepted
          · exact (inductionHypothesis accepted later :)

theorem addTests_append
    {first second : List WrittenTest}
    (accepted : addTests selector start (first ++ second) = .ok result) :
    ∃ middle,
      addTests selector start first = .ok middle ∧
        addTests selector middle second = .ok result := by
  induction first generalizing start with
  | nil =>
      exact ⟨start, rfl, accepted⟩
  | cons test rest inductionHypothesis =>
      cases test with
      | id name =>
          exact inductionHypothesis accepted
      | «class» name =>
          exact inductionHypothesis accepted
      | «attribute» name value =>
          exact inductionHypothesis accepted
      | pseudo name argument =>
          rw [List.cons_append, addTests] at accepted
          rw [addTests]
          split at accepted
          · cases accepted
          · exact inductionHypothesis accepted

theorem id_of_addTests_append
    {name : String}
    {earlier later : List WrittenTest}
    (accepted :
      addTests selector start (earlier ++ .id name :: later) = .ok result)
    (noId : ∀ test ∈ later, ¬ test.IsId) :
    result.id = some name := by
  obtain ⟨middle, -, rest⟩ := addTests_append accepted
  have last :
      addTests selector { middle with id := some name } later = .ok result :=
    rest
  exact id_of_addTests last noId

end Tests

/-! ## What parts ask for -/

/-- An element has what a part asks for; a part that writes no test asks for the impossible. -/
def Part.SatisfiedBy
    (forest : Forest)
    (element : NodeId) :
    Part → Prop
  | .id name =>
      (forest.attributes element).get? "id" = some (String.ofList name)
  | .class name => String.ofList name ∈ forest.classes element
  | .bracket inner =>
      ∃ name value,
        AttributeForm inner name value ∧
          ∃ actual,
            (forest.attributes element).get? name = some actual ∧
              ∀ expected, value = some expected → actual = expected
  | .pseudo name argument =>
      ∃ pseudo,
        PseudoForm name (Text.trim (argument.getD [])) pseudo ∧
          pseudo.SatisfiedBy forest element

/-! ## Written compounds -/

/-- The tag of a compound, as it is written. -/
inductive TagForm : List Char → Prop where
  | none : TagForm []
  | any : TagForm ['*']
  | name {first others} :
      Text.isLatinLetter first = true →
      (∀ c ∈ others, isNameChar c = true) →
      TagForm (first :: others)

/-- A compound as it is written. -/
structure WrittenCompound where
  tag : List Char
  parts : List Part
  deriving Repr, DecidableEq

namespace WrittenCompound

/-- The text of a compound. -/
def text (written : WrittenCompound) : List Char :=
  written.tag ++ written.parts.flatMap Part.text

/-- What the reader delimits as a compound. -/
structure Shape (written : WrittenCompound) : Prop where
  tag : TagForm written.tag
  parts : ∀ part ∈ written.parts, part.Shape

/--
Elements that satisfy a compound have the tag that is written and satisfy every
part that writes a test.  An identity is promised only when all later parts are
tests of other things, since a later identity replaces it, and one may stand
inside brackets that are no test.
-/
structure EnforcedBy
    (written : WrittenCompound)
    (compound : Compound) : Prop where
  tag :
    written.tag ≠ [] →
      written.tag ≠ ['*'] →
        ∀ forest element,
          compound.SatisfiedBy forest element →
            forest.tag? element =
              some (String.ofList (Text.lower written.tag))
  parts :
    ∀ earlier part later,
      written.parts = earlier ++ part :: later →
        part.IsTest →
          (part.IsId → ∀ other ∈ later, other.IsTest ∧ ¬ other.IsId) →
            ∀ forest element,
              compound.SatisfiedBy forest element →
                part.SatisfiedBy forest element

end WrittenCompound

/--
A text is a tag and parts, and however it is divided into them, a compound
enforces what is written.
-/
structure WritesCompound
    (text : List Char)
    (compound : Compound) : Prop where
  filled : text ≠ []
  divided : ∃ written : WrittenCompound, written.Shape ∧ written.text = text
  enforced :
    ∀ written : WrittenCompound,
      written.Shape → written.text = text → written.EnforcedBy compound

section Compounds

variable {selector : String} {compound : Compound}

theorem tagLength_of_form
    {tag rest : List Char}
    (form : TagForm tag)
    (stops : Stops rest) :
    tagLength (tag ++ rest) = tag.length := by
  cases form with
  | none =>
      cases rest with
      | nil =>
          rfl
      | cons c others =>
          obtain ⟨noName, -, notAny⟩ := stops c rfl
          have noLetter : Text.isLatinLetter c = false := by
            simp only [isNameChar, Text.isWordChar, Bool.or_eq_false_iff] at noName
            exact noName.1.1.1.1
          simp [tagLength, notAny, noLetter]
  | any =>
      rfl
  | @name first others letter all =>
      have notAny : first ≠ '*' := by
        rintro rfl
        exact absurd letter (by decide +kernel)
      rw [List.cons_append, tagLength, if_neg notAny, if_pos letter, nameLength,
        Text.takeWhile_run_append all stops.noNameChar, List.length_cons]

/-- What is delimited as a tag at the start of a text is one. -/
theorem exists_tag_of_tagLength
    (s : List Char) :
    ∃ tag, TagForm tag ∧ s = tag ++ s.drop (tagLength s) := by
  cases s with
  | nil =>
      exact ⟨[], .none, rfl⟩
  | cons c rest =>
      rw [tagLength]
      split_ifs with any letter
      · exact ⟨['*'], .any, congrArg (· :: rest) any⟩
      · refine
          ⟨c :: rest.takeWhile isNameChar,
            .name letter fun _ member => List.mem_takeWhile_imp member, ?_⟩
        rw [List.drop_succ_cons, List.cons_append, takeWhile_append_drop]
      · exact ⟨[], .none, rfl⟩

/-- What is delimited as a compound at the start of a text is one. -/
theorem exists_written_of_compoundLength
    (s : List Char) :
    ∃ written : WrittenCompound,
      written.Shape ∧ s = written.text ++ s.drop (compoundLength s) := by
  obtain ⟨tag, form, first⟩ := exists_tag_of_tagLength s
  obtain ⟨parts, shapes, later⟩ :=
    exists_parts_of_partsLength s.length (s.drop (tagLength s))
  refine ⟨⟨tag, parts⟩, ⟨form, shapes⟩, ?_⟩
  rw [compoundLength, ← List.drop_drop, WrittenCompound.text,
    List.append_assoc, ← later]
  exact first

/-- A compound is delimited where it ends. -/
theorem compoundLength_of_shape
    {written : WrittenCompound}
    (shape : written.Shape)
    {rest : List Char}
    (stops : Stops rest)
    (noPart : ∀ c ∈ rest.head?, isPartSign c = false) :
    compoundLength (written.text ++ rest) = written.text.length := by
  have tagged := tagLength_of_form shape.tag (stops_flatMap_text written.parts stops)
  have delimited :
      partsLength (written.tag ++ (written.parts.flatMap Part.text ++ rest)).length
          (written.parts.flatMap Part.text ++ rest) =
        (written.parts.flatMap Part.text).length := by
    refine partsLength_of_shapes shape.parts stops noPart ?_
    have enough := length_le_flatMap_text written.parts
    simp only [List.length_append]
    omega
  rw [compoundLength, WrittenCompound.text, List.append_assoc, tagged, List.drop_left,
    delimited, List.length_append]

/-- A compound enforces what its text writes. -/
theorem enforcedBy_of_readCompound
    {written : WrittenCompound}
    (shape : written.Shape)
    (accepted : readCompound selector written.text = .ok compound) :
    written.EnforcedBy compound := by
  rw [readCompound, WrittenCompound.text,
    tagLength_of_form shape.tag (partEnd_flatMap_text _).stops, List.take_left,
    List.drop_left] at accepted
  obtain ⟨grows, tests⟩ := grows_of_addTests accepted
  have collected :=
    collected_of_shape shape.parts fun test member => (tests test member).2
  constructor
  · intro named notAny forest element satisfied
    refine satisfied.tag _ (grows.tag.trans ?_)
    rw [testedTag, if_neg (by simpa using ⟨named, notAny⟩)]
  -- The parts before and after a part that writes a test give the tests before
  -- and after it, so nothing that is collected later replaces its test.
  · intro earlier part later division isTest lastId forest element satisfied
    rw [division] at collected accepted tests
    obtain ⟨before, test, after, shape, writes, afterCollected⟩ :=
      collected.split isTest
    have isIn : test.IsIn compound := by
      refine (tests test ?_).1
      rw [shape]
      exact List.mem_append_right _ List.mem_cons_self
    cases writes with
    | id =>
        rw [shape] at accepted
        exact
          satisfied.id _
            (id_of_addTests_append accepted
              (afterCollected.no_id (lastId trivial)))
    | «class» =>
        exact satisfied.classes _ isIn
    | bracket form =>
        exact ⟨_, _, form, satisfied.attributes _ isIn⟩
    | pseudo =>
        obtain ⟨pseudo, member, form⟩ := isIn
        exact ⟨pseudo, form, satisfied.pseudo pseudo member⟩

/-- The text that is delimited at the start of a rest writes the compound that is read. -/
theorem writesCompound_of_readCompound
    {s : List Char}
    (delimited : compoundLength s ≠ 0)
    (accepted :
      readCompound selector (s.take (compoundLength s)) = .ok compound) :
    WritesCompound (s.take (compoundLength s)) compound := by
  obtain ⟨written, shape, division⟩ := exists_written_of_compoundLength s
  have text : written.text = s.take (compoundLength s) :=
    List.append_cancel_right
      (division.symm.trans (List.take_append_drop _ s).symm)
  have filled : s ≠ [] := by
    rintro rfl
    exact delimited rfl
  refine ⟨?_, ⟨written, shape, text⟩, ?_⟩
  · exact mt List.take_eq_nil_iff.mp (not_or.mpr ⟨delimited, filled⟩)
  · intro other otherShape otherText
    rw [← otherText] at accepted
    exact enforcedBy_of_readCompound otherShape accepted

end Compounds

/-! ## Written chains -/

/-- The text between two compounds: blanks, or a sign with blanks around it. -/
inductive JointForm : Combinator → List Char → Prop where
  | descendant {blanks} :
      blanks ≠ [] →
      (∀ c ∈ blanks, Text.isBlank c = true) →
      JointForm .descendant blanks
  | signed {combinator before after} :
      combinator ≠ .descendant →
      (∀ c ∈ before, Text.isBlank c = true) →
      (∀ c ∈ after, Text.isBlank c = true) →
      JointForm combinator (before ++ (combinator.sign.toList ++ after))

/-- A text is made of compounds and joints alone, and they are those of a chain. -/
inductive WrittenChain : List Char → Chain → Prop where
  | single {text compound} :
      WritesCompound text compound →
      WrittenChain text (.single compound)
  | step {before joint text chain combinator compound} :
      WrittenChain before chain →
      JointForm combinator joint →
      WritesCompound text compound →
      WrittenChain (before ++ joint ++ text) (.step chain combinator compound)

/-- The text of a chain and the joint after it, while the chain is being read. -/
inductive WrittenBefore : List Char → Option (Chain × Combinator) → Prop where
  | nothing : WrittenBefore [] none
  | joined {text before combinator joint} :
      WrittenChain text before →
      JointForm combinator joint →
      WrittenBefore (text ++ joint) (some (before, combinator))

section Chains

variable {selector : String}

/-- A combinator is read from a joint. -/
theorem exists_joint_of_readCombinator?
    {s after : List Char}
    {combinator : Combinator}
    (read : readCombinator? s = some (combinator, after)) :
    ∃ joint, JointForm combinator joint ∧ s = joint ++ after := by
  obtain ⟨before, beforeBlank, shape⟩ := Text.exists_blanks_trimStart s
  have signed
      (sign : Combinator)
      {letter : Char}
      {rest : List Char}
      (isSign : sign.sign.toList = [letter])
      (notDescendant : sign ≠ .descendant)
      (start : Text.trimStart s = letter :: rest)
      (given :
        some (sign, Text.trimStart rest) = some (combinator, after)) :
      ∃ joint, JointForm combinator joint ∧ s = joint ++ after := by
    cases given
    obtain ⟨blanks, blank, restShape⟩ := Text.exists_blanks_trimStart rest
    refine ⟨_, .signed notDescendant beforeBlank blank, ?_⟩
    rw [isSign, List.append_assoc, List.append_assoc, ← restShape]
    exact shape.trans (congrArg (before ++ ·) start)
  rw [readCombinator?] at read
  split at read
  · next start => exact signed .child rfl nofun start read
  · next start => exact signed .adjacent rfl nofun start read
  · next start => exact signed .sibling rfl nofun start read
  · split_ifs at read with shorter
    cases read
    refine ⟨before, .descendant ?_ beforeBlank, shape⟩
    rintro rfl
    rw [List.nil_append] at shape
    rw [← shape] at shorter
    exact Nat.lt_irrefl _ shorter

/-- What precedes a compound and the compound make a longer chain. -/
theorem WrittenBefore.extend
    {text own : List Char}
    {before : Option (Chain × Combinator)}
    {compound : Compound}
    (writtenBefore : WrittenBefore text before)
    (writes : WritesCompound own compound) :
    WrittenChain (text ++ own) (extendChain before compound) := by
  cases writtenBefore with
  | nothing =>
      exact .single writes
  | joined chain joint =>
      exact .step chain joint writes

/-- What is read of a chain next: its last compound, or a compound and the joint after it. -/
theorem readChain_cases
    {fuel : Nat}
    {before : Option (Chain × Combinator)}
    {s : List Char}
    {chain : Chain}
    (accepted : readChain selector (fuel + 1) before s = .ok chain) :
    ∃ own compound,
      WritesCompound own compound ∧
        readCompound selector own = .ok compound ∧
        (s = own ∧ chain = extendChain before compound ∨
          ∃ joint combinator after,
            s = own ++ (joint ++ after) ∧
              JointForm combinator joint ∧
              readChain selector fuel (some (extendChain before compound, combinator)) after =
                .ok chain) := by
  rw [readChain] at accepted
  split_ifs at accepted with nothing
  split at accepted
  · cases accepted
  next compound read =>
  have division := List.take_append_drop (compoundLength s) s
  refine ⟨_, compound, writesCompound_of_readCompound nothing read, read, ?_⟩
  dsimp only at accepted
  split_ifs at accepted with finished
  · cases accepted
    rw [List.isEmpty_iff.mp finished, List.append_nil] at division
    exact .inl ⟨division.symm, rfl⟩
  -- The joint is read next, and the rest is a chain after both.
  · split at accepted
    · cases accepted
    next combinator after joined =>
    split_ifs at accepted
    obtain ⟨joint, form, rest⟩ := exists_joint_of_readCombinator? joined
    rw [rest] at division
    exact .inr ⟨joint, combinator, after, division.symm, form, accepted⟩

/-- A chain that is read is made of what stands in its text. -/
theorem writtenChain_of_readChain
    {fuel : Nat}
    {before : Option (Chain × Combinator)}
    {text s : List Char}
    {chain : Chain}
    (accepted : readChain selector fuel before s = .ok chain)
    (writtenBefore : WrittenBefore text before) :
    WrittenChain (text ++ s) chain := by
  induction fuel generalizing before text s with
  | zero =>
      cases accepted
  | succ fuel inductionHypothesis =>
      obtain ⟨own, compound, writes, -, last | further⟩ := readChain_cases accepted
      · obtain ⟨rfl, rfl⟩ := last
        exact writtenBefore.extend writes
      · obtain ⟨joint, combinator, after, rfl, form, rest⟩ := further
        have whole := inductionHypothesis rest (.joined (writtenBefore.extend writes) form)
        simpa using whole

/-- A group that is read is made of what stands in its text. -/
theorem writtenChain_of_readGroup
    {group : List Char}
    {chain : Chain}
    (accepted : readGroup selector group = .ok chain) :
    WrittenChain (Text.trim group) chain := by
  rw [readGroup] at accepted
  split_ifs at accepted
  exact writtenChain_of_readChain accepted .nothing

/-- The groups of an accepted selector are read one by one. -/
theorem forall₂_of_readGroups
    {groups : List (List Char)}
    {chains : List Chain}
    (accepted : readGroups selector groups = .ok chains) :
    List.Forall₂ (fun group chain => readGroup selector group = .ok chain) groups chains := by
  induction groups generalizing chains with
  | nil =>
      cases accepted
      exact .nil
  | cons group rest inductionHypothesis =>
      rw [readGroups] at accepted
      split at accepted
      · cases accepted
      next chain read =>
      cases later : readGroups selector rest with
      | error error =>
          rw [later] at accepted
          cases accepted
      | ok others =>
          rw [later] at accepted
          cases accepted
          exact .cons read (inductionHypothesis later)

/--
Every group of an accepted selector is made of compounds and joints alone, and
its chain enforces what each compound writes.
-/
theorem written_selectors_enforced
    {chains : List Chain}
    (accepted : read selector = .ok chains) :
    List.Forall₂
      (fun group chain => WrittenChain (Text.trim group) chain)
      (Text.splitAt ',' selector.toList) chains :=
  (forall₂_of_readGroups accepted).imp fun _ _ read => writtenChain_of_readGroup read

end Chains

/-- A selector of two groups, with a joint and each kind of part. -/
theorem written_selectors_enforced_of_note :
    List.Forall₂
      (fun group chain => WrittenChain (Text.trim group) chain)
      (Text.splitAt ',' "#app > p.note[title='a b']:nth-child(2), img".toList)
      [.step (.single { id := some "app" }) .child
          { tag := some "p"
            classes := ["note"]
            attributes := [("title", some "a b")]
            pseudo := [.nthChild 2] },
        .single { tag := some "img" }] :=
  written_selectors_enforced (by decide +kernel)

/-- Brackets that hold no attribute test are accepted, and any element is selected. -/
theorem brackets_without_test_accepted :
    read "[data-role^=x]" = .ok [.single {}] ∧
      ¬ (Part.bracket "data-role^=x".toList).IsTest ∧
      resolve Page.blank "[data-role^=x]" = some Page.blank.head := by
  refine ⟨by decide +kernel, ?_, by decide +kernel⟩
  rintro ⟨test, writes⟩
  cases writes with
  | bracket form =>
      have noTest :
          (attributeTest? "data-role^=x".toList).isNone = true := by
        decide +kernel
      rw [attributeTest?_of_form form] at noTest
      cases noTest

end PageScript.Selector
