import PageScript.Proofs.Document.Editing
import PageScript.Proofs.Selector.Printing

namespace PageScript.Selector

open Document List

/-!
# Values between quotes

Between brackets no character but the closing bracket and the quotes has a meaning,
with one exception: a selector is divided at its commas before any bracket is looked
at.  A value without a comma is therefore compared as it is written, and one with a
comma makes the selector unsupported.  No accepted selector has a comma between
brackets, so the groups of an accepted one are those between the commas outside.
-/

/-! ## Between brackets -/

/-- Whether the next character stands between brackets, after one that did or did not. -/
def insideNext (inside : Bool) (c : Char) : Bool :=
  if c = '[' then true else if c = ']' then false else inside

/-- Whether the end of a text stands between brackets, where its start does or does not. -/
def insideAfter (inside : Bool) (s : List Char) : Bool :=
  s.foldl insideNext inside

/-- The pieces of a text between the commas outside brackets. -/
def groupsOutside (inside : Bool) : List Char → List (List Char)
  | [] => [[]]
  | c :: rest =>
      if c = ',' && !inside then
        [] :: groupsOutside false rest
      else
        match groupsOutside (insideNext inside c) rest with
        | [] => [[c]]
        | first :: others => (c :: first) :: others

/-- A text that starts outside brackets ends outside brackets. -/
def IsBalanced (s : List Char) : Prop :=
  insideAfter false s = false

section Brackets

variable {s t : List Char} {inside : Bool}

theorem insideAfter_append :
    insideAfter inside (s ++ t) = insideAfter (insideAfter inside s) t :=
  List.foldl_append

/-- A text without brackets ends where it starts. -/
theorem insideAfter_of_no_bracket
    (noBracket : ∀ c ∈ s, c ≠ '[' ∧ c ≠ ']') :
    insideAfter inside s = inside := by
  induction s with
  | nil =>
      rfl
  | cons c rest inductionHypothesis =>
      obtain ⟨⟨notOpening, notClosing⟩, later⟩ := List.forall_mem_cons.mp noBracket
      have same : insideNext inside c = inside := by
        simp [insideNext, notOpening, notClosing]
      rw [insideAfter, List.foldl_cons, same]
      exact inductionHypothesis later

/-- Brackets stay open up to the first closing one. -/
theorem insideAfter_of_no_closing
    (noClosing : ']' ∉ s) :
    insideAfter true s = true := by
  induction s with
  | nil =>
      rfl
  | cons c rest inductionHypothesis =>
      obtain ⟨different, later⟩ := not_or.mp (mt List.mem_cons.mpr noClosing)
      have stays : insideNext true c = true := by
        simp [insideNext, Ne.symm different]
      rw [insideAfter, List.foldl_cons, stays]
      exact inductionHypothesis later

theorem IsBalanced.append
    (first : IsBalanced s)
    (second : IsBalanced t) :
    IsBalanced (s ++ t) := by
  rw [IsBalanced, insideAfter_append, first]
  exact second

theorem isBalanced_flatMap
    {pieces : List Part}
    {text : Part → List Char}
    (each : ∀ piece ∈ pieces, IsBalanced (text piece)) :
    IsBalanced (pieces.flatMap text) := by
  induction pieces with
  | nil =>
      rfl
  | cons piece others inductionHypothesis =>
      obtain ⟨first, later⟩ := List.forall_mem_cons.mp each
      exact first.append (inductionHypothesis later)

/-- Where every piece between commas is balanced, no comma stands between brackets. -/
theorem groupsOutside_eq_splitAt
    (first : ∀ piece ∈ (Text.splitAt ',' s).head?, insideAfter inside piece = false)
    (later : ∀ piece ∈ (Text.splitAt ',' s).tail, IsBalanced piece) :
    groupsOutside inside s = Text.splitAt ',' s := by
  induction s generalizing inside with
  | nil =>
      rfl
  | cons c rest inductionHypothesis =>
      rw [Text.splitAt] at first later
      rw [groupsOutside, Text.splitAt]
      by_cases comma : c = ','
      · rw [if_pos comma] at first later
        obtain rfl : inside = false := first [] rfl
        rw [if_pos comma, if_pos (by simp [comma])]
        refine congrArg ([] :: ·) (inductionHypothesis ?_ ?_)
        · exact fun piece member => later piece (List.mem_of_mem_head? member)
        · exact fun piece member => later piece (List.mem_of_mem_tail member)
      · rw [if_neg comma] at first later
        rw [if_neg comma, if_neg (by simp [comma])]
        cases pieces : Text.splitAt ',' rest with
        | nil =>
            rw [pieces] at inductionHypothesis
            rw [inductionHypothesis (by simp) (by simp)]
        | cons piece others =>
            rw [pieces] at inductionHypothesis first later
            rw [inductionHypothesis]
            · rintro _ ⟨⟩
              exact first (c :: piece) rfl
            · exact later

end Brackets

/-! ## Accepted texts are balanced -/

section Accepted

variable
  {selector : String}
  {compound : Compound}

/-- A run of characters of a kind without brackets is balanced. -/
theorem isBalanced_of_forall
    {test : Char → Bool}
    (noOpening : test '[' = false)
    (noClosing : test ']' = false)
    {s : List Char}
    (all : ∀ c ∈ s, test c = true) :
    IsBalanced s := by
  refine insideAfter_of_no_bracket fun c member => ⟨?_, ?_⟩
  · rintro rfl
    exact Bool.false_ne_true (noOpening.symm.trans (all _ member))
  · rintro rfl
    exact Bool.false_ne_true (noClosing.symm.trans (all _ member))

theorem isBalanced_of_isBlank
    {s : List Char}
    (blank : ∀ c ∈ s, Text.isBlank c = true) :
    IsBalanced s :=
  isBalanced_of_forall (by decide +kernel) (by decide +kernel) blank

theorem IsName.isBalanced
    {name : List Char}
    (isName : IsName name) :
    IsBalanced name :=
  isBalanced_of_forall (by decide +kernel) (by decide +kernel) isName.all

/-- Blanks around a balanced text change nothing. -/
theorem isBalanced_of_trim
    {s : List Char}
    (balanced : IsBalanced (Text.trim s)) :
    IsBalanced s := by
  obtain ⟨before, after, beforeBlank, afterBlank, division⟩ := Text.exists_blanks_trim s
  rw [division]
  exact
    (isBalanced_of_isBlank beforeBlank).append
      (balanced.append (isBalanced_of_isBlank afterBlank))

theorem isBalanced_bracket
    {inner : List Char}
    (noClosing : ']' ∉ inner) :
    IsBalanced (Part.bracket inner).text := by
  have closed : insideAfter true (inner ++ [']']) = false := by
    rw [insideAfter_append, insideAfter_of_no_closing noClosing]
    rfl
  exact closed

/-- The argument of an accepted structural test is blank or a position between blanks. -/
theorem PseudoForm.isBalanced
    {name argument : List Char}
    {pseudo : PseudoClass}
    (form : PseudoForm name (Text.trim argument) pseudo) :
    IsBalanced argument := by
  refine isBalanced_of_trim ?_
  generalize Text.trim argument = trimmed at form
  cases form with
  | plain _ _ =>
      rfl
  | nthChild _ _ digits _ =>
      exact isBalanced_of_forall (by decide +kernel) (by decide +kernel) digits

/-- Every structural test that is written in an accepted compound has an accepted form. -/
theorem exists_pseudoForm_of_readCompound
    {written : WrittenCompound}
    (shape : written.Shape)
    (accepted : readCompound selector written.text = .ok compound)
    {name : List Char}
    {argument : Option (List Char)}
    (member : .pseudo name argument ∈ written.parts) :
    ∃ pseudo, PseudoForm name (Text.trim (argument.getD [])) pseudo := by
  rw [readCompound, WrittenCompound.text,
    tagLength_of_form shape.tag (partEnd_flatMap_text _).stops, List.take_left,
    List.drop_left] at accepted
  obtain ⟨-, tests⟩ := grows_of_addTests accepted
  have collected :=
    collected_of_shape shape.parts fun test member => (tests test member).2
  obtain ⟨earlier, later, division⟩ := List.append_of_mem member
  rw [division] at collected tests
  obtain ⟨before, test, after, found, writes, -⟩ := collected.split ⟨_, .pseudo⟩
  have isIn : test.IsIn compound := by
    refine (tests test ?_).1
    rw [found]
    exact List.mem_append_right _ List.mem_cons_self
  cases writes with
  | pseudo =>
      obtain ⟨pseudo, -, form⟩ := isIn
      exact ⟨pseudo, form⟩

theorem isBalanced_of_readCompound
    {own : List Char}
    (writes : WritesCompound own compound)
    (accepted : readCompound selector own = .ok compound) :
    IsBalanced own := by
  obtain ⟨written, shape, rfl⟩ := writes.divided
  have tagBalanced : IsBalanced written.tag := by
    rcases shape.tag.cases with none | any | isName
    · rw [none]
      rfl
    · rw [any]
      rfl
    · exact isName.isBalanced
  refine tagBalanced.append (isBalanced_flatMap fun part member => ?_)
  cases shape.parts part member with
  | id isName =>
      exact IsBalanced.append (s := ['#']) rfl isName.isBalanced
  | «class» isName =>
      exact IsBalanced.append (s := ['.']) rfl isName.isBalanced
  | bracket _ noClosing =>
      exact isBalanced_bracket noClosing
  | @pseudo name argument isName _ =>
      obtain ⟨pseudo, form⟩ := exists_pseudoForm_of_readCompound shape accepted member
      have argumentBalanced : IsBalanced (Part.argumentText argument) := by
        cases argument with
        | none =>
            rfl
        | some inner =>
            exact
              IsBalanced.append (s := ['(']) rfl (form.isBalanced.append (t := [')']) rfl)
      exact
        IsBalanced.append (s := [':']) rfl (isName.isBalanced.append argumentBalanced)

theorem JointForm.isBalanced
    {combinator : Combinator}
    {joint : List Char}
    (form : JointForm combinator joint) :
    IsBalanced joint := by
  cases form with
  | descendant _ blank =>
      exact isBalanced_of_isBlank blank
  | @signed combinator before after _ beforeBlank afterBlank =>
      have sign : IsBalanced combinator.sign.toList := by
        cases combinator <;> rfl
      exact
        (isBalanced_of_isBlank beforeBlank).append
          (sign.append (isBalanced_of_isBlank afterBlank))

theorem isBalanced_of_readChain
    {fuel : Nat}
    {before : Option (Chain × Combinator)}
    {s : List Char}
    {chain : Chain}
    (accepted : readChain selector fuel before s = .ok chain) :
    IsBalanced s := by
  induction fuel generalizing before s with
  | zero =>
      cases accepted
  | succ fuel inductionHypothesis =>
      obtain ⟨own, compound, writes, read, last | further⟩ := readChain_cases accepted
      · obtain ⟨rfl, -⟩ := last
        exact isBalanced_of_readCompound writes read
      · obtain ⟨joint, combinator, after, rfl, form, rest⟩ := further
        exact
          (isBalanced_of_readCompound writes read).append
            (form.isBalanced.append (inductionHypothesis rest))

theorem isBalanced_of_readGroup
    {group : List Char}
    {chain : Chain}
    (accepted : readGroup selector group = .ok chain) :
    IsBalanced group := by
  rw [readGroup] at accepted
  split_ifs at accepted
  exact isBalanced_of_trim (isBalanced_of_readChain accepted)

/-- The groups of an accepted selector are those between the commas outside brackets. -/
theorem groupsOutside_of_read
    {chains : List Chain}
    (accepted : read selector = .ok chains) :
    groupsOutside false selector.toList = Text.splitAt ',' selector.toList := by
  have balanced : ∀ piece ∈ Text.splitAt ',' selector.toList, IsBalanced piece := by
    have each :=
      (forall₂_of_readGroups accepted).imp fun _ _ read =>
        And.intro (isBalanced_of_readGroup read) read
    exact ((forall₂_and_left _ _).mp each).1
  exact
    groupsOutside_eq_splitAt (fun piece member => balanced piece (List.mem_of_mem_head? member))
      fun piece member => balanced piece (List.mem_of_mem_tail member)

end Accepted

/-! ## Attribute tests -/

section Quoted

variable
  {selector : String}
  {forest : Forest}
  {name value : String}

/-- A bracket that is not closed in its group makes the selector unsupported. -/
theorem readGroup_of_open_bracket
    {inner : List Char}
    (noClosing : ']' ∉ inner) :
    readGroup selector ('[' :: inner) = .error (.unsupported selector) := by
  obtain ⟨others, trimmed, shorter⟩ :=
    Text.exists_trim_cons (c := '[') (by decide +kernel) inner
  have notClosed : ']' ∉ others := fun member => noClosing (shorter.subset member)
  have nothing : compoundLength ('[' :: others) = 0 := by
    have noTag : tagLength ('[' :: others) = 0 := rfl
    have noPart : partLength ('[' :: others) = 0 := by
      simp [partLength, Text.cutAt?_of_not_mem notClosed]
    rw [compoundLength, noTag, List.drop_zero, List.length_cons, partsLength, if_pos noPart]
  rw [readGroup, trimmed]
  simp [readChain, nothing]

/-- The test of an attribute for a quoted value, as a selector. -/
def quotedTest (name value : String) : String :=
  String.ofList (Part.bracket (attributeText name (some value))).text

/-- A comma in a value ends the first group before its bracket is closed. -/
theorem read_quotedTest_of_comma
    (isName : IsName name.toList)
    (noClosing : ']' ∉ value.toList)
    (comma : ',' ∈ value.toList) :
    read (quotedTest name value) = .error (.unsupported (quotedTest name value)) := by
  obtain ⟨front, back, division, frontNoComma⟩ := List.eq_append_cons_of_mem comma
  have groups :
      (quotedTest name value).toList =
        ('[' :: (name.toList ++ '=' :: '\x22' :: front)) ++ ',' :: (back ++ ['\x22', ']']) := by
    simp [quotedTest, attributeText, Part.text, division]
  have noComma : ',' ∉ '[' :: (name.toList ++ '=' :: '\x22' :: front) := by
    simp [isName.noComma, frontNoComma]
  have frontNoClosing : ']' ∉ front := fun member => noClosing (by simp [division, member])
  have opened : ']' ∉ name.toList ++ '=' :: '\x22' :: front := by
    simp [isName.noBracket, frontNoClosing]
  rw [read, groups, Text.splitAt_run noComma, readGroups, readGroup_of_open_bracket opened]

/-- A value without a comma is read as it is written. -/
theorem read_quotedTest_of_no_comma
    (isName : IsName name.toList)
    (inValue : ∀ c ∈ value.toList, isQuote c = false ∧ c ≠ ']')
    (noComma : ',' ∉ value.toList) :
    read (quotedTest name value) = .ok [.single { attributes := [(name, some value)] }] := by
  have plain : Compound.IsPlain { attributes := [(name, some value)] } := by
    refine ⟨nofun, nofun, nofun, ?_, ?_, nofun⟩
    · simpa using isName
    · simp only [List.mem_singleton, forall_eq, Option.mem_def, Option.some.injEq]
      rintro _ rfl c member
      exact ⟨(inValue c member).1, (inValue c member).2, fun same => noComma (same ▸ member)⟩
  have printed :
      (quotedTest name value).toList =
        groupsText [' '] [.single { attributes := [(name, some value)] }] := by
    simp [quotedTest, groupsText, Text.joinWith, Chain.text, Compound.written, Compound.parts,
      WrittenCompound.text]
  have chainPlain :
      ∀ chain ∈ [Chain.single { attributes := [(name, some value)] }], chain.IsPlain := by
    simpa [Chain.IsPlain, Chain.compounds] using plain
  rw [read, printed]
  exact readGroups_groupsText isGap_space (List.cons_ne_nil _ _) chainPlain

/-- An element passes the test of an attribute when the attribute has the value. -/
theorem matchesAny_attribute
    (element : NodeId) :
    matchesAny forest [.single { attributes := [(name, some value)] }] element = true ↔
      (forest.attributes element).get? name = some value := by
  simp [matchesAny, Chain.holds, Compound.holds, holdsAttribute_iff]

end Quoted

/--
A test for a quoted value without a comma selects exactly the elements whose attribute has this
value, in document order, whatever other characters stand in the value.  One with a comma is
refused as unsupported; so in a selector that is accepted the commas outside brackets, and no
others, are between the groups.
-/
theorem quoted_values_without_commas_select
    {forest : Forest}
    (wellFormed : forest.WellFormed)
    (top : NodeId)
    {name value : String}
    (isName : IsName name.toList)
    (inValue : ∀ c ∈ value.toList, isQuote c = false ∧ c ≠ ']') :
    (',' ∉ value.toList →
      ∃ found,
        selectAll forest top (quotedTest name value) = .ok found ∧
          (∀ element,
            element ∈ found ↔
              forest.isElement element = true ∧
                forest.Above top element ∧
                (forest.attributes element).get? name = some value) ∧
          found.Pairwise forest.Precedes) ∧
      (',' ∈ value.toList →
        selectAll forest top (quotedTest name value) =
          .error (.unsupported (quotedTest name value))) ∧
      ∀ selector chains,
        read selector = .ok chains →
          Forall₂ (fun group chain => WrittenChain (Text.trim group) chain)
            (groupsOutside false selector.toList) chains := by
  refine ⟨fun noComma => ?_, fun comma => ?_, fun selector chains accepted => ?_⟩
  · have accepted := read_quotedTest_of_no_comma isName inValue noComma
    refine ⟨_, by rw [selectAll, accepted]; rfl, fun element => ?_,
      pairwise_filter_elementsBelow wellFormed top _⟩
    rw [List.mem_filter, Forest.elementsBelow, List.mem_filter,
      Forest.mem_descendants wellFormed, matchesAny_attribute]
    constructor
    · rintro ⟨⟨below, isElement⟩, holds⟩
      exact ⟨isElement, below, holds⟩
    · rintro ⟨isElement, below, holds⟩
      exact ⟨⟨below, isElement⟩, holds⟩
  · have noClosing : ']' ∉ value.toList := fun member => (inValue _ member).2 rfl
    rw [selectAll, read_quotedTest_of_comma isName noClosing comma]
    rfl
  · rw [groupsOutside_of_read accepted]
    exact (forall₂_of_readGroups accepted).imp fun _ _ read => writtenChain_of_readGroup read

/-- Signs of combinators in a value are compared with those of the attribute. -/
theorem quoted_values_without_commas_select_of_title :
    let page := (Edit.appendElement 2 "p" [("title", "a > b")]).apply .blank
    ∃ found,
      selectAll page.forest 0 "[title=\"a > b\"]" = .ok found ∧ 3 ∈ found := by
  intro page
  have reachable : page.Reachable := .edit .blank rfl
  have isName : IsName "title".toList := by
    decide +kernel
  have inValue : ∀ c ∈ "a > b".toList, isQuote c = false ∧ c ≠ ']' :=
    List.all_iff_forall_prop.mp (by decide +kernel)
  obtain ⟨withoutComma, -, -⟩ :=
    quoted_values_without_commas_select reachable.wellFormed 0 isName inValue
  obtain ⟨found, selected, members, -⟩ := withoutComma (by decide +kernel)
  have body : page.forest.Above 0 2 := .parent (by decide +kernel)
  have below : page.forest.Above 0 3 := .step (by decide +kernel) body
  exact ⟨found, selected, (members 3).mpr ⟨by decide +kernel, below, by decide +kernel⟩⟩

/-- A paragraph is not found by its title when the title holds a comma. -/
theorem comma_in_title_is_refused :
    let page := (Edit.appendElement 2 "p" [("title", "a,b")]).apply .blank
    page.forest.Above 0 3 ∧
      (page.forest.attributes 3).get? "title" = some "a,b" ∧
      selectAll page.forest 0 "[title=\"a,b\"]" =
        .error (.unsupported "[title=\"a,b\"]") := by
  intro page
  have body : page.forest.Above 0 2 := .parent (by decide +kernel)
  have below : page.forest.Above 0 3 := .step (by decide +kernel) body
  exact ⟨below, by decide +kernel, by decide +kernel⟩

end PageScript.Selector
