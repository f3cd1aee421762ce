import PageScript.Proofs.Document.PageShape
import PageScript.Proofs.Document.Siblings
import PageScript.Proofs.Document.Subtree
import PageScript.Selector.Matching

namespace PageScript.Selector

open Document List

/-!
# The meaning of selectors

An element satisfies a compound when it passes each test on its own terms.  A
chain is matched by elements, one for each compound, whose neighbours are
related by the combinators between them.  Matching by search finds such elements
whenever there are any, and a query lists the selected elements in document
order.
-/

/-- An element is in the place that a structural test asks for. -/
def PseudoClass.SatisfiedBy
    (forest : Forest)
    (element : NodeId) :
    PseudoClass → Prop
  | .firstChild => ∀ other, ¬ forest.EarlierSibling other element
  | .lastChild => ∀ other, ¬ forest.EarlierSibling element other
  | .onlyChild =>
      ∀ other,
        ¬ forest.EarlierSibling other element ∧
          ¬ forest.EarlierSibling element other
  | .empty => forest.children element = []
  | .nthChild position =>
      ∃ earlier : List NodeId,
        earlier.Nodup ∧
          (∀ other,
            other ∈ earlier ↔ forest.EarlierSibling other element) ∧
          earlier.length + 1 = position

/-- An element passes every test of a compound. -/
structure Compound.SatisfiedBy
    (forest : Forest)
    (element : NodeId)
    (compound : Compound) : Prop where
  tag :
    ∀ tag, compound.tag = some tag → forest.tag? element = some tag
  id :
    ∀ id,
      compound.id = some id →
        (forest.attributes element).get? "id" = some id
  classes :
    ∀ name ∈ compound.classes, name ∈ forest.classes element
  attributes :
    ∀ test ∈ compound.attributes,
      ∃ actual,
        (forest.attributes element).get? test.1 = some actual ∧
          ∀ expected, test.2 = some expected → actual = expected
  pseudo :
    ∀ pseudo ∈ compound.pseudo, pseudo.SatisfiedBy forest element

/-- The place of an element on the left of a combinator. -/
def Combinator.Relates
    (forest : Forest)
    (left right : NodeId) :
    Combinator → Prop
  | .descendant => forest.Above left right
  | .child => forest.parent? right = some left
  | .adjacent => forest.DirectlyBefore left right
  | .sibling => forest.EarlierSibling left right

/--
Elements match a chain when there is one for each compound, each of them
satisfies its compound, and neighbours are related by the combinator between
their compounds.
-/
structure Chain.MatchedBy
    (forest : Forest)
    (chain : Chain)
    (elements : List NodeId) : Prop where
  length :
    elements.length = chain.steps.length
  satisfied :
    ∀ (index : Nat) (element : NodeId)
      (combinator : Option Combinator) (compound : Compound),
      elements[index]? = some element →
        chain.steps[index]? = some (combinator, compound) →
          forest.isElement element = true ∧
            compound.SatisfiedBy forest element
  related :
    ∀ (index : Nat) (left right : NodeId)
      (combinator : Combinator) (compound : Compound),
      elements[index]? = some left →
        elements[index + 1]? = some right →
          chain.steps[index + 1]? = some (some combinator, compound) →
            combinator.Relates forest left right

variable {forest : Forest}

/-! ## Compounds -/

/-- A value that stands in a list once is found at its place alone. -/
theorem getElem?_append_cons_iff
    {earlier later : List NodeId}
    {element : NodeId}
    (notEarlier : element ∉ earlier)
    (notLater : element ∉ later)
    (index : Nat) :
    (earlier ++ element :: later)[index]? = some element ↔
      index = earlier.length := by
  constructor
  · intro found
    rcases Nat.lt_trichotomy index earlier.length with
      inEarlier | atElement | inLater
    · rw [List.getElem?_append_left inEarlier] at found
      exact (notEarlier (List.mem_of_getElem? found)).elim
    · exact atElement
    · rw [List.getElem?_append_right (Nat.le_of_lt inLater)] at found
      obtain ⟨offset, shift⟩ :
          ∃ offset, index - earlier.length = offset + 1 :=
        ⟨index - earlier.length - 1, by omega⟩
      rw [shift, List.getElem?_cons_succ] at found
      exact (notLater (List.mem_of_getElem? found)).elim
  · rintro rfl
    rw [List.getElem?_append_right (Nat.le_refl _)]
    simp

/-- A structural test is passed exactly in the place that it asks for. -/
theorem PseudoClass.holds_iff
    (wellFormed : forest.WellFormed)
    {element : NodeId}
    (isElement : forest.isElement element = true)
    (pseudo : PseudoClass) :
    pseudo.holds forest element = true ↔
      pseudo.SatisfiedBy forest element := by
  obtain ⟨earlier, later, split⟩ :=
    Forest.exists_siblingSplit wellFormed isElement
  have nothing_earlier :
      earlier = [] ↔ ∀ other, ¬ forest.EarlierSibling other element := by
    rw [List.eq_nil_iff_forall_not_mem]
    exact forall_congr' fun other => not_congr (split.mem_earlier other)
  have nothing_later :
      later = [] ↔ ∀ other, ¬ forest.EarlierSibling element other := by
    rw [List.eq_nil_iff_forall_not_mem]
    exact forall_congr' fun other => not_congr (split.mem_later other)
  cases pseudo with
  | empty =>
      simp [holds, SatisfiedBy]
  | firstChild =>
      rw [holds, SatisfiedBy, split.siblings, ← nothing_earlier]
      cases earlier with
      | nil =>
          simp
      | cons head rest =>
          have different : head ≠ element := by
            rintro rfl
            exact split.notEarlier List.mem_cons_self
          simp [different]
  | lastChild =>
      rw [holds, SatisfiedBy, split.siblings, ← nothing_later]
      rcases List.eq_nil_or_concat later with rfl | ⟨front, last, rfl⟩
      · simp
      · have different : last ≠ element := by
          rintro rfl
          exact split.notLater (by simp)
        simp [List.getLast?_append, List.getLast?_cons, different]
  | onlyChild =>
      rw [holds, SatisfiedBy, split.siblings, forall_and,
        ← nothing_earlier, ← nothing_later]
      simp only [List.length_append, List.length_cons, beq_iff_eq,
        ← List.length_eq_zero_iff]
      omega
  | nthChild position =>
      rw [holds, SatisfiedBy, split.siblings, Bool.and_eq_true,
        decide_eq_true_eq, beq_iff_eq,
        getElem?_append_cons_iff split.notEarlier split.notLater]
      constructor
      · rintro ⟨positive, index⟩
        exact ⟨earlier, split.earlierNodup, split.mem_earlier, by omega⟩
      -- Lists without repetition and with the same members are equally long.
      · rintro ⟨others, othersNodup, members, count⟩
        have samePlaces : others.Perm earlier :=
          (List.perm_ext_iff_of_nodup othersNodup split.earlierNodup).mpr
            fun other =>
              (members other).trans (split.mem_earlier other).symm
        have sameLength := samePlaces.length_eq
        omega

/--
The test of an attribute passes when the attribute is there and as expected.
-/
theorem holdsAttribute_iff
    (attributes : Table String String)
    (test : String × Option String) :
    holdsAttribute attributes test = true ↔
      ∃ actual,
        attributes.get? test.1 = some actual ∧
          ∀ expected, test.2 = some expected → actual = expected := by
  rcases test with ⟨name, value⟩
  unfold holdsAttribute
  cases attributes.get? name with
  | none =>
      simp
  | some actual =>
      cases value with
      | none =>
          simp
      | some expected =>
          simp

/--
An element passes the tests of a compound exactly when it satisfies each of
them.
-/
theorem Compound.holds_iff
    (wellFormed : forest.WellFormed)
    {element : NodeId}
    (isElement : forest.isElement element = true)
    (compound : Compound) :
    compound.holds forest element = true ↔
      compound.SatisfiedBy forest element := by
  have classes_iff :
      (compound.classes.all fun name =>
          (forest.classes element).contains name) = true ↔
        ∀ name ∈ compound.classes, name ∈ forest.classes element := by
    simp
  have attributes_iff :
      (compound.attributes.all fun test =>
          holdsAttribute (forest.attributes element) test) = true ↔
        ∀ test ∈ compound.attributes,
          ∃ actual,
            (forest.attributes element).get? test.1 = some actual ∧
              ∀ expected, test.2 = some expected → actual = expected := by
    rw [List.all_eq_true]
    exact forall_congr' fun test => forall_congr' fun _ =>
      holdsAttribute_iff _ test
  have pseudo_iff :
      (compound.pseudo.all fun pseudo =>
          pseudo.holds forest element) = true ↔
        ∀ pseudo ∈ compound.pseudo, pseudo.SatisfiedBy forest element := by
    rw [List.all_eq_true]
    exact forall_congr' fun pseudo => forall_congr' fun _ =>
      pseudo.holds_iff wellFormed isElement
  unfold Compound.holds
  rw [Bool.and_eq_true, Bool.and_eq_true, Bool.and_eq_true,
    Bool.and_eq_true, classes_iff, attributes_iff, pseudo_iff]
  constructor
  · rintro ⟨⟨⟨⟨tag, id⟩, classes⟩, attributes⟩, pseudo⟩
    exact
      { tag := fun name known => by simpa [known] using tag
        id := fun name known => by simpa [known] using id
        classes := classes
        attributes := attributes
        pseudo := pseudo }
  · intro satisfied
    refine
      ⟨⟨⟨⟨?_, ?_⟩, satisfied.classes⟩, satisfied.attributes⟩,
        satisfied.pseudo⟩
    · cases known : compound.tag with
      | none =>
          rfl
      | some name =>
          simp [satisfied.tag name known]
    · cases known : compound.id with
      | none =>
          rfl
      | some name =>
          simp [satisfied.id name known]

/-! ## Chains -/

/-- The candidates of a combinator are exactly the elements that it relates. -/
theorem Combinator.mem_candidates
    (wellFormed : forest.WellFormed)
    {element : NodeId}
    (isElement : forest.isElement element = true)
    (combinator : Combinator)
    (other : NodeId) :
    other ∈ combinator.candidates forest element ↔
      combinator.Relates forest other element := by
  obtain ⟨earlier, later, split⟩ :=
    Forest.exists_siblingSplit wellFormed isElement
  cases combinator with
  | descendant =>
      exact Forest.mem_ancestors wellFormed
  | child =>
      simp [candidates, Relates]
  | adjacent =>
      rw [candidates, Relates, split.elementsBefore_eq, Option.mem_toList]
      exact split.last_earlier other
  | sibling =>
      rw [candidates, Relates, split.elementsBefore_eq]
      exact split.mem_earlier other

/-- What a combinator relates to an element is an element. -/
theorem Combinator.Relates.isElement
    (wellFormed : forest.WellFormed)
    {left right : NodeId}
    {combinator : Combinator}
    (related : combinator.Relates forest left right) :
    forest.isElement left = true := by
  cases combinator with
  | descendant =>
      exact wellFormed.isElement_of_above related
  | child =>
      exact wellFormed.isElement_of_parent? related
  | adjacent =>
      exact related.1
  | sibling =>
      exact related.1

theorem Chain.steps_ne_nil
    (chain : Chain) :
    chain.steps ≠ [] := by
  cases chain <;> simp [steps]

/-- One element matches a single compound when it satisfies it. -/
theorem Chain.matchedBy_single
    {compound : Compound}
    {earlier : List NodeId}
    {element : NodeId} :
    (Chain.single compound).MatchedBy forest (earlier ++ [element]) ↔
      earlier = [] ∧
        forest.isElement element = true ∧
        compound.SatisfiedBy forest element := by
  constructor
  · intro matched
    have empty : earlier = [] := by
      have count := matched.length
      simpa [steps] using count
    subst earlier
    exact ⟨rfl, matched.satisfied 0 element none compound rfl rfl⟩
  · rintro ⟨rfl, isElement, satisfied⟩
    refine ⟨rfl, ?_, ?_⟩
    · intro index other combinator tests found step
      cases index with
      | zero =>
          cases found
          cases step
          exact ⟨isElement, satisfied⟩
      | succ index =>
          simp at found
    · intro index left right combinator tests _ found
      simp at found

/--
A longer chain is matched by a match of its beginning and a related element.
-/
theorem Chain.matchedBy_step
    {before : Chain}
    {combinator : Combinator}
    {compound : Compound}
    {earlier : List NodeId}
    {left element : NodeId} :
    (Chain.step before combinator compound).MatchedBy forest
        (earlier ++ [left] ++ [element]) ↔
      before.MatchedBy forest (earlier ++ [left]) ∧
        combinator.Relates forest left element ∧
        forest.isElement element = true ∧
        compound.SatisfiedBy forest element := by
  have inFront :
      ∀ {α : Type} {front : List α} {last value : α} {index : Nat},
        front[index]? = some value →
          (front ++ [last])[index]? = some value := by
    intro α front last value index found
    rwa [List.getElem?_append_left (List.getElem?_eq_some_iff.mp found).1]
  have atEnd :
      ∀ {α : Type} {front : List α} {last : α},
        (front ++ [last])[front.length]? = some last := by
    intro α front last
    simp
  constructor
  · intro matched
    have count : (earlier ++ [left]).length = before.steps.length := by
      have whole := matched.length
      simpa [steps] using whole
    refine ⟨⟨count, ?_, ?_⟩, ?_, ?_⟩
    · intro index other joined tests found step
      exact matched.satisfied index other joined tests
        (inFront found) (inFront step)
    · intro index first second joined tests firstFound secondFound step
      exact matched.related index first second joined tests
        (inFront firstFound) (inFront secondFound) (inFront step)
    · have place : before.steps.length = earlier.length + 1 := by
        simpa using count.symm
      refine matched.related earlier.length left element combinator
        compound (inFront atEnd) ?_ ?_
      · simp
      · rw [steps, ← place]
        exact atEnd
    · refine matched.satisfied before.steps.length element
        (some combinator) compound ?_ atEnd
      rw [← count]
      exact atEnd
  · rintro ⟨matched, related, isElement, satisfied⟩
    have count := matched.length
    refine ⟨by simpa [steps] using count, ?_, ?_⟩
    · intro index other joined tests found step
      by_cases inside : index < before.steps.length
      · rw [List.getElem?_append_left (count ▸ inside)] at found
        rw [steps, List.getElem?_append_left inside] at step
        exact matched.satisfied index other joined tests found step
      · have bound := (List.getElem?_eq_some_iff.mp step).1
        obtain rfl : index = before.steps.length := by
          simp only [steps, List.length_append, List.length_cons,
            List.length_nil] at bound
          omega
        rw [steps, atEnd] at step
        rw [← count, atEnd] at found
        cases step
        cases found
        exact ⟨isElement, satisfied⟩
    · intro index first second joined tests firstFound secondFound step
      by_cases inside : index + 1 < before.steps.length
      · rw [List.getElem?_append_left (count ▸ inside)] at secondFound
        rw [List.getElem?_append_left
          (count ▸ Nat.lt_of_succ_lt inside)] at firstFound
        rw [steps, List.getElem?_append_left inside] at step
        exact matched.related index first second joined tests
          firstFound secondFound step
      · have bound := (List.getElem?_eq_some_iff.mp step).1
        have place : index + 1 = before.steps.length := by
          simp only [steps, List.length_append, List.length_cons,
            List.length_nil] at bound
          omega
        have front : index = earlier.length := by
          have shorter : earlier.length + 1 = before.steps.length := by
            simpa using count
          omega
        rw [steps, place, atEnd] at step
        rw [place, ← count, atEnd] at secondFound
        rw [List.append_assoc, front,
          List.getElem?_append_right (Nat.le_refl _)] at firstFound
        simp only [Nat.sub_self, List.cons_append, List.nil_append,
          List.getElem?_cons_zero, Option.some.injEq] at firstFound
        cases step
        cases secondFound
        exact firstFound ▸ related

/--
An element matches a chain by search exactly when some elements that end with
it match the chain: the search misses no choice of ancestors or siblings.
-/
theorem Chain.holds_iff_exists_matchedBy
    (wellFormed : forest.WellFormed)
    (chain : Chain)
    {element : NodeId}
    (isElement : forest.isElement element = true) :
    chain.holds forest element = true ↔
      ∃ earlier, chain.MatchedBy forest (earlier ++ [element]) := by
  induction chain generalizing element with
  | single compound =>
      rw [holds, compound.holds_iff wellFormed isElement]
      constructor
      · intro satisfied
        exact ⟨[], matchedBy_single.mpr ⟨rfl, isElement, satisfied⟩⟩
      · rintro ⟨earlier, matched⟩
        exact (matchedBy_single.mp matched).2.2
  | step before combinator compound inductionHypothesis =>
      rw [holds, Bool.and_eq_true,
        compound.holds_iff wellFormed isElement, List.any_eq_true]
      constructor
      -- The candidates are exactly the related elements, so trying each of them
      -- in turn misses no match of the beginning of the chain.
      · rintro ⟨satisfied, left, candidate, leftHolds⟩
        have related :=
          (combinator.mem_candidates wellFormed isElement left).mp
            candidate
        obtain ⟨earlier, matched⟩ :=
          (inductionHypothesis (related.isElement wellFormed)).mp leftHolds
        exact
          ⟨earlier ++ [left],
            matchedBy_step.mpr ⟨matched, related, isElement, satisfied⟩⟩
      · rintro ⟨elements, matched⟩
        have nonempty : elements ≠ [] := by
          rintro rfl
          have count := matched.length
          simp [steps, before.steps_ne_nil] at count
        obtain ⟨earlier, left, rfl⟩ :=
          (List.eq_nil_or_concat elements).resolve_left nonempty
        rw [List.concat_eq_append] at matched
        obtain ⟨front, related, -, satisfied⟩ :=
          matchedBy_step.mp matched
        refine
          ⟨satisfied, left,
            (combinator.mem_candidates wellFormed isElement left).mpr
              related,
            (inductionHypothesis (related.isElement wellFormed)).mpr
              ⟨earlier, front⟩⟩

/-! ## Queries -/

/-- Some elements that end with a given one match one of several chains. -/
def Selected
    (forest : Forest)
    (chains : List Chain)
    (element : NodeId) : Prop :=
  ∃ chain ∈ chains, ∃ earlier, chain.MatchedBy forest (earlier ++ [element])

theorem matchesAny_iff
    (wellFormed : forest.WellFormed)
    (chains : List Chain)
    {element : NodeId}
    (isElement : forest.isElement element = true) :
    matchesAny forest chains element = true ↔
      Selected forest chains element := by
  rw [matchesAny, List.any_eq_true]
  exact exists_congr fun chain =>
    and_congr_right fun _ => chain.holds_iff_exists_matchedBy wellFormed isElement

/-- The elements that pass a test below a node are listed in document order. -/
theorem pairwise_filter_elementsBelow
    (wellFormed : forest.WellFormed)
    (top : NodeId)
    (test : NodeId → Bool) :
    ((forest.elementsBelow top).filter test).Pairwise forest.Precedes :=
  ((forest.pairwise_descendants wellFormed top).filter _).filter _

/--
Matching is sound and complete for chains of compounds and combinators.  A query
therefore finds exactly the selected elements below a node, each once and in
document order, and a query for one element finds the first of them.
-/
theorem selection_correct
    (forest : Forest)
    (wellFormed : forest.WellFormed) :
    (∀ (chain : Chain) (element : NodeId),
      forest.isElement element = true →
        (chain.holds forest element = true ↔
          ∃ earlier, chain.MatchedBy forest (earlier ++ [element]))) ∧
      (∀ (top : NodeId) (selector : String) (chains : List Chain),
        read selector = .ok chains →
          ∃ found,
            selectAll forest top selector = .ok found ∧
              (∀ element,
                element ∈ found ↔
                  forest.isElement element = true ∧
                    forest.Above top element ∧
                    Selected forest chains element) ∧
              found.Nodup ∧
              found.Pairwise forest.Precedes ∧
              selectFirst forest top selector = .ok found.head?) := by
  refine
    ⟨fun chain element isElement =>
      chain.holds_iff_exists_matchedBy wellFormed isElement, ?_⟩
  intro top selector chains readable
  have ordered :=
    pairwise_filter_elementsBelow wellFormed top (matchesAny forest chains)
  refine
    ⟨(forest.elementsBelow top).filter (matchesAny forest chains), ?_, ?_,
      Forest.nodup_of_pairwise_precedes wellFormed ordered, ordered, ?_⟩
  · rw [selectAll, readable]
    rfl
  · intro element
    rw [List.mem_filter, Forest.elementsBelow, List.mem_filter,
      Forest.mem_descendants wellFormed]
    constructor
    · rintro ⟨⟨below, isElement⟩, passes⟩
      exact
        ⟨isElement, below,
          (matchesAny_iff wellFormed chains isElement).mp passes⟩
    · rintro ⟨isElement, below, selected⟩
      exact
        ⟨⟨below, isElement⟩,
          (matchesAny_iff wellFormed chains isElement).mpr selected⟩
  · rw [selectFirst, readable, List.head?_filter]
    rfl

/-- On the blank page the body is found as a sibling of the head. -/
theorem selection_correct_on_blank :
    ∃ found,
      selectAll Page.blank.forest 0 "head ~ body" = .ok found ∧
        2 ∈ found ∧
        selectFirst Page.blank.forest 0 "head ~ body" = .ok found.head? := by
  obtain ⟨matching, queries⟩ :=
    selection_correct Page.blank.forest Page.blank_wellFormed
  obtain ⟨found, all, members, -, -, first⟩ :=
    queries 0 "head ~ body"
      [.step (.single { tag := some "head" }) .sibling { tag := some "body" }]
      rfl
  refine ⟨found, all, (members 2).mpr ⟨rfl, .parent rfl, ?_⟩, first⟩
  exact ⟨_, List.mem_singleton_self _, (matching _ 2 rfl).mp (by decide)⟩

end PageScript.Selector
