import Mathlib.Data.List.Basic
import PageScript.Proofs.Document.Subtree

namespace PageScript.Document.Forest

open List

/-!
# Sibling elements

The elements under one parent are ordered by the list of its children.  An
element splits the elements around it into the earlier and the later ones, and
an element at the top of a tree stands alone.
-/

/-- The first element precedes the second one under the same parent. -/
def EarlierSibling (forest : Forest) (first second : NodeId) : Prop :=
  forest.isElement first = true ∧
    forest.isElement second = true ∧
    ∃ parent, [first, second] <+ forest.children parent

/-- The first element precedes the second one with no element between them. -/
def DirectlyBefore (forest : Forest) (first second : NodeId) : Prop :=
  forest.isElement first = true ∧
    forest.isElement second = true ∧
    ∃ parent outer between later,
      forest.children parent =
          outer ++ first :: between ++ second :: later ∧
        ∀ node ∈ between, forest.isElement node = false

/-- The elements around an element, divided by it. -/
structure SiblingSplit
    (forest : Forest)
    (element : NodeId)
    (earlier later : List NodeId) : Prop where
  siblings :
    forest.elementSiblings element = earlier ++ element :: later
  notEarlier :
    element ∉ earlier
  notLater :
    element ∉ later
  earlierNodup :
    earlier.Nodup
  mem_earlier :
    ∀ other, other ∈ earlier ↔ forest.EarlierSibling other element
  mem_later :
    ∀ other, other ∈ later ↔ forest.EarlierSibling element other
  last_earlier :
    ∀ other,
      earlier.getLast? = some other ↔ forest.DirectlyBefore other element

variable {forest : Forest}

/-- A pair that is listed around a single occurrence starts before it. -/
private theorem mem_of_pair_sublist_left
    {first second : NodeId}
    {earlier later : List NodeId}
    (notLater : second ∉ later)
    (ordered : [first, second] <+ earlier ++ second :: later) :
    first ∈ earlier := by
  obtain ⟨left, right, shape, leftPart, rightPart⟩ :=
    List.sublist_append_iff.mp ordered
  cases left with
  | nil =>
      have inTail : [second] <+ later := by
        cases rightPart with
        | cons _ rest =>
            rw [← List.nil_append right, ← shape] at rest
            exact (List.sublist_cons_self first [second]).trans rest
        | cons_cons _ rest =>
            simp only [List.nil_append, List.cons.injEq] at shape
            rw [← shape.2] at rest
            exact rest
      exact (notLater (List.singleton_sublist.mp inTail)).elim
  | cons head rest =>
      simp only [List.cons_append, List.cons.injEq] at shape
      rw [shape.1]
      exact leftPart.subset List.mem_cons_self

/-- A pair that is listed around a single occurrence ends after it. -/
private theorem mem_of_pair_sublist_right
    {first second : NodeId}
    {earlier later : List NodeId}
    (notEarlier : first ∉ earlier)
    (ordered : [first, second] <+ earlier ++ first :: later) :
    second ∈ later := by
  obtain ⟨left, right, shape, leftPart, rightPart⟩ :=
    List.sublist_append_iff.mp ordered
  cases left with
  | nil =>
      rw [List.nil_append] at shape
      rw [← shape] at rightPart
      have inTail : [second] <+ later :=
        List.cons_sublist_cons.mp rightPart
      exact List.singleton_sublist.mp inTail
  | cons head rest =>
      simp only [List.cons_append, List.cons.injEq] at shape
      rw [← shape.1] at leftPart
      exact (notEarlier (leftPart.subset List.mem_cons_self)).elim

/-- An element at the top of a tree stands alone. -/
theorem SiblingSplit.ofTop
    (wellFormed : forest.WellFormed)
    {element : NodeId}
    (isTop : forest.parent? element = none) :
    forest.SiblingSplit element [] [] := by
  have not_listed :
      ∀ parent, element ∉ forest.children parent := by
    intro parent member
    have known := wellFormed.parentOfChild member
    simp [isTop] at known
  refine
    { siblings := by simp [elementSiblings, isTop]
      notEarlier := List.not_mem_nil
      notLater := List.not_mem_nil
      earlierNodup := List.nodup_nil
      mem_earlier := ?_
      mem_later := ?_
      last_earlier := ?_ }
  · intro other
    constructor
    · simp
    · rintro ⟨-, -, parent, ordered⟩
      exact (not_listed parent (ordered.subset (by simp))).elim
  · intro other
    constructor
    · simp
    · rintro ⟨-, -, parent, ordered⟩
      exact (not_listed parent (ordered.subset (by simp))).elim
  · intro other
    constructor
    · simp
    · rintro ⟨-, -, parent, outer, between, later, shape, -⟩
      have listed : element ∈ forest.children parent := by
        simp [shape]
      exact (not_listed parent listed).elim

/-- An element with a parent splits the elements among the children of it. -/
theorem SiblingSplit.ofChildren
    (wellFormed : forest.WellFormed)
    {element parent : NodeId}
    {before after : List NodeId}
    (isElement : forest.isElement element = true)
    (shape : forest.children parent = before ++ element :: after) :
    forest.SiblingSplit element
      (before.filter forest.isElement)
      (after.filter forest.isElement) := by
  have known : forest.parent? element = some parent :=
    wellFormed.parentOfChild (by simp [shape])
  have listedNodup : (before ++ element :: after).Nodup :=
    shape ▸ wellFormed.childrenNodup parent
  have notBefore : element ∉ before := by
    intro member
    exact (List.nodup_append.mp listedNodup).2.2
      element member element List.mem_cons_self rfl
  have notAfter : element ∉ after :=
    (List.nodup_cons.mp (List.nodup_append.mp listedNodup).2.1).1
  have same_parent :
      ∀ {other : NodeId},
        element ∈ forest.children other → other = parent := by
    intro other member
    exact Option.some.inj
      ((wellFormed.parentOfChild member).symm.trans known)
  refine
    { siblings := by
        simp [elementSiblings, known, shape, List.filter_append, isElement]
      notEarlier := fun member => notBefore (List.mem_of_mem_filter member)
      notLater := fun member => notAfter (List.mem_of_mem_filter member)
      earlierNodup :=
        (List.nodup_append.mp listedNodup).1.filter forest.isElement
      mem_earlier := ?_
      mem_later := ?_
      last_earlier := ?_ }
  · intro other
    rw [List.mem_filter]
    constructor
    · rintro ⟨member, otherElement⟩
      refine ⟨otherElement, isElement, parent, ?_⟩
      rw [shape]
      exact (List.singleton_sublist.mpr member).append
        (List.singleton_sublist.mpr List.mem_cons_self)
    · rintro ⟨otherElement, -, upper, ordered⟩
      obtain rfl := same_parent (ordered.subset (by simp))
      rw [shape] at ordered
      exact ⟨mem_of_pair_sublist_left notAfter ordered, otherElement⟩
  · intro other
    rw [List.mem_filter]
    constructor
    · rintro ⟨member, otherElement⟩
      refine ⟨isElement, otherElement, parent, ?_⟩
      rw [shape]
      exact ((List.singleton_sublist.mpr member).cons_cons element).trans
        (List.sublist_append_right before _)
    · rintro ⟨-, otherElement, upper, ordered⟩
      obtain rfl := same_parent (ordered.subset (by simp))
      rw [shape] at ordered
      exact ⟨mem_of_pair_sublist_right notBefore ordered, otherElement⟩
  · intro other
    rw [List.getLast?_eq_some_iff]
    constructor
    -- Behind the last element before this one stand only texts.
    · rintro ⟨others, filtered⟩
      obtain ⟨outer, rest, split, -, restShape⟩ :=
        List.filter_eq_append_iff.mp filtered
      obtain ⟨skipped, between, restSplit, -, otherElement, noElement⟩ :=
        List.filter_eq_cons_iff.mp restShape
      refine
        ⟨otherElement, isElement, parent, outer ++ skipped, between,
          after, ?_, ?_⟩
      · rw [shape, split, restSplit]
        simp [List.append_assoc]
      · intro node member
        have none_left := List.filter_eq_nil_iff.mp noElement node member
        simpa using none_left
    · rintro ⟨otherElement, -, upper, outer, between, later,
        listed, noElement⟩
      have member : element ∈ forest.children upper := by
        simp [listed]
      obtain rfl := same_parent member
      have aligned :
          before ++ element :: after =
            (outer ++ other :: between) ++ element :: later := by
        rw [← shape, listed]
      have parts :=
        (List.append_cons_inj_of_notMem notBefore notAfter).mp
          aligned
      have noneLeft : between.filter forest.isElement = [] :=
        List.filter_eq_nil_iff.mpr fun node member => by
          simp [noElement node member]
      refine ⟨outer.filter forest.isElement, ?_⟩
      rw [parts.1, List.filter_append,
        List.filter_cons_of_pos otherElement, noneLeft]

/-- Every element splits the elements around it. -/
theorem exists_siblingSplit
    (wellFormed : forest.WellFormed)
    {element : NodeId}
    (isElement : forest.isElement element = true) :
    ∃ earlier later, forest.SiblingSplit element earlier later := by
  cases known : forest.parent? element with
  | none =>
      exact ⟨[], [], .ofTop wellFormed known⟩
  | some parent =>
      obtain ⟨before, after, shape⟩ :=
        List.mem_iff_append.mp (wellFormed.childOfParent known)
      exact ⟨_, _, .ofChildren wellFormed isElement shape⟩

/-- The elements before an element are the earlier part of its split. -/
theorem SiblingSplit.elementsBefore_eq
    {element : NodeId}
    {earlier later : List NodeId}
    (split : forest.SiblingSplit element earlier later) :
    forest.elementsBefore element = earlier := by
  have passed : ∀ other ∈ earlier, decide (other ≠ element) = true := by
    intro other member
    refine decide_eq_true ?_
    rintro rfl
    exact split.notEarlier member
  rw [elementsBefore, split.siblings, List.takeWhile_append_of_pos passed]
  simp

end PageScript.Document.Forest
