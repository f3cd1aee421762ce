import PageScript.Markup.Tree
import PageScript.Proofs.Table

namespace PageScript.Markup

/-!
# Attributes, strings and addresses in trees

A property of elements may hold of every element of a tree.  No element that is
read lists an attribute twice.  A tree is reworded by a change
of all its strings: the characters of its texts and the values of its attributes.
Tags, attribute names and nesting stay.  The trees inside a tree are addressed by
lists of positions, whose lexicographic order is the document order.
-/

/-! ## Every element -/

/-- A property of an element: of its tag, its attributes and its children. -/
abbrev ElementProperty :=
  String → Table String String → List Tree → Prop

mutual

/-- Every element of a tree has a property. -/
def Tree.Every (property : ElementProperty) : Tree → Prop
  | .text _ => True
  | .element tag attributes children =>
      property tag attributes children ∧ TreesEvery property children

/-- Every element of neighbouring trees has a property. -/
def TreesEvery (property : ElementProperty) : List Tree → Prop
  | [] => True
  | tree :: rest => tree.Every property ∧ TreesEvery property rest

end

theorem treesEvery_iff
    {property : ElementProperty}
    {trees : List Tree} :
    TreesEvery property trees ↔ ∀ tree ∈ trees, tree.Every property := by
  induction trees with
  | nil =>
      simp [TreesEvery]
  | cons tree rest inductionHypothesis =>
      rw [TreesEvery, List.forall_mem_cons, inductionHypothesis]

mutual

/-- Two properties hold of every element when each does. -/
theorem Tree.Every.and
    {first second : ElementProperty} :
    ∀ {tree : Tree},
      tree.Every first →
        tree.Every second →
        tree.Every fun tag attributes children =>
          first tag attributes children ∧ second tag attributes children
  | .text _, _, _ => trivial
  | .element .., ⟨here, below⟩, ⟨alsoHere, alsoBelow⟩ =>
      ⟨⟨here, alsoHere⟩, below.and alsoBelow⟩

theorem TreesEvery.and
    {first second : ElementProperty} :
    ∀ {trees : List Tree},
      TreesEvery first trees →
        TreesEvery second trees →
        TreesEvery
          (fun tag attributes children =>
            first tag attributes children ∧ second tag attributes children)
          trees
  | [], _, _ => trivial
  | _ :: _, ⟨here, rest⟩, ⟨alsoHere, alsoRest⟩ =>
      ⟨here.and alsoHere, rest.and alsoRest⟩

end

mutual

/-- A weaker property holds of every element of a tree when the stronger one does. -/
theorem Tree.Every.imp
    {first second : ElementProperty}
    (weaker :
      ∀ {tag attributes children},
        first tag attributes children → second tag attributes children) :
    ∀ {tree : Tree}, tree.Every first → tree.Every second
  | .text _, _ => trivial
  | .element .., ⟨here, below⟩ => ⟨weaker here, below.imp weaker⟩

theorem TreesEvery.imp
    {first second : ElementProperty}
    (weaker :
      ∀ {tag attributes children},
        first tag attributes children → second tag attributes children) :
    ∀ {trees : List Tree}, TreesEvery first trees → TreesEvery second trees
  | [], _ => trivial
  | _ :: _, ⟨here, rest⟩ => ⟨here.imp weaker, rest.imp weaker⟩

end

/-! ## Attributes listed once -/

mutual

/-- No element of a tree lists an attribute twice. -/
def Tree.AttributesNodup : Tree → Prop
  | .text _ => True
  | .element _ attributes children =>
      attributes.keys.Nodup ∧ AttributesNodupAll children

/-- No element of neighbouring trees lists an attribute twice. -/
def AttributesNodupAll : List Tree → Prop
  | [] => True
  | tree :: rest => tree.AttributesNodup ∧ AttributesNodupAll rest

end

/-! ## Strings -/

mutual

/-- Change all strings of a tree. -/
def Tree.reword (change : String → String) : Tree → Tree
  | .text data => .text (change data)
  | .element tag attributes children =>
      .element tag (attributes.mapValues change) (rewordAll change children)

/-- Change all strings of neighbouring trees. -/
def rewordAll (change : String → String) : List Tree → List Tree
  | [] => []
  | tree :: rest => tree.reword change :: rewordAll change rest

end

mutual

/-- A tree whose strings are kept is the same tree. -/
@[simp] theorem Tree.reword_id :
    ∀ tree : Tree, tree.reword id = tree
  | .text _ => rfl
  | .element tag attributes children => by
      rw [Tree.reword, rewordAll_id children, Table.mapValues_id]

@[simp] theorem rewordAll_id :
    ∀ trees : List Tree, rewordAll id trees = trees
  | [] => rfl
  | tree :: rest => by
      rw [rewordAll, tree.reword_id, rewordAll_id rest]

end

mutual

/-- The characters of the texts of a tree and the values of its attributes. -/
def Tree.strings : Tree → List String
  | .text data => [data]
  | .element _ attributes children => attributes.values ++ treesStrings children

/-- The strings of neighbouring trees. -/
def treesStrings : List Tree → List String
  | [] => []
  | tree :: rest => tree.strings ++ treesStrings rest

end

/-! ## Addresses in trees -/

/-- The trees directly inside a tree. -/
def Tree.children : Tree → List Tree
  | .text _ => []
  | .element _ _ children => children

/-- The tree that an address leads to: each number picks one of the trees directly inside. -/
def Tree.at? (tree : Tree) : List Nat → Option Tree
  | [] => some tree
  | number :: rest => tree.children[number]?.bind fun child => child.at? rest

/-- The tree that an address leads to among neighbouring trees. -/
def treeAt? (trees : List Tree) : List Nat → Option Tree
  | [] => none
  | number :: rest => trees[number]?.bind fun tree => tree.at? rest

/-- A tree is an element whose tag passes a test. -/
def Tree.HasWantedTag (wanted : String → Bool) (tree : Tree) : Prop :=
  ∃ tag, tree.tag? = some tag ∧ wanted tag = true

/-- The first of neighbouring trees is addressed by zero. -/
theorem treeAt?_cons_zero
    (tree : Tree)
    (trees : List Tree)
    (rest : List Nat) :
    treeAt? (tree :: trees) (0 :: rest) = tree.at? rest :=
  rfl

/-- The other trees are addressed by greater numbers. -/
theorem treeAt?_cons_modifyHead
    (tree : Tree)
    (trees : List Tree)
    (address : List Nat) :
    treeAt? (tree :: trees) (address.modifyHead (· + 1)) = treeAt? trees address := by
  cases address with
  | nil =>
      rfl
  | cons number rest =>
      simp [treeAt?]

/-- Addresses in a tree and among the trees behind it, as addresses among all of them. -/
def joinAddresses (here there : List (List Nat)) : List (List Nat) :=
  here.map (0 :: ·) ++ there.map (List.modifyHead (· + 1))

section JoinAddresses

variable {here there : List (List Nat)}

@[simp] theorem nil_mem_joinAddresses :
    [] ∈ joinAddresses here there ↔ [] ∈ there := by
  simp [joinAddresses]

@[simp] theorem zero_cons_mem_joinAddresses
    {below : List Nat} :
    0 :: below ∈ joinAddresses here there ↔ below ∈ here := by
  have notShifted : ∀ address : List Nat, address.modifyHead (· + 1) ≠ 0 :: below := by
    intro address
    cases address <;> simp
  simp [joinAddresses, notShifted]

@[simp] theorem succ_cons_mem_joinAddresses
    {number : Nat}
    {below : List Nat} :
    (number + 1) :: below ∈ joinAddresses here there ↔ number :: below ∈ there := by
  have shifted :
      ∀ address : List Nat,
        address.modifyHead (· + 1) = (number + 1) :: below ↔ address = number :: below := by
    intro address
    cases address <;> simp
  simp [joinAddresses, shifted]

/-- Greater first numbers keep the document order. -/
theorem modifyHead_lt
    {left right : List Nat}
    (less : left < right) :
    left.modifyHead (· + 1) < right.modifyHead (· + 1) := by
  rcases left with _ | ⟨first, left⟩ <;> rcases right with _ | ⟨second, right⟩
  · exact less
  · exact List.nil_lt_cons _ _
  · exact absurd less (List.not_lt_nil _)
  · simpa [List.cons_lt_cons_iff] using less

/-- What is inside a tree comes before the trees behind it. -/
theorem pairwise_joinAddresses
    (hereIncreasing : here.Pairwise (· < ·))
    (thereIncreasing : there.Pairwise (· < ·))
    (notEmpty : [] ∉ there) :
    (joinAddresses here there).Pairwise (· < ·) := by
  refine List.pairwise_append.mpr ⟨?_, ?_, ?_⟩
  · exact hereIncreasing.map _ fun _ _ less => List.cons_lt_cons_iff.mpr (.inr ⟨rfl, less⟩)
  · exact thereIncreasing.map _ fun _ _ less => modifyHead_lt less
  · intro left inFirst right inRest
    obtain ⟨below, -, rfl⟩ := List.mem_map.mp inFirst
    obtain ⟨address, member, rfl⟩ := List.mem_map.mp inRest
    cases address with
    | nil =>
        exact (notEmpty member).elim
    | cons number later =>
        exact List.cons_lt_cons_iff.mpr (.inl (Nat.succ_pos number))

end JoinAddresses

end PageScript.Markup
