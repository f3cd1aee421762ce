import PageScript.Proofs.Document.Editing

namespace PageScript.Document

open Markup

/-!
# Nodes that changes leave alone

Changes reach the nodes they name and the parents and children of these.  So when
some nodes are closed downwards, and none of them is named, all of them keep their
contents, and the trees below them stay the same.
-/

/-! ## Changes -/

/-- The nodes that an edit is applied to; copies and new trees start from none. -/
def Edit.named : Edit → List NodeId
  | .append target child => [target, child]
  | .detach node => [node]
  | .clear target => [target]
  | .setContent target _ => [target]
  | .appendElement target _ _ => [target]
  | _ => []

/-- A change of the nodes in the forest of a page. -/
inductive Mutation where
  /-- Change the places of nodes, or make new ones. -/
  | edit (edit : Edit)
  /-- Change the attributes of an element. -/
  | attributes (node : NodeId) (change : Table String String → Table String String)
  /-- Change the characters of a text. -/
  | characters (node : NodeId) (change : String → String)

namespace Mutation

/-- The nodes that a change is applied to. -/
def named : Mutation → List NodeId
  | .edit made => made.named
  | .attributes node _ => [node]
  | .characters node _ => [node]

/-- The page after a change. -/
def apply (page : Page) : Mutation → Page
  | .edit made => made.apply page
  | .attributes node change =>
      { page with forest := page.forest.modifyAttributes node change }
  | .characters node change => { page with forest := page.forest.modifyText node change }

end Mutation

namespace Forest

/--
Some nodes of a forest have the contents that they had in an original forest, and whatever
has one of them as its parent is one of them.
-/
structure Intact
    (kept : NodeId → Prop)
    (original forest : Forest) : Prop where
  known :
    ∀ id, kept id → id < original.nodes.size
  size_le :
    original.nodes.size ≤ forest.nodes.size
  content :
    ∀ id, kept id → forest.content? id = original.content? id
  closed :
    ∀ {parent child : NodeId},
      forest.parent? child = some parent → kept parent → kept child

/-- A bounded walk down reads the content of the node and walks on from its children. -/
theorem treeWithin_succ_eq_some
    {forest : Forest}
    {depth : Nat}
    {id : NodeId}
    {tree : Tree} :
    forest.treeWithin (depth + 1) id = some tree ↔
      (∃ data, forest.content? id = some (.text data) ∧ .text data = tree) ∨
      ∃ tag table listed trees,
        forest.content? id = some (.element tag table listed) ∧
          forest.treesWithin depth listed = some trees ∧
          .element tag table trees = tree := by
  rw [treeWithin, content?]
  rcases forest.node? id with _ | ⟨parent, data | ⟨tag, table, listed⟩⟩ <;>
    simp

namespace Intact

variable
  {kept : NodeId → Prop}
  {original forest : Forest}

theorem new_not_kept
    (intact : original.Intact kept forest)
    {id : NodeId}
    (new : forest.nodes.size ≤ id) :
    ¬ kept id :=
  fun isKept =>
    Nat.not_lt.mpr (Nat.le_trans intact.size_le new) (intact.known id isKept)

/-- The content of a node that is not kept may change. -/
theorem modify
    (intact : original.Intact kept forest)
    {id : NodeId}
    (free : ¬ kept id)
    {change : Node → Node}
    (sameParent : ∀ node, (change node).parent = node.parent) :
    original.Intact kept (forest.modify id change) where
  known := intact.known
  size_le := by
    simpa using intact.size_le
  content other isKept := by
    have different : other ≠ id := by
      rintro rfl
      exact free isKept
    rw [← intact.content other isKept, content?, content?, node?_modify]
    cases forest.node? other <;> simp [different]
  closed {parent child} known isKept := by
    refine intact.closed ?_ isKept
    rw [parent?, node?_modify] at known
    rw [parent?]
    cases found : forest.node? child with
    | none =>
        simp [found] at known
    | some node =>
        rw [found] at known
        by_cases same : child = id <;> simpa [same, sameParent] using known

theorem modifyChildren
    (intact : original.Intact kept forest)
    {id : NodeId}
    (free : ¬ kept id)
    (change : List NodeId → List NodeId) :
    original.Intact kept (forest.modifyChildren id change) :=
  intact.modify free fun _ => rfl

theorem modifyAttributes
    (intact : original.Intact kept forest)
    {id : NodeId}
    (free : ¬ kept id)
    (change : Table String String → Table String String) :
    original.Intact kept (forest.modifyAttributes id change) :=
  intact.modify free (by rintro ⟨_, ⟨⟩⟩ <;> rfl)

theorem modifyText
    (intact : original.Intact kept forest)
    {id : NodeId}
    (free : ¬ kept id)
    (change : String → String) :
    original.Intact kept (forest.modifyText id change) :=
  intact.modify free (by rintro ⟨_, ⟨⟩⟩ <;> rfl)

/-- Any node may get a parent that is not kept. -/
theorem setParent
    (intact : original.Intact kept forest)
    (id : NodeId)
    {parent : Option NodeId}
    (free : ∀ upper ∈ parent, ¬ kept upper) :
    original.Intact kept (forest.setParent id parent) where
  known := intact.known
  size_le := by
    simpa [Forest.setParent] using intact.size_le
  content other isKept := by
    rw [← intact.content other isKept, content?, content?, node?_setParent,
      Option.map_map]
    refine Option.map_congr fun node _ => ?_
    by_cases same : other = id <;> simp [same]
  closed {upper child} known isKept := by
    rw [parent?, node?_setParent] at known
    cases found : forest.node? child with
    | none =>
        simp [found] at known
    | some node =>
        rw [found] at known
        by_cases same : child = id
        · exact absurd isKept (free upper (by simpa [same] using known))
        · refine intact.closed ?_ isKept
          simpa [parent?, found, same] using known

/-- A new node may have a parent that is not kept. -/
theorem create
    (intact : original.Intact kept forest)
    {node : Node}
    (free : ∀ upper ∈ node.parent, ¬ kept upper) :
    original.Intact kept (forest.create node).1 where
  known := intact.known
  size_le := by
    have grown := intact.size_le
    simp only [size_create]
    omega
  content other isKept := by
    have different : other ≠ forest.nodes.size := by
      rintro rfl
      exact intact.new_not_kept (Nat.le_refl _) isKept
    rw [← intact.content other isKept, content?, content?, node?_create,
      if_neg different]
  closed {upper child} known isKept := by
    rw [parent?, node?_create] at known
    split at known
    · exact absurd isKept (free upper known)
    · exact intact.closed known isKept

/-- A node at the top is below no kept node. -/
theorem not_kept_of_mem_none :
    ∀ upper ∈ (none : Option NodeId), ¬ kept upper := by
  intro upper member
  cases member

/-- A node that is not kept may be taken out of its parent, which is not kept either. -/
theorem detach
    (intact : original.Intact kept forest)
    {id : NodeId}
    (free : ¬ kept id) :
    original.Intact kept (forest.detach id) := by
  cases known : forest.parent? id with
  | none =>
      rwa [detach_of_top known]
  | some parent =>
      have parentFree : ¬ kept parent := fun isKept => free (intact.closed known isKept)
      simp only [Forest.detach, known]
      exact (intact.modifyChildren parentFree _).setParent id not_kept_of_mem_none

theorem append
    (intact : original.Intact kept forest)
    {target child : NodeId}
    (targetFree : ¬ kept target)
    (childFree : ¬ kept child) :
    original.Intact kept (forest.append target child) := by
  have placed :
      original.Intact kept ((forest.detach child).setParent child (some target)) :=
    (intact.detach childFree).setParent child (by simpa using targetFree)
  exact placed.modifyChildren targetFree _

theorem appendAll
    (intact : original.Intact kept forest)
    {target : NodeId}
    (targetFree : ¬ kept target)
    {added : List NodeId}
    (addedFree : ∀ child ∈ added, ¬ kept child) :
    original.Intact kept (forest.appendAll target added) := by
  induction added generalizing forest with
  | nil =>
      exact intact
  | cons child rest inductionHypothesis =>
      obtain ⟨childFree, restFree⟩ := List.forall_mem_cons.mp addedFree
      exact inductionHypothesis (intact.append targetFree childFree) restFree

theorem clear
    (intact : original.Intact kept forest)
    {target : NodeId}
    (free : ¬ kept target) :
    original.Intact kept (forest.clear target) := by
  have cut :
      ∀ (children : List NodeId) {start : Forest},
        original.Intact kept start →
          original.Intact kept
            (children.foldl (fun changed child => changed.setParent child none) start) := by
    intro children
    induction children with
    | nil =>
        intro start before
        exact before
    | cons child rest inductionHypothesis =>
        intro start before
        exact inductionHypothesis (before.setParent child not_kept_of_mem_none)
  exact (cut _ intact).modifyChildren free _

mutual

/-- New trees under a parent that is not kept have new nodes alone. -/
theorem addTree
    (parent : Option NodeId)
    (free : ∀ upper ∈ parent, ¬ kept upper) :
    ∀ (tree : Tree) {forest : Forest},
      original.Intact kept forest →
        original.Intact kept (forest.addTree parent tree).1 ∧
          ¬ kept (forest.addTree parent tree).2
  | .text data, forest, intact =>
      ⟨intact.create free, intact.new_not_kept (Nat.le_refl _)⟩
  | .element tag attributes children, forest, intact => by
      have topFree : ¬ kept forest.nodes.size := intact.new_not_kept (Nat.le_refl _)
      have made :
          original.Intact kept (forest.create ⟨parent, .element tag attributes []⟩).1 :=
        intact.create free
      have below := addTrees (some forest.nodes.size) (by simpa using topFree) children made
      exact ⟨below.1.modifyChildren topFree _, topFree⟩

theorem addTrees
    (parent : Option NodeId)
    (free : ∀ upper ∈ parent, ¬ kept upper) :
    ∀ (trees : List Tree) {forest : Forest},
      original.Intact kept forest →
        original.Intact kept (forest.addTrees parent trees).1 ∧
          ∀ root ∈ (forest.addTrees parent trees).2, ¬ kept root
  | [], forest, intact =>
      ⟨intact, List.forall_mem_nil _⟩
  | tree :: rest, forest, intact => by
      obtain ⟨first, rootFree⟩ := addTree parent free tree intact
      obtain ⟨others, othersFree⟩ := addTrees parent free rest first
      exact ⟨others, List.forall_mem_cons.mpr ⟨rootFree, othersFree⟩⟩

end

theorem appendTrees
    (intact : original.Intact kept forest)
    {target : NodeId}
    (free : ¬ kept target)
    (trees : List Tree) :
    original.Intact kept (forest.appendTrees target trees) := by
  obtain ⟨added, rootsFree⟩ := addTrees none not_kept_of_mem_none trees intact
  exact added.appendAll free rootsFree

theorem createElement
    (intact : original.Intact kept forest)
    (tag : String)
    (attributes : Table String String) :
    original.Intact kept (forest.createElement tag attributes).1 :=
  intact.create not_kept_of_mem_none

/-- The elements of a new page are new nodes. -/
theorem openPage
    (intact : original.Intact kept forest) :
    original.Intact kept forest.openPage.forest ∧
      ¬ kept forest.openPage.head ∧ ¬ kept forest.openPage.body := by
  have free : ∀ place, ¬ kept (forest.nodes.size + place) :=
    fun place => intact.new_not_kept (Nat.le_add_right ..)
  have elements : original.Intact kept forest.addPageElements :=
    ((intact.createElement "html" ⟨[]⟩).createElement "head" ⟨[]⟩).createElement "body" ⟨[]⟩
  exact
    ⟨(elements.append (free 0) (free 1)).append (free 0) (free 2), free 1, free 2⟩

/-- Forests with the same contents of kept nodes have the same trees below them. -/
theorem treeWithin
    (intact : original.Intact kept forest)
    (downward : ∀ {id child : NodeId}, kept id → child ∈ original.children id → kept child)
    {depth more : Nat}
    (deep : depth ≤ more)
    {id : NodeId}
    (isKept : kept id)
    {tree : Tree}
    (found : original.treeWithin depth id = some tree) :
    forest.treeWithin more id = some tree := by
  induction depth generalizing more id tree with
  | zero =>
      simp [Forest.treeWithin] at found
  | succ depth inductionHypothesis =>
      obtain ⟨more, rfl⟩ := Nat.exists_eq_add_of_le' deep
      have below :
          ∀ {ids : List NodeId} {trees : List Tree},
            (∀ child ∈ ids, kept child) →
              List.Forall₂ (fun id tree => original.treeWithin depth id = some tree) ids trees →
                List.Forall₂ (fun id tree => forest.treeWithin (more + depth) id = some tree)
                  ids trees := by
        intro ids trees each found
        induction found with
        | nil =>
            exact .nil
        | cons first _ inductionHypothesisRest =>
            obtain ⟨childKept, restKept⟩ := List.forall_mem_cons.mp each
            exact .cons (inductionHypothesis (Nat.le_add_left ..) childKept first)
              (inductionHypothesisRest restKept)
      rw [treeWithin_succ_eq_some] at found
      rw [← Nat.add_assoc, treeWithin_succ_eq_some, intact.content id isKept]
      rcases found with text | ⟨tag, table, listed, trees, known, walked, same⟩
      · exact .inl text
      · refine .inr ⟨tag, table, listed, trees, known, ?_, same⟩
        refine treesWithin_eq_some.mpr (below ?_ (treesWithin_eq_some.mp walked))
        intro child member
        exact downward isKept (by rwa [children_of_content? known])

/-- The tree below a kept node is the same. -/
theorem tree?
    (intact : original.Intact kept forest)
    (downward : ∀ {id child : NodeId}, kept id → child ∈ original.children id → kept child)
    {id : NodeId}
    (isKept : kept id)
    {tree : Tree}
    (found : original.tree? id = some tree) :
    forest.tree? id = some tree :=
  intact.treeWithin downward (Nat.succ_le_succ intact.size_le) isKept found

end Intact

end Forest

/-! ## Changes that leave nodes alone -/

section Changes

variable
  {kept : NodeId → Prop}
  {original : Forest}
  {page : Page}

theorem Page.intact_fill
    (intact : original.Intact kept page.forest)
    (headFree : ¬ kept page.head)
    (bodyFree : ¬ kept page.body)
    (content : PageContent) :
    original.Intact kept (page.fill content).forest :=
  ((intact.appendTrees headFree content.head).appendTrees bodyFree
    content.body).modifyAttributes bodyFree _

/-- An edit keeps the contents of the nodes that it does not name, and of those below them. -/
theorem Edit.intact_apply
    (intact : original.Intact kept page.forest)
    {edit : Edit}
    (free : ∀ node ∈ edit.named, ¬ kept node) :
    original.Intact kept (edit.apply page).forest := by
  cases edit with
  | createElement tag attributes =>
      exact intact.createElement tag _
  | createText data =>
      exact intact.create Forest.Intact.not_kept_of_mem_none
  | createTrees markup =>
      rw [apply]
      cases parseTrees markup with
      | error error =>
          exact intact
      | ok trees =>
          exact (Forest.Intact.addTrees none Forest.Intact.not_kept_of_mem_none trees intact).1
  | append target child =>
      exact intact.append (free target (by simp [named])) (free child (by simp [named]))
  | detach node =>
      exact intact.detach (free node (by simp [named]))
  | clear target =>
      exact intact.clear (free target (by simp [named]))
  | clone node =>
      rw [apply, Forest.clone?]
      cases page.forest.tree? node with
      | none =>
          exact intact
      | some tree =>
          exact (Forest.Intact.addTree none Forest.Intact.not_kept_of_mem_none tree intact).1
  | setContent target markup =>
      have targetFree := free target (by simp [named])
      have cleared := intact.clear targetFree
      rw [apply, Page.setContent]
      cases parseTrees markup with
      | error error =>
          exact cleared
      | ok trees =>
          exact cleared.appendTrees targetFree trees
  | appendElement target tag attributes =>
      have made := intact.createElement tag ⟨[]⟩
      have newFree : ¬ kept (page.forest.createElement tag ⟨[]⟩).2 :=
        intact.new_not_kept (Nat.le_refl _)
      exact (made.modifyAttributes newFree _).append (free target (by simp [named])) newFree
  | openPage =>
      exact intact.openPage.1
  | load markup =>
      rw [apply, Page.reload]
      cases parseTrees markup with
      | error error =>
          exact intact
      | ok trees =>
          obtain ⟨opened, headFree, bodyFree⟩ := intact.openPage
          exact Page.intact_fill opened headFree bodyFree _

theorem Mutation.intact_apply
    (intact : original.Intact kept page.forest)
    {mutation : Mutation}
    (free : ∀ node ∈ mutation.named, ¬ kept node) :
    original.Intact kept (mutation.apply page).forest := by
  cases mutation with
  | edit made =>
      exact made.intact_apply intact free
  | attributes node change =>
      exact intact.modifyAttributes (free node (by simp [named])) change
  | characters node change =>
      exact intact.modifyText (free node (by simp [named])) change

/-- Changes that name none of the kept nodes keep their contents. -/
theorem Mutation.intact_foldl_apply
    (intact : original.Intact kept page.forest)
    {mutations : List Mutation}
    (free : ∀ mutation ∈ mutations, ∀ node ∈ mutation.named, ¬ kept node) :
    original.Intact kept (mutations.foldl Mutation.apply page).forest := by
  induction mutations generalizing page with
  | nil =>
      exact intact
  | cons mutation rest inductionHypothesis =>
      obtain ⟨first, later⟩ := List.forall_mem_cons.mp free
      exact inductionHypothesis (mutation.intact_apply intact first) later

end Changes

end PageScript.Document
