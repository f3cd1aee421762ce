import PageScript.Proofs.Run.Framing

namespace PageScript

/-!
# What a load gathers from its block

The trees of a block are read once.  Every script among them, however deep, is hoisted
into the body before the first line runs, and behind the last line every element with a
clone tag is copied to the end of the body.  Both depend on the trees alone: whatever
the lines do, and whatever is done by the functions that they call, as long as the page
keeps its body, they find the scripts in the body and leave the copies to be made.
-/

namespace Run

open Document Markup Script

/-! ## Elements in document order -/

/--
Trees are found at addresses: at those of the elements whose tags pass a test, each
once and in document order, where an element comes before everything inside it.
-/
structure FindsInOrder
    (wanted : String → Bool)
    (reach : List Nat → Option Tree)
    (addresses : List (List Nat))
    (found : List Tree) :
    Prop where
  increasing : addresses.Pairwise (· < ·)
  complete :
    ∀ address,
      address ∈ addresses ↔
        ∃ tree, reach address = some tree ∧ tree.HasWantedTag wanted
  found : addresses.map reach = found.map some

namespace FindsInOrder

variable
  {wanted : String → Bool}
  {tag : String}
  {attributes : Table String String}
  {tree : Tree}
  {children trees found others : List Tree}
  {here there addresses : List (List Nat)}

theorem text
    (wanted : String → Bool)
    (data : String) :
    FindsInOrder wanted (Tree.text data).at? [] [] where
  increasing := .nil
  complete address := by
    cases address <;> simp [Tree.at?, Tree.children, Tree.HasWantedTag, Tree.tag?]
  found := rfl

theorem nil
    (wanted : String → Bool) :
    FindsInOrder wanted (treeAt? []) [] [] where
  increasing := .nil
  complete address := by
    cases address <;> simp [treeAt?]
  found := rfl

/-- No address among neighbouring trees is empty. -/
theorem ne_nil
    (finds : FindsInOrder wanted (treeAt? trees) addresses found) :
    [] ∉ addresses := by
  intro member
  obtain ⟨tree, reached, -⟩ := (finds.complete []).mp member
  cases reached

/-- What is found is wanted. -/
theorem hasWantedTag
    {reach : List Nat → Option Tree}
    (finds : FindsInOrder wanted reach addresses found)
    (member : tree ∈ found) :
    tree.HasWantedTag wanted := by
  have among : some tree ∈ addresses.map reach := by
    rw [finds.found]
    exact List.mem_map_of_mem member
  obtain ⟨address, known, reached⟩ := List.mem_map.mp among
  obtain ⟨other, same, isWanted⟩ := (finds.complete address).mp known
  obtain rfl := Option.some.inj (reached.symm.trans same)
  exact isWanted

/-- The addresses inside an element are those among its children. -/
theorem map_at?_element
    (finds : FindsInOrder wanted (treeAt? children) addresses found) :
    addresses.map (Tree.element tag attributes children).at? = found.map some := by
  rw [← finds.found]
  refine List.map_congr_left fun address member => ?_
  cases address with
  | nil =>
      exact (finds.ne_nil member).elim
  | cons number rest =>
      rfl

/-- An element that is not wanted leads to what is found inside it. -/
theorem element
    (finds : FindsInOrder wanted (treeAt? children) addresses found)
    (unwanted : wanted tag = false) :
    FindsInOrder wanted (Tree.element tag attributes children).at? addresses found where
  increasing := finds.increasing
  complete address := by
    cases address with
    | nil =>
        simp [finds.ne_nil, Tree.at?, Tree.HasWantedTag, Tree.tag?, unwanted]
    | cons number rest =>
        exact finds.complete (number :: rest)
  found := finds.map_at?_element

/-- An element that is wanted comes before what is found inside it. -/
theorem wantedElement
    (finds : FindsInOrder wanted (treeAt? children) addresses found)
    (isWanted : wanted tag = true) :
    FindsInOrder wanted (Tree.element tag attributes children).at? ([] :: addresses)
      (.element tag attributes children :: found) where
  increasing := by
    refine List.pairwise_cons.mpr ⟨fun address member => ?_, finds.increasing⟩
    cases address with
    | nil =>
        exact (finds.ne_nil member).elim
    | cons number rest =>
        exact List.nil_lt_cons number rest
  complete address := by
    cases address with
    | nil =>
        simp [Tree.at?, Tree.HasWantedTag, Tree.tag?, isWanted]
    | cons number rest =>
        simp only [List.mem_cons, reduceCtorEq, false_or]
        exact finds.complete (number :: rest)
  found := congrArg (some _ :: ·) finds.map_at?_element

/-- What is found in a tree comes before what is found in the trees behind it. -/
theorem cons
    (first : FindsInOrder wanted tree.at? here found)
    (rest : FindsInOrder wanted (treeAt? trees) there others) :
    FindsInOrder wanted (treeAt? (tree :: trees)) (joinAddresses here there)
      (found ++ others) where
  increasing := pairwise_joinAddresses first.increasing rest.increasing rest.ne_nil
  complete address := by
    rcases address with _ | ⟨_ | number, later⟩
    · simp [treeAt?, rest.ne_nil]
    · rw [treeAt?_cons_zero, ← first.complete, zero_cons_mem_joinAddresses]
    · change _ ↔ ∃ found, treeAt? trees (number :: later) = some found ∧ _
      rw [← rest.complete, succ_cons_mem_joinAddresses]
  found := by
    rw [joinAddresses, List.map_append, List.map_append, ← first.found, ← rest.found,
      List.map_map, List.map_map]
    refine congrArg (_ ++ ·) (List.map_congr_left fun address _ => ?_)
    exact treeAt?_cons_modifyHead tree trees address

end FindsInOrder

mutual

/-- The elements that are picked from a tree are found in order. -/
theorem exists_finds_elementsOf
    (wanted : String → Bool) :
    ∀ tree : Tree,
      ∃ addresses, FindsInOrder wanted tree.at? addresses (elementsOf wanted tree)
  | .text data => ⟨[], .text wanted data⟩
  | .element tag attributes children => by
      obtain ⟨addresses, below⟩ := exists_finds_elementsOfAll wanted children
      rw [elementsOf]
      split
      · next isWanted =>
          exact ⟨_, below.wantedElement isWanted⟩
      · next unwanted =>
          exact ⟨_, below.element (Bool.eq_false_iff.mpr unwanted)⟩

/-- The elements that are picked from neighbouring trees are found in order. -/
theorem exists_finds_elementsOfAll
    (wanted : String → Bool) :
    ∀ trees : List Tree,
      ∃ addresses,
        FindsInOrder wanted (treeAt? trees) addresses (elementsOfAll wanted trees)
  | [] => ⟨[], .nil wanted⟩
  | tree :: rest => by
      obtain ⟨here, first⟩ := exists_finds_elementsOf wanted tree
      obtain ⟨there, others⟩ := exists_finds_elementsOfAll wanted rest
      exact ⟨_, first.cons others⟩

end

/-! ## Hoisted scripts -/

/--
A script is hoisted for an element: it has the source and the type of the element, as
far as there are any, and no other attribute, and it holds the text of the element.
-/
inductive IsHoistedFor : Tree → Tree → Prop where
  | script
      {tag : String}
      {attributes kept : Table String String}
      {children content : List Tree}
      (named : kept.keys.Sublist ["src", "type"])
      (same : ∀ name ∈ ["src", "type"], kept.get? name = attributes.get? name)
      (texts : ∀ tree ∈ content, ∃ data, tree = .text data)
      (text : treesTextContent content = treesTextContent children) :
      IsHoistedFor (.element tag attributes children) (.element "script" kept content)

theorem isHoistedFor_hoistedScript
    (tag : String)
    (attributes : Table String String)
    (children : List Tree) :
    IsHoistedFor (.element tag attributes children)
      (hoistedScript (.element tag attributes children)) := by
  refine .script (sublist_hoistedNames attributes) ?_ ?_ ?_
  · simp only [List.filterMap_cons, List.filterMap_nil]
    generalize attributes.get? = lookup
    rcases sourceKnown : lookup "src" with _ | source <;>
      rcases typeKnown : lookup "type" with _ | type <;>
      simp [Table.get?, sourceKnown, typeKnown]
  · split <;> simp
  · split
    · next empty =>
        exact (by simpa using empty : treesTextContent children = []).symm
    · simp [treesTextContent, Tree.textContent]

/-- For each script of a block one script is hoisted. -/
theorem forall₂_hoistedScripts
    (trees : List Tree) :
    List.Forall₂ IsHoistedFor (elementsOfAll (· == "script") trees)
      (hoistedScripts trees) := by
  obtain ⟨addresses, finds⟩ := exists_finds_elementsOfAll (· == "script") trees
  refine List.forall₂_map_right_iff.mpr (List.forall₂_same.mpr fun tree member => ?_)
  obtain ⟨tag, isElement, -⟩ := finds.hasWantedTag member
  cases tree with
  | text data =>
      cases isElement
  | element tag attributes children =>
      exact isHoistedFor_hoistedScript tag attributes children

/-! ## The body -/

/-- The body of a page is a certain element of a well-formed forest. -/
structure BodyIs (body : NodeId) (page : Page) : Prop where
  wellFormed : page.forest.WellFormed
  isElement : page.forest.isElement body = true
  same : page.body = body

namespace BodyIs

variable {body : NodeId} {page : Page}

/-- The body stays when its forest receives trees. -/
theorem receives
    {forest : Forest}
    {target : NodeId}
    {roots : List NodeId}
    {trees : List Tree}
    (bodyIs : BodyIs body page)
    (received : page.forest.Receives forest target roots trees) :
    BodyIs body { page with forest := forest } :=
  ⟨received.wellFormed, received.isElement bodyIs.isElement, bodyIs.same⟩

/-- The body stays when an element is filled, be it the body itself. -/
theorem setContent
    {target : NodeId}
    (bodyIs : BodyIs body page)
    (isElement : page.forest.isElement target = true)
    (markup : String) :
    BodyIs body (page.setContent target markup).1 := by
  rw [Page.setContent]
  cases parsed : parseTrees markup with
  | error error =>
      refine ⟨bodyIs.wellFormed.clear target, ?_, bodyIs.same⟩
      rw [Forest.isElement, Forest.tag?_clear]
      exact bodyIs.isElement
  | ok trees =>
      have replaced :=
        Forest.replaced_appendTrees_clear bodyIs.wellFormed isElement
          (attributesNodupAll_of_parseTrees parsed)
      refine ⟨replaced.wellFormed, ?_, bodyIs.same⟩
      rw [Forest.isElement,
        replaced.tag? isElement (Forest.lt_size_of_isElement bodyIs.isElement)]
      exact bodyIs.isElement

/-- The body stays when the places of a page are reworded. -/
theorem of_shape
    {forest : Forest}
    (bodyIs : BodyIs body page)
    (same : forest.shape = page.forest.shape) :
    BodyIs body { page with forest := forest } := by
  refine ⟨bodyIs.wellFormed.of_shape same, ?_, bodyIs.same⟩
  rw [Forest.isElement, ← Forest.tag?_shape, same, Forest.tag?_shape]
  exact bodyIs.isElement

/-- No elementary change puts another element in the place of the body. -/
theorem change
    {before after : Context}
    {effect : Effect}
    (bodyIs : BodyIs body before.page)
    (step : Change effect before after) :
    BodyIs body after.page := by
  cases step with
  | content markup below =>
      exact bodyIs.setContent (List.mem_filter.mp below).2 markup
  | @element _ target tag attributes place =>
      have isElement : before.page.forest.isElement target = true := by
        rcases place with rfl | below
        · rw [bodyIs.same]
          exact bodyIs.isElement
        · exact (List.mem_filter.mp below).2
      exact
        bodyIs.receives
          (Page.receives_appendElement bodyIs.wellFormed isElement tag attributes)
  | wording token text slots =>
      exact bodyIs.of_shape (Forest.shape_substituteAll token text slots)
  | _ =>
      exact bodyIs

end BodyIs

/-- Functions leave a page its body: they do not put another element in its place. -/
def Meaning.KeepsBody (meaning : Meaning) : Prop :=
  ∀ body function arguments,
    Retains (fun context => BodyIs body context.page) (meaning function arguments)

theorem keepsBody_apply : Meaning.KeepsBody Function.apply :=
  fun _ => retains_apply fun _ _ _ step bodyIs => bodyIs.change step

/-- Where functions leave a page its body, all commands do. -/
theorem BodyIs.executeBy
    {meaning : Meaning}
    (keeps : meaning.KeepsBody)
    (body : NodeId)
    (host : Host)
    (placed : PlacedCommand) :
    Retains (fun context => BodyIs body context.page) (executeBy meaning host placed) :=
  retains_executeBy (fun _ _ _ step bodyIs => bodyIs.change step) (keeps body) host placed

/--
Trees have been added as new nodes behind the children of the body, and nothing else
has changed in the context.
-/
structure Scene.Gains
    (scene gained : Scene)
    (trees : List Tree)
    (roots : List NodeId) :
    Prop where
  context :
    gained.context =
      { scene.context with
        page := { scene.context.page with forest := gained.context.page.forest } }
  children :
    gained.context.page.forest.children gained.context.page.body =
      scene.context.page.forest.children scene.context.page.body ++ roots
  receives :
    scene.context.page.forest.Receives gained.context.page.forest
      scene.context.page.body roots trees

/-- A body gains the trees that are added to it, and stays the body. -/
theorem BodyIs.exists_gains
    {body : NodeId}
    {scene : Scene}
    {trees : List Tree}
    (bodyIs : BodyIs body scene.context.page)
    (distinct : AttributesNodupAll trees) :
    (∃ roots, scene.Gains (scene.grown trees) trees roots) ∧
      BodyIs body (scene.grown trees).context.page := by
  have isElement :
      scene.context.page.forest.isElement scene.context.page.body = true := by
    rw [bodyIs.same]
    exact bodyIs.isElement
  obtain ⟨roots, received⟩ :=
    Forest.exists_receives bodyIs.wellFormed isElement distinct
  exact
    ⟨⟨roots, rfl, received.children isElement, received⟩, bodyIs.receives received⟩

/-! ## Loading -/

/--
When the block of a page is accepted as markup, its load has three parts.  First the
body gains one script for each script of the block, then the lines run, and then the
body, which is still the same element, gains a copy of each element with a clone tag.
The scripts and the elements are found in the trees of the block, each once and in
document order, and the report has their numbers.  Functions may do anything that
leaves the page its body.
-/
theorem loading_gathers_scripts_and_copies
    (meaning : Meaning)
    (keeps : meaning.KeepsBody)
    (options : LoadOptions)
    (url page block : String)
    (trees : List Tree)
    (scene : Scene)
    (wellFormed : scene.context.page.forest.WellFormed)
    (isElement : scene.context.page.forest.isElement scene.context.page.body = true)
    (found : extractBlock? options.blockTag page = some block)
    (accepted : parseTrees block = .ok trees) :
    ∃ originals scripts copies scriptAddresses copyAddresses,
      FindsInOrder (· == "script") (treeAt? trees) scriptAddresses originals ∧
        List.Forall₂ IsHoistedFor originals scripts ∧
        FindsInOrder (options.smallCloneTags.contains ·) (treeAt? trees) copyAddresses
          copies ∧
        ∃ started executed reached ended scriptRoots copyRoots,
          scene.Gains started scripts scriptRoots ∧
            (executeLines (executeBy meaning .runtime) { scripts := scripts.length } 1
                (Text.lines block.toList)).run
              started = (executed, reached) ∧
            reached.context.page.body = scene.context.page.body ∧
            reached.Gains ended copies copyRoots ∧
            outcome (loadTextBy (executeBy meaning .runtime) options url page) scene =
              (.ok { executed with cloned := copies.length }, ended) ∧
            executed.scripts = scripts.length := by
  obtain ⟨scriptAddresses, scriptsFound⟩ :=
    exists_finds_elementsOfAll (· == "script") trees
  obtain ⟨copyAddresses, copiesFound⟩ :=
    exists_finds_elementsOfAll (options.smallCloneTags.contains ·) trees
  obtain ⟨event, loaded⟩ :=
    exists_outcome_loadTextBy (executeBy meaning .runtime) url scene found accepted
  have bodyIs : BodyIs scene.context.page.body scene.context.page :=
    ⟨wellFormed, isElement, rfl⟩
  obtain ⟨⟨scriptRoots, hoisted⟩, started⟩ :=
    bodyIs.exists_gains (attributesNodupAll_hoistedScripts trees)
  have reached :=
    condition_of_runLines (BodyIs.executeBy keeps _ .runtime)
      { scripts := (hoistedScripts trees).length } 1 (Text.lines block.toList) started
  obtain ⟨⟨copyRoots, copied⟩, -⟩ :=
    reached.exists_gains
      (attributesNodupAll_clonedElements accepted options.smallCloneTags)
  refine
    ⟨_, hoistedScripts trees, _, scriptAddresses, copyAddresses, scriptsFound,
      forall₂_hoistedScripts trees, copiesFound, _, _, _, _, scriptRoots, copyRoots,
      hoisted, rfl, reached.same, ?_, loaded, ?_⟩
  · exact ⟨copied.context, copied.children, copied.receives⟩
  · exact congrArg (·.1.scripts) (runLines_eq (executeBy meaning .runtime) _ _ _ _)

/-- A block with a script and an image inside a division, and a command. -/
def nestedBlock : String :=
  "<div><script src=s defer>x</script><p><img></p></div>\nhsx run async log()"

/-- A page with this block. -/
def nestedPage : String :=
  "<hsx><div><script src=s defer>x</script><p><img></p></div>\nhsx run async log()</hsx>"

/-- The trees of the nested block. -/
def nestedTrees : List Tree :=
  [.element "div" ⟨[]⟩
      [.element "script" ⟨[("src", "s"), ("defer", "")]⟩ [.text "x"],
        .element "p" ⟨[]⟩ [.element "img" ⟨[]⟩ []]],
    .text "\nhsx run async log()"]

/-- The load of the nested block gathers its elements into the body of the blank page. -/
theorem loading_gathers_scripts_and_copies_of_nested :
    bareScene.context.page.forest.WellFormed ∧
      bareScene.context.page.forest.isElement bareScene.context.page.body = true ∧
      extractBlock? "hsx" nestedPage = some nestedBlock ∧
      parseTrees nestedBlock = .ok nestedTrees ∧
      ∃ originals scripts copies scriptAddresses copyAddresses,
        FindsInOrder (· == "script") (treeAt? nestedTrees) scriptAddresses originals ∧
          List.Forall₂ IsHoistedFor originals scripts ∧
          FindsInOrder (({} : LoadOptions).smallCloneTags.contains ·)
            (treeAt? nestedTrees) copyAddresses copies ∧
          ∃ started executed reached ended scriptRoots copyRoots,
            bareScene.Gains started scripts scriptRoots ∧
              (executeLines (execute .runtime) { scripts := scripts.length } 1
                  (Text.lines nestedBlock.toList)).run
                started = (executed, reached) ∧
              reached.context.page.body = bareScene.context.page.body ∧
              reached.Gains ended copies copyRoots ∧
              outcome (loadText {} "<string>" nestedPage) bareScene =
                (.ok { executed with cloned := copies.length }, ended) ∧
              executed.scripts = scripts.length := by
  have wellFormed : bareScene.context.page.forest.WellFormed := Page.blank_wellFormed
  have isElement :
      bareScene.context.page.forest.isElement bareScene.context.page.body = true :=
    rfl
  have found : extractBlock? "hsx" nestedPage = some nestedBlock := rfl
  have accepted : parseTrees nestedBlock = .ok nestedTrees := rfl
  exact
    ⟨wellFormed, isElement, found, accepted,
      loading_gathers_scripts_and_copies Function.apply keepsBody_apply {} "<string>"
        nestedPage nestedBlock nestedTrees bareScene wellFormed isElement found accepted⟩

end Run
end PageScript
