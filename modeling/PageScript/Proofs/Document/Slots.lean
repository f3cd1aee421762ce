import PageScript.Document.Slot
import PageScript.Proofs.Document.PageShape
import PageScript.Proofs.Document.Subtree
import PageScript.Proofs.Markup.Readable

namespace PageScript.Document

/-!
# Substitution as rewording

The slots of a token are the places in a subtree that hold the token when they
are captured.  Replacing the token at these slots later rewords the nodes of the
subtree: each string that held the token at the time of the capture has it
replaced, and every other string stays as it is.

The shape of a forest is what is left when all its strings are emptied: edges,
tags and the names of attributes.  Substitutions change strings only, so they
keep the shape, and nodes of forests with one shape span trees with the same
skeletons.
-/

/-! ## Tokens -/

/-- A text is kept when a token that does not occur in it is replaced. -/
theorem replaceSkipping_of_not_occursIn
    (token text : List Char)
    {s : List Char}
    (absent : Text.occursIn token s = false) :
    Text.replaceSkipping token text 0 s = s := by
  induction s with
  | nil =>
      rfl
  | cons c rest inductionHypothesis =>
      rw [Text.occursIn, Bool.or_eq_false_iff] at absent
      obtain ⟨notHere, notLater⟩ := absent
      rw [Text.replaceSkipping, notHere, inductionHypothesis notLater]
      rfl

/-- A string is kept when a token that it does not hold is replaced. -/
theorem replaceToken_of_not_holds
    (token text : String)
    {s : String}
    (absent : holdsToken token s = false) :
    replaceToken token text s = s := by
  have nonempty : token.toList.isEmpty = false := by
    cases tokenIs : token.toList with
    | cons c rest =>
        rfl
    | nil =>
        rw [holdsToken, tokenIs] at absent
        revert absent
        cases s.toList <;> nofun
  rw [replaceToken, Text.replaceAll, nonempty]
  change String.ofList (Text.replaceSkipping _ _ 0 _) = s
  rw [replaceSkipping_of_not_occursIn _ _ absent, String.ofList_toList]

theorem ite_replaceToken
    (token text s : String) :
    (if holdsToken token s then replaceToken token text s else s) =
      replaceToken token text s := by
  split
  · rfl
  · next absent =>
      rw [replaceToken_of_not_holds token text (Bool.eq_false_iff.mpr absent)]

/--
The change of a string after one more substitution: the token is replaced when
the string held it at first.
-/
def rewordHeld
    (token text : String)
    (change : String → String)
    (original : String) :
    String :=
  if holdsToken token original then
    replaceToken token text (change original)
  else
    change original

/-- What a substitution does to the attributes of an element. -/
def substituteAttribute
    (token text : String)
    (attributes : Table String String)
    (name : String) :
    Table String String :=
  match attributes.get? name with
  | some value =>
      if holdsToken token value then
        attributes.insert name (replaceToken token text value)
      else
        attributes
  | none => attributes

/-- A substitution replaces the token in the value that an attribute has now. -/
theorem substituteAttribute_append_cons
    (token text : String)
    {front : List (String × String)}
    {name : String}
    (absent : name ∉ front.map (·.1))
    (value : String)
    (back : List (String × String)) :
    substituteAttribute token text ⟨front ++ (name, value) :: back⟩ name =
      ⟨front ++ (name, replaceToken token text value) :: back⟩ := by
  rw [substituteAttribute, Table.get?_append_cons absent]
  dsimp only
  cases holds : holdsToken token value with
  | true =>
      exact Table.insert_append_cons absent _ _ _
  | false =>
      rw [replaceToken_of_not_holds token text holds]
      rfl

/-- Substitutions at the attributes that held a token reword all attributes. -/
theorem foldl_substituteAttribute
    (token text : String)
    (change : String → String)
    (rest done : List (String × String))
    (nodup : ((done ++ rest).map (·.1)).Nodup) :
    ((rest.filter fun entry => holdsToken token entry.2).map (·.1)).foldl
        (substituteAttribute token text)
        ⟨(done.map fun entry =>
              (entry.1, rewordHeld token text change entry.2)) ++
            rest.map fun entry => (entry.1, change entry.2)⟩ =
      ⟨(done ++ rest).map fun entry =>
        (entry.1, rewordHeld token text change entry.2)⟩ := by
  -- `done` has gone through this substitution, `rest` through earlier ones only.
  induction rest generalizing done with
  | nil =>
      simp
  | cons entry others inductionHypothesis =>
      have moved : done ++ entry :: others = (done ++ [entry]) ++ others := by
        simp
      have absent :
          entry.1 ∉
            (done.map fun entry =>
              (entry.1, rewordHeld token text change entry.2)).map
              (·.1) := by
        rw [List.map_append, List.nodup_append] at nodup
        intro member
        refine nodup.2.2 entry.1 ?_ entry.1 List.mem_cons_self rfl
        simpa using member
      have step := inductionHypothesis (done ++ [entry]) (moved ▸ nodup)
      rw [← moved, List.map_append, List.append_assoc] at step
      rw [List.filter_cons]
      cases holds : holdsToken token entry.2 with
      | true =>
          rw [if_pos rfl, List.map_cons, List.map_cons, List.foldl_cons,
            substituteAttribute_append_cons token text absent]
          rw [List.map_cons, List.map_nil, rewordHeld, if_pos holds] at step
          exact step
      | false =>
          rw [List.map_cons, List.map_nil, rewordHeld, holds] at step
          exact step

namespace Forest

variable {forest current rendered : Forest}

/-! ## One node -/

/-- Substitutions at the attributes of one element change this element alone. -/
theorem node?_substituteAll_attributes
    (token text : String)
    (element : NodeId)
    (names : List String)
    (id : NodeId) :
    (forest.substituteAll token text (names.map (.attribute element))).node?
        id =
      (forest.node? id).map fun node =>
        if id = element then
          { node with
            content :=
              Content.withAttributes
                (fun table =>
                  names.foldl (substituteAttribute token text) table)
                node.content }
        else
          node := by
  induction names generalizing forest with
  | nil =>
      rw [List.map_nil, substituteAll, List.foldl_nil]
      cases forest.node? id with
      | none =>
          rfl
      | some node =>
          rcases node with ⟨parent, content⟩
          cases content <;> simp [Content.withAttributes]
  | cons name rest inductionHypothesis =>
      have changed :
          (forest.substitute token text (.attribute element name)).node? id =
            (forest.node? id).map fun node =>
              if id = element then
                { node with
                  content :=
                    Content.withAttributes
                      (fun table => substituteAttribute token text table name)
                      node.content }
              else
                node :=
        node?_modifyAttributes element id _
      change
        ((forest.substitute token text (.attribute element name)).substituteAll
            token text (rest.map (.attribute element))).node? id =
          _
      rw [inductionHypothesis, changed]
      cases forest.node? id with
      | none =>
          rfl
      | some node =>
          rcases node with ⟨parent, content⟩
          by_cases same : id = element <;>
            cases content <;> simp [same, Content.withAttributes]

/-- Substitution at the slot of a text rewords this text alone. -/
theorem node?_substituteAll_text
    (token text : String)
    (change : String → String)
    {node : NodeId}
    {parent : Option NodeId}
    {data : String}
    (captured : rendered.node? node = some ⟨parent, .text data⟩)
    (now : current.node? node = some ⟨parent, .text (change data)⟩)
    (id : NodeId) :
    (current.substituteAll token text (rendered.slotsAt token node)).node? id =
      if id = node then
        some ⟨parent, .text (rewordHeld token text change data)⟩
      else
        current.node? id := by
  have slots :
      rendered.slotsAt token node =
        if holdsToken token data then [.text node] else [] := by
    simp [slotsAt, data?, captured]
  rw [slots, rewordHeld]
  cases holdsToken token data with
  | true =>
      change
        (current.modifyText node fun data =>
          if holdsToken token data then
            replaceToken token text data
          else
            data).node? id = _
      rw [node?_modifyText]
      by_cases same : id = node
      · simp [same, now, Content.withData, ite_replaceToken]
      · simp [same]
  | false =>
      change current.node? id = _
      by_cases same : id = node
      · simp [same, now]
      · simp [same]

/-- Substitutions at the slots of an element reword this element alone. -/
theorem node?_substituteAll_element
    (token text : String)
    (change : String → String)
    {node : NodeId}
    {parent : Option NodeId}
    {tag : String}
    {table : Table String String}
    {listed : List NodeId}
    (captured :
      rendered.node? node = some ⟨parent, .element tag table listed⟩)
    (now :
      current.node? node =
        some ⟨parent, .element tag (table.mapValues change) listed⟩)
    (nodup : table.keys.Nodup)
    (id : NodeId) :
    (current.substituteAll token text (rendered.slotsAt token node)).node? id =
      if id = node then
        some
          ⟨parent,
            .element tag (table.mapValues (rewordHeld token text change))
              listed⟩
      else
        current.node? id := by
  have slots :
      rendered.slotsAt token node =
        ((table.entries.filter fun entry =>
            holdsToken token entry.2).map (·.1)).map
          (.attribute node) := by
    simp [slotsAt, data?, attributeSlots, attributes, captured]
  have folded :=
    foldl_substituteAttribute token text change table.entries [] nodup
  rw [slots, node?_substituteAll_attributes]
  by_cases same : id = node
  · rw [if_pos same, same, now]
    simp only [Option.map_some, if_true, Content.withAttributes]
    exact
      congrArg
        (fun attributes =>
          some (Node.mk parent (.element tag attributes listed)))
        folded
  · simp [same]

/-- Substitutions at the slots of one node reword this node alone. -/
theorem node?_substituteAll_slotsAt
    (token text : String)
    (change : String → String)
    {node : NodeId}
    (nodup : (rendered.attributes node).keys.Nodup)
    (reworded :
      current.node? node =
        (rendered.node? node).map fun found =>
          { found with content := found.content.reword change })
    (id : NodeId) :
    (current.substituteAll token text (rendered.slotsAt token node)).node? id =
      if id = node then
        (rendered.node? node).map fun found =>
          { found with
            content := found.content.reword (rewordHeld token text change) }
      else
        current.node? id := by
  cases captured : rendered.node? node with
  | none =>
      have nowhere : rendered.slotsAt token node = [] := by
        simp [slotsAt, data?, attributeSlots, attributes, captured]
      rw [captured] at reworded
      rw [nowhere]
      change current.node? id = _
      by_cases same : id = node
      · simp [same, reworded]
      · simp [same]
  | some found =>
      rw [captured] at reworded
      rcases found with ⟨parent, content⟩
      cases content with
      | text data =>
          exact
            node?_substituteAll_text token text change captured reworded id
      | element tag table listed =>
          have tableNodup : table.keys.Nodup := by
            simpa [attributes, captured] using nodup
          exact
            node?_substituteAll_element token text change captured reworded
              tableNodup id

/-! ## A whole subtree -/

/-- Substitutions at the slots of several nodes reword these nodes. -/
theorem node?_substituteAll_flatMap
    (token text : String)
    (change : String → String)
    (wellFormed : rendered.WellFormed)
    {nodes : List NodeId}
    (nodup : nodes.Nodup)
    (reworded :
      ∀ node ∈ nodes,
        current.node? node =
          (rendered.node? node).map fun found =>
            { found with content := found.content.reword change })
    (id : NodeId) :
    (current.substituteAll token text
        (nodes.flatMap (rendered.slotsAt token))).node? id =
      if id ∈ nodes then
        (rendered.node? id).map fun found =>
          { found with
            content := found.content.reword (rewordHeld token text change) }
      else
        current.node? id := by
  -- The nodes differ, so a node still has its earlier rewording at its turn.
  induction nodes generalizing current with
  | nil =>
      rfl
  | cons node rest inductionHypothesis =>
      obtain ⟨fresh, restNodup⟩ := List.nodup_cons.mp nodup
      obtain ⟨first, others⟩ := List.forall_mem_cons.mp reworded
      have step :=
        node?_substituteAll_slotsAt token text change
          (wellFormed.attributesNodup node) first
      rw [List.flatMap_cons, substituteAll, List.foldl_append]
      change
        ((current.substituteAll token text
            (rendered.slotsAt token node)).substituteAll token text
            (rest.flatMap (rendered.slotsAt token))).node? id =
          _
      rw [inductionHypothesis restNodup]
      · by_cases inRest : id ∈ rest
        · rw [if_pos inRest, if_pos (List.mem_cons_of_mem _ inRest)]
        · rw [if_neg inRest, step]
          by_cases same : id = node
          · rw [if_pos same, if_pos (same ▸ List.mem_cons_self), same]
          · rw [if_neg same, if_neg]
            intro member
            exact (List.mem_cons.mp member).elim same inRest
      · intro other member
        rw [step, if_neg, others other member]
        rintro rfl
        exact fresh member

/-- The slots of an element come from the element and the nodes below it. -/
theorem slots_eq_flatMap
    {target : NodeId}
    (isElement : forest.isElement target = true)
    (token : String) :
    forest.slots token target =
      (target :: forest.descendants target).flatMap (forest.slotsAt token) := by
  obtain ⟨tag, table, listed, known⟩ := exists_content?_of_isElement isElement
  have own :
      forest.slotsAt token target = forest.attributeSlots token target := by
    rw [slotsAt, data?_of_content?_element known]
  rw [slots, List.flatMap_cons, own]

/--
In a well-formed forest the nodes from an element downwards are listed once.
-/
theorem mem_target_cons_descendants
    (wellFormed : forest.WellFormed)
    (target id : NodeId) :
    id ∈ target :: forest.descendants target ↔ forest.AtOrAbove target id := by
  rw [List.mem_cons, mem_descendants wellFormed, AtOrAbove]
  exact or_congr_left eq_comm

/--
The nodes from an element downwards are reworded, and all others are kept.
-/
structure RewordedBelow
    (rendered current : Forest)
    (target : NodeId)
    (change : String → String) : Prop where
  inside :
    ∀ id,
      rendered.AtOrAbove target id →
        current.node? id =
          (rendered.node? id).map fun node =>
            { node with content := node.content.reword change }
  outside :
    ∀ id,
      ¬ rendered.AtOrAbove target id →
        current.node? id = rendered.node? id

namespace RewordedBelow

variable {target : NodeId} {change : String → String}

theorem refl
    (rendered : Forest)
    (target : NodeId) :
    RewordedBelow rendered rendered target id where
  inside node _ := by
    cases rendered.node? node <;> simp
  outside _ _ := rfl

/-- Substitutions at the slots of a subtree reword it further. -/
theorem substituteAll
    (reworded : RewordedBelow rendered current target change)
    (wellFormed : rendered.WellFormed)
    (isElement : rendered.isElement target = true)
    (token text : String) :
    RewordedBelow rendered
      (current.substituteAll token text (rendered.slots token target)) target
      (rewordHeld token text change) := by
  have nodup : (target :: rendered.descendants target).Nodup := by
    refine List.nodup_cons.mpr ⟨?_, nodup_descendants wellFormed target⟩
    rw [mem_descendants wellFormed]
    exact wellFormed.not_above_self target
  have step :=
    node?_substituteAll_flatMap token text change wellFormed nodup
      fun node member =>
        reworded.inside node
          ((mem_target_cons_descendants wellFormed target node).mp member)
  rw [slots_eq_flatMap isElement]
  constructor
  · intro id reached
    rw [step, if_pos]
    exact (mem_target_cons_descendants wellFormed target id).mpr reached
  · intro id apart
    rw [step, if_neg, reworded.outside id apart]
    rwa [mem_target_cons_descendants wellFormed]

/-- Rewording keeps all edges. -/
theorem same_edges
    (reworded : RewordedBelow rendered current target change)
    (id : NodeId) :
    current.parent? id = rendered.parent? id ∧
      current.children id = rendered.children id ∧
      (current.attributes id).keys = (rendered.attributes id).keys := by
  by_cases reached : rendered.AtOrAbove target id
  · rw [parent?, children, attributes, parent?, children, attributes,
      reworded.inside id reached]
    cases rendered.node? id with
    | none =>
        exact ⟨rfl, rfl, rfl⟩
    | some node =>
        rcases node with ⟨parent, content⟩
        cases content with
        | text data =>
            exact ⟨rfl, rfl, rfl⟩
        | element tag table listed =>
            exact ⟨rfl, rfl, Table.keys_mapValues change table⟩
  · rw [parent?, children, attributes, parent?, children, attributes,
      reworded.outside id reached]
    exact ⟨rfl, rfl, rfl⟩

theorem wellFormed
    (reworded : RewordedBelow rendered current target change)
    (wellFormed : rendered.WellFormed) :
    current.WellFormed := by
  refine
    wellFormed.of_same_edges (fun id => (reworded.same_edges id).1)
      (fun id => (reworded.same_edges id).2.1) fun id => ?_
  rw [(reworded.same_edges id).2.2]
  exact wellFormed.attributesNodup id

/-- The reworded subtree is the reworded tree. -/
theorem spans
    (reworded : RewordedBelow rendered current target change)
    (wellFormed : rendered.WellFormed)
    {tree : Markup.Tree}
    (spans : rendered.Spans target tree) :
    current.Spans target (tree.reword change) := by
  refine spans.reword wellFormed fun node reached => ?_
  rw [content?, content?, reworded.inside node reached]
  cases rendered.node? node <;> rfl

/-- Two changes that agree on all strings of the subtree reword it alike. -/
theorem congr
    (reworded : RewordedBelow rendered current target change)
    (wellFormed : rendered.WellFormed)
    {tree : Markup.Tree}
    (spans : rendered.Spans target tree)
    {other : String → String}
    (agree : ∀ s ∈ tree.strings, change s = other s) :
    RewordedBelow rendered current target other where
  inside id reached := by
    rw [reworded.inside id reached]
    refine Option.map_congr fun node found => ?_
    have known : rendered.content? id = some node.content := by
      rw [content?, found]
      rfl
    rw [node.content.reword_congr fun s member =>
      agree s (spans.mem_strings wellFormed reached known member)]
  outside := reworded.outside

/-- Two forests that reword the same subtree alike are equal. -/
theorem unique
    {other : Forest}
    (reworded : RewordedBelow rendered current target change)
    (otherReworded : RewordedBelow rendered other target change) :
    current = other := by
  refine eq_of_node? fun id => ?_
  by_cases reached : rendered.AtOrAbove target id
  · rw [reworded.inside id reached, otherReworded.inside id reached]
  · rw [reworded.outside id reached, otherReworded.outside id reached]

end RewordedBelow

end Forest

/-! ## Shapes -/

open Markup

/-- A node whose strings are emptied. -/
def Node.shape (node : Node) : Node :=
  { node with content := node.content.reword fun _ => "" }

/-- A forest whose strings are emptied. -/
def Forest.shape (forest : Forest) : Forest :=
  ⟨forest.nodes.map Node.shape⟩

/-- A substitution keeps the names of the attributes of an element. -/
theorem mapValues_substituteAttribute
    (token text : String)
    (table : Table String String)
    (name : String) :
    ((substituteAttribute token text table name).mapValues fun _ => "") =
      table.mapValues fun _ => "" := by
  rw [substituteAttribute]
  split
  · next value bound =>
      split
      · exact Table.mapValues_insert_of_get? bound rfl
      · rfl
  · rfl

namespace Forest

variable {forest other : Forest}

@[simp] theorem node?_shape
    (id : NodeId) :
    forest.shape.node? id = (forest.node? id).map Node.shape := by
  simp [shape, node?]

/-- A substitution keeps the shape. -/
theorem shape_substitute
    (token text : String)
    (slot : Slot) :
    (forest.substitute token text slot).shape = forest.shape := by
  refine eq_of_node? fun id => ?_
  rw [node?_shape, node?_shape]
  rcases slot with node | ⟨element, name⟩
  · rw [substitute, node?_modifyText, Option.map_map]
    refine Option.map_congr fun found _ => ?_
    rcases found with ⟨parent, content⟩
    by_cases here : id = node <;>
      cases content <;>
      simp [here, Node.shape, Content.withData, Content.reword]
  · rw [substitute, node?_modifyAttributes, Option.map_map]
    refine Option.map_congr fun found _ => ?_
    rcases found with ⟨parent, content⟩
    by_cases here : id = element
    · cases content with
      | text data =>
          simp [here, Node.shape, Content.withAttributes, Content.reword]
      | element tag table listed =>
          have kept := mapValues_substituteAttribute token text table name
          rw [Function.comp_apply, if_pos here]
          exact
            congrArg
              (fun values => Node.mk parent (.element tag values listed)) kept
    · simp [here]

/-- Substitutions keep the shape. -/
theorem shape_substituteAll
    (token text : String)
    (slots : List Slot) :
    (forest.substituteAll token text slots).shape = forest.shape := by
  induction slots generalizing forest with
  | nil =>
      rfl
  | cons slot rest inductionHypothesis =>
      exact inductionHypothesis.trans (shape_substitute token text slot)

theorem content?_shape
    (id : NodeId) :
    forest.shape.content? id =
      (forest.content? id).map (Content.reword fun _ => "") := by
  rw [content?, content?, node?_shape, Option.map_map, Option.map_map]
  rfl

@[simp] theorem parent?_shape
    (id : NodeId) :
    forest.shape.parent? id = forest.parent? id := by
  rw [parent?, parent?, node?_shape]
  cases forest.node? id <;> rfl

@[simp] theorem children_shape
    (id : NodeId) :
    forest.shape.children id = forest.children id := by
  rw [children, children, node?_shape]
  rcases forest.node? id with _ | ⟨parent, content⟩
  · rfl
  · cases content <;> rfl

/-- Attributes have the same names in forests with the same shape. -/
theorem keys_attributes_shape
    (id : NodeId) :
    (forest.shape.attributes id).keys = (forest.attributes id).keys := by
  rw [attributes, attributes, node?_shape]
  rcases forest.node? id with _ | ⟨parent, content⟩
  · rfl
  · cases content with
    | text data =>
        rfl
    | element tag table listed =>
        exact Table.keys_mapValues _ table

section SameShape

variable (same : other.shape = forest.shape)

include same

theorem WellFormed.of_shape
    (wellFormed : forest.WellFormed) :
    other.WellFormed := by
  refine wellFormed.of_same_edges ?_ ?_ ?_
  · intro id
    rw [← parent?_shape, same, parent?_shape]
  · intro id
    rw [← children_shape, same, children_shape]
  · intro id
    rw [← keys_attributes_shape, same, keys_attributes_shape]
    exact wellFormed.attributesNodup id

/-- A text is a text in every forest with the same shape. -/
theorem exists_text_of_shape
    {id : NodeId}
    {data : String}
    (known : forest.content? id = some (.text data)) :
    ∃ changed, other.content? id = some (.text changed) := by
  have emptied := @content?_shape other id
  rw [same, content?_shape, known] at emptied
  obtain ⟨content, found, shape⟩ := Option.map_eq_some_iff.mp emptied.symm
  cases content with
  | text changed =>
      exact ⟨changed, found⟩
  | element tag table listed =>
      cases shape

/-- An element keeps its tag, the names of its attributes and its children. -/
theorem exists_element_of_shape
    {id : NodeId}
    {tag : String}
    {table : Table String String}
    {listed : List NodeId}
    (known : forest.content? id = some (.element tag table listed)) :
    ∃ changed,
      other.content? id = some (.element tag changed listed) ∧
        changed.keys = table.keys := by
  have emptied := @content?_shape other id
  rw [same, content?_shape, known] at emptied
  obtain ⟨content, found, shape⟩ := Option.map_eq_some_iff.mp emptied.symm
  cases content with
  | text data =>
      cases shape
  | element otherTag changed otherListed =>
      obtain ⟨rfl, values, rfl⟩ := Content.element.inj shape
      have keys := congrArg Table.keys values
      rw [Table.keys_mapValues, Table.keys_mapValues] at keys
      exact ⟨changed, found, keys⟩

end SameShape

mutual

/-- A node spans trees with the same skeletons in forests with the same shape. -/
theorem Spans.skeletons_eq
    (same : other.shape = forest.shape)
    {id : NodeId} :
    ∀ {tree changed : Tree},
      forest.Spans id tree →
        other.Spans id changed →
        changed.skeletons = tree.skeletons
  | .text _, _, .text known, spans => by
      obtain ⟨data, changedKnown⟩ := exists_text_of_shape same known
      cases spans with
      | text _ =>
          rfl
      | element otherKnown _ =>
          cases changedKnown.symm.trans otherKnown
  | .element _ _ _, _, .element known below, spans => by
      obtain ⟨table, changedKnown, keys⟩ := exists_element_of_shape same known
      cases spans with
      | text otherKnown =>
          cases changedKnown.symm.trans otherKnown
      | element otherKnown otherBelow =>
          cases changedKnown.symm.trans otherKnown
          rw [Tree.skeletons, Tree.skeletons, keys,
            SpansAll.skeletons_eq same below otherBelow]

theorem SpansAll.skeletons_eq
    (same : other.shape = forest.shape)
    {ids : List NodeId} :
    ∀ {trees changed : List Tree},
      forest.SpansAll ids trees →
        other.SpansAll ids changed →
        treesSkeletons changed = treesSkeletons trees
  | [], _, .nil, spans => by
      cases spans
      rfl
  | _ :: _, _, .cons first rest, spans => by
      cases spans with
      | cons otherFirst otherRest =>
          rw [treesSkeletons, treesSkeletons,
            Spans.skeletons_eq same first otherFirst,
            SpansAll.skeletons_eq same rest otherRest]

end

end Forest

end PageScript.Document
