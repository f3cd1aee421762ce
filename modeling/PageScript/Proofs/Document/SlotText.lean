import PageScript.Proofs.Document.Slots
import PageScript.Proofs.Text.Run

namespace PageScript.Document

/-!
# Texts at slots

A slot names a text that a substitution can change.  Substituting at a slot
changes the text there and no other, and changes nothing at all when the token is
gone.  So repeated substitutions of a token leave a forest alone, whatever is put
in, exactly when no slot holds the token any more.  A token is replaced at the slots
that were captured and nowhere else, and a slot that is captured below an element belongs
to this element or to a node below it.
-/

/-- The new text is put in for every occurrence of a token that is not empty. -/
theorem toList_replaceToken
    {token : String}
    (nonempty : token.toList ≠ [])
    (text s : String) :
    (replaceToken token text s).toList =
      Text.replaceSkipping token.toList text.toList 0 s.toList := by
  simp [replaceToken, Text.replaceAll, nonempty]

namespace Forest

variable {forest : Forest} {token text : String} {slot : Slot}

/-! ## Texts and attributes after an edit -/

theorem data?_modifyText
    (id other : NodeId)
    (change : String → String) :
    (forest.modifyText id change).data? other =
      (forest.data? other).map fun s => if other = id then change s else s := by
  simp only [data?, node?_modifyText]
  rcases forest.node? other with _ | ⟨parent, content⟩
  · rfl
  · by_cases same : other = id <;>
      cases content <;> simp [same, Content.withData]

theorem attributes_modifyText
    (id other : NodeId)
    (change : String → String) :
    (forest.modifyText id change).attributes other =
      forest.attributes other := by
  simp only [attributes, node?_modifyText]
  rcases forest.node? other with _ | ⟨parent, content⟩
  · rfl
  · by_cases same : other = id <;>
      cases content <;> simp [same, Content.withData]

theorem data?_modifyAttributes
    (id other : NodeId)
    (change : Table String String → Table String String) :
    (forest.modifyAttributes id change).data? other = forest.data? other := by
  simp only [data?, node?_modifyAttributes]
  rcases forest.node? other with _ | ⟨parent, content⟩
  · rfl
  · by_cases same : other = id <;>
      cases content <;> simp [same, Content.withAttributes]

/-- A change that leaves the empty table alone changes the attributes of one node. -/
theorem attributes_modifyAttributes
    (id other : NodeId)
    {change : Table String String → Table String String}
    (keepsEmpty : change ⟨[]⟩ = ⟨[]⟩) :
    (forest.modifyAttributes id change).attributes other =
      if other = id then
        change (forest.attributes other)
      else
        forest.attributes other := by
  simp only [attributes, node?_modifyAttributes]
  rcases forest.node? other with _ | ⟨parent, content⟩
  · simp [keepsEmpty]
  · by_cases same : other = id <;>
      cases content <;> simp [same, keepsEmpty, Content.withAttributes]

/-! ## Slots -/

/-- The text at a slot, if there is one. -/
def textAt? (forest : Forest) : Slot → Option String
  | .text node => forest.data? node
  | .attribute element name => (forest.attributes element).get? name

/-- Whether the text at a slot holds a token. -/
def holdsAt (forest : Forest) (token : String) (slot : Slot) : Bool :=
  (forest.textAt? slot).any (holdsToken token)

theorem get?_substituteAttribute
    (token text : String)
    (table : Table String String)
    (name other : String) :
    (substituteAttribute token text table name).get? other =
      (table.get? other).map fun s =>
        if other = name then replaceToken token text s else s := by
  have exactly : ∀ key : String, IsExactKey key := fun _ _ => beq_iff_eq
  rw [substituteAttribute]
  by_cases same : other = name
  · subst same
    cases found : table.get? other with
    | none =>
        simp [found]
    | some value =>
        cases holds : holdsToken token value with
        | true =>
            simp [holds, Table.get?_insert_self (exactly other)]
        | false =>
            simp [holds, found, replaceToken_of_not_holds token text holds]
  · have kept :
        ∀ value,
          (table.insert name value).get? other = table.get? other :=
      Table.get?_insert_of_ne (exactly name) (exactly other) same table
    cases table.get? name with
    | none =>
        simp [same]
    | some value =>
        dsimp only
        split <;> simp [kept]

/-- Substituting at a slot replaces the token there and changes no other text. -/
theorem textAt?_substitute
    (token text : String)
    (slot other : Slot) :
    (forest.substitute token text slot).textAt? other =
      (forest.textAt? other).map fun s =>
        if other = slot then replaceToken token text s else s := by
  rcases slot with node | ⟨element, name⟩
  · rcases other with id | ⟨element, name⟩
    · simp only [substitute, textAt?, data?_modifyText, ite_replaceToken,
        Slot.text.injEq]
    · simp [substitute, textAt?, attributes_modifyText]
  · have changed :=
      fun id =>
        @attributes_modifyAttributes forest element id
          (fun table => substituteAttribute token text table name) rfl
    have substituted :
        forest.substitute token text (.attribute element name) =
          forest.modifyAttributes element fun table =>
            substituteAttribute token text table name :=
      rfl
    rcases other with id | ⟨id, otherName⟩
    · simp [substitute, textAt?, data?_modifyAttributes]
    · rw [substituted, textAt?, changed]
      by_cases same : id = element
      · simp [same, textAt?, get?_substituteAttribute]
      · simp [same, textAt?]

/-- Substituting changes nothing at a slot that does not hold the token. -/
theorem substitute_of_not_holdsAt
    (absent : forest.holdsAt token slot = false) :
    forest.substitute token text slot = forest := by
  refine eq_of_node? fun id => ?_
  rcases slot with node | ⟨element, name⟩
  · simp only [substitute, node?_modifyText]
    rcases found : forest.node? id with _ | ⟨parent, content⟩
    · rfl
    · by_cases same : id = node
      · subst same
        cases content <;>
          simp_all [holdsAt, textAt?, data?, Content.withData]
      · simp [same]
  · have kept :
        substituteAttribute token text (forest.attributes element) name =
          forest.attributes element := by
      simp only [holdsAt, textAt?] at absent
      rw [substituteAttribute]
      cases found : (forest.attributes element).get? name with
      | none =>
          rfl
      | some value =>
          simp [found] at absent
          simp [absent]
    change
      (forest.modifyAttributes element fun table =>
        substituteAttribute token text table name).node? id = _
    rw [node?_modifyAttributes]
    rcases found : forest.node? id with _ | ⟨parent, content⟩
    · rfl
    · by_cases same : id = element
      · subst same
        cases content <;>
          simp_all [attributes, Content.withAttributes]
      · simp [same]

theorem substituteAll_of_not_holdsAt
    {slots : List Slot}
    (absent : ∀ slot ∈ slots, forest.holdsAt token slot = false) :
    forest.substituteAll token text slots = forest := by
  induction slots with
  | nil =>
      rfl
  | cons slot rest inductionHypothesis =>
      obtain ⟨notHere, notLater⟩ := List.forall_mem_cons.mp absent
      rw [substituteAll, List.foldl_cons, substitute_of_not_holdsAt notHere]
      exact inductionHypothesis notLater

/-! ## Tokens that are gone -/

/-- A token that is gone from a slot stays gone when it is replaced elsewhere. -/
theorem not_holdsAt_substitute
    (absent : forest.holdsAt token slot = false)
    (other : Slot) :
    (forest.substitute token text other).holdsAt token slot = false := by
  rw [holdsAt, textAt?_substitute]
  cases found : forest.textAt? slot with
  | none =>
      rfl
  | some s =>
      have notHeld : holdsToken token s = false := by
        simpa [holdsAt, found] using absent
      simp only [Option.map_some, Option.any_some]
      split
      · rwa [replaceToken_of_not_holds token text notHeld]
      · exact notHeld

/-- A text that never leaves the token behind takes it away from every slot. -/
theorem not_holdsAt_substituteAll
    (clears : ∀ s, holdsToken token (replaceToken token text s) = false)
    {slots : List Slot}
    (member : slot ∈ slots ∨ forest.holdsAt token slot = false) :
    (forest.substituteAll token text slots).holdsAt token slot = false := by
  induction slots generalizing forest with
  | nil =>
      exact member.resolve_left List.not_mem_nil
  | cons first rest inductionHypothesis =>
      refine inductionHypothesis ?_
      rcases member with listed | absent
      · rcases List.mem_cons.mp listed with rfl | inRest
        · refine .inr ?_
          rw [holdsAt, textAt?_substitute]
          cases forest.textAt? slot <;> simp [clears]
        · exact .inl inRest
      · exact .inr (not_holdsAt_substitute absent first)

/-! ## Erasing a token -/

/-- No text gets longer when a token is erased at slots. -/
theorem exists_textAt?_erased
    (nonempty : token.toList ≠ [])
    (slots : List Slot)
    {s : String}
    (known : forest.textAt? slot = some s) :
    ∃ now,
      (forest.substituteAll token "" slots).textAt? slot = some now ∧
        now.toList.length ≤ s.toList.length := by
  induction slots generalizing forest s with
  | nil =>
      exact ⟨s, known, Nat.le_refl _⟩
  | cons first rest inductionHypothesis =>
      have step := @textAt?_substitute forest token "" first slot
      rw [known, Option.map_some] at step
      obtain ⟨now, found, shorter⟩ := inductionHypothesis step
      refine ⟨now, found, shorter.trans ?_⟩
      split
      · rw [toList_replaceToken nonempty]
        exact Text.length_replaceSkipping_nil_le 0
      · exact Nat.le_refl _

/-- A text that held the token is shorter when the token was erased there. -/
theorem textAt?_erased_ne
    (nonempty : token.toList ≠ [])
    {slots : List Slot}
    (member : slot ∈ slots)
    (holds : forest.holdsAt token slot = true) :
    (forest.substituteAll token "" slots).textAt? slot ≠
      forest.textAt? slot := by
  obtain ⟨s, known, occurs⟩ :
      ∃ s, forest.textAt? slot = some s ∧ holdsToken token s = true := by
    simpa [holdsAt, Option.any_eq_true] using holds
  induction slots generalizing forest with
  | nil =>
      cases member
  | cons first rest inductionHypothesis =>
      have step := @textAt?_substitute forest token "" first slot
      rw [known, Option.map_some] at step
      by_cases same : slot = first
      · rw [if_pos same] at step
        obtain ⟨now, found, shorter⟩ :=
          exists_textAt?_erased nonempty rest step
        rw [toList_replaceToken nonempty] at shorter
        have erased := Text.length_replaceSkipping_nil_lt nonempty occurs
        intro unchanged
        have equal : now = s := by
          rw [known] at unchanged
          exact Option.some.inj (found.symm.trans unchanged)
        rw [equal] at shorter
        exact absurd shorter (Nat.not_le.mpr erased)
      · rw [if_neg same] at step
        have inRest := (List.mem_cons.mp member).resolve_left same
        have stillHolds :
            (forest.substitute token "" first).holdsAt token slot = true := by
          rw [holdsAt, step]
          exact occurs
        have changed := inductionHypothesis inRest stillHolds step
        rw [step, ← known] at changed
        exact changed

/--
A forest is left alone by the substitution of every text for a token exactly when
no slot holds the token.
-/
theorem substituteAll_eq_self_iff
    (nonempty : token.toList ≠ [])
    (slots : List Slot) :
    (∀ text, forest.substituteAll token text slots = forest) ↔
      ∀ slot ∈ slots, forest.holdsAt token slot = false := by
  constructor
  · intro unchanged slot member
    rw [← Bool.not_eq_true]
    intro holds
    have changed := textAt?_erased_ne nonempty member holds
    rw [unchanged ""] at changed
    exact changed rfl
  · exact fun absent text => substituteAll_of_not_holdsAt absent

end Forest

/-! ## How far substitutions reach -/

/-- The node that a slot belongs to. -/
def Slot.node : Slot → NodeId
  | .text node => node
  | .attribute element _ => element

namespace Forest

variable {forest : Forest} {token text : String} {slots : List Slot}

/-- Each text has the token replaced as often as its slot is listed. -/
theorem textAt?_substituteAll
    (token text : String)
    (slots : List Slot)
    (slot : Slot) :
    (forest.substituteAll token text slots).textAt? slot =
      (forest.textAt? slot).map (replaceToken token text)^[slots.count slot] := by
  induction slots generalizing forest with
  | nil =>
      simp [substituteAll]
  | cons first rest inductionHypothesis =>
      change ((forest.substitute token text first).substituteAll token text rest).textAt?
        slot = _
      rw [inductionHypothesis, textAt?_substitute, Option.map_map, List.count_cons]
      congr 1
      funext s
      by_cases same : slot = first
      · subst same
        simp [Function.iterate_succ_apply]
      · simp [same, Ne.symm same]

/-- A substitution leaves every node but that of its slot. -/
theorem node?_substitute_of_ne
    {slot : Slot}
    {id : NodeId}
    (apart : id ≠ slot.node) :
    (forest.substitute token text slot).node? id = forest.node? id := by
  rcases slot with node | ⟨element, name⟩
  · have differs : id ≠ node := apart
    simp [substitute, node?_modifyText, differs]
  · have differs : id ≠ element := apart
    rw [substitute, node?_modifyAttributes]
    simp [differs]

theorem node?_substituteAll_of_ne
    {id : NodeId}
    (apart : ∀ slot ∈ slots, id ≠ slot.node) :
    (forest.substituteAll token text slots).node? id = forest.node? id := by
  induction slots generalizing forest with
  | nil =>
      rfl
  | cons first rest inductionHypothesis =>
      obtain ⟨differs, restApart⟩ := List.forall_mem_cons.mp apart
      exact (inductionHypothesis restApart).trans (node?_substitute_of_ne differs)

/-- The slots at a node belong to it. -/
theorem node_of_mem_slotsAt
    {slot : Slot}
    {id : NodeId}
    (member : slot ∈ forest.slotsAt token id) :
    slot.node = id := by
  rw [slotsAt] at member
  split at member
  · split at member
    · rw [List.mem_singleton.mp member]
      rfl
    · cases member
  · obtain ⟨entry, -, rfl⟩ := List.mem_map.mp member
    rfl

/-- The slots of an element belong to it or to nodes below it. -/
theorem atOrAbove_of_mem_slots
    (wellFormed : forest.WellFormed)
    {target : NodeId}
    (isElement : forest.isElement target = true)
    {slot : Slot}
    (member : slot ∈ forest.slots token target) :
    forest.AtOrAbove target slot.node := by
  rw [slots_eq_flatMap isElement] at member
  obtain ⟨id, inside, here⟩ := List.mem_flatMap.mp member
  rw [node_of_mem_slotsAt here]
  exact (mem_target_cons_descendants wellFormed target id).mp inside

end Forest

end PageScript.Document
