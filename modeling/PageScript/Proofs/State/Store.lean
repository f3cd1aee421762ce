import PageScript.Proofs.Table
import PageScript.State.Store

namespace PageScript.State

/-!
# Reactive variables in a store

A store binds no name twice and no empty name, its reactive variables are named
by texts, and every binding keeps it so.  The reactive variables that a store
lists are then exactly the ones that it finds by name, and a change of one of
them leaves the others.  Subscribing changes nothing that a reader can tell: with all
subscribers taken out, the store before and the store after are the same.
-/

/-- The reactive variable that a binding is. -/
def Binding.cell? : Binding → Option (Reactive Subscriber)
  | plain _ => none
  | reactive cell => some cell

/-- A binding with its subscribers taken out. -/
def Binding.silent : Binding → Binding
  | plain value => .plain value
  | reactive cell => .reactive { cell with subscribers := [] }

namespace Store

/--
No name is bound twice, no empty name is bound, and reactive variables are bound
to texts.
-/
structure WellFormed (store : Store) : Prop where
  distinct :
    store.bindings.entries.Pairwise fun earlier later =>
      (earlier.1 == later.1) = false
  named :
    ∀ entry ∈ store.bindings.entries, entry.1.isTruthy = true
  textual :
    ∀ entry ∈ store.bindings.entries,
      ∀ cell,
        entry.2 = .reactive cell →
          ∃ name, entry.1 = .text name

variable {store changed : Store} {name : String}

theorem wellFormed_unbound
    (components : Table Value Component) :
    WellFormed { components := components } :=
  ⟨.nil, List.forall_mem_nil _, List.forall_mem_nil _⟩

/--
Binding a key in a list of bindings keeps the keys or adds one that is new.
-/
theorem insertEntry_cases
    (key : Value)
    (binding : Binding)
    (entries : List (Value × Binding)) :
    (Table.insertEntry key binding entries).map (·.1) = entries.map (·.1) ∨
      Table.insertEntry key binding entries = entries ++ [(key, binding)] ∧
        ∀ entry ∈ entries, (entry.1 == key) = false := by
  induction entries with
  | nil =>
      exact .inr ⟨rfl, List.forall_mem_nil _⟩
  | cons entry rest inductionHypothesis =>
      rw [Table.insertEntry]
      cases same : entry.1 == key with
      | true =>
          exact .inl rfl
      | false =>
          rcases inductionHypothesis with kept | ⟨added, fresh⟩
          · exact .inl (congrArg (entry.1 :: ·) kept)
          · exact
              .inr
                ⟨congrArg (entry :: ·) added,
                  List.forall_mem_cons.mpr ⟨same, fresh⟩⟩

/-- After a key is bound, a binding is an old one or the new one of that key. -/
theorem mem_insertEntry
    {key : Value}
    {binding : Binding}
    {entries : List (Value × Binding)}
    {entry : Value × Binding}
    (member : entry ∈ Table.insertEntry key binding entries) :
    entry ∈ entries ∨
      entry.2 = binding ∧ (entry.1 = key ∨ (entry.1 == key) = true) := by
  induction entries with
  | nil =>
      rw [List.mem_singleton.mp member]
      exact .inr ⟨rfl, .inl rfl⟩
  | cons first rest inductionHypothesis =>
      rw [Table.insertEntry] at member
      split at member
      · next same =>
          rcases List.mem_cons.mp member with rfl | inRest
          · exact .inr ⟨rfl, .inr same⟩
          · exact .inl (List.mem_cons_of_mem _ inRest)
      · rcases List.mem_cons.mp member with rfl | inRest
        · exact .inl List.mem_cons_self
        · rcases inductionHypothesis inRest with old | new
          · exact .inl (List.mem_cons_of_mem _ old)
          · exact .inr new

/-- What a binding that succeeds changes. -/
theorem eq_of_bind
    {binding : Binding}
    (bound : store.bind key binding = .ok changed) :
    changed = { store with bindings := store.bindings.insert key binding } := by
  rw [bind] at bound
  split at bound
  · cases bound
  · split at bound
    · cases bound
    · cases bound
      rfl

/-- Binding a variable keeps a store well formed if a reactive one is named by a text. -/
theorem WellFormed.bind
    (wellFormed : store.WellFormed)
    {key : Value}
    {binding : Binding}
    (textual : ∀ cell, binding = .reactive cell → ∃ name, key = .text name)
    (bound : store.bind key binding = .ok changed) :
    changed.WellFormed := by
  have truthy : key.isTruthy = true := by
    cases truth : key.isTruthy with
    | true =>
        rfl
    | false =>
        rw [Store.bind, truth] at bound
        cases bound
  obtain rfl := eq_of_bind bound
  have textualAfter :
      ∀ entry ∈ Table.insertEntry key binding store.bindings.entries,
        ∀ cell,
          entry.2 = .reactive cell →
            ∃ name, entry.1 = .text name := by
    intro entry member cell isReactive
    rcases mem_insertEntry member with old | ⟨isNew, sameKey⟩
    · exact wellFormed.textual entry old cell isReactive
    · obtain ⟨name, rfl⟩ := textual cell (isNew.symm.trans isReactive)
      rcases sameKey with same | equal
      · exact ⟨name, same⟩
      · exact ⟨name, (isExactKey_text name _).mp equal⟩
  have keysDistinct :
      (store.bindings.entries.map (·.1)).Pairwise fun earlier later =>
        (earlier == later) = false :=
    List.pairwise_map.mpr wellFormed.distinct
  -- A key that is there keeps its place, and a new one is distinct from all.
  rcases insertEntry_cases key binding store.bindings.entries with
    kept | ⟨added, fresh⟩
  · refine ⟨?_, ?_, textualAfter⟩
    · rw [← kept] at keysDistinct
      exact List.pairwise_map.mp keysDistinct
    · intro entry member
      have keyMember := List.mem_map_of_mem (f := (·.1)) member
      change entry.1 ∈ (Table.insertEntry key binding _).map (·.1) at keyMember
      rw [kept] at keyMember
      obtain ⟨old, oldMember, sameKey⟩ := List.mem_map.mp keyMember
      rw [← sameKey]
      exact wellFormed.named old oldMember
  · refine ⟨?_, ?_, textualAfter⟩
    · change (Table.insertEntry key binding _).Pairwise _
      rw [added]
      refine List.pairwise_append.mpr
        ⟨wellFormed.distinct, List.pairwise_singleton _ _, ?_⟩
      intro entry member last isLast
      rw [List.mem_singleton.mp isLast]
      exact fresh entry member
    · change ∀ entry ∈ Table.insertEntry key binding _, _
      rw [added]
      exact List.forall_mem_append.mpr
        ⟨wellFormed.named, List.forall_mem_singleton.mpr truthy⟩

/-! ## Reactive variables by name -/

/-- The reactive variable that a text is bound to. -/
def reactiveNamed?
    (store : Store)
    (name : String) :
    Option (Reactive Subscriber) :=
  match store.bindings.get? (.text name) with
  | some (.reactive cell) => some cell
  | _ => none

/-- A text can be asked for a reactive variable. -/
theorem reactive?_text
    (store : Store)
    (name : String) :
    store.reactive? (.text name) = .ok (store.reactiveNamed? name) := by
  rw [reactive?, reactiveNamed?]
  change
    (match store.bindings.get? (.text name) with
      | some (.reactive cell) => Except.ok (some cell)
      | _ => .ok none) = _
  split <;> rfl

/-- A text with characters can be bound. -/
theorem bind_text
    (store : Store)
    (nonempty : name ≠ "")
    (binding : Binding) :
    store.bind (.text name) binding =
      .ok
        { store with
          bindings := store.bindings.insert (.text name) binding } := by
  have truthy : (Value.text name).isTruthy = true := by
    rw [Value.isTruthy, Bool.not_eq_true', String.isEmpty_eq_false_iff]
    exact nonempty
  rw [bind, truthy]
  rfl

/-- Behind a binding a variable is reactive as it is bound, and others are as before. -/
theorem reactiveNamed?_insert_binding
    (name : String)
    (binding : Binding)
    (other : String) :
    reactiveNamed?
        { store with bindings := store.bindings.insert (.text name) binding } other =
      if other = name then binding.cell? else store.reactiveNamed? other := by
  by_cases same : other = name
  · rw [if_pos same, same, reactiveNamed?,
      Table.get?_insert_self (isExactKey_text name)]
    cases binding <;> rfl
  · have different : Value.text other ≠ Value.text name :=
      fun equal => same (Value.text.inj equal)
    rw [if_neg same, reactiveNamed?, reactiveNamed?,
      Table.get?_insert_of_ne (isExactKey_text name) (isExactKey_text other) different]

/--
After a reactive variable is bound, it is found by its name, and others are as
before.
-/
theorem reactiveNamed?_insert
    (cell : Reactive Subscriber)
    (other : String) :
    reactiveNamed?
        { store with
          bindings := store.bindings.insert (.text name) (.reactive cell) }
        other =
      if other = name then some cell else store.reactiveNamed? other :=
  reactiveNamed?_insert_binding name (.reactive cell) other

/-- In a well-formed store a listed binding of a text is found by its name. -/
theorem WellFormed.get?_text
    (wellFormed : store.WellFormed)
    {binding : Binding}
    (member : (Value.text name, binding) ∈ store.bindings.entries) :
    store.bindings.get? (.text name) = some binding := by
  rcases store with ⟨⟨entries⟩, components⟩
  have distinct := wellFormed.distinct
  dsimp only at distinct member ⊢
  clear wellFormed
  induction entries with
  | nil =>
      cases member
  | cons entry rest inductionHypothesis =>
      obtain ⟨apart, restDistinct⟩ := List.pairwise_cons.mp distinct
      rw [Table.get?_cons]
      rcases List.mem_cons.mp member with rfl | inRest
      · rw [if_pos ((isExactKey_text name _).mpr rfl)]
      · rw [if_neg (Bool.eq_false_iff.mp (apart _ inRest)),
          inductionHypothesis inRest restDistinct]

/--
In a well-formed store the listed reactive variables are those that are found by
name.
-/
theorem WellFormed.mem_reactives
    (wellFormed : store.WellFormed)
    {cell : Reactive Subscriber} :
    (Value.text name, cell) ∈ store.reactives ↔
      store.reactiveNamed? name = some cell := by
  rw [reactives, List.mem_filterMap, reactiveNamed?]
  constructor
  · rintro ⟨⟨key, binding⟩, member, listed⟩
    cases binding with
    | plain value =>
        cases listed
    | reactive found =>
        cases listed
        rw [wellFormed.get?_text member]
  · intro found
    split at found
    · next other known =>
        cases found
        obtain ⟨⟨key, binding⟩, first, rfl⟩ :=
          Option.map_eq_some_iff.mp known
        have sameKey := List.find?_some first
        obtain rfl := (isExactKey_text name key).mp sameKey
        exact ⟨_, List.mem_of_find?_eq_some first, rfl⟩
    · cases found

theorem WellFormed.ne_empty_of_reactiveNamed?
    (wellFormed : store.WellFormed)
    {cell : Reactive Subscriber}
    (found : store.reactiveNamed? name = some cell) :
    name ≠ "" := by
  obtain ⟨⟨key, binding⟩, member, listed⟩ :=
    List.mem_filterMap.mp (wellFormed.mem_reactives.mpr found)
  have truthy := wellFormed.named _ member
  rintro rfl
  cases binding with
  | plain value =>
      cases listed
  | reactive found =>
      cases listed
      cases truthy

/-- In a well-formed store no reactive variable is listed twice. -/
theorem WellFormed.nodup_names
    (wellFormed : store.WellFormed)
    {names : List String}
    (texts : store.reactives.map (·.1) = names.map Value.text) :
    names.Nodup := by
  have distinct :
      (store.reactives.map (·.1)).Pairwise fun earlier later =>
        (earlier == later) = false := by
    refine List.pairwise_map.mpr ?_
    refine wellFormed.distinct.filterMap _ ?_
    rintro ⟨earlier, earlierBinding⟩ ⟨later, laterBinding⟩ apart
      earlierCell earlierListed laterCell laterListed
    cases earlierBinding with
    | plain value =>
        cases earlierListed
    | reactive cell =>
        cases earlierListed
        cases laterBinding with
        | plain value =>
            cases laterListed
        | reactive other =>
            cases laterListed
            exact apart
  rw [texts] at distinct
  refine (List.pairwise_map.mp distinct).imp ?_
  rintro earlier _ apart rfl
  rw [(isExactKey_text earlier _).mpr rfl] at apart
  cases apart

/-- The reactive variables of a well-formed store are listed by their names. -/
theorem WellFormed.exists_names
    (wellFormed : store.WellFormed) :
    ∃ names : List String,
      store.reactives.map (·.1) = names.map Value.text ∧
        names.Nodup ∧
        ∀ name,
          name ∈ names ↔ ∃ cell, store.reactiveNamed? name = some cell := by
  have texts :
      ∀ listed : List (Value × Reactive Subscriber),
        (∀ entry ∈ listed, ∃ name, entry.1 = Value.text name) →
          ∃ names : List String,
            listed.map (·.1) = names.map Value.text := by
    intro listed
    induction listed with
    | nil =>
        exact fun _ => ⟨[], rfl⟩
    | cons entry rest inductionHypothesis =>
        intro textual
        obtain ⟨⟨name, isText⟩, restTextual⟩ :=
          List.forall_mem_cons.mp textual
        obtain ⟨names, rest⟩ := inductionHypothesis restTextual
        refine ⟨name :: names, ?_⟩
        rw [List.map_cons, List.map_cons, isText, rest]
  have textual :
      ∀ entry ∈ store.reactives, ∃ name, entry.1 = Value.text name := by
    rintro ⟨key, cell⟩ member
    obtain ⟨⟨bound, binding⟩, inStore, listed⟩ := List.mem_filterMap.mp member
    cases binding with
    | plain value =>
        cases listed
    | reactive found =>
        cases listed
        exact wellFormed.textual _ inStore _ rfl
  obtain ⟨names, namesAre⟩ := texts store.reactives textual
  refine ⟨names, namesAre, wellFormed.nodup_names namesAre, fun name => ?_⟩
  constructor
  · intro member
    have key : Value.text name ∈ store.reactives.map (·.1) := by
      rw [namesAre]
      exact List.mem_map_of_mem member
    obtain ⟨⟨_, cell⟩, inStore, rfl⟩ := List.mem_map.mp key
    exact ⟨cell, wellFormed.mem_reactives.mp inStore⟩
  · rintro ⟨cell, found⟩
    have member :=
      List.mem_map_of_mem (f := (·.1)) (wellFormed.mem_reactives.mpr found)
    rw [namesAre] at member
    obtain ⟨same, sameMember, equal⟩ := List.mem_map.mp member
    exact Value.text.inj equal ▸ sameMember

/-! ## Who listens -/

section Listening

variable {key : Value} {cell : Reactive Subscriber}

/-- A store with all subscribers taken out. -/
def silent (store : Store) : Store :=
  { store with bindings := store.bindings.mapValues Binding.silent }

/-- A reactive variable that is found is what its name is bound to. -/
theorem get?_of_reactive?
    (found : store.reactive? key = .ok (some cell)) :
    store.bindings.get? key = some (.reactive cell) := by
  rw [reactive?] at found
  split at found
  · cases found
  · split at found
    · next known =>
        cases found
        exact known
    · cases found

/-- In a well-formed store a reactive variable is found by texts alone. -/
theorem WellFormed.exists_text_of_reactive?
    (wellFormed : store.WellFormed)
    (found : store.reactive? key = .ok (some cell)) :
    ∃ name, key = .text name := by
  obtain ⟨⟨bound, binding⟩, first, rfl⟩ :=
    Option.map_eq_some_iff.mp (get?_of_reactive? found)
  obtain ⟨name, rfl⟩ :=
    wellFormed.textual _ (List.mem_of_find?_eq_some first) cell rfl
  have same := List.find?_some first
  change Value.same (.text name) key = true at same
  refine ⟨name, ?_⟩
  cases key <;> simp_all [Value.same, Value.integer?]

/-- What a definition that succeeds changes. -/
theorem eq_of_define
    {name content : Value}
    (defined : store.define name content = .ok changed) :
    changed =
      { store with components := store.components.insert name ⟨name, content⟩ } := by
  rw [define] at defined
  split at defined
  · cases defined
  · split at defined
    · cases defined
    · cases defined
      rfl

/-! ## Subscribing -/

/-- One more subscriber leaves a store the same to its readers. -/
theorem silent_of_subscribe
    {subscriber : Subscriber}
    (found : store.reactive? key = .ok (some cell))
    (bound : store.bind key (.reactive (cell.subscribe subscriber)) = .ok changed) :
    changed.silent = store.silent := by
  have same :
      (store.bindings.insert key (.reactive (cell.subscribe subscriber))).mapValues
          Binding.silent =
        store.bindings.mapValues Binding.silent :=
    Table.mapValues_insert_of_get? (get?_of_reactive? found) rfl
  rw [eq_of_bind bound, silent, same, silent]

/--
A store with at most one more subscriber for each reactive variable, behind those it had
before.
-/
structure Listening (before after : Store) : Prop where
  silent : after.silent = before.silent
  cells :
    ∀ name cell,
      before.reactiveNamed? name = some cell →
        ∃ more : List Subscriber,
          more.length ≤ 1 ∧
            after.reactiveNamed? name =
              some { cell with subscribers := cell.subscribers ++ more }

/-! ## Listeners that were there before -/

/--
The reactive variables of a store were reactive in an earlier one, with the same
subscribers.
-/
def Inherits (store earlier : Store) : Prop :=
  ∀ name cell,
    store.reactiveNamed? name = some cell →
      ∃ old,
        earlier.reactiveNamed? name = some old ∧ cell.subscribers = old.subscribers

namespace Inherits

theorem refl
    (store : Store) :
    store.Inherits store :=
  fun _ cell found => ⟨cell, found, rfl⟩

theorem trans
    {last middle first : Store}
    (later : last.Inherits middle)
    (earlier : middle.Inherits first) :
    last.Inherits first := by
  intro name cell found
  obtain ⟨between, known, same⟩ := later name cell found
  obtain ⟨old, knownBefore, sameBefore⟩ := earlier name between known
  exact ⟨old, knownBefore, same.trans sameBefore⟩

/-- A plain value takes a variable from its listeners and gives it none. -/
theorem of_bind_plain
    {value : Value}
    (bound : store.bind key (.plain value) = .ok changed) :
    changed.Inherits store := by
  intro name cell found
  refine ⟨cell, ?_, rfl⟩
  rw [eq_of_bind bound, reactiveNamed?] at found
  split at found
  · next other known =>
      cases found
      rcases Table.eq_or_get?_of_get?_insert known with new | old
      · cases new
      · rw [reactiveNamed?, old]
  · cases found

/-- A new value of a reactive variable leaves its listeners. -/
theorem of_bind_value
    (wellFormed : store.WellFormed)
    {value : Value}
    (found : store.reactive? key = .ok (some cell))
    (bound : store.bind key (.reactive (cell.store value)) = .ok changed) :
    changed.Inherits store := by
  obtain ⟨variableName, rfl⟩ := wellFormed.exists_text_of_reactive? found
  rw [reactive?_text] at found
  have known : store.reactiveNamed? variableName = some cell := Except.ok.inj found
  intro name now
  rw [eq_of_bind bound, reactiveNamed?_insert]
  intro foundAfter
  split at foundAfter
  · next same =>
      cases foundAfter
      rw [same]
      exact ⟨cell, known, rfl⟩
  · exact ⟨now, foundAfter, rfl⟩

end Inherits

end Listening

end Store

end PageScript.State
