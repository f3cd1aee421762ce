import PageScript.Proofs.Run.Deeds

namespace PageScript.Run

open Document Script State

/-!
# Updates reach captured places

An update of a reactive variable replaces its token at the places where an earlier
render has found it while the variable was bound to what it is bound to now.  A render
looks at the element that it fills and at what it fills it with, so later nodes are
never reached, and an older node only if it was itself filled by such a render.
-/

/-! ## Deeds one after another -/

/-- The scene behind deeds in order. -/
def afterAll (deeds : List Deed) (scene : Scene) : Scene :=
  deeds.foldl (fun reached deed => deed.after reached) scene

theorem afterAll_append
    (first last : List Deed)
    (scene : Scene) :
    afterAll (first ++ last) scene = afterAll last (afterAll first scene) :=
  List.foldl_append

/-- Deeds of which none binds a variable anew. -/
def LeaveBound (name : String) : List Deed → Scene → Prop
  | [], _ => True
  | deed :: rest, scene =>
      ¬deed.Rebinds scene.context name ∧ LeaveBound name rest (deed.after scene)

section Runs

variable {scene : Scene} {name : String}

theorem LeaveBound.of_append
    {first last : List Deed}
    (leave : LeaveBound name (first ++ last) scene) :
    LeaveBound name last (afterAll first scene) := by
  induction first generalizing scene with
  | nil =>
      exact leave
  | cons deed rest inductionHypothesis =>
      exact inductionHypothesis leave.2

theorem sound_afterAll
    (deeds : List Deed)
    (sound : scene.context.Sound) :
    (afterAll deeds scene).context.Sound := by
  induction deeds generalizing scene with
  | nil =>
      exact sound
  | cons deed rest inductionHypothesis =>
      exact inductionHypothesis (deed.sound sound)

theorem size_le_afterAll
    (deeds : List Deed)
    (scene : Scene) :
    scene.context.page.forest.nodes.size ≤
      (afterAll deeds scene).context.page.forest.nodes.size := by
  induction deeds generalizing scene with
  | nil =>
      exact Nat.le_refl _
  | cons deed rest inductionHypothesis =>
      exact (deed.size_le scene).trans (inductionHypothesis (deed.after scene))

/-- A variable that is reactive behind deeds that leave it was reactive before them. -/
theorem exists_bound_before
    (sound : scene.context.Sound)
    {deeds : List Deed}
    (leave : LeaveBound name deeds scene)
    {cell : Reactive Subscriber}
    (found : (afterAll deeds scene).context.store.reactiveNamed? name = some cell) :
    ∃ old, scene.context.store.reactiveNamed? name = some old := by
  induction deeds generalizing scene with
  | nil =>
      exact ⟨cell, found⟩
  | cons deed rest inductionHypothesis =>
      obtain ⟨between, known⟩ := inductionHypothesis (deed.sound sound) leave.2 found
      cases deed.explains sound known with
      | anew rebinds _ =>
          exact absurd rebinds leave.1
      | kept _ before _ =>
          exact ⟨_, before⟩

end Runs

/-! ## Where subscribers come from -/

/--
A render fills an element while a variable is reactive, and later deeds leave the variable
bound to what it is bound to then.
-/
structure Captures
    (scene : Scene)
    (render : Deed)
    (later : List Deed)
    (name : String)
    (target : NodeId) : Prop where
  renders : render.Renders scene.context target
  reactive : ∃ cell, scene.context.store.reactiveNamed? name = some cell
  leave : LeaveBound name later (render.after scene)

/-- The places in and below an element that hold the token of a variable behind a deed. -/
def foundSlots
    (scene : Scene)
    (render : Deed)
    (name : String)
    (target : NodeId) : List Slot :=
  (render.after scene).context.page.forest.slots (placeholder name) target

/-- Some render among deeds has found a slot for what a variable is bound to behind them. -/
def Captured
    (start : Scene)
    (deeds : List Deed)
    (name : String)
    (slot : Slot) : Prop :=
  ∃ before render later target,
    deeds = before ++ render :: later ∧
      Captures (afterAll before start) render later name target ∧
      slot ∈ foundSlots (afterAll before start) render name target

/-- A subscriber was there from the start, or a render has captured its slots. -/
theorem exists_origin
    {start : Scene}
    (sound : start.context.Sound)
    {deeds : List Deed}
    {name : String}
    {cell : Reactive Subscriber}
    (found : (afterAll deeds start).context.store.reactiveNamed? name = some cell)
    {subscriber : Subscriber}
    (member : subscriber ∈ cell.subscribers) :
    (LeaveBound name deeds start ∧
        ∃ old,
          start.context.store.reactiveNamed? name = some old ∧
            subscriber ∈ old.subscribers) ∨
      ∃ before render later target,
        deeds = before ++ render :: later ∧
          Captures (afterAll before start) render later name target ∧
          subscriber =
            .substitution (placeholder name)
              (foundSlots (afterAll before start) render name target) := by
  induction deeds generalizing start with
  | nil =>
      exact .inl ⟨trivial, cell, found, member⟩
  | cons deed rest inductionHypothesis =>
      rcases inductionHypothesis (deed.sound sound) found with
        ⟨leave, between, known, there⟩ |
          ⟨before, render, later, target, split, captures, same⟩
      · cases deed.explains sound known with
        | anew _ none =>
            rw [none] at there
            cases there
        | kept unbound earlier origins =>
            rcases origins subscriber there with old | ⟨target, renders, new⟩
            · exact .inl ⟨⟨unbound, leave⟩, _, earlier, old⟩
            · refine
                .inr ⟨[], deed, rest, target, rfl, ⟨renders, ⟨_, earlier⟩, leave⟩, ?_⟩
              rw [subscription] at new
              split at new
              · cases new
              · exact List.mem_singleton.mp new
      · refine .inr ⟨deed :: before, render, later, target, ?_, captures, same⟩
        rw [split, List.cons_append]

/-- A slot that an update reaches is one of some subscriber. -/
theorem exists_subscriber_of_mem_reachedSlots
    {subscribers : List Subscriber}
    {slot : Slot}
    (reached : slot ∈ reachedSlots subscribers) :
    ∃ token slots, Subscriber.substitution token slots ∈ subscribers ∧ slot ∈ slots := by
  induction subscribers with
  | nil =>
      cases reached
  | cons subscriber rest inductionHypothesis =>
      cases subscriber with
      | substitution token slots =>
          rcases List.mem_append.mp reached with here | there
          · exact ⟨token, slots, List.mem_cons_self, here⟩
          · obtain ⟨other, others, member, listed⟩ := inductionHypothesis there
            exact ⟨other, others, List.mem_cons_of_mem _ member, listed⟩
      | probe label fails =>
          rw [reachedSlots] at reached
          split at reached
          · cases reached
          · obtain ⟨other, others, member, listed⟩ := inductionHypothesis reached
            exact ⟨other, others, List.mem_cons_of_mem _ member, listed⟩

/-! ## What a capture reaches -/

section Reach

variable
  {scene : Scene}
  {render : Deed}
  {later : List Deed}
  {name : String}
  {target : NodeId}
  {slot : Slot}

/-- What a render fills becomes the content of its target. -/
theorem exists_replaced_of_renders
    (sound : scene.context.Sound)
    (renders : render.Renders scene.context target) :
    ∃ trees,
      scene.context.page.forest.isElement target = true ∧
        scene.context.page.forest.Replaced (render.after scene).context.page.forest
          target trees := by
  obtain
    ⟨host, line, component, selector, stored, template, trees, rfl, registered, content,
      readable, resolved⟩ :=
    renders
  obtain ⟨reached, done, rendered⟩ :=
    endsIn_render sound registered content readable resolved host line
  refine ⟨trees, (selectFirst_of_resolve resolved).2, ?_⟩
  have same :
      ((Deed.command host ⟨.renderComponent component selector, line⟩).after scene) =
        reached :=
    congrArg (·.2) done
  rw [same]
  exact rendered.replaced

/-- A captured slot belongs to the target or to a node that the render has added. -/
theorem Captures.node_of_mem
    (sound : scene.context.Sound)
    (captures : Captures scene render later name target)
    (member : slot ∈ foundSlots scene render name target) :
    slot.node < (render.after scene).context.page.forest.nodes.size ∧
      (slot.node = target ∨ scene.context.page.forest.nodes.size ≤ slot.node) := by
  obtain ⟨trees, isElement, replaced⟩ :=
    exists_replaced_of_renders sound captures.renders
  have filled : (render.after scene).context.page.forest.isElement target = true := by
    rw [Forest.isElement, replaced.tag? isElement (Forest.lt_size_of_isElement isElement)]
    exact isElement
  have above := Forest.atOrAbove_of_mem_slots replaced.wellFormed filled member
  refine ⟨above.lt_size (Forest.lt_size_of_isElement filled), ?_⟩
  by_contra neither
  obtain ⟨different, old⟩ := not_or.mp neither
  exact replaced.apart slot.node (Nat.lt_of_not_le old) different above

variable {start : Scene} {deeds first last : List Deed}

/-- What was captured is not newer than the last render. -/
theorem Captured.lt_size
    (sound : start.context.Sound)
    (captured : Captured start (first ++ last) name slot)
    (without :
      ∀ host placed,
        Deed.command host placed ∈ last → placed.command.kind ≠ .renderComponent) :
    slot.node < (afterAll first start).context.page.forest.nodes.size := by
  obtain ⟨before, render, later, target, split, captures, member⟩ := captured
  have known := (captures.node_of_mem (sound_afterAll before sound) member).1
  obtain ⟨host, line, component, selector, -, -, -, rfl, -⟩ := captures.renders
  have absent : Deed.command host ⟨.renderComponent component selector, line⟩ ∉ last :=
    fun listed => without host _ listed rfl
  rcases List.append_eq_append_iff.mp split with
    ⟨between, rfl, lastIs⟩ | ⟨between, firstIs, lastIs⟩
  · exact absurd (lastIs ▸ List.mem_append_right between List.mem_cons_self) absent
  · cases between with
    | nil =>
        rw [List.nil_append] at lastIs
        exact absurd (lastIs ▸ List.mem_cons_self) absent
    | cons deed rest =>
        obtain ⟨rfl, rfl⟩ := List.cons.inj lastIs
        rw [firstIs, afterAll_append]
        exact known.trans_le (size_le_afterAll rest _)

/--
What was captured is newer than everything from before a variable was bound to what it is
bound to, apart from the targets of later renders.
-/
theorem Captured.newer
    (sound : start.context.Sound)
    (captured : Captured start (first ++ last) name slot)
    {cell : Reactive Subscriber}
    (bound :
      (afterAll (first ++ last) start).context.store.reactiveNamed? name = some cell)
    (unbound :
      (afterAll first start).context.store.reactiveNamed? name = none ∨
        ¬LeaveBound name last (afterAll first start)) :
    (afterAll first start).context.page.forest.nodes.size ≤ slot.node ∨
      ∃ before render later,
        last = before ++ render :: later ∧
          Captures (afterAll before (afterAll first start)) render later name slot.node := by
  obtain ⟨before, render, later, target, split, captures, member⟩ := captured
  have reach := (captures.node_of_mem (sound_afterAll before sound) member).2
  rcases List.append_eq_append_iff.mp split with
    ⟨between, rfl, rfl⟩ | ⟨between, firstIs, lastIs⟩
  · rw [afterAll_append] at captures reach
    rcases reach with rfl | newer
    · exact .inr ⟨between, render, later, rfl, captures⟩
    · exact .inl ((size_le_afterAll between _).trans newer)
  · cases between with
    | nil =>
        rw [List.nil_append] at lastIs
        rw [List.append_nil] at firstIs
        subst firstIs lastIs
        rcases reach with rfl | newer
        · exact .inr ⟨[], render, later, rfl, captures⟩
        · exact .inl newer
    | cons deed rest =>
        -- The variable was bound at the render and left since then.
        obtain ⟨rfl, rfl⟩ := List.cons.inj lastIs
        have leave : LeaveBound name last (afterAll first start) := by
          rw [firstIs, afterAll_append]
          exact captures.leave.of_append
        rw [afterAll_append] at bound
        obtain ⟨old, known⟩ :=
          exists_bound_before (sound_afterAll first sound) leave bound
        rcases unbound with none | rebound
        · rw [known] at none
          cases none
        · exact absurd leave rebound

end Reach

/-! ## Updates -/

/-- A variable is set by the update function, directly or by a command that calls it. -/
def Deed.Updates
    (context : Context)
    (name : String)
    (value : Value)
    (deed : Deed) : Prop :=
  deed = .update name value ∨
    ∃ host line code,
      deed = .command host ⟨.runAsync code, line⟩ ∧
        entered context code = .ok (.update, [.text name, value])

/-- A command that calls a function leaves the context that the function leaves. -/
theorem context_of_entered
    {scene : Scene}
    {code : String}
    {function : Function}
    {arguments : List Value}
    (entry : entered scene.context code = .ok (function, arguments))
    (host : Host)
    (line : Int) :
    (outcome (execute host ⟨.runAsync code, line⟩) scene).2.context =
      (outcome (function.apply arguments)
        ((scene.logged (announcement ⟨.runAsync code, line⟩)).logged
          ⟨.info, "hsxctl.services.interpreter", "async.run",
            [("code", .text code)]⟩)).2.context := by
  have called := outcome_call code (scene.atCall code line)
  rw [Scene.atCall, Scene.context_logged, Scene.context_logged, entry] at called
  dsimp only at called
  rw [outcome_execute_runAsync, outcome_bind, Scene.atCall, called]
  rcases outcome (function.apply arguments) _ with ⟨fault | answer, reached⟩ <;> rfl

/-- An update changes the value of its variable and the places of its subscribers. -/
theorem context_of_updates
    {scene : Scene}
    {deed : Deed}
    {name : String}
    {value : Value}
    {cell : Reactive Subscriber}
    (updates : deed.Updates scene.context name value)
    (found : scene.context.store.reactiveNamed? name = some cell)
    (nonempty : name ≠ "")
    (own :
      ∀ token slots,
        Subscriber.substitution token slots ∈ cell.subscribers →
          token = placeholder name) :
    (deed.after scene).context =
      { scene.context with
        store :=
          { scene.context.store with
            bindings :=
              scene.context.store.bindings.insert (.text name)
                (.reactive (cell.store value)) }
        page :=
          { scene.context.page with
            forest :=
              scene.context.page.forest.substituteAll (placeholder name)
                (substitutionText value) (reachedSlots cell.subscribers) } } := by
  rcases updates with rfl | ⟨host, line, code, rfl, entry⟩
  · exact context_update found nonempty own value
  · exact
      (context_of_entered entry host line).trans
        (@context_update ((scene.logged _).logged _) name cell found nonempty own value)

/-- An update changes captured places alone. -/
structure RewordsCaptured
    (start : Scene)
    (earlier : List Deed)
    (name : String)
    (value : Value)
    (before after : Forest) : Prop where
  /-- Nodes, tags, nesting and the names of attributes stay. -/
  shape : after.shape = before.shape
  /-- A text stays, or it was captured and has the token replaced, maybe repeatedly. -/
  texts :
    ∀ slot,
      after.textAt? slot = before.textAt? slot ∨
        Captured start earlier name slot ∧
          ∃ times,
            after.textAt? slot =
              (before.textAt? slot).map
                (replaceToken (placeholder name) (substitutionText value))^[times]
  /-- Nodes that were made after the last render stay. -/
  newer :
    ∀ first last,
      earlier = first ++ last →
        (∀ host placed,
          Deed.command host placed ∈ last → placed.command.kind ≠ .renderComponent) →
          ∀ id,
            (afterAll first start).context.page.forest.nodes.size ≤ id →
              after.node? id = before.node? id
  /--
  Nodes from before the variable was bound to what it is bound to stay, unless a render
  since then has filled them.
  -/
  older :
    ∀ first last,
      earlier = first ++ last →
        ((afterAll first start).context.store.reactiveNamed? name = none ∨
          ¬LeaveBound name last (afterAll first start)) →
          ∀ id : Nat,
            id < (afterAll first start).context.page.forest.nodes.size →
              (∀ before render later,
                last = before ++ render :: later →
                  ¬Captures (afterAll before (afterAll first start)) render later name
                    id) →
                after.node? id = before.node? id

/--
Whatever commands and updates come before it on a context that nobody listens to yet, an
update of a reactive variable sets this variable and changes the places that earlier
renders have captured for it, where it replaces the token, and nothing else.
-/
theorem updates_reach_captured_places_alone
    (start : Scene)
    (sound : start.context.Sound)
    (unheard :
      ∀ name cell,
        start.context.store.reactiveNamed? name = some cell → cell.subscribers = [])
    (earlier : List Deed)
    (step : Deed)
    (name : String)
    (value : Value)
    (cell : Reactive Subscriber)
    (bound : (afterAll earlier start).context.store.reactiveNamed? name = some cell)
    (updates : step.Updates (afterAll earlier start).context name value) :
    ∃ forest,
      (step.after (afterAll earlier start)).context =
          { (afterAll earlier start).context with
            store :=
              { (afterAll earlier start).context.store with
                bindings :=
                  (afterAll earlier start).context.store.bindings.insert (.text name)
                    (.reactive (cell.store value)) }
            page := { (afterAll earlier start).context.page with forest := forest } } ∧
        RewordsCaptured start earlier name value
          (afterAll earlier start).context.page.forest forest := by
  have soundNow := sound_afterAll earlier sound
  have origins :
      ∀ subscriber ∈ cell.subscribers,
        ∃ before render later target,
          earlier = before ++ render :: later ∧
            Captures (afterAll before start) render later name target ∧
            subscriber =
              .substitution (placeholder name)
                (foundSlots (afterAll before start) render name target) := by
    intro subscriber member
    rcases exists_origin sound bound member with ⟨-, old, known, there⟩ | origin
    · rw [unheard name old known] at there
      cases there
    · exact origin
  have own :
      ∀ token slots,
        Subscriber.substitution token slots ∈ cell.subscribers →
          token = placeholder name := by
    intro token slots member
    obtain ⟨_, _, _, _, -, -, same⟩ := origins _ member
    exact (Subscriber.substitution.inj same).1
  have captured :
      ∀ slot ∈ reachedSlots cell.subscribers, Captured start earlier name slot := by
    intro slot reached
    obtain ⟨token, slots, member, listed⟩ := exists_subscriber_of_mem_reachedSlots reached
    obtain ⟨before, render, later, target, split, captures, same⟩ := origins _ member
    rw [(Subscriber.substitution.inj same).2] at listed
    exact ⟨before, render, later, target, split, captures, listed⟩
  have nonempty := soundNow.store.ne_empty_of_reactiveNamed? bound
  refine ⟨_, context_of_updates updates bound nonempty own, ?_⟩
  refine
    { shape := Forest.shape_substituteAll _ _ _
      texts := ?_
      newer := ?_
      older := ?_ }
  · intro slot
    rw [Forest.textAt?_substituteAll]
    by_cases reached : slot ∈ reachedSlots cell.subscribers
    · exact .inr ⟨captured slot reached, _, rfl⟩
    · rw [List.count_eq_zero_of_not_mem reached]
      simp
  · rintro first last rfl without id new
    refine Forest.node?_substituteAll_of_ne fun slot reached => ?_
    have known := (captured slot reached).lt_size sound without
    rintro rfl
    exact absurd known (Nat.not_lt.mpr new)
  · rintro first last rfl unbound id old unfilled
    refine Forest.node?_substituteAll_of_ne fun slot reached => ?_
    rintro rfl
    rcases (captured slot reached).newer sound bound unbound with
      newer | ⟨before, render, later, split, captures⟩
    · exact absurd old (Nat.not_lt.mpr newer)
    · exact unfilled before render later split captures

/-- A card whose title holds a token is rendered into the body. -/
def cardDeeds : List Deed :=
  [.command .runtime ⟨.defineComponent "card" "<p title=\"\x7b\x7bn\x7d\x7d\"></p>", 1⟩,
    .command .runtime ⟨.renderComponent "card" "body", 2⟩]

/-- The variable of the token becomes reactive, and a note is rendered into the card. -/
def noteDeeds : List Deed :=
  [.command .runtime ⟨.setVariable "n" "1" true, 3⟩,
    .command .runtime ⟨.defineComponent "note" "Hi \x7b\x7bn\x7d\x7d", 4⟩,
    .command .runtime ⟨.renderComponent "note" "p", 5⟩]

/-- The note in the card takes part in the next update. -/
theorem updates_reach_captured_places_alone_of_note :
    ∃ cell forest,
      bareScene.context.Sound ∧
        (afterAll (cardDeeds ++ noteDeeds) bareScene).context.store.reactiveNamed? "n" =
          some cell ∧
        ((Deed.update "n" (.text "Ada")).after
              (afterAll (cardDeeds ++ noteDeeds) bareScene)).context.page.forest =
            forest ∧
          RewordsCaptured bareScene (cardDeeds ++ noteDeeds) "n" (.text "Ada")
            (afterAll (cardDeeds ++ noteDeeds) bareScene).context.page.forest forest := by
  have sound : bareScene.context.Sound := ⟨Page.framed_blank, Store.wellFormed_unbound _⟩
  obtain ⟨cell, bound⟩ :=
    Option.isSome_iff_exists.mp
      (show
        ((afterAll (cardDeeds ++ noteDeeds) bareScene).context.store.reactiveNamed?
            "n").isSome = true by
        decide +kernel)
  obtain ⟨forest, context, rewords⟩ :=
    updates_reach_captured_places_alone bareScene sound nofun (cardDeeds ++ noteDeeds)
      (.update "n" (.text "Ada")) "n" (.text "Ada") cell bound (.inl rfl)
  exact ⟨cell, forest, sound, bound, congrArg (·.page.forest) context, rewords⟩

/--
The card was rendered before the variable became reactive, and still its title changes
with the variable, because the note was rendered into the card since then.
-/
theorem filled_card_changes_with_later_variable :
    (afterAll cardDeeds bareScene).context.store.reactiveNamed? "n" = none ∧
      3 < (afterAll cardDeeds bareScene).context.page.forest.nodes.size ∧
      (afterAll (cardDeeds ++ noteDeeds) bareScene).context.page.forest.textAt?
          (.attribute 3 "title") =
        some "\x7b\x7bn\x7d\x7d" ∧
      ((Deed.update "n" (.text "Ada")).after
              (afterAll (cardDeeds ++ noteDeeds)
                bareScene)).context.page.forest.textAt?
          (.attribute 3 "title") =
        some "Ada" := by
  refine ⟨Option.isNone_iff_eq_none.mp ?_, ?_, ?_, ?_⟩ <;> decide +kernel

end PageScript.Run
