import PageScript.Proofs.Run.Piece
import PageScript.Proofs.Run.Shown

namespace PageScript.Run

open Document Markup State

/-!
# Setting a variable again

Every update of a reactive variable replaces its token wherever the variable was
bound.  After the first one there is usually nothing left to replace, so a second
value shows nowhere.  It shows exactly where the first update left the token
behind: a value can hold the token itself, or complete it with the characters
around it.
-/

/-- The slots that an update reaches: it stops at the first subscriber that fails. -/
def reachedSlots : List Subscriber → List Slot
  | [] => []
  | .substitution _ slots :: rest => slots ++ reachedSlots rest
  | .probe _ fails :: rest => if fails then [] else reachedSlots rest

/-- Every substitution that a reactive variable is told about is for its own token. -/
def OwnTokens (store : Store) : Prop :=
  ∀ name cell,
    store.reactiveNamed? name = some cell →
      ∀ token slots,
        Subscriber.substitution token slots ∈ cell.subscribers →
          token = placeholder name

/-! ## One update -/

/-- Telling subscribers about a value replaces their token at the slots it reaches. -/
theorem context_tellSubscribers
    {token : String}
    {subscribers : List Subscriber}
    (own :
      ∀ other slots,
        Subscriber.substitution other slots ∈ subscribers → other = token)
    (value : Value)
    (scene : Scene) :
    (outcome (tellSubscribers value subscribers) scene).2.context =
      (scene.withForest
        (scene.context.page.forest.substituteAll token
          (substitutionText value) (reachedSlots subscribers))).context := by
  induction subscribers generalizing scene with
  | nil =>
      rfl
  | cons subscriber rest inductionHypothesis =>
      have restOwn :
          ∀ other slots,
            Subscriber.substitution other slots ∈ rest → other = token :=
        fun other slots member =>
          own other slots (List.mem_cons_of_mem _ member)
      have others := inductionHypothesis restOwn
      cases subscriber with
      | substitution other slots =>
          obtain rfl := own other slots List.mem_cons_self
          have told :
              outcome (tellSubscriber value (.substitution other slots))
                  scene =
                (.ok (),
                  scene.withForest
                    (scene.context.page.forest.substituteAll other
                      (substitutionText value) slots)) :=
            rfl
          rw [tellSubscribers, outcome_bind_ok told, others]
          simp [Scene.withForest, reachedSlots, Forest.substituteAll]
      | probe label fails =>
          cases fails with
          | true =>
              rfl
          | false =>
              exact others _

/-- An update of a reactive variable tells its subscribers. -/
theorem context_update
    {scene : Scene}
    {name : String}
    {cell : Reactive Subscriber}
    (found : scene.context.store.reactiveNamed? name = some cell)
    (nonempty : name ≠ "")
    (own :
      ∀ token slots,
        Subscriber.substitution token slots ∈ cell.subscribers →
          token = placeholder name)
    (value : Value) :
    (outcome (Function.update.apply [.text name, value]) scene).2.context =
      { scene.context with
        store :=
          { scene.context.store with
            bindings :=
              scene.context.store.bindings.insert (.text name)
                (.reactive (cell.store value)) }
        page :=
          { scene.context.page with
            forest :=
              scene.context.page.forest.substituteAll (placeholder name)
                (substitutionText value) (reachedSlots cell.subscribers) } } := by
  have fits :
      checkArity Function.update.arity [Value.text name, value].length = .ok () :=
    rfl
  have updated :
      outcome (updateVariable (.text name) value) scene =
        outcome (tellSubscribers value cell.subscribers)
          (scene.withStore
            { scene.context.store with
              bindings :=
                scene.context.store.bindings.insert (.text name)
                  (.reactive (cell.store value)) }) := by
    rw [updateVariable, outcome_get_bind, Store.reactive?_text, found]
    change outcome (setReactive (.text name) value cell) scene = _
    rw [setReactive, outcome_get_bind, Store.bind_text _ nonempty]
    rfl
  have told :=
    context_tellSubscribers own value
      (scene.withStore
        { scene.context.store with
          bindings :=
            scene.context.store.bindings.insert (.text name)
              (.reactive (cell.store value)) })
  have run :
      (outcome (Function.update.apply [.text name, value]) scene).2 =
        (outcome (updateVariable (.text name) value) scene).2 := by
    rw [Function.apply, fits, outcome_bind_ok (outcome_require_ok _ _ _)]
    change
      (outcome
        (updateVariable (.text name) value >>= fun _ => pure Value.null)
        scene).2 = _
    rw [outcome_bind]
    rcases outcome (updateVariable (.text name) value) scene with
      ⟨result, reached⟩
    cases result <;> rfl
  rw [run, updated, told]
  rfl

/-! ## Rendering -/

theorem keeps_store_setContent
    (target : NodeId)
    (markup : String) :
    Keeps (·.context.store) (setContent target markup) :=
  .get_bind fun _ => .bind (fun _ => rfl) fun _ => .require _ _

theorem keeps_store_resolve
    (selector : String) :
    Keeps (·.context.store) (resolve selector) := by
  refine .get_bind fun scene => ?_
  dsimp only
  split
  · exact .pure _
  · exact .bind (fun _ => rfl) fun _ => .pure _

theorem keeps_store_warnAs
    (logger message : String) :
    Keeps (·.context.store) (warnAs logger message) :=
  .bind (fun _ => rfl) fun _ _ => rfl

/-- Writing a component into the page changes no variable. -/
theorem keeps_store_renderInto
    (name selector : String) :
    Keeps (·.context.store) (renderInto name selector) := by
  refine .get_bind fun scene => ?_
  split
  · exact .bind (keeps_store_warnAs _ _) fun _ => .pure _
  · refine .bind (keeps_store_resolve selector) fun found => ?_
    cases found with
    | none =>
        exact .bind (keeps_store_warnAs _ _) fun _ => .pure _
    | some target =>
        refine .bind ?_ fun _ => .pure _
        rw [writeTemplate.eq_def]
        split
        · exact keeps_store_setContent target _
        · exact .bind (keeps_store_setContent target _) fun _ => .throw _

/-- Binding the variables of a page subscribes some of them. -/
theorem exists_subscribed_bindReactivity
    {scene : Scene}
    (wellFormed : scene.context.store.WellFormed)
    (target : NodeId) :
    ∃ count names store,
      outcome (bindReactivity target) scene =
          (.ok count, scene.withStore store) ∧
        Subscribed scene.context.page.forest target names
          scene.context.store store := by
  obtain ⟨names, texts, nodup, mem_names⟩ := wellFormed.exists_names
  have known :
      ∀ name ∈ names,
        name ≠ "" ∧
          ∃ cell, scene.context.store.reactiveNamed? name = some cell := by
    intro name member
    obtain ⟨cell, found⟩ := (mem_names name).mp member
    exact ⟨wellFormed.ne_empty_of_reactiveNamed? found, cell, found⟩
  obtain ⟨count, store, bound, subscribed⟩ :=
    exists_bindVariables target nodup known
  refine ⟨count, names, store, ?_, subscribed⟩
  rw [bindReactivity, outcome_get_bind, texts]
  exact bound

/-- What a store has after some of its variables got subscriptions. -/
theorem Subscribed.exists_before
    {forest : Forest}
    {target : NodeId}
    {names : List String}
    {before after : Store}
    (subscribed : Subscribed forest target names before after)
    {name : String}
    {cell : Reactive Subscriber}
    (found : after.reactiveNamed? name = some cell) :
    ∃ old,
      before.reactiveNamed? name = some old ∧
        ∀ subscriber ∈ cell.subscribers,
          subscriber ∈ old.subscribers ∨
            subscriber ∈ subscription forest target name := by
  rw [subscribed.cells] at found
  split at found
  · obtain ⟨old, known, rfl⟩ := Option.map_eq_some_iff.mp found
    exact ⟨old, known, fun _ member => List.mem_append.mp member⟩
  · exact ⟨cell, found, fun _ member => .inl member⟩

/-- Binding subscribes a variable to substitutions for its own token only. -/
theorem Subscribed.ownTokens
    {forest : Forest}
    {target : NodeId}
    {names : List String}
    {before after : Store}
    (subscribed : Subscribed forest target names before after)
    (own : OwnTokens before) :
    OwnTokens after := by
  intro name cell found token slots member
  obtain ⟨old, known, origin⟩ := subscribed.exists_before found
  rcases origin _ member with earlier | new
  · exact own name old known token slots earlier
  · rw [subscription] at new
    split at new
    · cases new
    · cases List.mem_singleton.mp new
      rfl

/-- A render that ends leaves every variable its old subscribers and its own tokens. -/
theorem ownTokens_of_render
    {scene shown : Scene}
    {host : Host}
    {line : Int}
    {component selector : String}
    (wellFormed : scene.context.store.WellFormed)
    (own : OwnTokens scene.context.store)
    (rendered :
      outcome (execute host ⟨.renderComponent component selector, line⟩)
          scene =
        (.ok (), shown)) :
    OwnTokens shown.context.store ∧
      ∀ name cell,
        shown.context.store.reactiveNamed? name = some cell → name ≠ "" := by
  have kept :
      OwnTokens scene.context.store ∧
        ∀ name cell,
          scene.context.store.reactiveNamed? name = some cell → name ≠ "" :=
    ⟨own, fun _ _ => wellFormed.ne_empty_of_reactiveNamed?⟩
  have begun := rendered
  rw [outcome_execute_render] at begun
  have sameStore :=
    keeps_store_renderInto component selector
      (scene.logged
        (announcement ⟨.renderComponent component selector, line⟩))
  rw [executeRender, outcome_bind] at begun
  revert begun sameStore
  rcases outcome (renderInto component selector)
      (scene.logged
        (announcement ⟨.renderComponent component selector, line⟩)) with
    ⟨result, middle⟩
  intro begun sameStore
  change middle.context.store = scene.context.store at sameStore
  rcases result with fault | found
  · cases begun
  cases found with
  | none =>
      cases begun
      rw [sameStore]
      exact kept
  | some target =>
      obtain ⟨count, names, store, bound, subscribed⟩ :=
        exists_subscribed_bindReactivity (sameStore ▸ wellFormed) target
      rw [sameStore] at subscribed
      dsimp only at begun
      rw [outcome_bind_ok bound, outcome_report] at begun
      cases begun
      refine ⟨subscribed.ownTokens own, fun name cell after => ?_⟩
      obtain ⟨old, before, -⟩ := subscribed.exists_before after
      exact wellFormed.ne_empty_of_reactiveNamed? before

/-! ## A second update -/

/--
After a component was rendered and a variable was set, setting it again leaves
the page alone, whatever the value is, exactly when the first value left the
token of the variable at no slot that its updates reach.  A first value whose
text has no braces and is no part of the name of the variable leaves it at none.
-/
theorem second_value_shows_nowhere_iff
    (host : Host)
    (line : Int)
    (scene shown once : Scene)
    (component selector name : String)
    (cell : Reactive Subscriber)
    (first : Value)
    (result : Except Fault Value)
    (wellFormed : scene.context.store.WellFormed)
    (own : OwnTokens scene.context.store)
    (rendered :
      outcome (execute host ⟨.renderComponent component selector, line⟩)
          scene =
        (.ok (), shown))
    (bound : shown.context.store.reactiveNamed? name = some cell)
    (updated :
      outcome (Function.update.apply [.text name, first]) shown =
        (result, once)) :
    ((∀ second,
        (outcome (Function.update.apply [.text name, second])
            once).2.context.page =
          once.context.page) ↔
      ∀ slot ∈ reachedSlots cell.subscribers,
        once.context.page.forest.holdsAt (placeholder name) slot = false) ∧
      (BraceFree (substitutionText first).toList →
        ¬ (substitutionText first).toList <:+: name.toList →
          ∀ second,
            (outcome (Function.update.apply [.text name, second])
                once).2.context.page =
              once.context.page) := by
  obtain ⟨shownOwn, named⟩ := ownTokens_of_render wellFormed own rendered
  have nonempty := named name cell bound
  have cellOwn := shownOwn name cell bound
  have onceContext := context_update bound nonempty cellOwn first
  rw [updated] at onceContext
  dsimp only at onceContext
  have onceBound :
      once.context.store.reactiveNamed? name = some (cell.store first) := by
    rw [onceContext]
    exact (Store.reactiveNamed?_insert _ _).trans (if_pos rfl)
  have again :
      ∀ second,
        (outcome (Function.update.apply [.text name, second])
            once).2.context.page =
          { once.context.page with
            forest :=
              once.context.page.forest.substituteAll (placeholder name)
                (substitutionText second) (reachedSlots cell.subscribers) } :=
    fun second =>
      congrArg Context.page (context_update onceBound nonempty cellOwn second)
  have settles :
      (∀ second,
          (outcome (Function.update.apply [.text name, second])
              once).2.context.page =
            once.context.page) ↔
        ∀ slot ∈ reachedSlots cell.subscribers,
          once.context.page.forest.holdsAt (placeholder name) slot = false := by
    rw [← Forest.substituteAll_eq_self_iff (toList_placeholder_ne_nil name)]
    constructor
    · intro unchanged text
      have samePage := unchanged (.text text)
      rw [again, substitutionText_text] at samePage
      exact congrArg Page.forest samePage
    · intro unchanged second
      rw [again, unchanged (substitutionText second)]
  refine ⟨settles, fun braceFree notInside => settles.mpr ?_⟩
  intro slot member
  rw [onceContext]
  exact
    Forest.not_holdsAt_substituteAll (braceFree.clears notInside) (.inl member)

/-! ## A card that greets twice -/

/-- Variables without subscribers are told about no token. -/
theorem ownTokens_of_silent
    {store : Store}
    (wellFormed : store.WellFormed)
    (silent : ∀ entry ∈ store.reactives, entry.2.subscribers = []) :
    OwnTokens store := by
  intro name cell found token slots member
  rw [silent _ (wellFormed.mem_reactives.mpr found)] at member
  cases member

/-- Once the card greets Ada, it greets nobody else. -/
theorem second_value_shows_nowhere_of_card :
    ∃ shown once,
      outcome (execute .runtime ⟨.renderComponent "card" "body", 1⟩)
            cardScene =
          (.ok (), shown) ∧
        outcome (Function.update.apply [.text "user", .text "Ada"]) shown =
          (.ok .null, once) ∧
        ∀ second,
          (outcome (Function.update.apply [.text "user", second])
              once).2.context.page =
            once.context.page := by
  have user : cardScene.context.store.reactiveNamed? "user" = some _ := rfl
  obtain ⟨shown, rendered, follows⟩ := exists_follows_card
  obtain ⟨cell, found, -⟩ := follows.cells "user" _ user
  obtain ⟨once, updated, -⟩ :=
    follows.exists_update cardScene_renderable.store
      cardScene_renderable.replaced.wellFormed rfl user (.text "Ada")
  refine ⟨shown, once, rendered, updated, ?_⟩
  refine
    (second_value_shows_nowhere_iff .runtime 1 cardScene shown once "card"
        "body" "user" cell (.text "Ada") _ cardScene_renderable.store
        (ownTokens_of_silent cardScene_renderable.store
          cardScene_renderable.silent)
        rendered found updated).2
      (by decide) (by decide)

/--
A first value that holds the token itself leaves it behind, and the second value
shows.
-/
theorem second_value_shows_in_returned_token :
    ∃ shown once twice,
      outcome (execute .runtime ⟨.renderComponent "card" "body", 1⟩)
            cardScene =
          (.ok (), shown) ∧
        outcome
            (Function.update.apply
              [.text "user", .text "\x7b\x7buser\x7d\x7d"])
            shown =
          (.ok .null, once) ∧
        outcome (Function.update.apply [.text "user", .text "Eve"]) once =
          (.ok .null, twice) ∧
        once.context.page.forest.tree? 2 =
          some
            (.element "body" ⟨[]⟩
              [.element "p" ⟨[]⟩ [.text "Hello \x7b\x7buser\x7d\x7d"]]) ∧
        twice.context.page.forest.tree? 2 =
          some
            (.element "body" ⟨[]⟩
              [.element "p" ⟨[]⟩ [.text "Hello Eve"]]) := by
  have wellFormed := cardScene_renderable.replaced.wellFormed
  have spans := (cardScene_renderable.replaced.element _ _ _ rfl).1
  have user : cardScene.context.store.reactiveNamed? "user" = some _ := rfl
  obtain ⟨shown, rendered, shownFollows⟩ := exists_follows_card
  obtain ⟨once, updated, onceFollows⟩ :=
    shownFollows.exists_update cardScene_renderable.store wellFormed rfl user
      (.text "\x7b\x7buser\x7d\x7d")
  obtain ⟨twice, again, twiceFollows⟩ :=
    onceFollows.exists_update cardScene_renderable.store wellFormed rfl user
      (.text "Eve")
  have greeting :
      ∀ {change : String → String} {text : String},
        change "Hello \x7b\x7buser\x7d\x7d" = text →
          some
              (Tree.reword change
                (.element "body" ⟨[]⟩
                  [.element "p" ⟨[]⟩
                    [.text "Hello \x7b\x7buser\x7d\x7d"]])) =
            some
              (.element "body" ⟨[]⟩ [.element "p" ⟨[]⟩ [.text text]]) := by
    rintro change text rfl
    rfl
  refine ⟨shown, once, twice, rendered, updated, again, ?_, ?_⟩
  · exact
      (onceFollows.tree?_target wellFormed spans).trans
        (greeting (by decide))
  · exact
      (twiceFollows.tree?_target wellFormed spans).trans
        (greeting (by decide))

end PageScript.Run
