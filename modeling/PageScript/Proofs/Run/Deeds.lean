import PageScript.Proofs.Document.SlotText
import PageScript.Proofs.Run.OwnPart

namespace PageScript.Run

open Document Markup Script State

/-!
# Deeds and listeners

What happens to a context is a sequence of deeds: a command is executed, or a variable
is updated, however it ends.  A reactive variable has no subscribers when it is bound
anew, and gets one only from a render that finds its token in the element that it has
just filled.  No deed takes a node away.
-/

/-- A command that is executed, or an update of a variable. -/
inductive Deed where
  | command (host : Host) (placed : PlacedCommand)
  | update (name : String) (value : Value)

namespace Deed

/-- The scene behind a deed. -/
def after (deed : Deed) (scene : Scene) : Scene :=
  match deed with
  | .command host placed => (outcome (execute host placed) scene).2
  | .update name value => (outcome (Function.update.apply [.text name, value]) scene).2

/-- The kinds of changes that a deed can make. -/
def effects : Deed → List Effect
  | .command _ placed => Effect.ofKind placed.command.kind
  | .update _ _ => Effect.ofCall

/-- A variable is bound anew, and what it was bound to before is forgotten. -/
def Rebinds (context : Context) (name : String) (deed : Deed) : Prop :=
  ∃ host line expression reactive value,
    deed = .command host ⟨.setVariable name expression reactive, line⟩ ∧
      Script.evaluate context.store.lookup expression = .ok value

/-- A component with an accepted template is rendered into an element. -/
def Renders (context : Context) (target : NodeId) (deed : Deed) : Prop :=
  ∃ host line name selector component template trees,
    deed = .command host ⟨.renderComponent name selector, line⟩ ∧
      context.store.components.get? (.text name) = some component ∧
      component.content = .text template ∧
      parseTrees template = .ok trees ∧
      Selector.resolve context.page selector = some target

variable {scene : Scene} {name : String} {target : NodeId}

theorem evolves
    (deed : Deed)
    (scene : Scene) :
    Evolves deed.effects scene.context (deed.after scene).context := by
  cases deed with
  | command host placed =>
      exact evolves_execute host placed scene
  | update name value =>
      exact Evolving.apply (List.Subset.refl _) .update [.text name, value]

theorem sound
    (deed : Deed)
    (sound : scene.context.Sound) :
    (deed.after scene).context.Sound :=
  sound.evolves (deed.evolves scene)

/-! ## Nodes stay -/

/-- No elementary change takes a node away. -/
theorem size_le_of_change
    {effect : Effect}
    {before after : Context}
    (step : Change effect before after) :
    before.page.forest.nodes.size ≤ after.page.forest.nodes.size := by
  cases step with
  | content markup _ =>
      exact Page.size_le_setContent _ _ markup
  | element tag attributes _ =>
      exact Nat.le_of_lt (Nat.lt_of_lt_of_eq (Nat.lt_succ_self _)
        (Page.size_appendElement _ _ tag attributes).symm)
  | wording token text slots =>
      have same :
          (before.page.forest.substituteAll token text slots).shape.nodes.size =
            before.page.forest.shape.nodes.size :=
        congrArg (·.nodes.size) (Forest.shape_substituteAll token text slots)
      simp only [Forest.shape, Array.size_map] at same
      exact Nat.le_of_eq same.symm
  | _ =>
      exact Nat.le_refl _

theorem size_le
    (deed : Deed)
    (scene : Scene) :
    scene.context.page.forest.nodes.size ≤
      (deed.after scene).context.page.forest.nodes.size := by
  have kept :
      ∀ effect ∈ deed.effects,
        ∀ {earlier later : Context},
          Change effect earlier later →
            scene.context.page.forest.nodes.size ≤ earlier.page.forest.nodes.size →
              scene.context.page.forest.nodes.size ≤ later.page.forest.nodes.size :=
    fun _ _ _ _ step before => Nat.le_trans before (size_le_of_change step)
  have evolves := deed.evolves scene
  generalize (deed.after scene).context = reached at evolves ⊢
  exact evolves.keep kept (Nat.le_refl _)

/-! ## Listeners -/

/-- An elementary change that neither binds a reactive variable nor subscribes. -/
theorem inherits_of_change
    {effect : Effect}
    {before after : Context}
    (sound : before.Sound)
    (old : effect ≠ .fresh)
    (silent : effect ≠ .subscription)
    (step : Change effect before after) :
    after.store.Inherits before.store := by
  cases step with
  | fresh _ =>
      exact absurd rfl old
  | subscription _ _ =>
      exact absurd rfl silent
  | plain bound =>
      exact .of_bind_plain bound
  | value found bound =>
      exact .of_bind_value sound.store found bound
  | component defined =>
      rw [Store.eq_of_define defined]
      exact fun _ cell found => ⟨cell, found, rfl⟩
  | _ =>
      exact .refl _

/-- A deed that neither binds a reactive variable nor subscribes. -/
theorem inherits
    {deed : Deed}
    (sound : scene.context.Sound)
    (old : .fresh ∉ deed.effects)
    (silent : .subscription ∉ deed.effects) :
    (deed.after scene).context.store.Inherits scene.context.store := by
  have kept :
      ∀ effect ∈ deed.effects,
        ∀ {earlier later : Context},
          Change effect earlier later →
            earlier.Sound ∧ earlier.store.Inherits scene.context.store →
              later.Sound ∧ later.store.Inherits scene.context.store := by
    rintro effect permitted earlier later step ⟨soundEarlier, before⟩
    refine ⟨soundEarlier.change step, ?_⟩
    have last :=
      inherits_of_change soundEarlier (fun same => old (same ▸ permitted))
        (fun same => silent (same ▸ permitted)) step
    exact last.trans before
  have evolves := deed.evolves scene
  generalize (deed.after scene).context = reached at evolves ⊢
  exact (evolves.keep kept ⟨sound, .refl _⟩).2

/-- Why a reactive variable has the subscribers that it has behind a deed. -/
inductive Explains
    (deed : Deed)
    (scene : Scene)
    (name : String)
    (cell : Reactive Subscriber) : Prop where
  /-- It was bound anew and has none. -/
  | anew :
      deed.Rebinds scene.context name →
      cell.subscribers = [] →
      Explains deed scene name cell
  /-- It was bound before and had them, or a render has just added them. -/
  | kept
      {old : Reactive Subscriber} :
      ¬deed.Rebinds scene.context name →
      scene.context.store.reactiveNamed? name = some old →
      (∀ subscriber ∈ cell.subscribers,
        subscriber ∈ old.subscribers ∨
          ∃ target,
            deed.Renders scene.context target ∧
              subscriber ∈
                subscription (deed.after scene).context.page.forest target name) →
      Explains deed scene name cell

/-- A variable that a deed leaves keeps its subscribers. -/
theorem Explains.same
    {deed : Deed}
    {cell : Reactive Subscriber}
    (kept : ¬deed.Rebinds scene.context name)
    (found : scene.context.store.reactiveNamed? name = some cell) :
    deed.Explains scene name cell :=
  .kept kept found fun _ member => .inl member

/-- Where a store inherits its listeners, they were all there before. -/
theorem Explains.of_inherits
    {deed : Deed}
    (kept : ¬deed.Rebinds scene.context name)
    (inherits : (deed.after scene).context.store.Inherits scene.context.store)
    {cell : Reactive Subscriber}
    (found : (deed.after scene).context.store.reactiveNamed? name = some cell) :
    deed.Explains scene name cell := by
  obtain ⟨old, known, same⟩ := inherits name cell found
  exact .kept kept known fun subscriber member => .inl (same ▸ member)

/-- An expression without a value leaves the store, whoever evaluates it. -/
theorem store_of_refused
    {expression : String}
    {error : ExpressionError}
    (refused : Script.evaluate scene.context.store.lookup expression = .error error)
    (host : Host)
    (line : Int)
    (reactive : Bool) :
    (outcome (execute host ⟨.setVariable name expression reactive, line⟩)
        scene).2.context.store =
      scene.context.store := by
  cases host with
  | runtime =>
      obtain ⟨reached, stopped, turns⟩ := endsIn_unset line refused reactive
      rw [stopped, turns.context]
  | build workshop =>
      cases evaluation : (Fault.expression error).isEvaluation with
      | true =>
          obtain ⟨reached, done, warned⟩ := exists_warned_of_evaluation refused evaluation
          rw [done, warned.context]
      | false =>
          have stopped :
              outcome (executeSet name expression reactive)
                  (scene.logged
                    (announcement ⟨.setVariable name expression reactive, line⟩)) =
                (.error (.expression error), scene.logged _) :=
            outcome_executeSet_of_error (evaluated_of_logged refused _) reactive
          rw [execute, outcome_executeBy_build]
          exact congrArg (·.2.context.store) (executeSetInBuild_of_fault stopped evaluation)

/-- A variable that is set has no listeners, and all others keep theirs. -/
theorem explains_set
    (sound : scene.context.Sound)
    (host : Host)
    (line : Int)
    (other expression : String)
    (reactive : Bool)
    {cell : Reactive Subscriber}
    (found :
      ((Deed.command host ⟨.setVariable other expression reactive, line⟩).after
          scene).context.store.reactiveNamed? name =
        some cell) :
    Explains (.command host ⟨.setVariable other expression reactive, line⟩) scene name
      cell := by
  change
    (outcome (execute host ⟨.setVariable other expression reactive, line⟩)
        scene).2.context.store.reactiveNamed? name = some cell at found
  cases evaluated : Script.evaluate scene.context.store.lookup expression with
  | error error =>
      rw [store_of_refused evaluated] at found
      refine .same ?_ found
      rintro ⟨_, _, _, _, value, ⟨⟩, accepted⟩
      cases evaluated.symm.trans accepted
  | ok value =>
      by_cases filled : other = ""
      · subst filled
        obtain ⟨reached, stopped, turns⟩ := endsIn_set_unnamed host line evaluated reactive
        rw [stopped, turns.context] at found
        refine .same ?_ found
        rintro ⟨_, _, _, _, _, ⟨⟩, _⟩
        exact sound.store.ne_empty_of_reactiveNamed? found rfl
      · obtain ⟨reached, done, bound⟩ := endsIn_set host line filled evaluated reactive
        rw [done, bound.context] at found
        change
          Store.reactiveNamed?
              { scene.context.store with
                bindings :=
                  scene.context.store.bindings.insert (.text other)
                    (bindingOf value reactive) }
              name =
            some cell at found
        rw [Store.reactiveNamed?_insert_binding] at found
        split at found
        · next same =>
            refine .anew ⟨host, line, expression, reactive, value, by rw [same], evaluated⟩ ?_
            cases reactive <;> cases found
            rfl
        · next different =>
            refine .same ?_ found
            rintro ⟨_, _, _, _, _, ⟨⟩, _⟩
            exact different rfl

/-- A template that was written is a text that is accepted. -/
theorem exists_accepted_of_writeTemplate
    {content : Value}
    {reached : Scene}
    (done : outcome (writeTemplate target content) scene = (.ok (), reached)) :
    ∃ template trees, content = .text template ∧ parseTrees template = .ok trees := by
  cases content with
  | text template =>
      rw [writeTemplate, setContent, outcome_get_bind, Page.setContent] at done
      cases readable : parseTrees template with
      | ok trees =>
          exact ⟨template, trees, rfl, readable⟩
      | error error =>
          rw [readable] at done
          cases done
  | _ =>
      rw [writeTemplate, outcome_bind] at done
      · rcases outcome (setContent target "") scene with ⟨fault | _, cleared⟩ <;> cases done
      · rintro markup ⟨⟩

/-- What was rendered into an element was stored, accepted and meant for it. -/
theorem exists_accepted_of_renderInto
    {component selector : String}
    {reached : Scene}
    (done :
      outcome (renderInto component selector) scene = (.ok (some target), reached)) :
    ∃ stored template trees,
      scene.context.store.components.get? (.text component) = some stored ∧
        stored.content = .text template ∧
        parseTrees template = .ok trees ∧
        Selector.resolve scene.context.page selector = some target := by
  rw [renderInto, outcome_get_bind] at done
  cases registered : scene.context.store.components.get? (.text component) with
  | none =>
      rw [registered] at done
      cases done
  | some stored =>
      obtain ⟨searched, resolved, turns⟩ := EndsIn.resolve selector scene
      rw [registered] at done
      dsimp only at done
      rw [outcome_bind_ok resolved] at done
      cases found : Selector.resolve scene.context.page selector with
      | none =>
          rw [found] at done
          cases done
      | some selected =>
          rw [found] at done
          dsimp only at done
          rw [outcome_bind] at done
          rcases written : outcome (writeTemplate selected stored.content) searched with
            ⟨fault | _, filled⟩
          · rw [written] at done
            cases done
          · rw [written] at done
            cases done
            obtain ⟨template, trees, content, readable⟩ :=
              exists_accepted_of_writeTemplate written
            exact ⟨stored, template, trees, rfl, content, readable, rfl⟩

/-- A render that writes no accepted template leaves the store. -/
theorem store_of_unrendered
    {component selector : String}
    (host : Host)
    (line : Int)
    (missed :
      ∀ target,
        ¬Deed.Renders scene.context target
          (.command host ⟨.renderComponent component selector, line⟩)) :
    (outcome (execute host ⟨.renderComponent component selector, line⟩)
        scene).2.context.store =
      scene.context.store := by
  have kept :=
    keeps_store_renderInto component selector
      (scene.logged (announcement ⟨.renderComponent component selector, line⟩))
  rw [outcome_execute_render, executeRender, outcome_bind]
  rcases done :
      outcome (renderInto component selector)
        (scene.logged (announcement ⟨.renderComponent component selector, line⟩)) with
    ⟨fault | found, reached⟩
  · rw [done] at kept
    exact kept
  · cases found with
    | none =>
        rw [done] at kept
        exact kept
    | some target =>
        obtain ⟨stored, template, trees, registered, content, readable, resolved⟩ :=
          exists_accepted_of_renderInto done
        exact
          absurd
            ⟨host, line, component, selector, stored, template, trees, rfl, registered,
              content, readable, resolved⟩
            (missed target)

/-- A render adds the subscriptions to what it has filled and no other listeners. -/
theorem explains_render
    (sound : scene.context.Sound)
    (host : Host)
    (line : Int)
    (component selector : String)
    {cell : Reactive Subscriber}
    (found :
      ((Deed.command host ⟨.renderComponent component selector, line⟩).after
          scene).context.store.reactiveNamed? name =
        some cell) :
    Explains (.command host ⟨.renderComponent component selector, line⟩) scene name
      cell := by
  have kept :
      ¬Deed.Rebinds scene.context name
        (.command host ⟨.renderComponent component selector, line⟩) := by
    rintro ⟨_, _, _, _, _, ⟨⟩, _⟩
  by_cases renders :
    ∃ target,
      Deed.Renders scene.context target
        (.command host ⟨.renderComponent component selector, line⟩)
  · obtain
      ⟨target, _, _, _, _, stored, template, trees, ⟨⟩, registered, content, readable,
        resolved⟩ :=
      renders
    obtain ⟨announced, names, store, rendered, done, subscribed⟩ :=
      exists_outcome_render sound.store registered content readable resolved host line
    have reached :
        ((Deed.command host ⟨.renderComponent component selector, line⟩).after
            scene).context =
          (((scene.logged announced).withForest
              ((scene.context.page.forest.clear target).appendTrees target
                trees)).withStore store).context :=
      congrArg (·.2.context) done
    rw [reached] at found
    obtain ⟨old, known, origin⟩ := subscribed.exists_before found
    refine .kept kept known fun subscriber member => ?_
    rcases origin subscriber member with earlier | new
    · exact .inl earlier
    · refine
        .inr
          ⟨target, ⟨_, _, _, _, _, _, _, rfl, registered, content, readable, resolved⟩, ?_⟩
      rw [reached]
      exact new
  · have same :
        ((Deed.command host ⟨.renderComponent component selector, line⟩).after
            scene).context.store =
          scene.context.store :=
      store_of_unrendered host line fun target accepted => renders ⟨target, accepted⟩
    rw [same] at found
    exact .same kept found

/-- Whatever the deed, it explains the subscribers of every reactive variable behind it. -/
theorem explains
    (sound : scene.context.Sound)
    (deed : Deed)
    {cell : Reactive Subscriber}
    (found : (deed.after scene).context.store.reactiveNamed? name = some cell) :
    deed.Explains scene name cell := by
  have others :
      (¬∃ host line other expression reactive,
          deed = .command host ⟨.setVariable other expression reactive, line⟩) →
        (.fresh ∉ deed.effects) →
          (.subscription ∉ deed.effects) → deed.Explains scene name cell := by
    intro unset old silent
    refine .of_inherits ?_ (inherits sound old silent) found
    rintro ⟨host, line, expression, reactive, value, rfl, -⟩
    exact unset ⟨host, line, name, expression, reactive, rfl⟩
  cases deed with
  | update other value =>
      apply others
      · rintro ⟨_, _, _, _, _, ⟨⟩⟩
      all_goals simp [effects, Effect.ofCall]
  | command host placed =>
      rcases placed with ⟨command, line⟩
      cases command with
      | setVariable other expression reactive =>
          exact explains_set sound host line other expression reactive found
      | renderComponent component selector =>
          exact explains_render sound host line component selector found
      | _ =>
          apply others
          · rintro ⟨_, _, _, _, _, ⟨⟩⟩
          all_goals simp [effects, Effect.ofKind, Effect.ofCall, Command.kind]

end Deed

end PageScript.Run
