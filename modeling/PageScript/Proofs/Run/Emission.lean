import PageScript.Proofs.Document.Emission
import PageScript.Proofs.Run.Deeds

namespace PageScript.Run

open Document Markup Script State

/-!
# What a page shows of its content

A render puts a template into an element, and the load of a medium puts an element at
its end.  The markup of the page holds what a command has put there, unless the element
or one above it is void, or the element is not in the tree of the page; then the markup
stays as it was.
-/

/-! ## Commands that put content into an element -/

/--
The element that a command puts content into: the one that its selector selects, or the
body when a medium is loaded and the selector selects nothing.
-/
inductive Aims (page : Page) : Command → NodeId → Prop where
  | render
      {name selector : String}
      {target : NodeId} :
      Selector.resolve page selector = some target →
      Aims page (.renderComponent name selector) target
  | media
      {mediaType url selector : String}
      {target : NodeId} :
      Selector.resolve page selector = some target →
      Aims page (.mediaLoad mediaType url selector) target
  | fallback
      {mediaType url selector : String} :
      Selector.resolve page selector = none →
      Aims page (.mediaLoad mediaType url selector) page.body

/-- The inner markup of the element that a command aims at, when the command is done. -/
inductive Leaves (host : Host) (context : Context) (target : NodeId) :
    Command → String → Prop where
  /-- A stored component leaves its template. -/
  | template
      {name selector template tag : String}
      {component : Component}
      {trees : List Tree} :
      context.store.components.get? (.text name) = some component →
      component.content = .text template →
      parseTrees template = .ok trees →
      context.page.forest.tag? target = some tag →
      Leaves host context target (.renderComponent name selector)
        (String.ofList (writeTrees (isRawTag tag) trees))
  /-- A component that is not stored leaves what was there. -/
  | unknown
      {name selector inner : String} :
      context.store.components.get? (.text name) = none →
      context.page.forest.innerMarkup? target = some inner →
      Leaves host context target (.renderComponent name selector) inner
  /-- A medium is added behind what was there. -/
  | medium
      {mediaType url selector inner : String} :
      host = .runtime →
      context.page.forest.innerMarkup? target = some inner →
      Leaves host context target (.mediaLoad mediaType url selector)
        (inner ++
          Tree.markup
            (.element (String.ofList (Text.lower mediaType.toList))
              (Table.ofList [("src", url)]) []))
  /-- A build leaves what was there when it comes to a medium. -/
  | unsupported
      {mediaType url selector inner : String} :
      host ≠ .runtime →
      context.page.forest.innerMarkup? target = some inner →
      Leaves host context target (.mediaLoad mediaType url selector) inner

/-- An element of a page has another content, and the page is otherwise as it was. -/
structure Refilled
    (host : Host)
    (command : Command)
    (target : NodeId)
    (before after : Context) :
    Prop where
  page : after.page = { before.page with forest := after.page.forest }
  wellFormed : after.page.forest.WellFormed
  differs : before.page.forest.DiffersAt after.page.forest target
  leaves :
    ∃ inner,
      after.page.forest.innerMarkup? target = some inner ∧
        Leaves host before target command inner

section Refilled

variable
  {host : Host}
  {line : Int}
  {scene reached : Scene}
  {target : NodeId}
  {name selector mediaType url : String}

/-- A command that leaves the page alone leaves the element what it holds. -/
theorem Refilled.of_same_page
    {command : Command}
    (wellFormed : scene.context.page.forest.WellFormed)
    (isElement : scene.context.page.forest.isElement target = true)
    (same : reached.context.page = scene.context.page)
    (leaves :
      ∀ inner,
        scene.context.page.forest.innerMarkup? target = some inner →
          Leaves host scene.context target command inner) :
    Refilled host command target scene.context reached.context := by
  obtain ⟨tag, table, trees, found⟩ := Forest.exists_tree?_of_isElement wellFormed isElement
  have inner :=
    Forest.innerMarkup?_of_spans wellFormed ((Forest.tree?_eq_some wellFormed).mp found)
  refine { page := ?_, wellFormed := ?_, differs := ?_, leaves := ⟨_, ?_, leaves _ inner⟩ }
  · rw [same]
  · rw [same]
    exact wellFormed
  · rw [same]
    exact .refl isElement
  · rw [same]
    exact inner

/-- A template that a render could not write stops the render. -/
theorem exists_accepted_of_render
    {component : Component}
    (registered : scene.context.store.components.get? (.text name) = some component)
    (resolved : Selector.resolve scene.context.page selector = some target)
    (executed :
      outcome (execute host ⟨.renderComponent name selector, line⟩) scene =
        (.ok (), reached)) :
    ∃ template trees,
      component.content = .text template ∧ parseTrees template = .ok trees := by
  obtain ⟨searched, search, -⟩ :=
    EndsIn.resolve selector
      (scene.logged (announcement ⟨.renderComponent name selector, line⟩))
  rw [Scene.context_logged, resolved] at search
  rw [outcome_execute_render, executeRender, outcome_bind, renderInto, outcome_get_bind,
    Scene.context_logged, registered] at executed
  dsimp only at executed
  rw [outcome_bind_ok search] at executed
  dsimp only at executed
  rw [outcome_bind] at executed
  rcases written : outcome (writeTemplate target component.content) searched with
    ⟨fault | _, filled⟩
  · rw [written] at executed
    cases executed
  · exact Deed.exists_accepted_of_writeTemplate written

theorem refilled_of_render
    (wellFormed : scene.context.page.forest.WellFormed)
    (resolved : Selector.resolve scene.context.page selector = some target)
    (executed :
      outcome (execute host ⟨.renderComponent name selector, line⟩) scene =
        (.ok (), reached)) :
    Refilled host (.renderComponent name selector) target scene.context
      reached.context := by
  obtain ⟨selected, isElement⟩ := selectFirst_of_resolve resolved
  cases registered : scene.context.store.components.get? (.text name) with
  | none =>
      obtain ⟨ended, done, warned⟩ :=
        @endsIn_render_unknown scene name selector host line registered
      obtain rfl : ended = reached := (Prod.mk.inj (done.symm.trans executed)).2
      refine .of_same_page wellFormed isElement ?_ fun inner found => .unknown registered found
      rw [warned.context]
  | some component =>
      obtain ⟨template, trees, content, readable⟩ :=
        exists_accepted_of_render registered resolved executed
      have page := page_of_render registered content readable selected executed
      have replaced :=
        Forest.replaced_appendTrees_clear wellFormed isElement
          (attributesNodupAll_of_parseTrees readable)
      obtain ⟨tag, table, listed, known⟩ := Forest.exists_content?_of_isElement isElement
      have spans := (replaced.element tag table listed known).1
      have leaves :
          Leaves host scene.context target (.renderComponent name selector)
            (String.ofList (writeTrees (isRawTag tag) trees)) :=
        .template registered content readable (Forest.tag?_of_content? known)
      generalize (scene.context.page.forest.clear target).appendTrees target trees = forest
        at page replaced spans
      refine { page := ?_, wellFormed := ?_, differs := ?_, leaves := ⟨_, ?_, leaves⟩ }
      · rw [page]
      · rw [page]
        exact replaced.wellFormed
      · rw [page]
        exact replaced.differsAt isElement
      · rw [page]
        exact Forest.innerMarkup?_of_spans replaced.wellFormed spans

theorem refilled_of_media
    (wellFormed : scene.context.page.forest.WellFormed)
    (bodyIsElement : scene.context.page.forest.isElement scene.context.page.body = true)
    (aims : Aims scene.context.page (.mediaLoad mediaType url selector) target)
    (executed :
      outcome (execute host ⟨.mediaLoad mediaType url selector, line⟩) scene =
        (.ok (), reached)) :
    Refilled host (.mediaLoad mediaType url selector) target scene.context
      reached.context := by
  obtain ⟨targetIs, isElement⟩ :
      (Selector.resolve scene.context.page selector).getD scene.context.page.body = target ∧
        scene.context.page.forest.isElement target = true := by
    cases aims with
    | media resolved =>
        rw [resolved]
        exact ⟨rfl, (selectFirst_of_resolve resolved).2⟩
    | fallback resolved =>
        rw [resolved]
        exact ⟨rfl, bodyIsElement⟩
  cases host with
  | build workshop =>
      obtain ⟨ended, done, warned⟩ :=
        @endsIn_unsupported (.build workshop) ⟨.mediaLoad mediaType url selector, line⟩
          rfl scene
      obtain rfl : ended = reached := (Prod.mk.inj (done.symm.trans executed)).2
      refine .of_same_page wellFormed isElement ?_ fun inner found => .unsupported nofun found
      rw [warned.context]
  | runtime =>
      obtain ⟨ended, done, extended⟩ :=
        endsIn_media_of_isElement wellFormed bodyIsElement line mediaType url selector
      obtain rfl : ended = reached := (Prod.mk.inj (done.symm.trans executed)).2
      rw [targetIs] at extended
      obtain ⟨tag, table, trees, found⟩ :=
        Forest.exists_tree?_of_isElement wellFormed isElement
      have spans := (Forest.tree?_eq_some wellFormed).mp found
      have inner := Forest.innerMarkup?_of_spans wellFormed spans
      have received := extended.received
      have innerAfter :=
        Forest.innerMarkup?_of_spans received.wellFormed
          (received.spans_target wellFormed spans)
      refine
        { page := ?_
          wellFormed := received.wellFormed
          differs := received.differsAt isElement
          leaves := ⟨_, innerAfter, ?_⟩ }
      · exact congrArg Context.page extended.turns.context
      · rw [writeTrees_append, String.ofList_append, writeTrees, writeTrees, List.append_nil]
        exact .medium rfl inner

theorem refilled_of_aims
    {command : Command}
    (wellFormed : scene.context.page.forest.WellFormed)
    (bodyIsElement : scene.context.page.forest.isElement scene.context.page.body = true)
    (aims : Aims scene.context.page command target)
    (executed : outcome (execute host ⟨command, line⟩) scene = (.ok (), reached)) :
    Refilled host command target scene.context reached.context := by
  cases aims with
  | render resolved =>
      exact refilled_of_render wellFormed resolved executed
  | media resolved =>
      exact refilled_of_media wellFormed bodyIsElement (.media resolved) executed
  | fallback resolved =>
      exact refilled_of_media wellFormed bodyIsElement (.fallback resolved) executed

end Refilled

/--
A render or a load of a medium that succeeds leaves what the command is for in the
element that it aims at.  If the element is in the tree of the page and neither it nor an
element above it is void, this content is written out as a part of the page; otherwise
the markup of the page stays as it was.
-/
theorem refilled_elements_are_emitted
    {host : Host}
    {placed : PlacedCommand}
    {scene reached : Scene}
    {target : NodeId}
    (wellFormed : scene.context.page.forest.WellFormed)
    (rootIsElement : scene.context.page.forest.isElement scene.context.page.root = true)
    (bodyIsElement : scene.context.page.forest.isElement scene.context.page.body = true)
    (aims : Aims scene.context.page placed.command target)
    (executed : outcome (execute host placed) scene = (.ok (), reached)) :
    ∃ inner whole,
      reached.context.page.forest.innerMarkup? target = some inner ∧
        Leaves host scene.context target placed.command inner ∧
        reached.context.page.markup? = some whole ∧
        (scene.context.page.forest.EmitsContent scene.context.page.root target →
          inner.toList <:+: whole.toList) ∧
        (¬ scene.context.page.forest.EmitsContent scene.context.page.root target →
          scene.context.page.markup? = some whole) := by
  obtain ⟨command, line⟩ := placed
  have refilled := refilled_of_aims wellFormed bodyIsElement aims executed
  obtain ⟨inner, found, leaves⟩ := refilled.leaves
  obtain ⟨whole, other, markup, same, shown, hidden⟩ :=
    refilled.differs.markup_cases wellFormed refilled.wellFormed rootIsElement
  obtain rfl : inner = other := Option.some.inj (found.symm.trans same)
  have root : reached.context.page.root = scene.context.page.root := by
    rw [refilled.page]
  refine
    ⟨inner, "<!DOCTYPE html>\n" ++ whole, found, leaves, ?_, fun emits => ?_,
      fun lost => ?_⟩
  · rw [Page.markup?, root, markup]
    rfl
  · rw [String.toList_append]
    exact (shown emits).trans (List.suffix_append _ _).isInfix
  · rw [Page.markup?, hidden lost]
    rfl

/-- The card that is rendered into the body is part of the page. -/
theorem refilled_elements_are_emitted_of_card :
    ∃ shown inner whole,
      outcome (execute .runtime ⟨.renderComponent "card" "body", 1⟩) cardScene =
          (.ok (), shown) ∧
        shown.context.page.forest.innerMarkup? 2 = some inner ∧
        Leaves .runtime cardScene.context 2 (.renderComponent "card" "body") inner ∧
        shown.context.page.markup? = some whole ∧
        inner.toList <:+: whole.toList := by
  obtain ⟨shown, executed, -⟩ := exists_follows_card
  obtain ⟨inner, whole, found, leaves, markup, emitted, -⟩ :=
    @refilled_elements_are_emitted .runtime ⟨.renderComponent "card" "body", 1⟩ cardScene
      shown 2 Page.blank_wellFormed rfl rfl (.render rfl) executed
  have emits : cardScene.context.page.forest.Emits cardScene.context.page.root 2 :=
    .child .self rfl rfl (List.mem_cons_of_mem 1 List.mem_cons_self)
  exact ⟨shown, inner, whole, executed, found, leaves, markup, emitted ⟨emits, _, rfl, rfl⟩⟩

/-- A medium is lost in an empty element whose content is not written out. -/
theorem exists_lost_medium
    {scene : Scene}
    {target : NodeId}
    {mediaType url selector whole : String}
    (wellFormed : scene.context.page.forest.WellFormed)
    (rootIsElement : scene.context.page.forest.isElement scene.context.page.root = true)
    (bodyIsElement : scene.context.page.forest.isElement scene.context.page.body = true)
    (aims : Aims scene.context.page (.mediaLoad mediaType url selector) target)
    (empty : scene.context.page.forest.innerMarkup? target = some "")
    (hidden : ¬ scene.context.page.forest.EmitsContent scene.context.page.root target)
    (markup : scene.context.page.markup? = some whole)
    (line : Int) :
    ∃ reached,
      outcome (execute .runtime ⟨.mediaLoad mediaType url selector, line⟩) scene =
          (.ok (), reached) ∧
        reached.context.page.forest.innerMarkup? target =
          some
            (Tree.markup
              (.element (String.ofList (Text.lower mediaType.toList))
                (Table.ofList [("src", url)]) [])) ∧
        reached.context.page.markup? = some whole := by
  obtain ⟨reached, executed, -⟩ :=
    endsIn_media_of_isElement wellFormed bodyIsElement line mediaType url selector
  have refilled := refilled_of_aims wellFormed bodyIsElement aims executed
  obtain ⟨inner, found, leaves⟩ := refilled.leaves
  obtain ⟨other, -, otherMarkup, -, -, same⟩ :=
    refilled.differs.markup_cases wellFormed refilled.wellFormed rootIsElement
  refine ⟨reached, executed, ?_, ?_⟩
  · cases leaves with
    | medium _ before =>
        obtain rfl := Option.some.inj (empty.symm.trans before)
        rw [found, String.empty_append]
    | unsupported isBuild _ =>
        exact (isBuild rfl).elim
  · rw [Page.markup?, same hidden] at markup
    have root : reached.context.page.root = scene.context.page.root := by
      rw [refilled.page]
    rw [Page.markup?, root, otherMarkup, markup]

/-- A page whose body holds a line break. -/
def breakScene : Scene :=
  bareScene.withForest ((Edit.appendElement 2 "br" [("id", "b")]).apply .blank).forest

/-- A page whose body was taken out of it. -/
def looseScene : Scene :=
  bareScene.withForest ((Edit.detach 2).apply .blank).forest

/--
An image that is loaded into a line break is not in the markup of the page, and neither
is one that is loaded into a body outside the page.
-/
theorem void_and_loose_elements_lose_images :
    (Selector.resolve breakScene.context.page "#b" = some 3 ∧
      ∃ reached,
        outcome (execute .runtime ⟨.mediaLoad "img" "a" "#b", 1⟩) breakScene =
            (.ok (), reached) ∧
          reached.context.page.forest.innerMarkup? 3 = some "<img src=\"a\">" ∧
          reached.context.page.markup? =
            some
              "<!DOCTYPE html>\n<html><head></head><body><br id=\"b\"></body></html>") ∧
      Selector.resolve looseScene.context.page "#b" = none ∧
      ∃ reached,
        outcome (execute .runtime ⟨.mediaLoad "img" "a" "#b", 1⟩) looseScene =
            (.ok (), reached) ∧
          reached.context.page.forest.innerMarkup? looseScene.context.page.body =
            some "<img src=\"a\">" ∧
          reached.context.page.markup? =
            some "<!DOCTYPE html>\n<html><head></head></html>" := by
  constructor
  · have wellFormed : breakScene.context.page.forest.WellFormed :=
      @Edit.apply_wellFormed .blank Page.blank_wellFormed
        (.appendElement 2 "br" [("id", "b")]) rfl
    have resolved : Selector.resolve breakScene.context.page "#b" = some 3 := by
      decide +kernel
    have spans :
        breakScene.context.page.forest.Spans 0
          (.element "html" ⟨[]⟩
            [.element "head" ⟨[]⟩ [],
              .element "body" ⟨[]⟩ [.element "br" ⟨[("id", "b")]⟩ []]]) :=
      .element rfl
        (.cons (.element rfl .nil)
          (.cons (.element rfl (.cons (.element rfl .nil) .nil)) .nil))
    have breakSpans :
        breakScene.context.page.forest.Spans 3 (.element "br" ⟨[("id", "b")]⟩ []) :=
      .element rfl .nil
    refine ⟨resolved, exists_lost_medium wellFormed rfl rfl (.media resolved) ?_ ?_ ?_ 1⟩
    · exact Forest.innerMarkup?_of_spans wellFormed breakSpans
    · rintro ⟨-, tag, known, closed⟩
      cases known
      cases closed
    · have markup := Forest.markup?_of_tree? ((Forest.tree?_eq_some wellFormed).mpr spans)
      exact congrArg (Option.map ("<!DOCTYPE html>\n" ++ ·)) markup
  · have wellFormed : looseScene.context.page.forest.WellFormed :=
      @Edit.apply_wellFormed .blank Page.blank_wellFormed (.detach 2) trivial
    have resolved : Selector.resolve looseScene.context.page "#b" = none := by
      decide +kernel
    have spans :
        looseScene.context.page.forest.Spans 0
          (.element "html" ⟨[]⟩ [.element "head" ⟨[]⟩ []]) :=
      .element rfl (.cons (.element rfl .nil) .nil)
    have bodySpans :
        looseScene.context.page.forest.Spans looseScene.context.page.body
          (.element "body" ⟨[]⟩ []) :=
      .element rfl .nil
    refine ⟨resolved, exists_lost_medium wellFormed rfl rfl (.fallback resolved) ?_ ?_ ?_ 1⟩
    · exact Forest.innerMarkup?_of_spans wellFormed bodySpans
    · rintro ⟨emits, -⟩
      rcases emits.atOrAbove wellFormed with same | above
      · cases same
      · obtain ⟨parent, known, -⟩ := above.exists_parent
        cases known
    · have markup := Forest.markup?_of_tree? ((Forest.tree?_eq_some wellFormed).mpr spans)
      exact congrArg (Option.map ("<!DOCTYPE html>\n" ++ ·)) markup

end PageScript.Run
