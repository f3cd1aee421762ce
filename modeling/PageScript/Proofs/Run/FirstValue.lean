import PageScript.Proofs.Run.Piece
import PageScript.Proofs.Run.Shown

namespace PageScript.Run

open Document Markup State

/-!
# The first value wins

When every brace of a rendered component belongs to the token of a word, the
component shows for each variable the text of the first value that the variable
got, in whatever order the variables were updated.  Later values find no token
any more, and no update makes or breaks the token of another variable.
-/

/-- Updates of reactive variables whose names and texts have no braces. -/
structure PlainUpdates
    (store : Store)
    (updates : List (String × Value)) : Prop where
  known :
    ∀ update ∈ updates, ∃ cell, store.reactiveNamed? update.1 = some cell
  names : ∀ update ∈ updates, BraceFree update.1.toList
  texts : ∀ update ∈ updates, BraceFree (substitutionText update.2).toList

theorem firstText_cons
    (update : String × Value)
    (rest : List (String × Value)) :
    firstText (update :: rest) = fun name =>
      if name = update.1 then
        some (substitutionText update.2)
      else
        firstText rest name := by
  funext name
  by_cases same : update.1 = name
  · simp [firstText, same]
  · simp [firstText, same, Ne.symm same]

/-- Updates fill the tokens of a text that has no others than those of words. -/
theorem foldl_replaceToken_written
    {s : String}
    {original current : List Piece}
    (originalFits : ∀ piece ∈ original, piece.Fits)
    (originalIs : original.flatMap Piece.written = s.toList)
    (currentFits : ∀ piece ∈ current, piece.Fits)
    (fromOriginal :
      ∀ name, .token name ∈ current → .token name ∈ original)
    {updates : List (String × Value)}
    (names : ∀ update ∈ updates, BraceFree update.1.toList)
    (texts :
      ∀ update ∈ updates, BraceFree (substitutionText update.2).toList) :
    updates.foldl
        (fun shown update =>
          if holdsToken (placeholder update.1) s then
            replaceToken (placeholder update.1) (substitutionText update.2)
              shown
          else
            shown)
        (String.ofList (current.flatMap Piece.written)) =
      String.ofList (current.flatMap (Piece.filled (firstText updates))) := by
  -- `current` is what earlier updates have made of the pieces of the text.
  induction updates generalizing current with
  | nil =>
      have unfilled :
          Piece.filled (firstText []) = Piece.written := by
        funext piece
        cases piece <;> rfl
      rw [List.foldl_nil, unfilled]
  | cons update rest inductionHypothesis =>
      obtain ⟨nameFree, restNames⟩ := List.forall_mem_cons.mp names
      obtain ⟨textFree, restTexts⟩ := List.forall_mem_cons.mp texts
      have held :
          holdsToken (placeholder update.1) s = true ↔
            .token update.1.toList ∈ original := by
        rw [holdsToken, toList_placeholder, ← originalIs]
        exact occursIn_written nameFree originalFits
      have step :
          (if holdsToken (placeholder update.1) s then
              replaceToken (placeholder update.1) (substitutionText update.2)
                (String.ofList (current.flatMap Piece.written))
            else
              String.ofList (current.flatMap Piece.written)) =
            String.ofList
              ((current.flatMap
                (Piece.put update.1.toList
                  (substitutionText update.2).toList)).flatMap
                Piece.written) := by
        split
        · rw [← String.toList_inj,
            toList_replaceToken (toList_placeholder_ne_nil update.1),
            toList_placeholder, String.toList_ofList, String.toList_ofList,
            replaceSkipping_written nameFree currentFits]
        · next absent =>
            rw [flatMap_put_of_not_mem]
            exact fun member => absent (held.mpr (fromOriginal _ member))
      rw [List.foldl_cons, step,
        inductionHypothesis (fits_put textFree currentFits)
          (fun name member => fromOriginal name (token_of_mem_put member))
          restNames restTexts,
        firstText_cons, List.flatMap_assoc]
      refine congrArg (fun fill => String.ofList (current.flatMap fill)) ?_
      funext piece
      rw [filled_put, String.ofList_toList]

/-- Updates show the first text of every name in a text of tokens. -/
theorem stringAfter_of_tokensOnly
    {s : String}
    (tokensOnly : TokensOnly s)
    {store : Store}
    {updates : List (String × Value)}
    (plain : PlainUpdates store updates) :
    stringAfter updates s = fillTokens (firstText updates) s := by
  obtain ⟨pieces, fits, written⟩ := tokensOnly
  have filled :=
    foldl_replaceToken_written fits written fits (fun _ member => member)
      plain.names plain.texts
  rw [written, String.ofList_toList] at filled
  rw [stringAfter, filled, fillTokens, ← written, fillSkipping_written _ fits]

/--
After a render into an element where all braces belong to tokens of words, and
any updates of reactive variables with names and texts without braces, the
element shows for each variable the text of its first value, and still the tokens
of the variables that were not updated.  The rest of the page is as after the
render, so any other such updates with the same first values end in the same
page.
-/
theorem first_value_wins
    (host : Host)
    (line : Int)
    (scene : Scene)
    (name selector template : String)
    (trees : List Tree)
    (target : NodeId)
    (updates : List (String × Value))
    (renderable : Renderable scene name selector template trees target)
    (tokensOnly :
      ∀ s ∈ (scene.context.page.forest.attributes target).values ++
          treesStrings trees,
        TokensOnly s)
    (plain : PlainUpdates scene.context.store updates) :
    ∃ tag reached,
      outcome (renderAndUpdate host line name selector updates) scene =
          (.ok (), reached) ∧
        scene.context.page.forest.tag? target = some tag ∧
        reached.context.page.forest.tree? target =
          some
            (.element tag
              ((scene.context.page.forest.attributes target).mapValues
                (fillTokens (firstText updates)))
              (rewordAll (fillTokens (firstText updates)) trees)) ∧
        (∀ id,
          ¬ (scene.filledForest trees target).AtOrAbove target id →
            reached.context.page.forest.node? id =
              (scene.filledForest trees target).node? id) ∧
        ∀ others,
          PlainUpdates scene.context.store others →
            firstText others = firstText updates →
              ∃ alsoReached,
                outcome (renderAndUpdate host line name selector others)
                      scene =
                    (.ok (), alsoReached) ∧
                  alsoReached.context.page = reached.context.page := by
  obtain ⟨tag, tagIs, spans⟩ := renderable.spans
  have wellFormed := renderable.replaced.wellFormed
  -- Every run shows the first values, so runs with the same ones agree.
  have shows :
      ∀ {some : List (String × Value)},
        PlainUpdates scene.context.store some →
          ∃ reached,
            outcome (renderAndUpdate host line name selector some) scene =
                (.ok (), reached) ∧
              Follows scene.context (scene.filledForest trees target) target
                reached (fillTokens (firstText some)) := by
    intro some somePlain
    obtain ⟨reached, run, follows⟩ :=
      renderable.exists_follows host line somePlain.known
    refine ⟨reached, run, follows.congr wellFormed spans fun s member => ?_⟩
    exact stringAfter_of_tokensOnly (tokensOnly s member) somePlain
  obtain ⟨reached, run, follows⟩ := shows plain
  refine
    ⟨tag, reached, run, tagIs, follows.tree?_target wellFormed spans,
      follows.reworded.outside, ?_⟩
  intro others othersPlain sameFirst
  obtain ⟨alsoReached, alsoRun, alsoFollows⟩ := shows othersPlain
  rw [sameFirst] at alsoFollows
  exact ⟨alsoReached, alsoRun, alsoFollows.page_unique follows⟩

/-- The card greets the first user, also when it is asked to greet another one later. -/
theorem first_value_wins_of_card :
    ∃ reached alsoReached,
      outcome
            (renderAndUpdate .runtime 1 "card" "body"
              [("user", .text "Ada"), ("user", .text "Eve")])
            cardScene =
          (.ok (), reached) ∧
        reached.context.page.forest.tree? 2 =
          some
            (.element "body" ⟨[]⟩
              [.element "p" ⟨[]⟩ [.text "Hello Ada"]]) ∧
        outcome
            (renderAndUpdate .runtime 1 "card" "body" [("user", .text "Ada")])
            cardScene =
          (.ok (), alsoReached) ∧
        alsoReached.context.page = reached.context.page := by
  have plain :
      ∀ {texts : List String},
        (∀ text ∈ texts, BraceFree text.toList) →
          PlainUpdates cardScene.context.store
            (texts.map fun text => ("user", .text text)) := by
    intro texts free
    refine ⟨?_, ?_, ?_⟩
    · exact List.forall_mem_map.mpr fun _ _ => ⟨_, rfl⟩
    · exact List.forall_mem_map.mpr fun _ _ =>
        (by decide : BraceFree "user".toList)
    · refine List.forall_mem_map.mpr fun text member => ?_
      rw [substitutionText_text]
      exact free text member
  have tokensOnly : TokensOnly "Hello \x7b\x7buser\x7d\x7d" :=
    ⟨"Hello ".toList.map .plain ++ [.token "user".toList], by decide, by decide⟩
  obtain ⟨tag, reached, run, tagIs, tree, -, others⟩ :=
    first_value_wins .runtime 1 cardScene "card" "body" _ _ 2
      [("user", .text "Ada"), ("user", .text "Eve")] cardScene_renderable
      (List.forall_mem_singleton.mpr tokensOnly)
      (@plain ["Ada", "Eve"] (by decide))
  obtain rfl : "body" = tag := Option.some.inj tagIs
  obtain ⟨alsoReached, alsoRun, samePage⟩ :=
    others [("user", .text "Ada")] (@plain ["Ada"] (by decide)) (by
      funext name
      by_cases isUser : name = "user" <;> simp [firstText_cons, isUser])
  refine ⟨reached, alsoReached, run, tree.trans ?_, alsoRun, samePage⟩
  have greeting :
      fillTokens
          (firstText [("user", .text "Ada"), ("user", .text "Eve")])
          "Hello \x7b\x7buser\x7d\x7d" =
        "Hello Ada" := by
    decide
  exact
    congrArg
      (fun text =>
        some (Tree.element "body" ⟨[]⟩ [.element "p" ⟨[]⟩ [.text text]]))
      greeting

/--
A blank page with a component of two tokens, the variables of these tokens, and a
variable whose name holds the braces between the two.
-/
def pairScene : Scene :=
  bareScene.withStore
    { bindings :=
        ⟨[(.text "a", .reactive { value := .null }),
          (.text "b", .reactive { value := .null }),
          (.text "a\x7d\x7d\x7b\x7bb", .reactive { value := .null })]⟩
      components :=
        ⟨[(.text "pair",
          ⟨.text "pair", .text "\x7b\x7ba\x7d\x7d\x7b\x7bb\x7d\x7d"⟩)]⟩ }

theorem pairScene_renderable :
    Renderable pairScene "pair" "body"
      "\x7b\x7ba\x7d\x7d\x7b\x7bb\x7d\x7d"
      [.text "\x7b\x7ba\x7d\x7d\x7b\x7bb\x7d\x7d"] 2 where
  page := Page.blank_wellFormed
  store := by
    refine ⟨?_, ?_, ?_⟩
    · change List.Pairwise _ [_, _, _]
      simp
      decide
    · change ∀ entry ∈ [_, _, _], _
      simp
      decide
    · change ∀ entry ∈ [_, _, _], _
      simp
  silent := by
    change ∀ entry ∈ [_, _, _], _
    simp
  registered := ⟨_, rfl, rfl⟩
  readable := rfl
  resolved := rfl

/--
A variable whose name holds braces has a token that is made of the tokens of
others.  Two series of updates with the same first values then end in different
pages, and the token of a variable that is never updated disappears.
-/
theorem first_value_depends_on_order :
    ∃ first second,
      outcome
            (renderAndUpdate .runtime 1 "pair" "body"
              [("a", .text "1"), ("a\x7d\x7d\x7b\x7bb", .text "2")])
            pairScene =
          (.ok (), first) ∧
        outcome
            (renderAndUpdate .runtime 1 "pair" "body"
              [("a\x7d\x7d\x7b\x7bb", .text "2"), ("a", .text "1")])
            pairScene =
          (.ok (), second) ∧
        firstText
            [("a", .text "1"), ("a\x7d\x7d\x7b\x7bb", .text "2")] =
          firstText
            [("a\x7d\x7d\x7b\x7bb", .text "2"), ("a", .text "1")] ∧
        TokensOnly "\x7b\x7ba\x7d\x7d\x7b\x7bb\x7d\x7d" ∧
        first.context.page.forest.tree? 2 =
          some
            (.element "body" ⟨[]⟩ [.text "1\x7b\x7bb\x7d\x7d"]) ∧
        second.context.page.forest.tree? 2 =
          some (.element "body" ⟨[]⟩ [.text "2"]) := by
  have wellFormed := pairScene_renderable.replaced.wellFormed
  obtain ⟨tag, tagIs, spans⟩ := pairScene_renderable.spans
  obtain rfl : "body" = tag := Option.some.inj tagIs
  obtain ⟨first, firstRun, firstFollows⟩ :=
    @Renderable.exists_follows _ _ _ _ _ _ pairScene_renderable .runtime 1
      [("a", .text "1"), ("a\x7d\x7d\x7b\x7bb", .text "2")] (by
        simp
        exact ⟨⟨_, rfl⟩, ⟨_, rfl⟩⟩)
  obtain ⟨second, secondRun, secondFollows⟩ :=
    @Renderable.exists_follows _ _ _ _ _ _ pairScene_renderable .runtime 1
      [("a\x7d\x7d\x7b\x7bb", .text "2"), ("a", .text "1")] (by
        simp
        exact ⟨⟨_, rfl⟩, ⟨_, rfl⟩⟩)
  have shows :
      ∀ {change : String → String} {text : String},
        change "\x7b\x7ba\x7d\x7d\x7b\x7bb\x7d\x7d" = text →
          some
              (Tree.reword change
                (.element "body" ⟨[]⟩
                  [.text "\x7b\x7ba\x7d\x7d\x7b\x7bb\x7d\x7d"])) =
            some (.element "body" ⟨[]⟩ [.text text]) := by
    rintro change text rfl
    rfl
  refine
    ⟨first, second, firstRun, secondRun, ?_,
      ⟨[.token ['a'], .token ['b']], by decide, by decide⟩,
      (firstFollows.tree?_target wellFormed spans).trans
        (shows (by decide)),
      (secondFollows.tree?_target wellFormed spans).trans
        (shows (by decide))⟩
  funext name
  by_cases isFirst : name = "a" <;> simp [firstText_cons, isFirst]

end PageScript.Run
