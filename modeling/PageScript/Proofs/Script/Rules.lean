import Mathlib.Data.List.Pairwise
import Mathlib.Data.List.Infix
import PageScript.Proofs.Text.Run
import PageScript.Script.Grammar

namespace PageScript.Script

/-!
# The rules of the line grammar

The openings of the rules are apart: no line starts with two of them, so the
order of the rules does not matter.  Every opening starts with the prefix of
commands.  What a line gives is therefore decided by the one rule that accepts
it, if there is one.  A rule with two fields splits a text at the last occurrence of a
separator that leaves text on both sides, and refuses it only when there is no such
occurrence.  A separator whose occurrences overlap in at most one character stands last
between two fields exactly when it does not occur again in its own last character
followed by the last field.
-/

/-! ## One rule -/

theorem afterPhrase?_eq_some_iff
    {phrase : String}
    {s rest : List Char} :
    afterPhrase? phrase s = some rest ↔ s = phrase.toList ++ rest := by
  unfold afterPhrase?
  split
  · next starts =>
      obtain ⟨after, rfl⟩ := List.isPrefixOf_iff_prefix.mp starts
      simp [eq_comm]
  · next differs =>
      constructor
      · intro found
        cases found
      · rintro rfl
        exact
          (differs
            (List.isPrefixOf_iff_prefix.mpr (List.prefix_append _ _))).elim

/-- A rule accepts one line of text behind its opening. -/
theorem Rule.apply?_eq_some_iff
    {rule : Rule}
    {s : List Char}
    {command : Command} :
    rule.apply? s = some command ↔
      '\n' ∉ s ∧
        ∃ rest,
          s = rule.opening.toList ++ rest ∧
            rule.commandOf? rest = some command := by
  unfold Rule.apply?
  split
  · next broken =>
      simp [List.contains_iff_mem.mp broken]
  · next whole =>
      have oneLine : '\n' ∉ s := by
        simpa using whole
      cases found : afterPhrase? rule.opening s with
      | none =>
          constructor
          · intro known
            cases known
          · rintro ⟨-, rest, shape, -⟩
            rw [afterPhrase?_eq_some_iff.mpr shape] at found
            cases found
      | some rest =>
          have shape := afterPhrase?_eq_some_iff.mp found
          constructor
          · intro known
            exact ⟨oneLine, rest, shape, known⟩
          · rintro ⟨-, other, otherShape, known⟩
            obtain rfl : rest = other :=
              List.append_cancel_left (shape.symm.trans otherShape)
            exact known

theorem Rule.opening_prefix
    {rule : Rule}
    {s : List Char}
    {command : Command}
    (accepts : rule.apply? s = some command) :
    rule.opening.toList <+: s := by
  obtain ⟨-, rest, rfl, -⟩ := Rule.apply?_eq_some_iff.mp accepts
  exact List.prefix_append _ _

/-! ## Rules that are apart -/

/-- No text starts with both phrases. -/
def Apart (first second : String) : Prop :=
  ¬ first.toList <+: second.toList ∧ ¬ second.toList <+: first.toList

instance (first second : String) : Decidable (Apart first second) :=
  inferInstanceAs (Decidable (_ ∧ _))

theorem Apart.not_both
    {first second : String}
    {s : List Char}
    (apart : Apart first second)
    (firstStarts : first.toList <+: s)
    (secondStarts : second.toList <+: s) :
    False := by
  rcases List.prefix_or_prefix_of_prefix firstStarts secondStarts with
    firstShorter | secondShorter
  · exact apart.1 firstShorter
  · exact apart.2 secondShorter

/-- When at most one item gives a value, the place of the item does not matter. -/
theorem findSome?_eq_some_iff_of_exclusive
    {α β : Type}
    {give : α → Option β}
    {items : List α}
    (exclusive :
      items.Pairwise fun first second =>
        ∀ left right, give first = some left → give second = some right → False)
    {value : β} :
    items.findSome? give = some value ↔
      ∃ item ∈ items, give item = some value := by
  constructor
  · exact List.exists_of_findSome?_eq_some
  · rintro ⟨item, member, gives⟩
    -- By induction on the evidence that the items exclude one another: its head
    -- says that the first item gives nothing when a later one gives a value.
    induction exclusive with
    | nil =>
        cases member
    | @cons first rest firstAlone _ inductionHypothesis =>
        rw [List.findSome?_cons]
        cases found : give first with
        | none =>
            rcases List.mem_cons.mp member with rfl | inRest
            · rw [gives] at found
              cases found
            · exact inductionHypothesis inRest
        | some other =>
            rcases List.mem_cons.mp member with rfl | inRest
            · exact found.symm.trans gives
            · exact
                (firstAlone item inRest other value found gives).elim

theorem openings_pairwise_apart :
    Grammar.runtime.rules.Pairwise fun first second =>
      Apart first.opening second.opening := by
  decide

theorem rules_sublist
    (grammar : Grammar) :
    grammar.rules.Sublist Grammar.runtime.rules := by
  cases grammar with
  | build =>
      exact List.sublist_append_left sharedRules runtimeOnlyRules
  | runtime =>
      exact List.Sublist.refl _

theorem opening_hasCommandPrefix :
    ∀ rule ∈ Grammar.runtime.rules,
      hasCommandPrefix rule.opening.toList = true := by
  decide

/-- Of two rules of a grammar at most one accepts a line. -/
theorem rules_exclusive
    (grammar : Grammar)
    (s : List Char) :
    grammar.rules.Pairwise fun first second =>
      ∀ left right,
        first.apply? s = some left → second.apply? s = some right → False :=
  (openings_pairwise_apart.sublist (rules_sublist grammar)).imp
    fun apart _ _ firstAccepts secondAccepts =>
      apart.not_both (Rule.opening_prefix firstAccepts)
        (Rule.opening_prefix secondAccepts)

/-- The rules of a grammar give the same command in any order. -/
theorem findSome?_eq_of_perm
    {grammar : Grammar}
    {rules : List Rule}
    (reordered : rules.Perm grammar.rules)
    (s : List Char) :
    (rules.findSome? fun rule => rule.apply? s) =
      grammar.rules.findSome? fun rule => rule.apply? s := by
  have exclusive := rules_exclusive grammar s
  have reorderedExclusive :
      rules.Pairwise fun first second =>
        ∀ left right,
          first.apply? s = some left → second.apply? s = some right → False :=
    (reordered.pairwise_iff fun alone left right firstAccepts secondAccepts =>
      alone right left secondAccepts firstAccepts).mpr exclusive
  refine Option.ext fun command => ?_
  rw [findSome?_eq_some_iff_of_exclusive reorderedExclusive,
    findSome?_eq_some_iff_of_exclusive exclusive]
  exact exists_congr fun rule => and_congr_left fun _ => reordered.mem_iff

/-- At most one rule accepts a line. -/
theorem accepting_unique
    {grammar : Grammar}
    {s : List Char}
    {first second : Nat}
    {firstRule secondRule : Rule}
    {left right : Command}
    (firstFound : grammar.rules[first]? = some firstRule)
    (secondFound : grammar.rules[second]? = some secondRule)
    (firstAccepts : firstRule.apply? s = some left)
    (secondAccepts : secondRule.apply? s = some right) :
    first = second := by
  obtain ⟨firstBound, rfl⟩ := List.getElem?_eq_some_iff.mp firstFound
  obtain ⟨secondBound, rfl⟩ := List.getElem?_eq_some_iff.mp secondFound
  have exclusive := List.pairwise_iff_getElem.mp (rules_exclusive grammar s)
  rcases Nat.lt_trichotomy first second with before | same | after
  · exact
      (exclusive first second firstBound secondBound before left right
        firstAccepts secondAccepts).elim
  · exact same
  · exact
      (exclusive second first secondBound firstBound after right left
        secondAccepts firstAccepts).elim

/-! ## One line -/

/-- A line that a rule accepts has the prefix of commands and is no comment. -/
theorem of_accepts
    {rule : Rule}
    (member : rule ∈ Grammar.runtime.rules)
    {s : List Char}
    {command : Command}
    (accepts : rule.apply? s = some command) :
    isSkippable s = false ∧ hasCommandPrefix s = true := by
  have starts := opening_hasCommandPrefix rule member
  rw [hasCommandPrefix, List.isPrefixOf_iff_prefix] at starts
  obtain ⟨rest, rfl⟩ := starts.trans (Rule.opening_prefix accepts)
  exact ⟨rfl, rfl⟩

/-- A line gives a command exactly when a rule accepts the trimmed line. -/
theorem parseLine_eq_ok_some_iff
    {grammar : Grammar}
    {line : Int}
    {text : List Char}
    {placed : PlacedCommand} :
    parseLine grammar line text = .ok (some placed) ↔
      placed.line = line ∧
        ∃ rule ∈ grammar.rules,
          rule.apply? (Text.trim text) = some placed.command := by
  have exclusive :=
    fun command =>
      @findSome?_eq_some_iff_of_exclusive _ _ _ _
        (rules_exclusive grammar (Text.trim text)) command
  unfold parseLine
  dsimp only
  constructor
  · intro known
    split at known
    · cases known
    · split at known
      · cases known
      · split at known
        · next command found =>
            cases known
            exact ⟨rfl, (exclusive command).mp found⟩
        · cases known
  · rintro ⟨rfl, rule, member, accepts⟩
    obtain ⟨notSkipped, hasPrefix⟩ :=
      of_accepts ((rules_sublist grammar).subset member) accepts
    rw [notSkipped, hasPrefix,
      (exclusive placed.command).mpr ⟨rule, member, accepts⟩]
    simp

/-- A line is unknown when it should be a command and no rule accepts it. -/
theorem parseLine_eq_error_iff
    {grammar : Grammar}
    {line : Int}
    {text : List Char}
    {unknown : UnknownLine} :
    parseLine grammar line text = .error unknown ↔
      unknown = ⟨String.ofList (Text.trim text), line⟩ ∧
        isSkippable (Text.trim text) = false ∧
        (grammar = .runtime → hasCommandPrefix (Text.trim text) = true) ∧
        ∀ rule ∈ grammar.rules, rule.apply? (Text.trim text) = none := by
  unfold parseLine
  dsimp only
  constructor
  · intro known
    split at known
    · cases known
    · next notSkipped =>
        split at known
        · cases known
        · next notPassed =>
            split at known
            · cases known
            · next refused =>
                cases known
                exact
                  ⟨rfl, by simpa using notSkipped, by simpa using notPassed,
                    List.findSome?_eq_none_iff.mp refused⟩
  · rintro ⟨rfl, notSkipped, prefixed, refused⟩
    rw [notSkipped, List.findSome?_eq_none_iff.mpr refused, if_neg (by simp),
      if_neg]
    rintro ⟨isRuntime, notPrefixed⟩
    rw [prefixed isRuntime] at notPrefixed
    cases notPrefixed

/-! ## Splitting at the last separator -/

/--
A separator divides a text, with text on both sides, and every other such place
is further left.
-/
structure LastSplit (separator s left right : List Char) : Prop where
  divides :
    s = left ++ separator ++ right
  left_ne :
    left ≠ []
  right_ne :
    right ≠ []
  last :
    ∀ {before after : List Char},
      s = before ++ separator ++ after →
        before ≠ [] →
          after ≠ [] →
            before.length ≤ left.length

namespace LastSplit

variable {separator s left right : List Char}

/-- A text has one last place. -/
theorem unique
    {otherLeft otherRight : List Char}
    (first : LastSplit separator s left right)
    (second : LastSplit separator s otherLeft otherRight) :
    left = otherLeft ∧ right = otherRight := by
  have sameLength : left.length = otherLeft.length :=
    Nat.le_antisymm
      (second.last first.divides first.left_ne first.right_ne)
      (first.last second.divides second.left_ne second.right_ne)
  have same :
      left ++ (separator ++ right) = otherLeft ++ (separator ++ otherRight) := by
    rw [← List.append_assoc, ← List.append_assoc, ← first.divides,
      ← second.divides]
  obtain ⟨sameLeft, sameRest⟩ := List.append_inj same sameLength
  exact ⟨sameLeft, List.append_cancel_left sameRest⟩

end LastSplit

theorem splitLast?_isSome
    {separator s left right : List Char}
    (divides : s = left ++ separator ++ right)
    (left_ne : left ≠ [])
    (right_ne : right ≠ []) :
    (splitLast? separator s).isSome = true := by
  induction s generalizing left with
  | nil =>
      simp [left_ne] at divides
  | cons c rest inductionHypothesis =>
      rw [splitLast?]
      cases later : splitLast? separator rest with
      | some parts =>
          rfl
      | none =>
          obtain ⟨d, front, rfl⟩ := List.exists_cons_of_ne_nil left_ne
          obtain ⟨rfl, restDivides⟩ := List.cons_eq_cons.mp divides
          cases front with
          | nil =>
              have restShape : rest = separator ++ right := restDivides
              have shorter : separator.length < rest.length := by
                have positive := List.length_pos_iff.mpr right_ne
                rw [restShape, List.length_append]
                omega
              have starts : separator.isPrefixOf rest = true := by
                rw [List.isPrefixOf_iff_prefix]
                exact ⟨right, restShape.symm⟩
              dsimp only
              rw [starts, decide_eq_true shorter]
              rfl
          | cons e others =>
              have found :=
                inductionHypothesis restDivides (List.cons_ne_nil e others)
              simp [later] at found

theorem lastSplit_of_splitLast?
    {separator s left right : List Char}
    (split : splitLast? separator s = some (left, right)) :
    LastSplit separator s left right := by
  induction s generalizing left with
  | nil =>
      cases split
  | cons c rest inductionHypothesis =>
      rw [splitLast?] at split
      cases later : splitLast? separator rest with
      | some parts =>
          rw [later] at split
          cases split
          have inRest := inductionHypothesis later
          refine
            { divides := congrArg (c :: ·) inRest.divides
              left_ne := List.cons_ne_nil _ _
              right_ne := inRest.right_ne
              last := ?_ }
          intro before after divides before_ne after_ne
          obtain ⟨d, front, rfl⟩ := List.exists_cons_of_ne_nil before_ne
          obtain ⟨-, restDivides⟩ := List.cons_eq_cons.mp divides
          rw [List.length_cons, List.length_cons]
          refine Nat.succ_le_succ ?_
          rcases eq_or_ne front [] with rfl | front_ne
          · exact Nat.zero_le _
          · exact inRest.last restDivides front_ne after_ne
      | none =>
          rw [later] at split
          dsimp only at split
          split at split
          · next startsAndShorter =>
              cases split
              obtain ⟨starts, shorter⟩ :=
                Bool.and_eq_true_iff.mp startsAndShorter
              rw [decide_eq_true_eq] at shorter
              obtain ⟨right, rfl⟩ := List.isPrefixOf_iff_prefix.mp starts
              refine
                { divides := by simp
                  left_ne := List.cons_ne_nil _ _
                  right_ne := ?_
                  last := ?_ }
              · rintro empty
                simp at empty
                simp [empty] at shorter
              · intro before after divides before_ne after_ne
                obtain ⟨d, front, rfl⟩ := List.exists_cons_of_ne_nil before_ne
                obtain ⟨-, restDivides⟩ := List.cons_eq_cons.mp divides
                -- A later place would have been found in the rest.
                rcases eq_or_ne front [] with rfl | front_ne
                · exact Nat.le_refl _
                · have found :=
                    splitLast?_isSome restDivides front_ne after_ne
                  simp [later] at found
          · cases split

/-- A text is split at its last split, and only there. -/
theorem splitLast?_eq_some_iff
    {separator s left right : List Char} :
    splitLast? separator s = some (left, right) ↔
      LastSplit separator s left right := by
  constructor
  · exact lastSplit_of_splitLast?
  · intro lastSplit
    obtain ⟨⟨otherLeft, otherRight⟩, split⟩ :=
      Option.isSome_iff_exists.mp
        (splitLast?_isSome lastSplit.divides lastSplit.left_ne
          lastSplit.right_ne)
    obtain ⟨rfl, rfl⟩ := lastSplit.unique (lastSplit_of_splitLast? split)
    exact split

/--
Two occurrences of a separator overlap in one character at most: no longer end
of it is also its beginning.
-/
def OverlapsInOne (separator : List Char) : Prop :=
  ∀ shift < separator.length,
    0 < shift →
      shift + 1 < separator.length →
        (separator.drop shift).isPrefixOf separator = false

instance (separator : List Char) : Decidable (OverlapsInOne separator) :=
  inferInstanceAs (Decidable (∀ shift < separator.length, _))

/-- A separator does not occur in its last character followed by a text. -/
def AbsentAfter (separator last : List Char) : Prop :=
  ¬ separator <:+: separator.getLast?.toList ++ last

/-- A separator that starts inside itself starts at its last character. -/
theorem exists_final_of_overlap
    {separator shift rest after right : List Char}
    (overlaps : OverlapsInOne separator)
    (shift_ne : shift ≠ [])
    (divides : separator = shift ++ rest)
    (same : separator ++ after = rest ++ right) :
    separator ++ after <:+ separator.getLast?.toList ++ right := by
  have shiftPositive := List.length_pos_iff.mpr shift_ne
  have lengths : separator.length = shift.length + rest.length := by
    rw [divides, List.length_append]
  have starts : rest <+: separator :=
    List.prefix_of_prefix_length_le ⟨right, same.symm⟩
      (List.prefix_append separator after) (by omega)
  have short : rest.length ≤ 1 := by
    by_contra long
    have apart := overlaps shift.length (by omega) shiftPositive (by omega)
    rw [divides, List.drop_left, ← divides,
      List.isPrefixOf_iff_prefix.mpr starts] at apart
    cases apart
  rw [same]
  match rest, short with
  | [], _ =>
      exact List.suffix_append _ _
  | [final], _ =>
      rw [divides, List.getLast?_concat]
      exact List.suffix_refl _

/-- A separator stands last before a field in which it does not start again. -/
theorem LastSplit.of_absentAfter
    {separator left right : List Char}
    (overlaps : OverlapsInOne separator)
    (absent : AbsentAfter separator right)
    (left_ne : left ≠ [])
    (right_ne : right ≠ []) :
    LastSplit separator (left ++ separator ++ right) left right where
  divides := rfl
  left_ne := left_ne
  right_ne := right_ne
  last {before after} same _ _ := by
    by_contra further
    rw [List.append_assoc, List.append_assoc] at same
    -- A place further right is shifted against the separator by some characters.
    rcases List.append_eq_append_iff.mp same with
      ⟨shift, rfl, sameRest⟩ | ⟨shift, rfl, -⟩
    · have shift_ne : shift ≠ [] := by
        rintro rfl
        simp at further
      refine absent ?_
      rcases List.append_eq_append_iff.mp sameRest with
        ⟨between, -, rightShape⟩ | ⟨rest, divides, overlap⟩
      · rw [rightShape, ← List.append_assoc, ← List.append_assoc]
        exact (List.infix_append _ _ _)
      · exact (List.prefix_append separator after).isInfix.trans
          (exists_final_of_overlap overlaps shift_ne divides overlap).isInfix
    · rw [List.length_append] at further
      omega

end PageScript.Script
