import PageScript.Proofs.Text.Run
import PageScript.Script.Call

namespace PageScript.Script

/-!
# Splitting arguments

A comma is free when no quoted text holds it.  A list of arguments is divided at its free
commas, into parts that a scan passes from outside every quoted text to outside again.
Blanks at the ends of a part are outside, so a trimmed part is such a part as well, and
the arguments that a text is split into are split into themselves.
-/

/-! ## Scanning -/

namespace QuoteState

/-- Where a scan stands after a text. -/
def after (state : QuoteState) (s : List Char) : QuoteState :=
  s.foldl next state

variable {state : QuoteState}

theorem after_cons
    (c : Char)
    (rest : List Char) :
    state.after (c :: rest) = (state.next c).after rest :=
  rfl

theorem after_append
    (front back : List Char) :
    state.after (front ++ back) = (state.after front).after back :=
  List.foldl_append

/-- What a scan remembers as a quote is one of the two quotes. -/
def IsMarked : QuoteState → Prop
  | outside => True
  | inside quote => quote = '\x22' ∨ quote = '\x27'
  | escaped quote => quote = '\x22' ∨ quote = '\x27'

theorem IsMarked.next
    (marked : state.IsMarked)
    (c : Char) :
    (state.next c).IsMarked := by
  cases state with
  | outside =>
      rw [QuoteState.next]
      split
      · next quote =>
          simpa [IsMarked] using quote
      · trivial
  | inside quote =>
      rw [QuoteState.next]
      split
      · exact marked
      · split
        · trivial
        · exact marked
  | escaped quote =>
      exact marked

theorem IsMarked.after
    (marked : state.IsMarked)
    (s : List Char) :
    (state.after s).IsMarked := by
  induction s generalizing state with
  | nil =>
      exact marked
  | cons c rest inductionHypothesis =>
      exact inductionHypothesis (marked.next c)

/-- A blank neither opens nor closes a quoted text. -/
theorem IsMarked.next_eq_outside_iff
    (marked : state.IsMarked)
    {c : Char}
    (blank : Text.isBlank c = true) :
    state.next c = .outside ↔ state = .outside := by
  have noQuote : c ≠ '\x22' ∧ c ≠ '\x27' := by
    constructor
    · rintro rfl
      cases blank
    · rintro rfl
      cases blank
  cases state with
  | outside =>
      simp [QuoteState.next, noQuote]
  | inside quote =>
      have other : c ≠ quote := by
        rcases marked with rfl | rfl
        · exact noQuote.1
        · exact noQuote.2
      rw [QuoteState.next, if_neg other]
      split <;> simp
  | escaped quote =>
      simp [QuoteState.next]

/-- Blanks neither open nor close a quoted text. -/
theorem IsMarked.after_eq_outside_iff
    (marked : state.IsMarked)
    {blanks : List Char}
    (blank : ∀ c ∈ blanks, Text.isBlank c = true) :
    state.after blanks = .outside ↔ state = .outside := by
  induction blanks generalizing state with
  | nil =>
      exact Iff.rfl
  | cons c rest inductionHypothesis =>
      obtain ⟨first, others⟩ := List.forall_mem_cons.mp blank
      rw [after_cons, inductionHypothesis (marked.next c) others,
        marked.next_eq_outside_iff first]

end QuoteState

/--
A text that a scan passes from a state to outside every quoted text, with no free comma in
it.
-/
structure ClosesFrom (state : QuoteState) (s : List Char) : Prop where
  /-- The quoted texts are closed. -/
  ends :
    state.after s = .outside
  /-- Every comma stands inside a quoted text. -/
  quoted :
    ∀ front back : List Char,
      s = front ++ ',' :: back → state.after front ≠ .outside

/-- A text with closed quoted texts only, and no comma outside of them. -/
abbrev IsClosed (s : List Char) : Prop :=
  ClosesFrom .outside s

/-- A text is its parts with single commas between them, and every part is closed. -/
structure IsSplit (s : List Char) (parts : List (List Char)) : Prop where
  filled :
    parts ≠ []
  joined :
    [','].intercalate parts = s
  closed :
    ∀ part ∈ parts, IsClosed part

section Scanning

variable {state : QuoteState} {c : Char} {s rest : List Char}

theorem closesFrom_nil_iff :
    ClosesFrom state [] ↔ state = .outside := by
  refine ⟨ClosesFrom.ends, fun ends => ⟨ends, ?_⟩⟩
  intro front back divided
  simp at divided

theorem closesFrom_cons_iff :
    ClosesFrom state (c :: rest) ↔
      ¬(state = .outside ∧ c = ',') ∧ ClosesFrom (state.next c) rest := by
  constructor
  · intro closes
    refine ⟨?_, closes.ends, ?_⟩
    · rintro ⟨outside, rfl⟩
      exact closes.quoted [] _ rfl outside
    · rintro front back rfl
      exact closes.quoted (c :: front) back rfl
  · rintro ⟨joins, closes⟩
    refine ⟨closes.ends, ?_⟩
    intro front back divided
    cases front with
    | nil =>
        obtain ⟨rfl, -⟩ := List.cons_eq_cons.mp divided
        exact fun outside => joins ⟨outside, rfl⟩
    | cons d others =>
        obtain ⟨rfl, restDivided⟩ := List.cons_eq_cons.mp divided
        exact closes.quoted others back restDivided

theorem isMarked_outside :
    QuoteState.outside.IsMarked :=
  trivial

/-- Blanks are outside every quoted text. -/
theorem outside_after_blanks
    {blanks : List Char}
    (blank : ∀ c ∈ blanks, Text.isBlank c = true) :
    QuoteState.outside.after blanks = .outside :=
  (isMarked_outside.after_eq_outside_iff blank).mpr rfl

/-- Trimming cuts nothing off a quoted text. -/
theorem IsClosed.trim
    (closed : IsClosed s) :
    IsClosed (Text.trim s) := by
  obtain ⟨before, after, beforeBlank, afterBlank, shape⟩ := Text.exists_blanks_trim s
  generalize Text.trim s = kept at shape
  subst shape
  have entered : ∀ front,
      QuoteState.outside.after (before ++ front) = QuoteState.outside.after front := by
    intro front
    rw [QuoteState.after_append, outside_after_blanks beforeBlank]
  refine ⟨?_, ?_⟩
  · have marked : (QuoteState.outside.after kept).IsMarked :=
      isMarked_outside.after kept
    have ends := closed.ends
    rwa [entered, QuoteState.after_append,
      marked.after_eq_outside_iff afterBlank] at ends
  · rintro front back rfl
    rw [← entered]
    refine closed.quoted _ (back ++ after) ?_
    simp only [List.append_assoc, List.cons_append]

end Scanning

/-! ## Segments -/

section Segments

variable {state : QuoteState} {c : Char}

/-- Segments of which the first starts with further characters. -/
def startedBy
    (front : List Char)
    (parts : List (List Char) × QuoteState) :
    List (List Char) × QuoteState :=
  (parts.1.modifyHead (front ++ ·), parts.2)

theorem startedBy_nil
    (parts : List (List Char) × QuoteState) :
    startedBy [] parts = parts := by
  rcases parts with ⟨_ | ⟨first, others⟩, state⟩ <;> rfl

theorem startedBy_startedBy
    (front back : List Char)
    (parts : List (List Char) × QuoteState) :
    startedBy front (startedBy back parts) = startedBy (front ++ back) parts := by
  simp [startedBy, Function.comp_def]

/-- There is always a first segment. -/
theorem segments_ne_nil
    (state : QuoteState)
    (s : List Char) :
    (segments state s).1 ≠ [] := by
  cases s with
  | nil =>
      exact List.cons_ne_nil _ _
  | cons c rest =>
      rw [segments]
      split
      · exact List.cons_ne_nil _ _
      · dsimp only
        split <;> exact List.cons_ne_nil _ _

/-- A character that is no separator belongs to the first segment. -/
theorem segments_cons
    (joins : ¬(state = .outside ∧ c = ','))
    (rest : List Char) :
    segments state (c :: rest) = startedBy [c] (segments (state.next c) rest) := by
  obtain ⟨first, others, shape⟩ :=
    List.exists_cons_of_ne_nil (segments_ne_nil (state.next c) rest)
  rw [segments, if_neg joins, startedBy]
  dsimp only
  rw [shape]
  rfl

/-- A comma outside quoted texts ends a segment. -/
theorem segments_comma
    (rest : List Char) :
    segments .outside (',' :: rest) =
      ([] :: (segments .outside rest).1, (segments .outside rest).2) :=
  rfl

/-- The state at the end of the segments is where the scan stands. -/
theorem segments_state
    (state : QuoteState)
    (s : List Char) :
    (segments state s).2 = state.after s := by
  induction s generalizing state with
  | nil =>
      rfl
  | cons c rest inductionHypothesis =>
      by_cases free : state = .outside ∧ c = ','
      · obtain ⟨rfl, rfl⟩ := free
        exact inductionHypothesis .outside
      · rw [segments_cons free]
        exact inductionHypothesis (state.next c)

/-- A closed text belongs to one segment. -/
theorem ClosesFrom.segments_append
    {s : List Char}
    (closes : ClosesFrom state s)
    (rest : List Char) :
    segments state (s ++ rest) = startedBy s (segments .outside rest) := by
  induction s generalizing state with
  | nil =>
      obtain rfl := closesFrom_nil_iff.mp closes
      exact (startedBy_nil _).symm
  | cons c others inductionHypothesis =>
      obtain ⟨joins, othersClose⟩ := closesFrom_cons_iff.mp closes
      rw [List.cons_append, segments_cons joins, inductionHypothesis othersClose,
        startedBy_startedBy]
      rfl

/--
The arguments of a list are its segments, with what follows the commas before all but the
first.
-/
theorem segments_intercalate
    {pad first : List Char}
    {others : List (List Char)}
    (neutral : IsClosed pad)
    (closed : ∀ s ∈ first :: others, IsClosed s) :
    segments .outside ((',' :: pad).intercalate (first :: others)) =
      (first :: others.map (pad ++ ·), .outside) := by
  induction others generalizing first with
  | nil =>
      have whole := (closed first List.mem_cons_self).segments_append []
      rw [List.append_nil] at whole
      rw [List.intercalate_singleton, whole]
      simp [startedBy, segments]
  | cons second rest inductionHypothesis =>
      obtain ⟨firstClosed, later⟩ := List.forall_mem_cons.mp closed
      rw [List.intercalate_cons_cons, List.append_assoc, firstClosed.segments_append,
        List.cons_append, segments_comma, neutral.segments_append,
        inductionHypothesis later]
      simp [startedBy]

/-- The segments of a text are its only division into closed parts. -/
theorem IsSplit.segments_eq
    {s : List Char}
    {parts : List (List Char)}
    (split : IsSplit s parts) :
    segments .outside s = (parts, .outside) := by
  obtain ⟨first, others, rfl⟩ := List.exists_cons_of_ne_nil split.filled
  rw [← split.joined, segments_intercalate (closesFrom_nil_iff.mpr rfl) split.closed]
  simp

/-- A text has one division into closed parts. -/
theorem IsSplit.unique
    {s : List Char}
    {parts others : List (List Char)}
    (split : IsSplit s parts)
    (otherwise : IsSplit s others) :
    parts = others :=
  congrArg Prod.fst (split.segments_eq.symm.trans otherwise.segments_eq)

/--
When the scan of a text ends outside, the first segment closes what was open, and the
others are closed.
-/
theorem exists_segments_of_ends
    {s : List Char}
    (ends : state.after s = .outside) :
    ∃ first others,
      segments state s = (first :: others, .outside) ∧
        ClosesFrom state first ∧
        (∀ part ∈ others, IsClosed part) ∧
        [','].intercalate (first :: others) = s := by
  induction s generalizing state with
  | nil =>
      obtain rfl : state = .outside := ends
      exact
        ⟨[], [], rfl, closesFrom_nil_iff.mpr rfl, List.forall_mem_nil _,
          List.intercalate_singleton⟩
  | cons c rest inductionHypothesis =>
      by_cases free : state = .outside ∧ c = ','
      -- A free comma starts a segment; any other character goes to the first one.
      · obtain ⟨rfl, rfl⟩ := free
        have laterEnds : QuoteState.outside.after rest = .outside := ends
        obtain ⟨first, others, shape, closes, closed, joined⟩ :=
          inductionHypothesis laterEnds
        refine
          ⟨[], first :: others, ?_, closesFrom_nil_iff.mpr rfl,
            List.forall_mem_cons.mpr ⟨closes, closed⟩, ?_⟩
        · rw [segments_comma, shape]
        · rw [List.intercalate_cons_cons, joined]
          rfl
      · obtain ⟨first, others, shape, closes, closed, joined⟩ :=
          inductionHypothesis ends
        refine
          ⟨c :: first, others, ?_, closesFrom_cons_iff.mpr ⟨free, closes⟩, closed, ?_⟩
        · rw [segments_cons free, shape]
          rfl
        · rw [← joined]
          cases others with
          | nil =>
              simp only [List.intercalate_singleton]
          | cons second later =>
              simp only [List.intercalate_cons_cons, List.cons_append]

/-- A text whose scan ends outside is divided into closed parts. -/
theorem exists_isSplit
    {s : List Char}
    (ends : QuoteState.outside.after s = .outside) :
    ∃ parts, IsSplit s parts := by
  obtain ⟨first, others, -, closes, closed, joined⟩ := exists_segments_of_ends ends
  exact
    ⟨first :: others, List.cons_ne_nil _ _, joined,
      List.forall_mem_cons.mpr ⟨closes, closed⟩⟩

/-- Only a text whose scan ends outside is divided into closed parts. -/
theorem IsSplit.ends
    {s : List Char}
    {parts : List (List Char)}
    (split : IsSplit s parts) :
    QuoteState.outside.after s = .outside := by
  rw [← segments_state, split.segments_eq]

end Segments

/-! ## Arguments -/

section Arguments

variable {text : String} {arguments : List String}

/-- A blank text has no arguments. -/
theorem splitArguments_of_blank
    (blank : Text.isBlankText text.toList = true) :
    splitArguments text = .ok [] := by
  rw [splitArguments, if_pos blank]

/-- A text with an open quoted text is refused as such. -/
theorem splitArguments_of_open
    (written : Text.isBlankText text.toList = false)
    (opened : QuoteState.outside.after text.toList ≠ .outside) :
    splitArguments text = .error (.unterminatedText text) := by
  rw [splitArguments, written, if_neg Bool.false_ne_true]
  dsimp only
  rw [segments_state, if_pos opened]

/-- The parts of a text decide what its arguments are. -/
theorem splitArguments_of_isSplit
    {parts : List (List Char)}
    (written : Text.isBlankText text.toList = false)
    (split : IsSplit text.toList parts) :
    splitArguments text =
      if ∃ part ∈ parts, Text.isBlankText part = true then
        .error (.emptyArgument text)
      else
        .ok (parts.map fun part => String.ofList (Text.trim part)) := by
  rw [splitArguments, written, if_neg Bool.false_ne_true, split.segments_eq]
  dsimp only
  rw [if_neg (not_not.mpr rfl), List.map_map]
  refine if_congr ?_ rfl rfl
  simp [Text.isBlankText, Text.trim_eq_nil_iff]

/-- Trimmed arguments with commas and blanks between them are split into themselves. -/
theorem splitArguments_intercalate
    (filled : ∀ argument ∈ arguments, argument ≠ "")
    (trimmed : ∀ argument ∈ arguments, Text.trim argument.toList = argument.toList)
    (closed : ∀ argument ∈ arguments, IsClosed argument.toList) :
    splitArguments (String.intercalate ", " arguments) = .ok arguments := by
  rcases arguments with _ | ⟨first, others⟩
  · rfl
  have letters :
      (String.intercalate ", " (first :: others)).toList =
        [',', ' '].intercalate (first.toList :: others.map String.toList) :=
    String.toList_intercalate
  have parts :
      segments .outside ([',', ' '].intercalate (first.toList :: others.map String.toList)) =
        (first.toList :: others.map fun argument => ' ' :: argument.toList, .outside) := by
    have blank : IsClosed [' '] :=
      closesFrom_cons_iff.mpr ⟨by decide, closesFrom_nil_iff.mpr rfl⟩
    rw [segments_intercalate blank, List.map_map]
    · rfl
    · exact List.forall_mem_map (l := first :: others).mpr closed
  have cut :
      (first.toList :: others.map fun argument => ' ' :: argument.toList).map Text.trim =
        (first :: others).map String.toList := by
    rw [List.map_cons, List.map_cons, trimmed first List.mem_cons_self, List.map_map]
    refine congrArg (first.toList :: ·) (List.map_congr_left fun argument member => ?_)
    have surrounded :
        Text.trim ([' '] ++ argument.toList ++ []) = argument.toList :=
      Text.trim_surrounded
        (trimmed argument (List.mem_cons_of_mem _ member))
        (mt String.toList_eq_nil_iff.mp (filled argument (List.mem_cons_of_mem _ member)))
        (List.forall_mem_singleton.mpr (by decide)) (List.forall_mem_nil _)
    rwa [List.append_nil] at surrounded
  have written :
      Text.isBlankText
          ([',', ' '].intercalate (first.toList :: others.map String.toList)) =
        false := by
    cases others with
    | nil =>
        refine Bool.eq_false_iff.mpr fun blank => ?_
        have nothing := Text.trim_eq_nil_iff.mpr (List.all_eq_true.mp blank)
        rw [List.map_nil, List.intercalate_singleton, trimmed first List.mem_cons_self,
          String.toList_eq_nil_iff] at nothing
        exact filled first List.mem_cons_self nothing
    | cons second rest =>
        refine List.all_eq_false.mpr ⟨',', ?_, by decide⟩
        simp [List.intercalate_cons_cons]
  have noneEmpty :
      ((first :: others).map String.toList).any List.isEmpty = false := by
    refine List.any_eq_false.mpr (List.forall_mem_map.mpr fun argument member => ?_)
    simpa using filled argument member
  rw [splitArguments, letters, written, if_neg Bool.false_ne_true, parts]
  dsimp only
  rw [cut, noneEmpty, if_neg (not_not.mpr rfl), if_neg Bool.false_ne_true, List.map_map]
  simp [Function.comp_def]

/--
A split succeeds with nothing on a blank text, and on any other text with its trimmed parts,
none of which is blank.
-/
theorem splitArguments_eq_ok_iff :
    splitArguments text = .ok arguments ↔
      Text.isBlankText text.toList = true ∧ arguments = [] ∨
        Text.isBlankText text.toList = false ∧
          ∃ parts,
            IsSplit text.toList parts ∧
              (∀ part ∈ parts, Text.isBlankText part = false) ∧
              arguments = parts.map fun part => String.ofList (Text.trim part) := by
  cases written : Text.isBlankText text.toList with
  | true =>
      rw [splitArguments_of_blank written]
      constructor
      · rintro ⟨⟩
        exact .inl ⟨rfl, rfl⟩
      · rintro (⟨-, rfl⟩ | ⟨⟨⟩, -⟩)
        rfl
  | false =>
      constructor
      · intro succeeded
        by_cases ends : QuoteState.outside.after text.toList = .outside
        · obtain ⟨parts, divided⟩ := exists_isSplit ends
          rw [splitArguments_of_isSplit written divided] at succeeded
          split at succeeded
          · cases succeeded
          · next noneBlank =>
              refine .inr ⟨rfl, parts, divided, ?_, (Except.ok.inj succeeded).symm⟩
              exact fun part member =>
                Bool.eq_false_iff.mpr fun blank => noneBlank ⟨part, member, blank⟩
        · rw [splitArguments_of_open written ends] at succeeded
          cases succeeded
      · rintro (⟨blank, -⟩ | ⟨-, parts, divided, solid, rfl⟩)
        · cases blank
        · rw [splitArguments_of_isSplit written divided, if_neg]
          rintro ⟨part, member, blank⟩
          rw [solid part member] at blank
          cases blank

/--
A split is refused on a text that is not blank, when a quoted text is left open, or else when
a part is blank.
-/
theorem splitArguments_eq_error_iff
    {error : ExpressionError} :
    splitArguments text = .error error ↔
      Text.isBlankText text.toList = false ∧
        (QuoteState.outside.after text.toList ≠ .outside ∧
            error = .unterminatedText text ∨
          (∃ parts,
              IsSplit text.toList parts ∧ ∃ part ∈ parts, Text.isBlankText part = true) ∧
            error = .emptyArgument text) := by
  cases written : Text.isBlankText text.toList with
  | true =>
      rw [splitArguments_of_blank written]
      simp
  | false =>
      by_cases ends : QuoteState.outside.after text.toList = .outside
      · obtain ⟨parts, divided⟩ := exists_isSplit ends
        have blankPart_iff :
            (∃ others,
                IsSplit text.toList others ∧
                  ∃ part ∈ others, Text.isBlankText part = true) ↔
              ∃ part ∈ parts, Text.isBlankText part = true := by
          constructor
          · rintro ⟨others, otherwise, part⟩
            rwa [← otherwise.unique divided]
          · exact fun part => ⟨parts, divided, part⟩
        rw [splitArguments_of_isSplit written divided, blankPart_iff]
        split
        · next blank =>
            constructor
            · rintro ⟨⟩
              exact ⟨rfl, .inr ⟨blank, rfl⟩⟩
            · rintro ⟨-, ⟨opened, -⟩ | ⟨-, rfl⟩⟩
              · exact (opened ends).elim
              · rfl
        · next noneBlank =>
            simp [ends, noneBlank]
      · rw [splitArguments_of_open written ends]
        constructor
        · rintro ⟨⟩
          exact ⟨rfl, .inl ⟨ends, rfl⟩⟩
        · rintro ⟨-, ⟨-, rfl⟩ | ⟨⟨parts, divided, -⟩, -⟩⟩
          · rfl
          · exact (ends divided.ends).elim

/--
Every argument of a text is filled, trimmed and closed.  The arguments are the trimmed parts
of the text, which is these parts with single commas between them, unless the text is blank
and has no arguments.  They are split into themselves when they are written with commas and
blanks between them.  A text is refused exactly when it is not blank and its scan ends inside
a quoted text or one of its parts is blank.
-/
theorem arguments_are_trimmed_parts
    (text : String) :
    (∀ arguments,
      splitArguments text = .ok arguments →
        (∀ argument ∈ arguments,
          argument ≠ "" ∧
            Text.trim argument.toList = argument.toList ∧
            IsClosed argument.toList) ∧
        (Text.isBlankText text.toList = true ∧ arguments = [] ∨
          Text.isBlankText text.toList = false ∧
            ∃ parts,
              IsSplit text.toList parts ∧
                arguments = parts.map fun part => String.ofList (Text.trim part)) ∧
        splitArguments (String.intercalate ", " arguments) = .ok arguments) ∧
    ((∃ error, splitArguments text = .error error) ↔
      Text.isBlankText text.toList = false ∧
        (QuoteState.outside.after text.toList ≠ .outside ∨
          ∃ parts,
            IsSplit text.toList parts ∧ ∃ part ∈ parts, Text.isBlankText part = true)) ∧
    ∀ error,
      splitArguments text = .error error →
        error = .unterminatedText text ∨ error = .emptyArgument text := by
  refine ⟨fun arguments succeeded => ?_, ?_, fun error refused => ?_⟩
  · have shape := splitArguments_eq_ok_iff.mp succeeded
    have each :
        ∀ argument ∈ arguments,
          argument ≠ "" ∧
            Text.trim argument.toList = argument.toList ∧
            IsClosed argument.toList := by
      rcases shape with ⟨-, rfl⟩ | ⟨-, parts, divided, solid, rfl⟩
      · exact List.forall_mem_nil _
      · refine List.forall_mem_map.mpr fun part member => ⟨?_, ?_, ?_⟩
        · intro empty
          have blank := Text.trim_eq_nil_iff.mp (String.ofList_eq_empty_iff.mp empty)
          have solidPart := solid part member
          rw [Text.isBlankText, List.all_eq_true.mpr blank] at solidPart
          cases solidPart
        · rw [String.toList_ofList, Text.trim_trim]
        · rw [String.toList_ofList]
          exact (divided.closed part member).trim
    refine ⟨each, ?_, ?_⟩
    · rcases shape with blank | ⟨written, parts, divided, -, same⟩
      · exact .inl blank
      · exact .inr ⟨written, parts, divided, same⟩
    · exact
        splitArguments_intercalate (fun argument member => (each argument member).1)
          (fun argument member => (each argument member).2.1)
          fun argument member => (each argument member).2.2
  · constructor
    · rintro ⟨error, refused⟩
      obtain ⟨written, ⟨opened, -⟩ | ⟨blank, -⟩⟩ := splitArguments_eq_error_iff.mp refused
      · exact ⟨written, .inl opened⟩
      · exact ⟨written, .inr blank⟩
    · rintro ⟨written, opened | blank⟩
      · exact ⟨_, splitArguments_eq_error_iff.mpr ⟨written, .inl ⟨opened, rfl⟩⟩⟩
      · exact ⟨_, splitArguments_eq_error_iff.mpr ⟨written, .inr ⟨blank, rfl⟩⟩⟩
  · obtain ⟨-, ⟨-, same⟩ | ⟨-, same⟩⟩ := splitArguments_eq_error_iff.mp refused
    · exact .inl same
    · exact .inr same

/-- A comma inside a quoted text divides nothing, and an open quoted text is refused. -/
theorem arguments_are_trimmed_parts_of_quoted_comma :
    splitArguments " \"a, b\" ,x " = .ok ["\"a, b\"", "x"] ∧
      IsClosed "\"a, b\"".toList ∧
      (∃ parts,
        IsSplit " \"a, b\" ,x ".toList parts ∧
          ["\"a, b\"", "x"] = parts.map fun part => String.ofList (Text.trim part)) ∧
      splitArguments "\"a, b\", x" = .ok ["\"a, b\"", "x"] ∧
      ∃ error, splitArguments "\"a, b" = .error error := by
  have succeeded : splitArguments " \"a, b\" ,x " = .ok ["\"a, b\"", "x"] := by
    decide +kernel
  obtain ⟨each, shape, again⟩ :=
    (arguments_are_trimmed_parts " \"a, b\" ,x ").1 _ succeeded
  have opened : QuoteState.outside.after "\"a, b".toList ≠ .outside := by
    decide +kernel
  refine
    ⟨succeeded, (each _ List.mem_cons_self).2.2, ?_, again,
      (arguments_are_trimmed_parts "\"a, b").2.1.mpr ⟨by decide +kernel, .inl opened⟩⟩
  rcases shape with ⟨blank, -⟩ | ⟨-, parts⟩
  · exact absurd blank (by decide +kernel)
  · exact parts

end Arguments

end PageScript.Script
