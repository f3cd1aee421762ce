import PageScript.Proofs.Script.Parsing

namespace PageScript

/-!
# Scripts line by line

A text that ends with a whole line gives its lines and then those of the text behind
it, unless the joint falls between a carriage return and its line feed.  So a script
is read part by part: what a later part gives moves down by the number of lines before
it.  Lines that give no command can be put in and taken out, and nothing but the
numbers of the lines behind them changes.
-/

namespace Text

/-! ## Lines of joined texts -/

/--
Two texts meet between lines: the first is empty or ends with a line end, and the joint
does not separate a carriage return from a line feed.
-/
structure MeetBetweenLines (first second : List Char) : Prop where
  complete : ∀ c ∈ first.getLast?, isLineEnd c = true
  apart : first.getLast? = some '\r' → second.head? ≠ some '\n'

/-- A line end that is no half of a pair closes an empty line. -/
theorem lines_cons_of_isLineEnd
    {c : Char}
    {rest : List Char}
    (isEnd : isLineEnd c = true)
    (apart : c = '\r' → rest.head? ≠ some '\n') :
    lines (c :: rest) = [] :: lines rest := by
  rw [lines.eq_def]
  split
  · next impossible =>
      cases impossible
  · next after same =>
      cases same
      exact absurd rfl (apart rfl)
  · next same =>
      cases same
      rw [if_pos isEnd]

/-- A character that ends no line belongs to the first line of what follows. -/
theorem lines_cons_of_not_isLineEnd
    {c : Char}
    {rest line : List Char}
    {others : List (List Char)}
    (notEnd : isLineEnd c = false)
    (found : lines rest = line :: others) :
    lines (c :: rest) = (c :: line) :: others := by
  rw [lines.eq_def]
  split
  · next impossible =>
      cases impossible
  · next after same =>
      cases same
      cases notEnd
  · next same =>
      cases same
      rw [if_neg (by simp [notEnd]), found]

theorem lines_ne_nil
    {s : List Char}
    (filled : s ≠ []) :
    lines s ≠ [] := by
  unfold lines
  split
  · exact absurd rfl filled
  · nofun
  · split
    · nofun
    · split <;> nofun

namespace MeetBetweenLines

variable {c : Char} {first second : List Char}

/-- Texts that meet between lines do so behind the first character as well. -/
theorem tail
    (meets : MeetBetweenLines (c :: first) second) :
    MeetBetweenLines first second := by
  cases first with
  | nil =>
      exact ⟨nofun, nofun⟩
  | cons d rest =>
      refine ⟨fun last member => meets.complete last ?_, fun isReturn => meets.apart ?_⟩
      · rwa [List.getLast?_cons_cons]
      · rwa [List.getLast?_cons_cons]

/-- A text that meets two others meets one followed by the other. -/
theorem append
    {third : List Char}
    (meets : MeetBetweenLines first second)
    (meetsThird : MeetBetweenLines first third) :
    MeetBetweenLines first (second ++ third) := by
  cases second with
  | nil =>
      exact meetsThird
  | cons d rest =>
      exact ⟨meets.complete, meets.apart⟩

end MeetBetweenLines

/-- Texts that meet between lines have their lines one after the other. -/
theorem lines_append
    {first second : List Char}
    (meets : MeetBetweenLines first second) :
    lines (first ++ second) = lines first ++ lines second := by
  fun_induction lines first with
  | case1 =>
      rfl
  | case2 rest inductionHypothesis =>
      exact congrArg ([] :: ·) (inductionHypothesis meets.tail.tail)
  | case3 c rest notPair isEnd inductionHypothesis =>
      rw [List.cons_append, lines_cons_of_isLineEnd isEnd, inductionHypothesis meets.tail]
      · rfl
      · rintro rfl
        cases rest with
        | nil =>
            exact meets.apart rfl
        | cons d others =>
            intro isFeed
            obtain rfl : d = '\n' := Option.some.inj isFeed
            exact notPair others rfl rfl
  | case4 c rest notPair notEnd noLines inductionHypothesis =>
      -- The last character of the first text would end no line.
      have empty : rest = [] := by
        by_contra filled
        exact lines_ne_nil filled noLines
      subst empty
      exact absurd (meets.complete c rfl) notEnd
  | case5 c rest notPair notEnd line others found inductionHypothesis =>
      rw [List.cons_append, List.cons_append]
      refine lines_cons_of_not_isLineEnd (by simpa using notEnd) ?_
      rw [inductionHypothesis meets.tail, found, List.cons_append]

end Text

namespace Script

/-! ## Moved lines -/

/-- What a script gives, moved down by a number of lines. -/
def Parsed.movedDown (parsed : Parsed) (count : Nat) : Parsed :=
  ⟨parsed.commands.map fun placed => { placed with line := placed.line + count },
    parsed.unknown.map fun unknown => { unknown with line := unknown.line + count }⟩

section Moving

variable {grammar : Grammar} (line : Int) (count : Nat)

/-- A line reads the same wherever it stands. -/
theorem ofOutcome_parseLine_add
    (text : List Char) :
    Parsed.ofOutcome (parseLine grammar (line + count) text) =
      (Parsed.ofOutcome (parseLine grammar line text)).movedDown count := by
  unfold parseLine
  dsimp only
  split
  · rfl
  · split
    · rfl
    · split <;> rfl

theorem Parsed.movedDown_append
    (first second : Parsed) :
    (first.append second).movedDown count =
      (first.movedDown count).append (second.movedDown count) := by
  simp [Parsed.append, Parsed.movedDown]

/-- Lines read the same further down. -/
theorem parseLines_add
    (lines : List (List Char)) :
    parseLines grammar (line + count) lines =
      (parseLines grammar line lines).movedDown count := by
  induction lines generalizing line with
  | nil =>
      rfl
  | cons text rest inductionHypothesis =>
      have shifted : line + count + 1 = line + 1 + count := by
        omega
      rw [parseLines_cons, parseLines_cons, Parsed.movedDown_append,
        ofOutcome_parseLine_add, shifted, inductionHypothesis]

/-- Later lines are read below the earlier ones. -/
theorem parseLines_append
    (earlier later : List (List Char)) :
    parseLines grammar line (earlier ++ later) =
      (parseLines grammar line earlier).append
        ((parseLines grammar line later).movedDown earlier.length) := by
  rw [← parseLines_add]
  induction earlier generalizing line with
  | nil =>
      rw [List.length_nil, Int.natCast_zero, Int.add_zero]
      rfl
  | cons text rest inductionHypothesis =>
      have shifted :
          line + 1 + (rest.length : Int) = line + (text :: rest).length := by
        rw [List.length_cons]
        omega
      rw [List.cons_append, parseLines_cons, parseLines_cons, inductionHypothesis,
        shifted]
      simp [Parsed.append]

end Moving

/-! ## Lines without a command -/

/-- Why a line gives no command. -/
inductive GivesNoCommand (grammar : Grammar) (text : List Char) : Prop where
  /-- It is blank. -/
  | blank :
      Text.trim text = [] →
      GivesNoCommand grammar text
  /-- It is a comment. -/
  | comment :
      ['/', '/'] <+: Text.trim text →
      GivesNoCommand grammar text
  /-- It lacks the prefix of commands, which matters while a page is loaded. -/
  | unprefixed :
      grammar = .runtime →
      ¬ ['h', 's', 'x', ' '] <+: Text.trim text →
      GivesNoCommand grammar text
  /-- No rule of the grammar accepts it. -/
  | unknown :
      (∀ rule ∈ grammar.rules, rule.apply? (Text.trim text) = none) →
      GivesNoCommand grammar text

section NoCommand

variable {grammar : Grammar} {text : List Char}

theorem isSkippable_iff
    {s : List Char} :
    isSkippable s = true ↔ s = [] ∨ ['/', '/'] <+: s := by
  rw [isSkippable, Bool.or_eq_true, List.isEmpty_iff, List.isPrefixOf_iff_prefix]

theorem hasCommandPrefix_iff
    {s : List Char} :
    hasCommandPrefix s = true ↔ ['h', 's', 'x', ' '] <+: s := by
  rw [hasCommandPrefix, List.isPrefixOf_iff_prefix]

/-- A line gives no command for one of these reasons and for no other. -/
theorem givesNoCommand_iff
    {line : Int} :
    GivesNoCommand grammar text ↔
      (Parsed.ofOutcome (parseLine grammar line text)).commands = [] := by
  constructor
  · intro reason
    cases given : parseLine grammar line text with
    | error unknown =>
        rfl
    | ok outcome =>
        cases outcome with
        | none =>
            rfl
        | some placed =>
            obtain ⟨-, rule, member, accepts⟩ := parseLine_eq_ok_some_iff.mp given
            obtain ⟨notSkipped, hasPrefix⟩ :=
              of_accepts ((rules_sublist grammar).subset member) accepts
            have notSkippable :=
              mt isSkippable_iff.mpr (Bool.eq_false_iff.mp notSkipped)
            cases reason with
            | blank empty =>
                exact absurd (.inl empty) notSkippable
            | comment starts =>
                exact absurd (.inr starts) notSkippable
            | unprefixed _ lacks =>
                exact absurd (hasCommandPrefix_iff.mp hasPrefix) lacks
            | unknown refused =>
                rw [refused rule member] at accepts
                cases accepts
  · intro nothing
    unfold parseLine at nothing
    dsimp only at nothing
    split at nothing
    · next skipped =>
        exact (isSkippable_iff.mp skipped).elim .blank .comment
    · split at nothing
      · next passed =>
          obtain ⟨isRuntime, lacks⟩ := passed
          refine .unprefixed isRuntime fun starts => ?_
          rw [hasCommandPrefix_iff.mpr starts] at lacks
          cases lacks
      · split at nothing
        · cases nothing
        · next refused =>
            exact .unknown (List.findSome?_eq_none_iff.mp refused)

/-- Lines without commands give none together. -/
theorem commands_parseLines_of_givesNoCommand
    {lines : List (List Char)}
    (silent : ∀ text ∈ lines, GivesNoCommand grammar text)
    (line : Int) :
    (parseLines grammar line lines).commands = [] := by
  induction lines generalizing line with
  | nil =>
      rfl
  | cons text rest inductionHypothesis =>
      obtain ⟨first, others⟩ := List.forall_mem_cons.mp silent
      rw [parseLines_cons, Parsed.append, givesNoCommand_iff.mp first,
        inductionHypothesis others, List.nil_append]

end NoCommand

/-! ## Scripts in parts -/

/-- The commands of a script in order, without their lines. -/
def commandsOf (grammar : Grammar) (source : String) : List Command :=
  (parse grammar source).commands.map (·.command)

/-- The commands of lines that stand around others. -/
theorem commands_parseLines_around
    {grammar : Grammar}
    {inserted : List (List Char)}
    (silent : ∀ text ∈ inserted, GivesNoCommand grammar text)
    (line : Int)
    (before after : List (List Char)) :
    (parseLines grammar line (before ++ inserted ++ after)).commands.map (·.command) =
      (parseLines grammar line (before ++ after)).commands.map (·.command) := by
  rw [parseLines_append, parseLines_append, parseLines_append]
  simp [Parsed.append, Parsed.movedDown,
    commands_parseLines_of_givesNoCommand silent line, Function.comp_def]

/--
The commands and the unknown lines of two texts that meet between lines are those of
the first and then those of the second, which stand further down by the number of lines
of the first.  Lines that give no command can be inserted or deleted anywhere: the
commands and their order stay.
-/
theorem parsing_composes_by_lines
    (grammar : Grammar) :
    (∀ first second : String,
      Text.MeetBetweenLines first.toList second.toList →
      parse grammar (first ++ second) =
        (parse grammar first).append
          ((parse grammar second).movedDown (Text.lines first.toList).length)) ∧
    (∀ before inserted after : String,
      Text.MeetBetweenLines before.toList after.toList →
      Text.MeetBetweenLines before.toList inserted.toList →
      Text.MeetBetweenLines inserted.toList after.toList →
      (∀ text ∈ Text.lines inserted.toList, GivesNoCommand grammar text) →
      commandsOf grammar (before ++ inserted ++ after) =
        commandsOf grammar (before ++ after)) ∧
    ∀ (longer shorter : String) (before inserted after : List (List Char)),
      Text.lines longer.toList = before ++ inserted ++ after →
      Text.lines shorter.toList = before ++ after →
      (∀ text ∈ inserted, GivesNoCommand grammar text) →
      commandsOf grammar longer = commandsOf grammar shorter := by
  have around :
      ∀ (longer shorter : String) (before inserted after : List (List Char)),
        Text.lines longer.toList = before ++ inserted ++ after →
        Text.lines shorter.toList = before ++ after →
        (∀ text ∈ inserted, GivesNoCommand grammar text) →
        commandsOf grammar longer = commandsOf grammar shorter := by
    intro longer shorter before inserted after longerLines shorterLines silent
    rw [commandsOf, commandsOf, parse, parse, longerLines, shorterLines,
      commands_parseLines_around silent]
  refine ⟨?_, ?_, around⟩
  · intro first second meets
    rw [parse, parse, parse, String.toList_append, Text.lines_append meets,
      parseLines_append]
  · intro before inserted after outside above below silent
    refine
      around _ _ (Text.lines before.toList) _ (Text.lines after.toList) ?_ ?_ silent
    · rw [String.toList_append, String.toList_append, List.append_assoc,
        Text.lines_append (above.append outside), Text.lines_append below,
        List.append_assoc]
    · rw [String.toList_append, Text.lines_append outside]

/--
A copy above an unknown line and a target: the second part moves down by one line, and
the unknown line can be left out.
-/
theorem parsing_composes_by_lines_of_copy :
    let copy := "hsx copy a to b\x0d\n"
    let rest := "nonsense\u2028hsx build target web"
    Text.MeetBetweenLines copy.toList rest.toList ∧
      GivesNoCommand .build "nonsense".toList ∧
      parse .build (copy ++ rest) =
        ⟨[⟨.copy "a" "b", 1⟩, ⟨.buildTarget "web", 3⟩], [⟨"nonsense", 2⟩]⟩ ∧
      commandsOf .build (copy ++ rest) =
        commandsOf .build (copy ++ "hsx build target web") := by
  intro copy rest
  obtain ⟨composed, -, around⟩ := parsing_composes_by_lines .build
  have ending : copy.toList.getLast? = some '\n' := by
    decide +kernel
  have meets : Text.MeetBetweenLines copy.toList rest.toList := by
    constructor <;> simp [ending, Text.isLineEnd]
  have silent : GivesNoCommand .build "nonsense".toList :=
    (@givesNoCommand_iff .build _ 1).mpr (by decide +kernel)
  refine ⟨meets, silent, ?_, ?_⟩
  · refine (composed copy rest meets).trans ?_
    decide +kernel
  · refine
      around _ _ ["hsx copy a to b".toList] ["nonsense".toList]
        ["hsx build target web".toList] (by decide +kernel) (by decide +kernel) ?_
    simpa using silent

end Script

end PageScript
