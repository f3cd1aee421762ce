import PageScript.Proofs.Script.Pattern
import PageScript.Script.Decoding

namespace PageScript.Script

/-!
# What a script gives

A line gives the same command in both grammars, except that only the runtime
grammar has media elements, and it reports fewer lines.  A whole script gives
on each of its lines what `parseLine` gives there, in the order of the lines.  The
checks of its kind accept the summary of a command and give it back, provided the name
of a component or a variable is not empty, as it never is in a command of a script.  Placed
commands are the same exactly when they have the same kind and the same fields.
-/

/-! ## Commands that pass their own checks -/

section Checks

open Validation

/-- The name of the component or the variable that a command is about. -/
def Command.name? : Command → Option String
  | .defineComponent name _ => some name
  | .renderComponent name _ => some name
  | .setVariable name _ _ => some name
  | _ => none

theorem filledText_text
    {name : String}
    (filled : name ≠ "") :
    filledText (.text name) = .ok name := by
  unfold filledText
  split
  · next empty =>
      exact (filled (Except.ok.inj empty)).elim
  · rfl

/-- The checks of its kind accept the summary of a command whose name is not empty. -/
theorem ofValue_summary
    {placed : PlacedCommand}
    (named : ∀ name ∈ placed.command.name?, name ≠ "") :
    PlacedCommand.ofValue (.record placed.summary) = .ok placed := by
  obtain ⟨command, line⟩ := placed
  -- Only a kind with a name checks more than that its fields are there.
  cases command with
  | defineComponent name content =>
      have checks :
          PlacedCommand.ofValue
              (.record (PlacedCommand.summary ⟨.defineComponent name content, line⟩)) =
            Checked.within CommandKind.defineComponent.name
              (Checked.both (fun line command => ⟨command, line⟩) (.ok line)
                (Checked.both .defineComponent
                  (Checked.within "name" (filledText (.text name))) (.ok content))) :=
        rfl
      rw [checks, filledText_text (named name rfl)]
      rfl
  | renderComponent name selector =>
      have checks :
          PlacedCommand.ofValue
              (.record (PlacedCommand.summary ⟨.renderComponent name selector, line⟩)) =
            Checked.within CommandKind.renderComponent.name
              (Checked.both (fun line command => ⟨command, line⟩) (.ok line)
                (Checked.both .renderComponent
                  (Checked.within "name" (filledText (.text name))) (.ok selector))) :=
        rfl
      rw [checks, filledText_text (named name rfl)]
      rfl
  | setVariable name value reactive =>
      have checks :
          PlacedCommand.ofValue
              (.record (PlacedCommand.summary ⟨.setVariable name value reactive, line⟩)) =
            Checked.within CommandKind.setVariable.name
              (Checked.both (fun line command => ⟨command, line⟩) (.ok line)
                (Checked.both
                  (fun fields reactive => .setVariable fields.1 fields.2 reactive)
                  (Checked.both Prod.mk
                    (Checked.within "name" (filledText (.text name))) (.ok value))
                  (.ok reactive))) :=
        rfl
      rw [checks, filledText_text (named name rfl)]
      rfl
  | _ =>
      rfl

end Checks

/-! ## One line -/

section Line

variable {grammar : Grammar} {line : Int} {text : List Char}

theorem ne_empty_of_isWord
    {name : String}
    (isWord : Text.isWord name.toList = true) :
    name ≠ "" := by
  rintro rfl
  cases isWord

/-- A pattern names a component or a variable by a word. -/
theorem LinePattern.isWord_name
    {s : List Char}
    {command : Command}
    (fits : LinePattern s command) :
    ∀ name ∈ command.name?, Text.isWord name.toList = true := by
  intro name named
  cases fits with
  | defineComponent isWord _ =>
      cases named
      exact isWord
  | renderComponent isWord _ =>
      cases named
      exact isWord
  | setVariable isWord _ =>
      cases named
      exact isWord
  | reactiveVariable isWord _ =>
      cases named
      exact isWord
  | _ =>
      cases named

theorem isWord_name_of_parseLine
    {placed : PlacedCommand}
    (given : parseLine grammar line text = .ok (some placed)) :
    ∀ name ∈ placed.command.name?, Text.isWord name.toList = true :=
  (parseLine_eq_ok_some_iff_linePattern.mp given).2.2.1.isWord_name

theorem name_ne_empty_of_parseLine
    {placed : PlacedCommand}
    (given : parseLine grammar line text = .ok (some placed)) :
    ∀ name ∈ placed.command.name?, name ≠ "" :=
  fun name named => ne_empty_of_isWord (isWord_name_of_parseLine given name named)

/-- What the build grammar reads, the runtime grammar reads as well. -/
theorem parseLine_runtime_of_build
    {placed : PlacedCommand}
    (given : parseLine .build line text = .ok (some placed)) :
    parseLine .runtime line text = .ok (some placed) := by
  obtain ⟨placedAt, rule, member, accepts⟩ :=
    parseLine_eq_ok_some_iff.mp given
  exact
    parseLine_eq_ok_some_iff.mpr
      ⟨placedAt, rule, List.mem_append_left _ member, accepts⟩

/-- The build grammar reads every command of the runtime grammar that is no media element. -/
theorem parseLine_build_of_runtime
    {placed : PlacedCommand}
    (given : parseLine .runtime line text = .ok (some placed))
    (noMedia : placed.command.kind ≠ .mediaLoad) :
    parseLine .build line text = .ok (some placed) := by
  obtain ⟨placedAt, oneLine, fits, -⟩ :=
    parseLine_eq_ok_some_iff_linePattern.mp given
  exact
    parseLine_eq_ok_some_iff_linePattern.mpr
      ⟨placedAt, oneLine, fits, fun isMedia => (noMedia isMedia).elim⟩

/-- The runtime grammar reports only lines that the build grammar reports as well. -/
theorem parseLine_build_error_of_runtime
    {unknown : UnknownLine}
    (reported : parseLine .runtime line text = .error unknown) :
    parseLine .build line text = .error unknown := by
  obtain ⟨shape, notSkipped, -, refused⟩ :=
    parseLine_eq_error_iff.mp reported
  exact
    parseLine_eq_error_iff.mpr
      ⟨shape, notSkipped, nofun,
        fun rule member => refused rule (List.mem_append_left _ member)⟩

theorem line_of_parseLine
    {placed : PlacedCommand}
    (given : parseLine grammar line text = .ok (some placed)) :
    placed.line = line :=
  (parseLine_eq_ok_some_iff.mp given).1

theorem line_of_parseLine_error
    {unknown : UnknownLine}
    (reported : parseLine grammar line text = .error unknown) :
    unknown.line = line := by
  rw [(parseLine_eq_error_iff.mp reported).1]

end Line

/-! ## Items on lines -/

section Items

variable {α : Type} {lineOf : α → Int} {items others : List α}
  {line start middle stop : Int}

theorem filter_line_eq_nil
    (within : ∀ item ∈ items, start ≤ lineOf item ∧ lineOf item < stop)
    (outside : line < start ∨ stop ≤ line) :
    items.filter (fun item => lineOf item == line) = [] := by
  refine List.filter_eq_nil_iff.mpr fun item member => ?_
  have bounds := within item member
  simp only [beq_iff_eq]
  omega

theorem filter_line_eq_self
    (within : ∀ item ∈ items, line ≤ lineOf item ∧ lineOf item < line + 1) :
    items.filter (fun item => lineOf item == line) = items := by
  refine List.filter_eq_self.mpr fun item member => ?_
  have bounds := within item member
  simp only [beq_iff_eq]
  omega

/-- Items on earlier lines come before items on later lines. -/
theorem pairwise_lines_append
    (increasing : (items.map lineOf).Pairwise (· < ·))
    (othersIncreasing : (others.map lineOf).Pairwise (· < ·))
    (within : ∀ item ∈ items, start ≤ lineOf item ∧ lineOf item < middle)
    (othersWithin : ∀ item ∈ others, middle ≤ lineOf item ∧ lineOf item < stop) :
    ((items ++ others).map lineOf).Pairwise (· < ·) := by
  rw [List.map_append]
  refine List.pairwise_append.mpr ⟨increasing, othersIncreasing, ?_⟩
  simp only [List.forall_mem_map]
  intro earlier earlierMember later laterMember
  have before := within earlier earlierMember
  have after := othersWithin later laterMember
  omega

end Items

/-! ## All lines -/

namespace Parsed

/-- What one line gives: nothing, one command or one unknown line. -/
def ofOutcome : Except UnknownLine (Option PlacedCommand) → Parsed
  | .ok none => ⟨[], []⟩
  | .ok (some placed) => ⟨[placed], []⟩
  | .error unknown => ⟨[], [unknown]⟩

/-- What the lines of one script and then those of another give. -/
def append (first second : Parsed) : Parsed :=
  ⟨first.commands ++ second.commands, first.unknown ++ second.unknown⟩

/-- What a script gives on the line with a number. -/
def on (parsed : Parsed) (line : Int) : Parsed :=
  ⟨parsed.commands.filter (·.line == line), parsed.unknown.filter (·.line == line)⟩

/-- All that a script gives stands on lines between two numbers. -/
structure Within (parsed : Parsed) (start stop : Int) : Prop where
  commands : ∀ placed ∈ parsed.commands, start ≤ placed.line ∧ placed.line < stop
  unknown : ∀ unknown ∈ parsed.unknown, start ≤ unknown.line ∧ unknown.line < stop

/-- The numbers of the lines with a command increase, and so do those of the unknown lines. -/
structure Increasing (parsed : Parsed) : Prop where
  commands : (parsed.commands.map (·.line)).Pairwise (· < ·)
  unknown : (parsed.unknown.map (·.line)).Pairwise (· < ·)

variable {parsed first second : Parsed} {line start middle stop : Int}

theorem on_append :
    (first.append second).on line = (first.on line).append (second.on line) := by
  simp [append, on]

theorem Within.mono
    {start' stop' : Int}
    (within : parsed.Within start stop)
    (startLe : start' ≤ start)
    (leStop : stop ≤ stop') :
    parsed.Within start' stop' where
  commands placed member := by
    have bounds := within.commands placed member
    omega
  unknown unknown member := by
    have bounds := within.unknown unknown member
    omega

theorem Within.append
    (firstWithin : first.Within start stop)
    (secondWithin : second.Within start stop) :
    (first.append second).Within start stop where
  commands placed member :=
    (List.mem_append.mp member).elim
      (firstWithin.commands placed) (secondWithin.commands placed)
  unknown unknown member :=
    (List.mem_append.mp member).elim
      (firstWithin.unknown unknown) (secondWithin.unknown unknown)

/-- A script gives nothing on a line outside its own lines. -/
theorem Within.on_eq_nil
    (within : parsed.Within start stop)
    (outside : line < start ∨ stop ≤ line) :
    parsed.on line = ⟨[], []⟩ := by
  rw [on, filter_line_eq_nil within.commands outside,
    filter_line_eq_nil within.unknown outside]

theorem Within.on_eq_self
    (within : parsed.Within line (line + 1)) :
    parsed.on line = parsed := by
  rw [on, filter_line_eq_self within.commands,
    filter_line_eq_self within.unknown]

theorem Increasing.append
    (firstIncreases : first.Increasing)
    (secondIncreases : second.Increasing)
    (firstWithin : first.Within start middle)
    (secondWithin : second.Within middle stop) :
    (first.append second).Increasing where
  commands :=
    pairwise_lines_append firstIncreases.commands secondIncreases.commands
      firstWithin.commands secondWithin.commands
  unknown :=
    pairwise_lines_append firstIncreases.unknown secondIncreases.unknown
      firstWithin.unknown secondWithin.unknown

end Parsed

section Lines

variable {grammar : Grammar}

theorem ofOutcome_within
    (grammar : Grammar)
    (line : Int)
    (text : List Char) :
    (Parsed.ofOutcome (parseLine grammar line text)).Within line (line + 1) := by
  cases given : parseLine grammar line text with
  | ok outcome =>
      cases outcome with
      | none =>
          exact ⟨nofun, nofun⟩
      | some placed =>
          have placedAt := line_of_parseLine given
          refine ⟨fun other member => ?_, nofun⟩
          obtain rfl := List.mem_singleton.mp member
          omega
  | error unknown =>
      have reportedAt := line_of_parseLine_error given
      refine ⟨nofun, fun other member => ?_⟩
      obtain rfl := List.mem_singleton.mp member
      omega

theorem ofOutcome_increasing
    (outcome : Except UnknownLine (Option PlacedCommand)) :
    (Parsed.ofOutcome outcome).Increasing := by
  rcases outcome with unknown | _ | placed
  · exact ⟨.nil, List.pairwise_singleton _ _⟩
  · exact ⟨.nil, .nil⟩
  · exact ⟨List.pairwise_singleton _ _, .nil⟩

theorem parseLines_cons
    (start : Int)
    (text : List Char)
    (rest : List (List Char)) :
    parseLines grammar start (text :: rest) =
      (Parsed.ofOutcome (parseLine grammar start text)).append
        (parseLines grammar (start + 1) rest) := by
  rw [parseLines]
  rcases parseLine grammar start text with unknown | _ | placed <;> rfl

theorem parseLines_within
    (grammar : Grammar)
    (start : Int)
    (lines : List (List Char)) :
    (parseLines grammar start lines).Within start (start + lines.length) := by
  induction lines generalizing start with
  | nil =>
      exact ⟨nofun, nofun⟩
  | cons text rest inductionHypothesis =>
      rw [parseLines_cons, List.length_cons]
      exact
        ((ofOutcome_within grammar start text).mono (by omega) (by omega)).append
          ((inductionHypothesis (start + 1)).mono (by omega) (by omega))

theorem parseLines_increasing
    (start : Int)
    (lines : List (List Char)) :
    (parseLines grammar start lines).Increasing := by
  induction lines generalizing start with
  | nil =>
      exact ⟨.nil, .nil⟩
  | cons text rest inductionHypothesis =>
      rw [parseLines_cons]
      exact
        (ofOutcome_increasing _).append (inductionHypothesis (start + 1))
          (ofOutcome_within grammar start text)
          (parseLines_within grammar (start + 1) rest)

/-- A script gives on each line what the line gives by itself. -/
theorem parseLines_on
    {start : Int}
    {lines : List (List Char)}
    {index : Nat}
    {text : List Char}
    (lineText : lines[index]? = some text) :
    (parseLines grammar start lines).on (start + index) =
      Parsed.ofOutcome (parseLine grammar (start + index) text) := by
  induction lines generalizing start index with
  | nil =>
      cases lineText
  | cons first rest inductionHypothesis =>
      rw [parseLines_cons, Parsed.on_append]
      -- The first line and the later lines give items with different numbers, so
      -- asking for one number leaves one side.
      cases index with
      | zero =>
          obtain rfl : first = text := Option.some.inj lineText
          have laterLines := parseLines_within grammar (start + 1) rest
          rw [Int.natCast_zero, Int.add_zero,
            (ofOutcome_within grammar start first).on_eq_self,
            laterLines.on_eq_nil (.inl (by omega))]
          simp [Parsed.append]
      | succ index =>
          have firstLine := ofOutcome_within grammar start first
          have shifted : start + (index + 1 : Nat) = start + 1 + index := by
            omega
          rw [firstLine.on_eq_nil (.inr (by omega)), shifted,
            inductionHypothesis lineText]
          rfl

end Lines

/-! ## Both grammars -/

/--
At most one rule of the grammars accepts a line, whatever their order; the
commands pass their own checks; the runtime grammar extends the build grammar
by media elements alone; and every line of a script gives one command, one
unknown line or nothing, in the order of the lines.
-/
theorem unambiguous_and_conservative
    (line : Int)
    (text : List Char)
    (source : String) :
    (∀ (first second : Nat) (firstRule secondRule : Rule) (left right : Command),
      Grammar.runtime.rules[first]? = some firstRule →
      Grammar.runtime.rules[second]? = some secondRule →
      firstRule.apply? (Text.trim text) = some left →
      secondRule.apply? (Text.trim text) = some right →
      first = second) ∧
    (∀ (grammar : Grammar) (rules : List Rule),
      rules.Perm grammar.rules →
      (rules.findSome? fun rule => rule.apply? (Text.trim text)) =
        grammar.rules.findSome? fun rule => rule.apply? (Text.trim text)) ∧
    (∀ (grammar : Grammar) (placed : PlacedCommand),
      parseLine grammar line text = .ok (some placed) →
      (∀ name ∈ placed.command.name?, name ≠ "") ∧
        PlacedCommand.ofValue (.record placed.summary) = .ok placed) ∧
    (∀ placed : PlacedCommand,
      parseLine .build line text = .ok (some placed) →
      parseLine .runtime line text = .ok (some placed)) ∧
    (∀ placed : PlacedCommand,
      parseLine .runtime line text = .ok (some placed) →
      placed.command.kind ≠ .mediaLoad →
      parseLine .build line text = .ok (some placed)) ∧
    (∀ unknown : UnknownLine,
      parseLine .runtime line text = .error unknown →
      parseLine .build line text = .error unknown) ∧
    ∀ grammar : Grammar,
      (∀ (index : Nat) (lineText : List Char),
        (Text.lines source.toList)[index]? = some lineText →
        (parse grammar source).on (1 + index) =
          Parsed.ofOutcome (parseLine grammar (1 + index) lineText)) ∧
      (parse grammar source).Within 1 (1 + (Text.lines source.toList).length) ∧
      (parse grammar source).Increasing := by
  refine ⟨?_, ?_, ?_, ?_, ?_, ?_, fun grammar => ⟨?_, ?_, ?_⟩⟩
  · intro first second firstRule secondRule left right
    exact accepting_unique
  · intro grammar rules reordered
    exact findSome?_eq_of_perm reordered (Text.trim text)
  · intro grammar placed given
    have named := name_ne_empty_of_parseLine given
    exact ⟨named, ofValue_summary named⟩
  · intro placed
    exact parseLine_runtime_of_build
  · intro placed
    exact parseLine_build_of_runtime
  · intro unknown
    exact parseLine_build_error_of_runtime
  · intro index lineText found
    exact parseLines_on found
  · exact parseLines_within grammar 1 (Text.lines source.toList)
  · exact parseLines_increasing 1 (Text.lines source.toList)

/-- A component reads the same in both grammars and passes its own checks. -/
theorem unambiguous_and_conservative_of_component :
    let line := " hsx define component card Hi ".toList
    let placed : PlacedCommand := ⟨.defineComponent "card" "Hi", 2⟩
    parseLine .build 2 line = .ok (some placed) ∧
      parseLine .runtime 2 line = .ok (some placed) ∧
      PlacedCommand.ofValue (.record placed.summary) = .ok placed ∧
      (parse .runtime "hsx nothing\n hsx define component card Hi ").on 2 =
        ⟨[placed], []⟩ := by
  intro line placed
  obtain ⟨-, -, checked, extending, -, -, script⟩ :=
    unambiguous_and_conservative 2 line
      "hsx nothing\n hsx define component card Hi "
  have built : parseLine .build 2 line = .ok (some placed) := by
    decide +kernel
  have ran := extending placed built
  refine ⟨built, ran, (checked .build placed built).2, ?_⟩
  have secondLine := (script .runtime).1 1 line (by decide +kernel)
  rw [show (1 : Int) + (1 : Nat) = 2 from rfl, ran] at secondLine
  exact secondLine

/-! ## Summaries and equal commands -/

section Summaries

variable {grammar : Grammar}

/-- Every command of a script stands on a line that gives it. -/
theorem exists_line_of_mem_parseLines
    {placed : PlacedCommand}
    {start : Int}
    {lines : List (List Char)}
    (member : placed ∈ (parseLines grammar start lines).commands) :
    ∃ line text, parseLine grammar line text = .ok (some placed) := by
  induction lines generalizing start with
  | nil =>
      cases member
  | cons text rest inductionHypothesis =>
      rw [parseLines_cons] at member
      rcases List.mem_append.mp member with here | later
      · cases given : parseLine grammar start text with
        | error unknown =>
            rw [given] at here
            cases here
        | ok outcome =>
            rw [given] at here
            cases outcome with
            | none =>
                cases here
            | some first =>
                obtain rfl := List.mem_singleton.mp here
                exact ⟨start, text, given⟩
      · exact inductionHypothesis later

/-- The kind and the fields make the command. -/
theorem Command.eq_of_kind_of_payload
    {left right : Command}
    (sameKind : left.kind = right.kind)
    (samePayload : left.payload = right.payload) :
    left = right := by
  cases left <;> cases right <;> cases sameKind <;>
    simpa [payload] using samePayload

/-- The fields of commands of one kind are equal values only if they are the same. -/
theorem Command.same_record_payload_iff
    {left right : Command}
    (sameKind : left.kind = right.kind) :
    Value.same (.record left.payload) (.record right.payload) = true ↔
      left.payload = right.payload := by
  -- Truth values are compared by the numbers that they stand for.
  have truth (a b : Bool) :
      (if a = true then (1 : Int) else 0) = (if b = true then 1 else 0) ↔ a = b := by
    cases a <;> cases b <;> decide
  cases left <;> cases right <;> cases sameKind <;>
    simp [payload, Value.record, Value.same, Value.sameEntries, Value.integer?, truth]

theorem PlacedCommand.same_iff
    {left right : PlacedCommand} :
    left.same right = true ↔
      left.command.kind = right.command.kind ∧
        left.command.payload = right.command.payload := by
  rw [same, beq_iff_eq]
  constructor
  · exact fun same => ⟨congrArg Command.kind same, congrArg Command.payload same⟩
  · rintro ⟨sameKind, samePayload⟩
    exact Command.eq_of_kind_of_payload sameKind samePayload

/--
The summary of every command of a script gives the command back.  Placed commands are the
same exactly when they have the same kind and the same fields, also when the fields are
compared as values; the same commands have the same hash, and being the same is an
equivalence.
-/
theorem summaries_restore_commands :
    (∀ (grammar : Grammar) (source : String),
      ∀ placed ∈ (parse grammar source).commands,
        PlacedCommand.ofValue (.record placed.summary) = .ok placed) ∧
      (∀ left right : PlacedCommand,
        (left.same right = true ↔
          left.command.kind = right.command.kind ∧
            left.command.payload = right.command.payload) ∧
        (left.same right = true ↔
          left.command.kind = right.command.kind ∧
            Value.same (.record left.command.payload) (.record right.command.payload) =
              true) ∧
        ∀ hash, left.same right = true → left.hashWith hash = right.hashWith hash) ∧
      Equivalence fun left right : PlacedCommand => left.same right = true := by
  refine ⟨fun grammar source placed member => ?_, fun left right => ⟨?_, ?_, ?_⟩, ?_⟩
  · obtain ⟨line, text, given⟩ := exists_line_of_mem_parseLines member
    exact ofValue_summary (name_ne_empty_of_parseLine given)
  · exact PlacedCommand.same_iff
  · rw [PlacedCommand.same_iff]
    exact and_congr_right fun sameKind => (Command.same_record_payload_iff sameKind).symm
  · intro hash same
    obtain ⟨sameKind, samePayload⟩ := PlacedCommand.same_iff.mp same
    rw [PlacedCommand.hashWith, PlacedCommand.hashWith, sameKind, samePayload]
  · simp only [PlacedCommand.same_iff]
    exact
      { refl := fun _ => ⟨rfl, rfl⟩
        symm := fun ⟨sameKind, samePayload⟩ => ⟨sameKind.symm, samePayload.symm⟩
        trans := fun ⟨firstKind, firstPayload⟩ ⟨secondKind, secondPayload⟩ =>
          ⟨firstKind.trans secondKind, firstPayload.trans secondPayload⟩ }

/-- One variable set on two lines is the same command, and reactive it is another one. -/
theorem summaries_restore_commands_of_variable :
    (∀ placed ∈ (parse .runtime "hsx set variable a = 1\n\nhsx set variable a = 1").commands,
      PlacedCommand.ofValue (.record placed.summary) = .ok placed) ∧
      PlacedCommand.same ⟨.setVariable "a" "1" false, 1⟩ ⟨.setVariable "a" "1" false, 3⟩ =
        true ∧
      ¬ PlacedCommand.same ⟨.setVariable "a" "1" false, 1⟩ ⟨.setVariable "a" "1" true, 1⟩ =
        true := by
  obtain ⟨restored, compared, -⟩ := summaries_restore_commands
  refine ⟨restored .runtime _, ((compared _ _).1).mpr ⟨rfl, rfl⟩, fun same => ?_⟩
  obtain ⟨-, samePayload⟩ := ((compared _ _).1).mp same
  simp [Command.payload] at samePayload

end Summaries

end PageScript.Script
