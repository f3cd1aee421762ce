import PageScript.Proofs.Run.Outcome
import PageScript.Proofs.Script.Parsing
import PageScript.Run.Loading

namespace PageScript.Run

open Markup Script

/-!
# Loading follows parsing

An executor is handed exactly the commands that the parser finds in a block, in
order and whatever becomes of each.  The report of the load notes the unknown lines
as the parser reports them, and the commands that fail, by increasing line numbers.
Only a block that is refused as markup is not executed at all.

The lines of a block run one after the other.  What a line adds to the report
depends on the scene that it finds and not on the report, and after a line that
fails only a note in the log is added before the next one runs.
-/

/-! ## One line after the other -/

/-- The report and the scene that lines lead to. -/
def runLines
    (executor : Executor)
    (report : LoadReport)
    (line : Int)
    (lines : List (List Char))
    (scene : Scene) :
    LoadReport × Scene :=
  (executeLines executor report line lines).run scene

/-- The report of a line that fails. -/
def lineFailure (line : Int) (text : List Char) (fault : Fault) : LineFailure :=
  ⟨line, String.ofList (Text.trim text), lineError fault⟩

/-- The log event about a line that fails. -/
def failureEvent (line : Int) (fault : Fault) : World.LogEvent :=
  ⟨.warning, loadLogger, "load.line_failed",
    [("line", .integer line), ("error", .text (lineError fault))]⟩

namespace LoadReport

/-- A report with what further lines add to it. -/
def add (report further : LoadReport) : LoadReport :=
  { report with
    executed := report.executed + further.executed
    failures := report.failures ++ further.failures }

/-- What a line adds to a report. -/
def ofLine (line : Int) (text : List Char) : Except Fault Bool → LoadReport
  | .ok true => { executed := 1 }
  | .ok false => {}
  | .error fault => { failures := [lineFailure line text fault] }

@[simp] theorem add_nothing (report : LoadReport) : report.add {} = report := by
  simp [add]

theorem nothing_add_ofLine
    (line : Int)
    (text : List Char)
    (ended : Except Fault Bool) :
    LoadReport.add {} (ofLine line text ended) = ofLine line text ended := by
  rcases ended with fault | _ | _ <;> rfl

theorem add_assoc
    (first second third : LoadReport) :
    (first.add second).add third = first.add (second.add third) := by
  simp [add, Nat.add_assoc]

end LoadReport

/-- The scene behind a line: a failure is logged. -/
def afterLine (line : Int) : Except Fault Bool × Scene → Scene
  | (.ok _, reached) => reached
  | (.error fault, reached) => reached.logged (failureEvent line fault)

section Lines

variable
  (executor : Executor)
  (report : LoadReport)
  (line : Int)
  (text : List Char)
  (lines rest : List (List Char))
  (scene : Scene)

@[simp] theorem runLines_nil :
    runLines executor report line [] scene = (report, scene) :=
  rfl

/-- Whatever becomes of a line, the next one runs in the scene behind it. -/
theorem runLines_cons :
    runLines executor report line (text :: rest) scene =
      runLines executor
        (report.add
          (.ofLine line text (outcome (executeLine executor line text) scene).1))
        (line + 1) rest
        (afterLine line (outcome (executeLine executor line text) scene)) := by
  rw [runLines, executeLines, StateT.run_bind]
  change
    (outcome (executeLine executor line text) scene >>=
      fun ended : Except Fault Bool × Scene =>
        StateT.run _ ended.2 : Id (LoadReport × Scene)) = _
  rcases outcome (executeLine executor line text) scene with
    ⟨fault | _ | _, reached⟩
  · rfl
  · rw [LoadReport.ofLine, LoadReport.add_nothing]
    rfl
  · simp only [LoadReport.ofLine, LoadReport.add, List.append_nil]
    rfl

/-- What lines do and add does not depend on the report so far. -/
theorem runLines_add
    (further : LoadReport) :
    runLines executor (report.add further) line lines scene =
      (report.add (runLines executor further line lines scene).1,
        (runLines executor further line lines scene).2) := by
  induction lines generalizing further line scene with
  | nil =>
      rfl
  | cons text rest inductionHypothesis =>
      rw [runLines_cons, runLines_cons, LoadReport.add_assoc,
        inductionHypothesis]

theorem runLines_eq :
    runLines executor report line lines scene =
      (report.add (runLines executor {} line lines scene).1,
        (runLines executor {} line lines scene).2) := by
  have added := runLines_add executor report line lines scene {}
  rwa [LoadReport.add_nothing] at added

theorem runLines_append
    (before after : List (List Char)) :
    runLines executor report line (before ++ after) scene =
      runLines executor (runLines executor report line before scene).1
        (line + before.length) after
        (runLines executor report line before scene).2 := by
  induction before generalizing report line scene with
  | nil =>
      simp
  | cons text rest inductionHypothesis =>
      have shifted :
          line + 1 + (rest.length : Int) = line + (rest.length + 1 : Nat) := by
        omega
      rw [List.cons_append, runLines_cons, inductionHypothesis, runLines_cons,
        List.length_cons, shifted]

/-- A line is parsed, and its command is handed to the executor. -/
theorem outcome_executeLine :
    outcome (executeLine executor line text) scene =
      match parseLine .runtime line text with
      | .error unknown => (.error (.unknownLine unknown), scene)
      | .ok none => (.ok false, scene)
      | .ok (some placed) =>
          ((outcome (executor placed) scene).1.map fun _ => true,
            (outcome (executor placed) scene).2) := by
  rw [executeLine]
  rcases parseLine .runtime line text with unknown | _ | placed
  · rfl
  · rfl
  · dsimp only
    rw [outcome_bind]
    rcases outcome (executor placed) scene with ⟨fault | _, reached⟩ <;> rfl

end Lines

/-! ## What an executor is handed -/

/-- A command that was handed to an executor, and how it ended. -/
structure Ended where
  placed : PlacedCommand
  result : Except Fault Unit

/-- Whether a command took effect. -/
def Ended.succeeded (ended : Ended) : Bool :=
  match ended.result with
  | .ok () => true
  | .error _ => false

/-- The line and the error of a command that failed. -/
def Ended.failure? (ended : Ended) : Option (Int × String) :=
  match ended.result with
  | .ok () => none
  | .error fault => some (ended.placed.line, lineError fault)

/--
Commands are handed to an executor one after the other.  Between them failures may
be noted in the log, and nothing else happens.
-/
inductive Hands (executor : Executor) :
    Scene → List Ended → Scene → Prop where
  /-- No more commands. -/
  | nil (scene : Scene) :
      Hands executor scene [] scene
  /-- A failure is noted. -/
  | note
      {scene reached : Scene}
      {ends : List Ended}
      (line : Int)
      (fault : Fault)
      (later :
        Hands executor (scene.logged (failureEvent line fault)) ends reached) :
      Hands executor scene ends reached
  /-- A command ends, and others follow in the scene that it leaves. -/
  | hand
      {placed : PlacedCommand}
      {result : Except Fault Unit}
      {scene next reached : Scene}
      {ends : List Ended}
      (step : outcome (executor placed) scene = (result, next))
      (later : Hands executor next ends reached) :
      Hands executor scene (⟨placed, result⟩ :: ends) reached

/-- Every command either takes effect or fails. -/
theorem length_ends
    (ends : List Ended) :
    (ends.filter Ended.succeeded).length + (ends.filterMap Ended.failure?).length =
      ends.length := by
  induction ends with
  | nil =>
      rfl
  | cons ended rest inductionHypothesis =>
      rcases ended with ⟨placed, fault | done⟩
      · rw [List.filter_cons_of_neg (by simp [Ended.succeeded]),
          List.filterMap_cons_some (by rfl), List.length_cons, List.length_cons]
        omega
      · rw [List.filter_cons_of_pos (by rfl), List.filterMap_cons_none (by rfl),
          List.length_cons, List.length_cons]
        omega

/-! ## What a report accounts for -/

/-- The failure that reports an unknown line. -/
def unknownFailure (unknown : UnknownLine) : LineFailure :=
  ⟨unknown.line, unknown.text, unknown.message⟩

/-- Whether a failure is about a line that the parser does not know. -/
def onUnknown (parsed : Parsed) (failure : LineFailure) : Bool :=
  parsed.unknown.any fun unknown => unknown.line == failure.line

/--
A report accounts for lines between two numbers, for what was parsed on them and
for how their commands ended.
-/
structure LoadReport.Accounts
    (report : LoadReport)
    (start stop : Int)
    (parsed : Parsed)
    (ends : List Ended) :
    Prop where
  within :
    ∀ failure ∈ report.failures, start ≤ failure.line ∧ failure.line < stop
  executed : report.executed = (ends.filter Ended.succeeded).length
  unknown :
    report.failures.filter (onUnknown parsed) =
      parsed.unknown.map unknownFailure
  failed :
    (report.failures.filter (!onUnknown parsed ·)).map
        (fun failure => (failure.line, failure.error)) =
      ends.filterMap Ended.failure?
  increasing : (report.failures.map (·.line)).Pairwise (· < ·)

section Accounts

variable
  {first second : LoadReport}
  {firstParsed secondParsed : Parsed}
  {firstEnds secondEnds : List Ended}
  {start middle stop : Int}

/-- A report without failures accounts for commands that all took effect. -/
theorem accounts_of_effects
    (start stop : Int)
    (commands : List PlacedCommand) :
    LoadReport.Accounts { executed := commands.length } start stop ⟨commands, []⟩
      (commands.map (⟨·, .ok ()⟩)) where
  within := by
    simp
  executed := by
    simp [List.filter_map, Function.comp_def, Ended.succeeded]
  unknown := rfl
  failed := by
    simp [List.filterMap_map, Function.comp_def, Ended.failure?]
  increasing := .nil

/-- The failure of a line is on this line. -/
theorem within_lineFailure
    (line : Int)
    (text : List Char)
    (fault : Fault) :
    ∀ failure ∈ [lineFailure line text fault],
      line ≤ failure.line ∧ failure.line < line + 1 := by
  intro failure member
  cases List.mem_singleton.mp member
  exact ⟨Int.le_refl line, Int.lt_succ line⟩

theorem onUnknown_append
    (failure : LineFailure) :
    onUnknown (firstParsed.append secondParsed) failure =
      (onUnknown firstParsed failure || onUnknown secondParsed failure) := by
  simp [onUnknown, Parsed.append]

theorem onUnknown_eq_false
    {parsed : Parsed}
    {failure : LineFailure}
    (within : parsed.Within start stop)
    (outside : failure.line < start ∨ stop ≤ failure.line) :
    onUnknown parsed failure = false := by
  refine List.any_eq_false.mpr fun unknown member => ?_
  have bounds := within.unknown unknown member
  simp only [beq_iff_eq]
  omega

/-- Reports about earlier and about later lines account for all of them. -/
theorem LoadReport.Accounts.add
    (earlier : first.Accounts start middle firstParsed firstEnds)
    (later : second.Accounts middle stop secondParsed secondEnds)
    (earlierParsed : firstParsed.Within start middle)
    (laterParsed : secondParsed.Within middle stop)
    (startLe : start ≤ middle)
    (leStop : middle ≤ stop) :
    (first.add second).Accounts start stop
      (firstParsed.append secondParsed) (firstEnds ++ secondEnds) := by
  -- A failure is on an unknown line of its own half only.
  have onFirst :
      ∀ failure ∈ first.failures,
        onUnknown (firstParsed.append secondParsed) failure =
          onUnknown firstParsed failure := by
    intro failure member
    have bounds := earlier.within failure member
    rw [onUnknown_append, onUnknown_eq_false laterParsed (.inl bounds.2),
      Bool.or_false]
  have onSecond :
      ∀ failure ∈ second.failures,
        onUnknown (firstParsed.append secondParsed) failure =
          onUnknown secondParsed failure := by
    intro failure member
    have bounds := later.within failure member
    rw [onUnknown_append, onUnknown_eq_false earlierParsed (.inr bounds.1),
      Bool.false_or]
  refine
    { within := fun failure member => ?_
      executed := ?_
      unknown := ?_
      failed := ?_
      increasing :=
        pairwise_lines_append earlier.increasing later.increasing
          earlier.within later.within }
  · rcases List.mem_append.mp member with member | member
    · have bounds := earlier.within failure member
      omega
    · have bounds := later.within failure member
      omega
  · rw [LoadReport.add, List.filter_append, List.length_append,
      earlier.executed, later.executed]
  · rw [LoadReport.add, List.filter_append, List.filter_congr onFirst,
      List.filter_congr onSecond, earlier.unknown, later.unknown,
      Parsed.append, List.map_append]
  · have notFirst :
        ∀ failure ∈ first.failures,
          (!onUnknown (firstParsed.append secondParsed) failure) =
            !onUnknown firstParsed failure :=
      fun failure member => congrArg _ (onFirst failure member)
    have notSecond :
        ∀ failure ∈ second.failures,
          (!onUnknown (firstParsed.append secondParsed) failure) =
            !onUnknown secondParsed failure :=
      fun failure member => congrArg _ (onSecond failure member)
    rw [LoadReport.add, List.filter_append, List.filter_congr notFirst,
      List.filter_congr notSecond, List.map_append, earlier.failed,
      later.failed, List.filterMap_append]

end Accounts

/-! ## Executing the lines -/

/-- One line hands its command, if it has one, and its report accounts for that. -/
theorem exists_hands_line
    (executor : Executor)
    (line : Int)
    (text : List Char)
    (scene : Scene) :
    ∃ ends,
      ends.map (·.placed) =
          (Parsed.ofOutcome (parseLine .runtime line text)).commands ∧
        (∀ later reached,
          Hands executor
              (afterLine line (outcome (executeLine executor line text) scene))
              later reached →
            Hands executor scene (ends ++ later) reached) ∧
        (LoadReport.ofLine line text
            (outcome (executeLine executor line text) scene).1).Accounts
          line (line + 1) (.ofOutcome (parseLine .runtime line text)) ends := by
  rw [outcome_executeLine]
  cases given : parseLine .runtime line text with
  | error unknown =>
      obtain ⟨rfl, -⟩ := parseLine_eq_error_iff.mp given
      refine ⟨[], rfl, fun later reached hands => .note line _ hands, ?_⟩
      exact
        { within := within_lineFailure line text _
          executed := rfl
          unknown := by
            simp [LoadReport.ofLine, lineFailure, onUnknown, Parsed.ofOutcome,
              unknownFailure, lineError]
          failed := by
            simp [LoadReport.ofLine, lineFailure, onUnknown, Parsed.ofOutcome]
          increasing := List.pairwise_singleton _ _ }
  | ok found =>
      cases found with
      | none =>
          exact
            ⟨[], rfl, fun later reached hands => hands,
              accounts_of_effects line (line + 1) []⟩
      | some placed =>
          have placedAt := line_of_parseLine given
          dsimp only
          rcases step : outcome (executor placed) scene with ⟨fault | done, next⟩
          · refine
              ⟨[⟨placed, .error fault⟩], rfl,
                fun later reached hands => .hand step (.note line fault hands),
                ?_⟩
            exact
              { within := within_lineFailure line text fault
                executed := rfl
                unknown := by
                  simp [LoadReport.ofLine, onUnknown, Parsed.ofOutcome, Except.map]
                failed := by
                  simp [LoadReport.ofLine, lineFailure, onUnknown,
                    Parsed.ofOutcome, Ended.failure?, Except.map, placedAt]
                increasing := List.pairwise_singleton _ _ }
          · exact
              ⟨[⟨placed, .ok ()⟩], rfl,
                fun later reached hands => .hand step hands,
                accounts_of_effects line (line + 1) [placed]⟩

/-- Lines hand their commands in order, and their report accounts for them. -/
theorem exists_hands_lines
    (executor : Executor)
    (line : Int)
    (lines : List (List Char))
    (scene : Scene) :
    ∃ ends,
      ends.map (·.placed) = (parseLines .runtime line lines).commands ∧
        Hands executor scene ends (runLines executor {} line lines scene).2 ∧
        (runLines executor {} line lines scene).1.Accounts line
          (line + lines.length) (parseLines .runtime line lines) ends := by
  induction lines generalizing line scene with
  | nil =>
      exact ⟨[], rfl, .nil scene, accounts_of_effects line _ []⟩
  | cons text rest inductionHypothesis =>
      obtain ⟨ends, handed, hands, accounts⟩ :=
        exists_hands_line executor line text scene
      obtain ⟨later, laterHanded, laterHands, laterAccounts⟩ :=
        inductionHypothesis (line + 1)
          (afterLine line (outcome (executeLine executor line text) scene))
      rw [runLines_cons, LoadReport.nothing_add_ofLine, runLines_eq, parseLines_cons]
      have lengths :
          line + 1 + (rest.length : Int) = line + (text :: rest).length := by
        rw [List.length_cons]
        omega
      rw [lengths] at laterAccounts
      have laterParsed := parseLines_within .runtime (line + 1) rest
      rw [lengths] at laterParsed
      refine ⟨ends ++ later, ?_, hands _ _ laterHands, ?_⟩
      · rw [List.map_append, handed, laterHanded]
        rfl
      · exact
          accounts.add laterAccounts (ofOutcome_within .runtime line text)
            laterParsed (by omega) (by rw [List.length_cons]; omega)

/-! ## Loading a page -/

/-- A scene with trees added at the end of the body. -/
def Scene.grown (scene : Scene) (trees : List Tree) : Scene :=
  { scene with
    context :=
      { scene.context with
        page :=
          { scene.context.page with
            forest :=
              scene.context.page.forest.appendTrees scene.context.page.body
                trees } } }

/-- The lines of a block run between the two additions to the body. -/
theorem exists_outcome_loadTextBy
    {options : LoadOptions}
    {page block : String}
    {trees : List Tree}
    (executor : Executor)
    (url : String)
    (scene : Scene)
    (found : extractBlock? options.blockTag page = some block)
    (accepted : parseTrees block = .ok trees) :
    ∃ event,
      outcome (loadTextBy executor options url page) scene =
        (.ok
            { (runLines executor { scripts := (hoistedScripts trees).length } 1
                (Text.lines block.toList)
                (scene.grown (hoistedScripts trees))).1 with
              cloned := (clonedElements options.smallCloneTags trees).length },
          ((runLines executor { scripts := (hoistedScripts trees).length } 1
                (Text.lines block.toList)
                (scene.grown (hoistedScripts trees))).2.grown
              (clonedElements options.smallCloneTags trees)).logged event) := by
  rw [loadTextBy, found]
  dsimp only
  rw [accepted]
  exact ⟨_, rfl⟩

/-- A page without a block stops the load before anything is done. -/
theorem outcome_loadTextBy_of_no_block
    {page : String}
    (options : LoadOptions)
    (executor : Executor)
    (url : String)
    (scene : Scene)
    (noBlock : extractBlock? options.blockTag page = none) :
    outcome (loadTextBy executor options url page) scene =
      (.error (.noBlock options.blockTag), scene) := by
  rw [loadTextBy, noBlock]
  rfl

/-- A block that is refused as markup stops the load before anything is done. -/
theorem outcome_loadTextBy_of_refused
    {page block : String}
    {error : MarkupError}
    (options : LoadOptions)
    (executor : Executor)
    (url : String)
    (scene : Scene)
    (found : extractBlock? options.blockTag page = some block)
    (refused : parseTrees block = .error error) :
    outcome (loadTextBy executor options url page) scene =
      (.error (.markup error), scene) := by
  rw [loadTextBy, found]
  dsimp only
  rw [refused]
  rfl

/--
When the block of a page is accepted as markup, an executor is handed exactly the
commands that the parser finds in the block, in order, and each of them is followed
by the next one however it ends.  The failures that the load reports have increasing
line numbers: on unknown lines they are what the parser reports, and on all other
lines they are the commands that failed.
-/
theorem loading_executes_parsed_commands
    (executor : Executor)
    (options : LoadOptions)
    (url page block : String)
    (trees : List Tree)
    (scene : Scene)
    (found : extractBlock? options.blockTag page = some block)
    (accepted : parseTrees block = .ok trees) :
    ∃ ends report reached ended,
      outcome (loadTextBy executor options url page) scene =
          (.ok report, ended) ∧
        Hands executor (scene.grown (hoistedScripts trees)) ends reached ∧
        ended.context =
          (reached.grown
            (clonedElements options.smallCloneTags trees)).context ∧
        ends.map (·.placed) = (parse .runtime block).commands ∧
        report.failures.filter (onUnknown (parse .runtime block)) =
          (parse .runtime block).unknown.map unknownFailure ∧
        (report.failures.filter (!onUnknown (parse .runtime block) ·)).map
            (fun failure => (failure.line, failure.error)) =
          ends.filterMap Ended.failure? ∧
        report.executed + (ends.filterMap Ended.failure?).length =
          (parse .runtime block).commands.length ∧
        (report.failures.map (·.line)).Pairwise (· < ·) := by
  obtain ⟨event, loaded⟩ :=
    exists_outcome_loadTextBy executor url scene found accepted
  obtain ⟨ends, handed, hands, accounts⟩ :=
    exists_hands_lines executor 1 (Text.lines block.toList)
      (scene.grown (hoistedScripts trees))
  rw [runLines_eq] at loaded
  refine
    ⟨ends, _, _, _, loaded, hands, rfl, handed, accounts.unknown,
      accounts.failed, ?_, accounts.increasing⟩
  have counted :
      (ends.map (·.placed)).length =
        (parse .runtime block).commands.length :=
    congrArg List.length handed
  rw [List.length_map] at counted
  rw [← counted, ← length_ends, ← accounts.executed]
  exact congrArg (· + _) (Nat.zero_add _)

/-- A block with an unknown line, a command that fails and one that takes effect. -/
def mixedBlock : String :=
  "hsx x\nhsx set variable b = c\nhsx run async log()"

/-- A page with this block. -/
def mixedPage : String :=
  "<hsx>hsx x\nhsx set variable b = c\nhsx run async log()</hsx>"

/-- Both commands of the mixed block are executed, and the report has two failures. -/
theorem loading_executes_parsed_commands_of_mixed_block :
    extractBlock? "hsx" mixedPage = some mixedBlock ∧
      parseTrees mixedBlock = .ok [.text mixedBlock] ∧
      ∃ ends report reached ended,
        outcome (loadText {} "<string>" mixedPage) bareScene =
            (.ok report, ended) ∧
          Hands (execute .runtime) (bareScene.grown []) ends reached ∧
          ended.context = (reached.grown []).context ∧
          ends.map (·.placed) =
            [⟨.setVariable "b" "c" false, 2⟩, ⟨.runAsync "log()", 3⟩] ∧
          report.failures.filter (onUnknown (parse .runtime mixedBlock)) =
            [⟨1, "hsx x", "Unknown HSX line 1: hsx x"⟩] ∧
          (report.failures.filter
              (!onUnknown (parse .runtime mixedBlock) ·)).map
              (fun failure => (failure.line, failure.error)) =
            ends.filterMap Ended.failure? ∧
          report.executed + (ends.filterMap Ended.failure?).length = 2 ∧
          (report.failures.map (·.line)).Pairwise (· < ·) := by
  have found : extractBlock? "hsx" mixedPage = some mixedBlock := rfl
  have accepted : parseTrees mixedBlock = .ok [.text mixedBlock] := rfl
  exact
    ⟨found, accepted,
      loading_executes_parsed_commands (execute .runtime) {} "<string>"
        mixedPage mixedBlock [.text mixedBlock] bareScene found accepted⟩

/--
A block that is refused as markup executes nothing, although the parser finds a
command in it: whatever the executor is, the load stops and the scene stays as it
was.
-/
theorem refused_block_executes_nothing :
    extractBlock? "hsx" "<hsx>hsx set variable a = 1\n<![x]></hsx>" =
        some "hsx set variable a = 1\n<![x]>" ∧
      (parse .runtime "hsx set variable a = 1\n<![x]>").commands =
        [⟨.setVariable "a" "1" false, 1⟩] ∧
      ∀ executor : Executor,
        outcome
            (loadTextBy executor {} "<string>"
              "<hsx>hsx set variable a = 1\n<![x]></hsx>")
            bareScene =
          (.error (.markup (.unknownSection "'x'")), bareScene) := by
  have found :
      extractBlock? "hsx" "<hsx>hsx set variable a = 1\n<![x]></hsx>" =
        some "hsx set variable a = 1\n<![x]>" :=
    rfl
  exact
    ⟨found, rfl, fun executor =>
      outcome_loadTextBy_of_refused {} executor _ _ found rfl⟩

end PageScript.Run
