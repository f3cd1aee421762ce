import PageScript.Proofs.Run.Simulation
import PageScript.Proofs.Script.Parsing
import PageScript.Proofs.Service.Answer
import PageScript.Proofs.Service.Source
import PageScript.Service.Build

namespace PageScript.Service

open World Script

/-!
# Builds that stop

A build whose source can be read runs its commands in a fresh scene, with what the
plugins offer.  The command that stops the run is found again by its line, which no
other command of the source has, so the report counts the commands before it.
-/

/-! ## Progress -/

/-- A command is found at its own place, because lines increase. -/
theorem progress_eq
    {commands : List PlacedCommand}
    {index : Nat}
    {placed : PlacedCommand}
    (increasing : (commands.map (·.line)).Pairwise (· < ·))
    (found : commands[index]? = some placed) :
    progress commands placed = index := by
  obtain ⟨bound, rfl⟩ := List.getElem?_eq_some_iff.mp found
  rw [progress, List.findIdx_eq bound]
  refine ⟨decide_eq_true rfl, fun earlier before => decide_eq_false fun same => ?_⟩
  have lines :=
    List.pairwise_iff_getElem.mp (List.pairwise_map.mp increasing) earlier index
      (by omega) bound before
  rw [same] at lines
  exact absurd lines (Int.lt_irrefl _)

/-! ## Steps of a build -/

section Steps

variable
  {project : Project}
  {session later : Session}
  {request : BuildRequest}
  {path base : Path}
  {parsed : Parsed}

/-- The directory that paths of a source are seen from. -/
def basePath
    (project : Project)
    (request : BuildRequest)
    (source : Path)
    (surroundings : Surroundings) :
    Except Fault Path :=
  match request.baseDirectory, project.settings.build.baseDirectory with
  | some given, _ => .ok given
  | none, some configured =>
      (surroundings.resolve configured.toString
        (some project.settings.projectRoot)).map Path.ofLocation
  | none, none => .ok source.parent

theorem settles_baseDirectory
    (project : Project)
    (request : BuildRequest)
    (source : Path)
    (session : Session) :
    Settles (project.baseDirectory request source) session
      (basePath project request source session.surroundings) := by
  rw [Project.baseDirectory, basePath]
  cases request.baseDirectory with
  | some given =>
      exact .pure given session
  | none =>
      cases project.settings.build.baseDirectory with
      | some configured =>
          exact settles_locate project configured.toString session
      | none =>
          exact .pure source.parent session

theorem settles_parsePhase
    (source : Path)
    (session : Session) :
    Settles (Project.parsePhase source) session
      ((session.surroundings.readText source).map (parse .build)) := by
  refine .attemptPhase fun recorded entered same => ?_
  have parses := settles_parseSource source .build entered
  rw [eq_of_ground (·.readText source) (fun _ => rfl) same] at parses
  cases read : session.surroundings.readText source with
  | error fault =>
      rw [read] at parses
      exact parses.bind_error
  | ok text =>
      rw [read] at parses
      exact
        parses.bind fun later _ =>
          (Settles.noteIf _ _ later).bind fun last _ => .pure _ last

/-- What a build of a project works with. -/
def workshop (project : Project) (session : Session) (base : Path) : Run.Workshop :=
  ⟨base, offered session project.plugins.backends,
    offered session project.plugins.frameworks⟩

/-- How a build ends, by the way in which the run of its commands ends. -/
structure BuildEnd
    (project : Project)
    (session : Session)
    (request : BuildRequest)
    (base : Path)
    (parsed : Parsed)
    (scene : Run.Scene)
    (result : Except Fault Report) :
    Prop where
  stopped :
    ∀ executed placed fault ended,
      Run.runBy (Run.execute (.build (workshop project session base))) 0
            parsed.commands scene =
          (⟨executed, some (placed, fault)⟩, ended) →
        result =
          (Report.checkedWarnings (buildWarnings parsed ended)).map fun warnings =>
            stoppedBuild warnings (progress parsed.commands placed) placed fault
  complete :
    ∀ executed ended,
      request.output = none →
        Run.runBy (Run.execute (.build (workshop project session base))) 0
            parsed.commands scene =
            (⟨executed, none⟩, ended) →
          ∃ (told : List String) (report : List String → Report),
            result =
              (Report.checkedWarnings
                (buildWarnings parsed ended ++ told.map Value.text)).map report

/-- A build that was executed to its end is reported, if its warnings can be. -/
theorem exists_answers_reportBuild
    (project : Project)
    (path base : Path)
    (parsed : Parsed)
    (built : Built)
    (session : Session) :
    ∃ (told : List String) (report : List String → Report),
      Answers (project.reportBuild path base parsed (.ok built)) session
        ((Report.checkedWarnings
          (buildWarnings parsed built.scene ++ told.map Value.text)).map report) := by
  obtain ⟨second, logged, -⟩ :=
    Settles.logEvent .info Run.buildLogger "build.finish"
      [("source", .text path.toString), ("executed", Value.count built.executed)]
      session
  obtain ⟨told, answers⟩ :=
    exists_answers_tell project .postBuild
      [.text path.toString, Value.count built.executed]
      (buildWarnings parsed built.scene) second
  obtain ⟨third, heard⟩ := answers.exists_answer
  obtain ⟨fourth, shown, -⟩ := settles_display project path third
  refine
    ⟨told, fun checked =>
      { succeeded := true
        operation := "build"
        data :=
          built.data
            (third.surroundings.displayPath path
              (some project.settings.projectRoot))
            base
        warnings := checked }, ?_⟩
  rw [Answers, Project.reportBuild, answer_bind_ok logged, answer_bind_ok heard,
    answer_bind_ok shown]
  exact answers_checked _ _ fourth

/-- The commands of a build are executed in a fresh scene. -/
theorem exists_scene_executeBuild
    (project : Project)
    (same : later.ground = session.ground)
    (request : BuildRequest)
    (parsed : Parsed)
    (base : Path) :
    ∃ scene,
      FreshScene project session scene ∧
        ∀ result,
          (∀ last,
            Answers
              (Project.finishBuild request parsed
                (Run.runBy (Run.execute (.build (workshop project session base))) 0
                  parsed.commands scene).1
                (Run.runBy (Run.execute (.build (workshop project session base))) 0
                  parsed.commands scene).2)
              last result) →
            Answers
              (Project.executeBuild request (offered session project.plugins.functions)
                (workshop project session base) parsed)
              later result := by
  obtain ⟨recorded, entered, entry, phase⟩ :=
    exists_answers_attemptPhase "execute"
      (fun _ =>
        liftM
            (inScene (offered session project.plugins.functions)
              (Run.runCommands (.build (workshop project session base)) 0
                parsed.commands)) >>=
          fun ended => Project.finishBuild request parsed ended.1 ended.2)
      later
  obtain ⟨scene, fresh, finished⟩ :=
    exists_answers_inScene project (entry.trans same)
      (Run.runCommands (.build (workshop project session base)) 0 parsed.commands)
      (fun ended => Project.finishBuild request parsed ended.1 ended.2)
  exact ⟨scene, fresh, fun result answers => phase result (finished result answers)⟩

/-- The commands of a build run in a fresh scene. -/
theorem exists_buildEnd
    {text : String}
    (request : BuildRequest)
    (same : later.ground = session.ground)
    (read : session.surroundings.readText path = .ok text)
    (based : basePath project request path session.surroundings = .ok base) :
    ∃ scene,
      FreshScene project session scene ∧
        BuildEnd project session request base (parse .build text) scene
          (answer (project.buildSource request path) later).1 := by
  have parses := settles_parsePhase path later
  rw [eq_of_ground (·.readText path) (fun _ => rfl) same, read] at parses
  obtain ⟨first, parsed, firstGround⟩ := parses
  have bases := settles_baseDirectory project request path first
  rw [eq_of_ground (basePath project request path) (fun _ => rfl)
    (firstGround.trans same), based] at bases
  obtain ⟨second, found, secondGround⟩ := bases
  obtain ⟨third, functions, thirdGround⟩ :=
    Settles.consult (.functions project.plugins) session second
  obtain ⟨fourth, backends, fourthGround⟩ :=
    Settles.consult (.backends project.plugins) session third
  obtain ⟨fifth, frameworks, fifthGround⟩ :=
    Settles.consult (.frameworks project.plugins) session fourth
  obtain ⟨sixth, logged, sixthGround⟩ :=
    Settles.logEvent .info Run.buildLogger "build.start"
      [("source", .text path.toString),
        ("commands", Value.count (parse .build text).commands.length)] fifth
  have ground : sixth.ground = session.ground := by
    rw [sixthGround, fifthGround, fourthGround, thirdGround, secondGround,
      firstGround, same]
  rw [Project.buildSource, answer_bind_ok parsed, answer_bind_ok found,
    answer_bind_ok functions, answer_bind_ok backends, answer_bind_ok frameworks,
    answer_bind_ok logged]
  obtain ⟨scene, fresh, executes⟩ :=
    exists_scene_executeBuild project ground request (parse .build text)
      base
  refine ⟨scene, fresh, ?_, ?_⟩
  · intro executed placed fault ended run
    rw [run] at executes
    have stopped := executes _ fun last => answers_checked _ _ last
    cases checked : Report.checkedWarnings (buildWarnings (parse .build text) ended) with
    | error refused =>
        rw [checked] at stopped
        exact stopped.bind_error
    | ok warnings =>
        rw [checked] at stopped
        exact stopped.bind fun last => rfl
  · intro executed ended noOutput run
    rw [run] at executes
    have complete :=
      executes (.ok (.ok ⟨executed, ended, none⟩)) fun last => by
        rw [Project.finishBuild, Project.emit, noOutput]
        rfl
    obtain ⟨last, finished⟩ := complete.exists_answer
    obtain ⟨told, report, reported⟩ :=
      exists_answers_reportBuild project path base (parse .build text)
        ⟨executed, ended, none⟩ last
    exact
      ⟨told, report, (congrArg Prod.fst (answer_bind_ok finished)).trans reported⟩

/-- A build whose source can be read answers as the run of its commands in a fresh scene ends. -/
theorem SourceText.exists_build
    {text : String}
    (source :
      SourceText session.surroundings project.settings.projectRoot
        (request.source.getD project.settings.build.entry) path text)
    (based : basePath project request path session.surroundings = .ok base) :
    ∃ scene result attach,
      FreshScene project session scene ∧
        BuildEnd project session request base (parse .build text) scene result ∧
          Answers (project.build request) session (result.map attach) ∧
            ∀ report, ∃ extra, attach report = { report with extra := extra } := by
  obtain ⟨entered, attach, entry, attached, traced⟩ :=
    exists_answer_tracedReport "BuildService.build"
      (project.withSource "build" (request.source.getD project.settings.build.entry)
        (project.buildSource request))
      session
  obtain ⟨later, same, sourced⟩ :=
    (source.on_ground entry).exists_answer "build" (project.buildSource request)
  obtain ⟨scene, fresh, ends⟩ :=
    exists_buildEnd request (same.trans entry) source.read based
  rw [sourced] at traced
  exact ⟨scene, _, attach, fresh, ends, traced, attached⟩

end Steps

/-! ## Builds that fail -/

/--
A run executes every command, or it stops at the first one that fails: those before it
have taken effect, and those after it are never looked at.  When the run of a build
stops, the report names the command, counts those before it, and has the warnings of
the lines that are no commands and of the commands up to that one.
-/
theorem builds_stop_at_first_failure :
    (∀ (executor : Run.Executor) (commands : List PlacedCommand) (scene : Run.Scene),
      ∃ path : Nat → Run.Scene,
        path 0 = scene ∧
          (Run.TakesEffect executor commands path ∧
              Run.runBy executor 0 commands scene =
                (⟨commands.length, none⟩, path commands.length) ∨
            ∃ index placed fault ended,
              Run.StopsAt executor commands path index placed fault ended ∧
                Run.runBy executor 0 commands scene =
                  (⟨index, some (placed, fault)⟩, ended) ∧
                ∀ later,
                  Run.runBy executor 0 (commands.take (index + 1) ++ later) scene =
                    (⟨index, some (placed, fault)⟩, ended))) ∧
      ∀ (project : Project) (session : Session) (request : BuildRequest)
        (path base : Path) (text : String),
        SourceText session.surroundings project.settings.projectRoot
            (request.source.getD project.settings.build.entry) path text →
          basePath project request path session.surroundings = .ok base →
            ∃ scene,
              FreshScene project session scene ∧
                ∀ scenes index placed fault ended,
                  scenes 0 = scene →
                    Run.StopsAt
                        (Run.execute (.build (workshop project session base)))
                        (parse .build text).commands scenes index placed fault
                        ended →
                      (∃ report,
                          Answers (project.build request) session (.ok report) ∧
                            report.succeeded = false ∧
                            report.error =
                              some
                                ⟨buildErrorCode fault,
                                  Run.failureMessage placed fault,
                                  [("line", .integer placed.line),
                                    ("kind", .text placed.command.kind.name),
                                    ("executed", Value.count index)]⟩ ∧
                            report.warnings.map Value.text =
                              (parse .build text).unknown.map
                                  (fun unknown => Value.text unknown.message) ++
                                ended.context.warnings) ∨
                        (∃ warning ∈ ended.context.warnings,
                            ∀ shown, warning ≠ .text shown) ∧
                          ∃ issues,
                            Answers (project.build request) session
                              (.error (.invalid issues)) := by
  refine ⟨fun executor commands scene => ?_, ?_⟩
  · obtain ⟨path, rfl, effects | ⟨index, placed, fault, ended, stops⟩⟩ :=
      Run.exists_path executor commands scene
    · exact ⟨path, rfl, .inl ⟨effects, effects.runBy_eq⟩⟩
    · exact
        ⟨path, rfl,
          .inr ⟨index, placed, fault, ended, stops, stops.runBy_eq, stops.runBy_append⟩⟩
  · intro project session request path base text source based
    obtain ⟨scene, result, attach, fresh, ends, built, attached⟩ :=
      source.exists_build based
    refine ⟨scene, fresh, fun scenes index placed fault ended start stops => ?_⟩
    subst start
    have increasing : (parse .build text).Increasing := parseLines_increasing 1 _
    rw [ends.stopped index placed fault ended stops.runBy_eq,
      progress_eq increasing.commands stops.found] at built
    rcases checkedWarnings_cases (buildWarnings (parse .build text) ended) with
      ⟨texts, areTexts⟩ | ⟨⟨warning, member, noText⟩, issues, refused⟩
    · left
      rw [areTexts, checkedWarnings_text] at built
      obtain ⟨extra, spans⟩ := attached (stoppedBuild texts index placed fault)
      refine ⟨_, built, ?_⟩
      rw [spans]
      exact ⟨rfl, rfl, areTexts.symm⟩
    · right
      rw [refused] at built
      refine ⟨⟨warning, ?_, noText⟩, issues, built⟩
      rcases List.mem_append.mp member with unknown | raised
      · obtain ⟨line, -, rfl⟩ := List.mem_map.mp unknown
        exact absurd rfl (noText line.message)
      · exact raised

/-- A project without plugins at the top of the file tree. -/
def plainProject : Project :=
  { settings := { projectRoot := ⟨"/", []⟩ }
    plugins := {} }

/-- A session with one file at the top. -/
def sessionWith (name : String) (bytes : ByteArray) : Session :=
  { surroundings :=
      { files := ⟨⟨[([name], .file bytes)]⟩⟩
        directory := []
        home := "/"
        environment := ⟨[]⟩
        pages := ⟨[]⟩ } }

/-- A source whose second command calls a function that nobody offers. -/
def callingSource : String :=
  "hsx define component c Hi\nhsx run async f()"

/-- The report names the second command and counts the first one. -/
theorem builds_stop_at_first_failure_of_unknown_function :
    SourceText (sessionWith "a.hsx" callingSource.toUTF8).surroundings ⟨"/", []⟩
        "a.hsx" ⟨"/", ["a.hsx"]⟩ callingSource ∧
      ∃ report,
        Answers (plainProject.build { source := some "a.hsx" })
            (sessionWith "a.hsx" callingSource.toUTF8) (.ok report) ∧
          report.succeeded = false ∧
          report.error =
            some
              ⟨"EVALUATION_FAILED", "Line 2 (run-async): Unknown async function: f",
                [("line", .integer 2), ("kind", .text "run-async"),
                  ("executed", Value.count 1)]⟩ ∧
          report.warnings = [] := by
  let session := sessionWith "a.hsx" callingSource.toUTF8
  have source :
      SourceText session.surroundings ⟨"/", []⟩ "a.hsx" ⟨"/", ["a.hsx"]⟩
        callingSource :=
    ⟨rfl, rfl, rfl⟩
  refine ⟨source, ?_⟩
  obtain ⟨scene, fresh, reports⟩ :=
    builds_stop_at_first_failure.2 plainProject session { source := some "a.hsx" }
      ⟨"/", ["a.hsx"]⟩ ⟨"/", []⟩ callingSource source rfl
  rcases scene with ⟨context, surroundings, cache, record⟩
  obtain ⟨rfl, -, -, -⟩ := fresh
  let executor := Run.execute (.build (workshop plainProject session ⟨"/", []⟩))
  let start : Run.Scene :=
    ⟨{ page := .blank, functions := offered session plainProject.plugins.functions },
      surroundings, cache, record⟩
  let second := (Run.outcome (executor ⟨.defineComponent "c" "Hi", 1⟩) start).2
  have stops :
      Run.StopsAt executor (parse .build callingSource).commands
        (Run.pathFrom start fun _ => second) 1 ⟨.runAsync "f()", 2⟩
        (.expression (.unknownFunction "f"))
        (Run.outcome (executor ⟨.runAsync "f()", 2⟩) second).2 :=
    ⟨rfl, .cons rfl .nil, rfl⟩
  rcases reports _ 1 _ _ _ rfl stops with
    ⟨report, answered, failed, error, warnings⟩ | ⟨⟨warning, member, -⟩, -⟩
  · exact ⟨report, answered, failed, error, List.map_eq_nil_iff.mp warnings⟩
  · cases member

end PageScript.Service
