import PageScript.Proofs.Plugin.Discovering
import PageScript.Proofs.Plugin.Merging
import PageScript.Proofs.Service.Answer
import PageScript.Proofs.Service.Building
import PageScript.Service.Build
import PageScript.Service.Load

namespace PageScript.Service

open World

/-!
# Plugins that fail

Building and loading tell plugins that they are over when all but the report is
done.  So two projects whose plugins offer the same come to one report and leave one
session, whatever their plugins do when they are told: where one of them fails, there
is one more warning behind the others, and the calls that the plugins record follow
the calls before.

What goes wrong with plugins stays with them: a discovery registers the others, tables
are made of what the others offer, and builds and loads end as they would have, with one
warning more.
-/

/-! ## Steps behind the plugins -/

namespace Session

/-- A session with other files. -/
def withFiles (session : Session) (files : FileTree) : Session :=
  { session with surroundings := { session.surroundings with files := files } }

end Session

/-- A step that at most writes files, whatever was called and logged before. -/
def OnlyWrites {α : Type} (step : Attempt α) : Prop :=
  ∀ session : Session, ∃ result files, ∀ calls log,
    answer step (session.noting calls log) =
      (result, (session.withFiles files).noting calls log)

namespace OnlyWrites

variable
  {α β : Type}
  {step : Attempt α}
  {next : α → Attempt β}

theorem pure (value : α) : OnlyWrites (pure value) :=
  fun session => ⟨.ok value, session.surroundings.files, fun _ _ => rfl⟩

theorem bind
    (first : OnlyWrites step)
    (rest : ∀ value, OnlyWrites (next value)) :
    OnlyWrites (step >>= next) := by
  intro session
  obtain ⟨result, files, runs⟩ := first session
  cases result with
  | error fault =>
      refine ⟨.error fault, files, fun calls log => ?_⟩
      rw [answer_bind, runs]
  | ok value =>
      obtain ⟨last, written, goesOn⟩ := rest value (session.withFiles files)
      refine ⟨last, written, fun calls log => ?_⟩
      rw [answer_bind, runs]
      exact goesOn calls log

theorem display
    (project : Project)
    (path : Path) :
    OnlyWrites (project.display path) := by
  intro session
  exact
    ⟨.ok (session.surroundings.displayPath path (some project.settings.projectRoot)),
      session.surroundings.files, fun _ _ => rfl⟩

theorem prepareParent
    (path : Path) :
    OnlyWrites (Project.prepareParent path) := by
  intro session
  have prepared :
      ∀ reached : Session,
        answer (Project.prepareParent path) reached =
          ((reached.surroundings.makeParent path).2,
            { reached with surroundings := (reached.surroundings.makeParent path).1 }) := by
    intro reached
    rw [Project.prepareParent, answer_bind]
    change answer (MonadExcept.ofExcept (reached.surroundings.makeParent path).2) _ = _
    cases (reached.surroundings.makeParent path).2 <;> rfl
  cases null : path.parent.hasNull with
  | true =>
      refine ⟨.error .nullCharacter, session.surroundings.files, fun calls log => ?_⟩
      rw [prepared, Surroundings.makeParent, null]
      rfl
  | false =>
      let made :=
        session.surroundings.files.makeDirectories session.surroundings.directory path.parent
      refine
        ⟨made.2.mapError fun failure => .system failure.1 failure.2.toString, made.1,
          fun calls log => ?_⟩
      rw [prepared, Surroundings.makeParent, null]
      rfl

theorem writeText
    (path : Path)
    (text : String) :
    OnlyWrites (do
      let written ← attempt fun surroundings => surroundings.writeText path text
      modify fun current => { current with surroundings := written }) := by
  intro session
  cases null : path.hasNull with
  | true =>
      refine ⟨.error .nullCharacter, session.surroundings.files, fun calls log => ?_⟩
      rw [answer_bind, answer_attempt, Surroundings.writeText, null]
      rfl
  | false =>
      cases written :
          session.surroundings.files.writeBytes session.surroundings.directory path
            text.toUTF8 with
      | error refused =>
          refine
            ⟨.error (.system refused path.toString), session.surroundings.files,
              fun calls log => ?_⟩
          have again :
              (session.noting calls log).surroundings.files.writeBytes
                (session.noting calls log).surroundings.directory path text.toUTF8 =
                  .error refused :=
            written
          rw [answer_bind, answer_attempt, Surroundings.writeText, null, again]
          rfl
      | ok files =>
          refine ⟨.ok (), files, fun calls log => ?_⟩
          have again :
              (session.noting calls log).surroundings.files.writeBytes
                (session.noting calls log).surroundings.directory path text.toUTF8 =
                  .ok files :=
            written
          rw [answer_bind, answer_attempt, Surroundings.writeText, null, again]
          rfl

theorem writeOutput
    (path : Path)
    (text : String) :
    OnlyWrites (Project.writeOutput path text) :=
  (prepareParent path).bind fun _ => writeText path text

end OnlyWrites

/-! ## What plugins change -/

/-- A report behind a hook: where a plugin that is told fails, there is a warning more. -/
def Report.behind (manager : Plugin.Manager) (hook : Plugin.Hook) (report : Report) : Report :=
  if manager.failsOn hook then
    { report with warnings := report.warnings ++ [hookWarning hook] }
  else
    report

/--
How an operation ends that comes to an outcome and a session before plugins are told,
if they are told.
-/
structure EndsBehind
    (manager : Plugin.Manager)
    (hook : Plugin.Hook)
    (told : Option (List Value))
    (outcome : Except Fault Report)
    (finish : Session)
    (ended : Except Fault Report × Session) :
    Prop where
  result :
    ended.1 = if told.isSome then outcome.map (Report.behind manager hook) else outcome
  ground : ended.2.ground = finish.ground
  recorder : ended.2.recorder = finish.recorder
  calls :
    ended.2.surroundings.calls =
      finish.surroundings.calls ++ (told.map (manager.heard hook)).getD []

/--
Two operations come to one outcome and one session, apart from what two managers make of
a hook: it is reached by both or by none, and exactly if the operation succeeds.
-/
def EndAlike
    (first second : Plugin.Manager)
    (hook : Plugin.Hook)
    (left right : Attempt Report)
    (session : Session) :
    Prop :=
  ∃ told outcome finish,
    (∀ report, outcome = .ok report → report.succeeded = told.isSome) ∧
      EndsBehind first hook told outcome finish (answer left session) ∧
        EndsBehind second hook told outcome finish (answer right session)

namespace EndAlike

variable
  {α : Type}
  {first second : Plugin.Manager}
  {hook : Plugin.Hook}
  {session : Session}

/-- An operation that does not succeed tells no plugins. -/
theorem untold
    {step other : Attempt Report}
    (same : other = step)
    (fails : ∀ report, (answer step session).1 = .ok report → report.succeeded = false) :
    EndAlike first second hook step other session := by
  subst same
  refine ⟨none, (answer other session).1, (answer other session).2, fails, ?_, ?_⟩ <;>
    exact ⟨rfl, rfl, rfl, (List.append_nil _).symm⟩

/-- Operations that begin with the same step. -/
theorem bind
    {step other : Attempt α}
    {left right : α → Attempt Report}
    (same : other = step)
    (rest :
      ∀ value later,
        answer step session = (.ok value, later) →
          EndAlike first second hook (left value) (right value) later) :
    EndAlike first second hook (step >>= left) (other >>= right) session := by
  subst same
  rcases run : answer other session with ⟨fault | value, later⟩
  · have stopped :
        ∀ next : α → Attempt Report,
          answer (other >>= next) session = (.error fault, later) := by
      intro next
      rw [answer_bind, run]
    refine ⟨none, .error fault, later, ?_, ?_, ?_⟩
    · intro report failed
      cases failed
    · rw [stopped]
      exact ⟨rfl, rfl, rfl, (List.append_nil _).symm⟩
    · rw [stopped]
      exact ⟨rfl, rfl, rfl, (List.append_nil _).symm⟩
  · rw [EndAlike, answer_bind_ok run, answer_bind_ok run]
    exact rest value later run

end EndAlike

/-! ## Telling plugins -/

/-- Spans and a further warning are added to a report in either order. -/
theorem map_withSpans
    (manager : Plugin.Manager)
    (hook : Plugin.Hook)
    (told : Bool)
    (spans : Value)
    (outcome : Except Fault Report) :
    (if told then outcome.map (Report.behind manager hook) else outcome).map
        (Report.withSpans spans) =
      if told then (outcome.map (Report.withSpans spans)).map (Report.behind manager hook)
      else outcome.map (Report.withSpans spans) := by
  cases told with
  | false =>
      rfl
  | true =>
      cases outcome with
      | error fault =>
          rfl
      | ok report =>
          refine congrArg Except.ok ?_
          rw [Report.behind, Report.behind]
          split <;> rfl

/-- Tell plugins, take a further step and report it with what was told. -/
def tellAndReport
    {α : Type}
    (project : Project)
    (hook : Plugin.Hook)
    (arguments warnings : List Value)
    (step : Attempt α)
    (report : α → Report) :
    Attempt Report := do
  let told ← liftM (project.tell hook arguments warnings)
  let value ← step
  let checked ← (liftM (Report.checkedWarnings told) : Attempt (List String))
  pure { report value with warnings := checked }

/-- A report with warnings of which one is that a plugin failed. -/
theorem map_checkedWarnings
    (manager : Plugin.Manager)
    (hook : Plugin.Hook)
    (warnings : List Value)
    (report : Report) :
    ((Report.checkedWarnings
          (warnings ++
            if manager.failsOn hook then [.text (hookWarning hook)] else [])).map
        fun checked => { report with warnings := checked }) =
      ((Report.checkedWarnings warnings).map fun checked =>
        { report with warnings := checked }).map (Report.behind manager hook) := by
  cases fails : manager.failsOn hook with
  | true =>
      rw [if_pos rfl, checkedWarnings_concat]
      cases Report.checkedWarnings warnings with
      | error fault => rfl
      | ok texts => exact congrArg Except.ok (by rw [Report.behind, fails]; rfl)
  | false =>
      rw [if_neg Bool.false_ne_true, List.append_nil]
      cases Report.checkedWarnings warnings with
      | error fault => rfl
      | ok texts => exact congrArg Except.ok (by rw [Report.behind, fails]; rfl)

/-- A step that at most writes files ends behind the plugins as it does without them. -/
theorem endsBehind_tellAndReport
    {α : Type}
    {step : Attempt α}
    {session : Session}
    {result : Except Fault α}
    {files : FileTree}
    (project : Project)
    (hook : Plugin.Hook)
    (arguments warnings : List Value)
    (report : α → Report)
    (runs :
      ∀ calls log,
        answer step (session.noting calls log) =
          (result, (session.withFiles files).noting calls log)) :
    EndsBehind project.plugins hook (some arguments)
      (result.bind fun value =>
        (Report.checkedWarnings warnings).map fun checked =>
          { report value with warnings := checked })
      (session.withFiles files)
      (answer (tellAndReport project hook arguments warnings step report) session) := by
  obtain ⟨log, told⟩ := exists_answer_tell project hook arguments warnings session
  rw [tellAndReport, answer_bind_ok told]
  cases result with
  | error fault =>
      rw [answer_bind, runs]
      exact ⟨rfl, rfl, rfl, rfl⟩
  | ok value =>
      rw [answer_bind_ok (runs _ log), answer_checked]
      exact ⟨map_checkedWarnings project.plugins hook warnings (report value), rfl, rfl, rfl⟩

namespace EndAlike

variable
  {α : Type}
  {first second : Plugin.Manager}
  {hook : Plugin.Hook}

/-- What is done behind the plugins does not depend on them. -/
theorem tell
    {step : Attempt α}
    (settings : Settings)
    (arguments warnings : List Value)
    (writes : OnlyWrites step)
    (report : α → Report)
    (succeeds : ∀ value, (report value).succeeded = true)
    (session : Session) :
    EndAlike first second hook
      (tellAndReport ⟨settings, first⟩ hook arguments warnings step report)
      (tellAndReport ⟨settings, second⟩ hook arguments warnings step report)
      session := by
  obtain ⟨result, files, runs⟩ := writes session
  refine
    ⟨some arguments, _, session.withFiles files, ?_,
      endsBehind_tellAndReport ⟨settings, first⟩ hook arguments warnings report runs,
      endsBehind_tellAndReport ⟨settings, second⟩ hook arguments warnings report runs⟩
  intro done finished
  cases result with
  | error fault =>
      cases finished
  | ok value =>
      cases checked : Report.checkedWarnings warnings with
      | error fault =>
          rw [checked] at finished
          cases finished
      | ok texts =>
          rw [checked] at finished
          cases finished
          exact succeeds value

/-- Spans are added to a report in the same way, whether it has a further warning or not. -/
theorem traced
    {left right : Attempt Report}
    (name : String)
    (session : Session)
    (alike : ∀ entered, EndAlike first second hook left right entered) :
    EndAlike first second hook (tracedReport name left) (tracedReport name right)
      session := by
  rw [EndAlike, answer_tracedReport, answer_tracedReport]
  cases session.recorder.enterCall? name with
  | none =>
      exact alike session
  | some entered =>
      obtain ⟨told, outcome, finish, succeeds, leftEnds, rightEnds⟩ :=
        alike { session with recorder := entered }
      dsimp only
      rw [leftEnds.recorder, rightEnds.recorder]
      cases (finish.recorder.leaveCall session.recorder.active).1 with
      | none =>
          exact
            ⟨told, outcome,
              { finish with
                recorder := (finish.recorder.leaveCall session.recorder.active).2 },
              succeeds, ⟨leftEnds.result, leftEnds.ground, rfl, leftEnds.calls⟩,
              ⟨rightEnds.result, rightEnds.ground, rfl, rightEnds.calls⟩⟩
      | some span =>
          refine
            ⟨told, outcome.map (Report.withSpans span.record),
              { finish with
                recorder := (finish.recorder.leaveCall session.recorder.active).2 },
              ?_, ⟨?_, leftEnds.ground, rfl, leftEnds.calls⟩,
              ⟨?_, rightEnds.ground, rfl, rightEnds.calls⟩⟩
          · intro report finished
            cases outcome with
            | error fault =>
                cases finished
            | ok plain =>
                cases finished
                exact succeeds plain rfl
          · exact
              (congrArg (Except.map (Report.withSpans span.record)) leftEnds.result).trans
                (map_withSpans ..)
          · exact
              (congrArg (Except.map (Report.withSpans span.record)) rightEnds.result).trans
                (map_withSpans ..)

end EndAlike

/-! ## What steps give -/

/-- Whatever a step gives has a property. -/
def Gives {α : Type} (step : Attempt α) (holds : α → Prop) : Prop :=
  ∀ session value later, answer step session = (.ok value, later) → holds value

namespace Gives

variable
  {α β : Type}
  {step : Attempt α}
  {next : α → Attempt β}
  {holds : β → Prop}

theorem pure
    {value : β}
    (proof : holds value) :
    Gives (pure value) holds := by
  intro session given later run
  cases run
  exact proof

theorem throw
    (fault : Fault) :
    Gives (throw fault) holds := by
  intro session given later run
  cases run

theorem bind
    (rest : ∀ value, Gives (next value) holds) :
    Gives (step >>= next) holds := by
  intro session given later run
  rw [answer_bind] at run
  split at run
  · next value reached _ => exact rest value reached given later run
  · cases run

theorem attemptPhase
    {name : String}
    {body : Bool → Attempt β}
    (gives : ∀ recorded, Gives (body recorded) holds) :
    Gives (Service.attemptPhase name body) holds := by
  intro session given later run
  obtain ⟨recorded, entered, change, -, -, phase⟩ :=
    exists_answer_attemptPhase name body session
  rcases ended : answer (body recorded) entered with ⟨result, reached⟩
  rw [phase, ended] at run
  have given_eq : result = .ok given := congrArg Prod.fst run
  exact gives recorded entered given reached (by rw [ended, given_eq])

end Gives

/-- A build whose commands are stopped does not succeed. -/
theorem gives_executeBuild
    (request : BuildRequest)
    (functions : Table String Run.Function)
    (workshop : Run.Workshop)
    (parsed : Script.Parsed) :
    Gives (Project.executeBuild request functions workshop parsed) fun executed =>
      ∀ stopped, executed = .error stopped → stopped.succeeded = false := by
  refine .attemptPhase fun recorded => .bind ?_
  rintro ⟨⟨count, _ | ⟨placed, fault⟩⟩, scene⟩
  · refine .bind fun _ => .pure ?_
    rintro stopped ⟨⟩
  · refine .bind fun warnings => .pure ?_
    rintro stopped ⟨⟩
    rfl

/-- A page that cannot be fetched is no success. -/
theorem gives_fetchPage
    (timeout : Value)
    (url : String) :
    Gives (fetchPage timeout url) fun fetched =>
      ∀ failed, fetched = .error failed → failed.succeeded = false := by
  refine .attemptPhase fun recorded => .bind fun fetched => ?_
  cases fetched with
  | ok text =>
      refine .pure ?_
      rintro failed ⟨⟩
  | error fault =>
      dsimp only
      split
      · refine .pure ?_
        rintro failed ⟨⟩
        rfl
      · exact .throw fault

/-- A page whose block is not run is no success. -/
theorem gives_runPage
    (options : Run.LoadOptions)
    (functions : Table String Run.Function)
    (url text : String) :
    Gives (runPage options functions url text) fun ran =>
      ∀ failed, ran = .error failed → failed.succeeded = false := by
  refine .attemptPhase fun recorded => .bind ?_
  rintro ⟨outcome, scene⟩
  change Gives (finishPage url recorded outcome scene) _
  rw [finishPage.eq_def]
  split
  · refine .bind fun _ => .pure ?_
    rintro failed ⟨⟩
  · refine .pure ?_
    rintro failed ⟨⟩
    rfl
  · exact .throw _

/-! ## Building and loading -/

section Services

variable
  {first second : Plugin.Manager}

/-- Two builds with plugins that offer the same end alike. -/
theorem endAlike_build
    (same : first.OffersSame second)
    (settings : Settings)
    (request : BuildRequest)
    (session : Session) :
    EndAlike first second .postBuild
      (Project.build ⟨settings, first⟩ request)
      (Project.build ⟨settings, second⟩ request) session := by
  refine .traced _ session fun entered => ?_
  refine .bind rfl fun source located _ => .bind rfl fun isFile looked _ => ?_
  split
  · refine .bind rfl fun parsed read _ => .bind rfl fun base based _ => ?_
    refine .bind (congrArg consult same.functions) fun functions _ _ => ?_
    refine .bind (congrArg consult same.backends) fun backends _ _ => ?_
    refine .bind (congrArg consult same.frameworks) fun frameworks _ _ => ?_
    refine .bind rfl fun _ _ _ => .bind rfl fun executed finished run => ?_
    cases executed with
    | error stopped =>
        refine .untold rfl fun report done => ?_
        cases done
        exact gives_executeBuild _ _ _ _ _ _ _ run stopped rfl
    | ok built =>
        refine .bind rfl fun _ logged _ => ?_
        exact
          .tell settings _ _ (.display ⟨settings, first⟩ source)
            (fun shown =>
              { succeeded := true
                operation := "build"
                data := built.data shown base })
            (fun _ => rfl) logged
  · refine .untold rfl fun report done => ?_
    cases done
    rfl

/-- Where the text of a loaded page goes. -/
def placeMarkup (output : Option Path) (markup : String) : Attempt (String × Value) :=
  match output with
  | some path => do
      Project.writeOutput path markup
      pure ("output", .text path.toString)
  | none => pure ("html", .text markup)

theorem onlyWrites_placeMarkup
    (output : Option Path)
    (markup : String) :
    OnlyWrites (placeMarkup output markup) := by
  cases output with
  | none => exact .pure _
  | some path => exact (OnlyWrites.writeOutput path markup).bind fun _ => .pure _

/-- Plugins are told of a load before its page is placed. -/
theorem loadedReport_eq
    (project : Project)
    (url : String)
    (output : Option Path)
    (report : Run.LoadReport)
    (scene : Run.Scene) :
    project.loadedReport url output report scene =
      tellAndReport project .postLoad
        [.text url, Value.count report.executed, Value.count report.failures.length]
        (scene.context.warnings ++ report.failures.map failureWarning)
        (placeMarkup output (scene.context.page.markup?.getD ""))
        fun place =>
          { succeeded := true
            operation := "load"
            data := loadData url report ++ [place] } := by
  rw [Project.loadedReport, tellAndReport]
  cases output with
  | none => rfl
  | some path => simp only [placeMarkup, bind_assoc, pure_bind]

/-- Two loads whose blocks were run end alike. -/
theorem endAlike_loadedReport
    (settings : Settings)
    (url : String)
    (output : Option Path)
    (report : Run.LoadReport)
    (scene : Run.Scene)
    (session : Session) :
    EndAlike first second .postLoad
      (Project.loadedReport ⟨settings, first⟩ url output report scene)
      (Project.loadedReport ⟨settings, second⟩ url output report scene) session := by
  rw [loadedReport_eq, loadedReport_eq]
  exact .tell settings _ _ (onlyWrites_placeMarkup output _) _ (fun _ => rfl) session

/-- Two loads with plugins that offer the same end alike. -/
theorem endAlike_load
    (same : first.OffersSame second)
    (settings : Settings)
    (url : String)
    (output : Option Path)
    (session : Session) :
    EndAlike first second .postLoad
      (Project.load ⟨settings, first⟩ url output)
      (Project.load ⟨settings, second⟩ url output) session := by
  refine .traced _ session fun entered => ?_
  refine .bind (congrArg consult same.functions) fun functions _ _ => ?_
  refine .bind rfl fun fetched _ run => ?_
  cases fetched with
  | error failed =>
      refine .untold rfl fun report done => ?_
      cases done
      exact gives_fetchPage _ _ _ _ _ run failed rfl
  | ok text =>
      refine .bind rfl fun ran _ run => ?_
      rcases ran with failed | ⟨report, scene⟩
      · refine .untold rfl fun report done => ?_
        cases done
        exact gives_runPage _ _ _ _ _ _ _ run failed rfl
      · exact endAlike_loadedReport settings url output report scene _

end Services

/-! ## Failures that are contained -/

open Plugin

/--
A discovery only writes to the log, and registers the classes that it finds, unless the
path of the directory is too long to be looked at.  The merged backends and functions are
those without the plugins that fail to offer them, and of every name they have what the
last plugin with that name offers.  Builds and loads come to the same report and the same
session whatever plugins do when they are told, apart from one warning behind the others
where one of them fails, and from the calls that the plugins record up to that one,
beginning with the last registered plugin.
-/
theorem plugin_failures_are_contained
    {manager other : Manager}
    (reachable : manager.Reachable)
    (same : manager.OffersSame other)
    {catalog : Catalog}
    (wellFormed : catalog.WellFormed)
    {surroundings : Surroundings}
    (nodup : surroundings.files.entries.keys.Nodup)
    (directory : Option Path)
    (settings : Settings)
    (request : BuildRequest)
    (url : String)
    (output : Option Path)
    (session : Session) :
    Yields (manager.discover catalog directory) surroundings
        (manager.EndsDiscovery catalog surroundings directory) ∧
      (∀ fault,
        StopsDiscovery surroundings directory fault →
          ∃ path, directory = some path ∧ fault = .system .nameTooLong path.toString) ∧
      manager.Merges PluginClass.backends Manager.backends ∧
      manager.Merges PluginClass.functions Manager.functions ∧
      EndAlike manager other .postBuild
        (Project.build ⟨settings, manager⟩ request)
        (Project.build ⟨settings, other⟩ request) session ∧
      EndAlike manager other .postLoad
        (Project.load ⟨settings, manager⟩ url output)
        (Project.load ⟨settings, other⟩ url output) session := by
  refine
    ⟨yields_endsDiscovery reachable.sound wellFormed nodup directory, ?_,
      merges_collect _ manager, merges_collect _ manager,
      endAlike_build same settings request session,
      endAlike_load same settings url output session⟩
  rintro fault ⟨path, given, refused⟩
  exact ⟨path, given, isDirectory_error refused⟩

/-- The directory at the top. -/
def topDirectory : Path :=
  ⟨"/", []⟩

/-- Surroundings with two files whose names without their endings are the same. -/
def twoFiles : Surroundings :=
  { files := ⟨⟨[([".py"], .file ⟨#[]⟩), ([".py.py"], .file ⟨#[]⟩)]⟩⟩
    directory := []
    home := "/"
    environment := ⟨[]⟩
    pages := ⟨[]⟩ }

/-- A class that offers one function. -/
def offering (name : String) : PluginClass :=
  { name := "P"
    functions := some (.table [(name, .sleep)]) }

/-- The two files, with a class in each. -/
def twoClasses : Catalog :=
  ⟨[([".py"], .classes [offering "a"]), ([".py.py"], .classes [offering "b"])]⟩

theorem wellFormed_twoClasses :
    twoClasses.WellFormed := by
  have known :
      ∀ place classes,
        twoClasses.get? place = some (.classes classes) → ∃ name, classes = [offering name] := by
    intro place classes given
    rw [twoClasses, Table.get?_cons, Table.get?_cons] at given
    split at given
    · cases given
      exact ⟨_, rfl⟩
    · split at given
      · cases given
        exact ⟨_, rfl⟩
      · cases given
  refine ⟨fun place classes given => ?_, fun place classes given plugin member => ?_⟩
  · obtain ⟨name, rfl⟩ := known place classes given
    exact List.nodup_singleton _
  · obtain ⟨name, rfl⟩ := known place classes given
    cases List.mem_singleton.mp member
    exact (by decide : '.' ∉ "P".toList)

theorem nodup_twoFiles :
    twoFiles.files.entries.keys.Nodup := by
  decide

/-- A manager with one plugin, which is told of builds. -/
def managerTelling (behaviour : HookBehaviour) : Manager :=
  { plugins := ⟨[("P", ⟨0, { name := "P", postBuild := some behaviour }, false⟩)]⟩
    nextIdentity := 1 }

theorem reachable_managerTelling
    (behaviour : HookBehaviour) :
    (managerTelling behaviour).Reachable := by
  refine
    @Manager.Reachable.registered (({} : Manager).instantiate { name := "P" } false).1
      (managerTelling behaviour) ⟨0, { name := "P", postBuild := some behaviour }, false⟩
      (some "P") twoFiles ?_ Nat.zero_lt_one rfl
  exact .instantiated (.started false twoFiles) _ _

/-- A build of an empty source, with a plugin that is told of it. -/
def buildTelling (behaviour : HookBehaviour) : Except Fault Report × Session :=
  answer
    (Project.build ⟨plainProject.settings, managerTelling behaviour⟩ { source := some "a.hsx" })
    (sessionWith "a.hsx" ⟨#[]⟩)

/-- Where the plugin fails instead of recording the call, there is one more warning. -/
theorem plugin_failures_are_contained_of_failing_hook :
    (managerTelling .fail).Reachable ∧
      (managerTelling .fail).OffersSame (managerTelling .record) ∧
      twoClasses.WellFormed ∧
      twoFiles.files.entries.keys.Nodup ∧
      ∃ report,
        (buildTelling .record).1 = .ok report ∧
          (buildTelling .fail).1 =
            .ok { report with
              warnings := report.warnings ++ ["Event dispatch failed for post_build"] } := by
  have same : (managerTelling .fail).OffersSame (managerTelling .record) :=
    .cons ⟨rfl, rfl, rfl, rfl, rfl⟩ .nil
  refine
    ⟨reachable_managerTelling .fail, same, wellFormed_twoClasses, nodup_twoFiles, ?_⟩
  obtain ⟨told, outcome, finish, succeeds, failing, quiet⟩ :=
    (plugin_failures_are_contained (reachable_managerTelling .fail) same
      wellFormed_twoClasses nodup_twoFiles (some topDirectory) plainProject.settings
      { source := some "a.hsx" } "a.html" none (sessionWith "a.hsx" ⟨#[]⟩)).2.2.2.2.1
  have succeeded :
      (match (buildTelling .record).1 with
        | .ok report => report.succeeded
        | .error _ => false) = true := by
    decide +kernel
  have records := quiet.result
  have fails := failing.result
  change (buildTelling .record).1 = _ at records
  change (buildTelling .fail).1 = _ at fails
  rw [records] at succeeded
  cases told with
  | none =>
      cases outcome with
      | error fault => cases succeeded
      | ok report => cases (succeeds report rfl).symm.trans succeeded
  | some arguments =>
      cases outcome with
      | error fault => cases succeeded
      | ok report => exact ⟨report, records, fails⟩

/-- A path with a name that is longer than names can be. -/
def longPath : Path :=
  ⟨"", [String.ofList (List.replicate 300 'a')]⟩

theorem isDirectory_longPath :
    twoFiles.isDirectory longPath = .error (.system .nameTooLong longPath.toString) := by
  refine isDirectory_of_tooLong ?_ ?_
  · rw [Path.hasNull, longPath, List.any_cons, String.toList_ofList]
    decide +kernel
  · decide +kernel

theorem leadsTo_topDirectory :
    LeadsTo twoFiles (some topDirectory) [] :=
  ⟨topDirectory, rfl, rfl, rfl⟩

theorem offered_first :
    Offered twoClasses twoFiles.files [] ⟨".py", offering "a"⟩ :=
  ⟨by decide, by decide, by decide, by rintro ⟨⟩, ⟨_, rfl, List.mem_singleton.mpr rfl⟩, rfl, rfl⟩

theorem offered_second :
    Offered twoClasses twoFiles.files [] ⟨".py.py", offering "b"⟩ :=
  ⟨by decide, by decide, by decide, by rintro ⟨⟩, ⟨_, rfl, List.mem_singleton.mpr rfl⟩, rfl, rfl⟩

/--
Of two files whose names without their endings are the same, only one becomes a plugin,
and a directory whose name is too long stops a discovery.
-/
theorem offered_class_is_not_registered :
    (Offered twoClasses twoFiles.files [] ⟨".py", offering "a"⟩ ∧
        Offered twoClasses twoFiles.files [] ⟨".py.py", offering "b"⟩) ∧
      Yields (({} : Manager).discover twoClasses (some topDirectory)) twoFiles
        (fun ended =>
          ended.2 = .ok () ∧ ∀ listed ∈ ended.1.listing, listed.plugin ≠ offering "b") ∧
      Yields (({} : Manager).discover ⟨[]⟩ (some longPath)) twoFiles
        (fun ended => ended.2 = .error (.system .nameTooLong longPath.toString)) := by
  have sound : Manager.Sound {} := (Manager.Reachable.started false twoFiles).sound
  refine ⟨⟨offered_first, offered_second⟩, ?_, ?_⟩
  · refine (yields_endsDiscovery sound wellFormed_twoClasses nodup_twoFiles _).weaken ?_
    rintro ⟨left, _ | ⟨⟩⟩ ends
    case error fault =>
      obtain ⟨path, given, refused⟩ := (ends.error_iff fault).mp rfl
      cases given
      cases refused
    refine ⟨rfl, fun listed member plugin_eq => ?_⟩
    obtain ⟨-, objects, found, finds⟩ := ends.finished rfl
    obtain rfl : objects = [] := finds.replacing.eq_nil
    rw [finds.listing] at member
    obtain ⟨⟨file, plugin⟩, inFound, rfl⟩ := List.mem_map.mp member
    obtain rfl : plugin = offering "b" := plugin_eq
    obtain ⟨⟨place, leads, offered⟩, -, first⟩ := (finds.mem_iff _).mp inFound
    obtain rfl := leads.unique leadsTo_topDirectory
    -- The class stands in the second file, before which the first one has taken the name.
    have file_eq : file = ".py.py" := by
      obtain ⟨classes, known, inClasses⟩ := offered.loads
      change twoClasses.get? [file] = some (.classes classes) at known
      rw [twoClasses, Table.get?_cons, Table.get?_cons] at known
      split at known
      · cases known
        simp [offering] at inClasses
      · split at known
        next same => exact (List.singleton_inj.mp (eq_of_beq same)).symm
        next => cases known
    subst file_eq
    exact
      first ⟨".py", offering "a"⟩ ⟨[], leadsTo_topDirectory, offered_first⟩
        (.inl (by decide)) (by decide +kernel)
  · refine (yields_discover sound twoFiles (some longPath)).weaken ?_
    rintro ended ⟨-, ⟨fault, ⟨path, given, refused⟩, stopped, -⟩ | ⟨unstopped, -⟩⟩
    · cases given
      cases refused.symm.trans isDirectory_longPath
      exact stopped
    · exact absurd ⟨longPath, rfl, isDirectory_longPath⟩ (unstopped _)

end PageScript.Service
