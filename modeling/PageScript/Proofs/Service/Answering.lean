import PageScript.Proofs.Service.Building
import PageScript.Proofs.Service.Paging
import PageScript.Service.Parse

namespace PageScript.Service

open World Script

/-!
# Which inputs get a report

Parsing, building and loading answer with a report on most inputs, and stop with a
fault on the others.  The faults are told exactly: a path or an address that the system
cannot follow, bytes that are no text, and a block that is refused as markup.  Nothing
that a script does is among them, as long as no function warns with a value that is no
text.
-/

/-! ## Reports -/

/-- A service answers with some report. -/
def Reports (step : Attempt Report) (session : Session) : Prop :=
  ∃ report, Answers step session (.ok report)

section Reports

variable
  {α : Type}
  {step : Attempt α}
  {next : α → Attempt Report}
  {session : Session}

theorem Reports.of_answer
    {early late : Attempt Report}
    {later : Session}
    (same : answer early session = answer late later)
    (reports : Reports late later) :
    Reports early session := by
  obtain ⟨report, reported⟩ := reports
  exact ⟨report, (congrArg Prod.fst same).trans reported⟩

theorem Reports.of_attached
    {early late : Attempt Report}
    {later : Session}
    {attach : Report → Report}
    (same : (answer early session).1 = (answer late later).1.map attach)
    (reports : Reports late later) :
    Reports early session := by
  obtain ⟨report, reported⟩ := reports
  exact ⟨attach report, same.trans (congrArg (Except.map attach) reported)⟩

theorem Answers.reports_bind
    {value : α}
    (first : Answers step session (.ok value))
    (rest : ∀ later, Reports (next value) later) :
    Reports (step >>= next) session := by
  obtain ⟨later, answered⟩ := first.exists_answer
  exact .of_answer (answer_bind_ok answered) (rest later)

theorem Settles.reports_bind
    {value : α}
    (first : Settles step session (.ok value))
    (rest : ∀ later, later.ground = session.ground → Reports (next value) later) :
    Reports (step >>= next) session := by
  obtain ⟨later, same, answered⟩ := first.exists_answer_bind next
  exact .of_answer answered (rest later same)

theorem Reports.traced
    {name : String}
    {traced : Attempt Report}
    (reports : ∀ entered, entered.ground = session.ground → Reports traced entered) :
    Reports (tracedReport name traced) session := by
  obtain ⟨entered, attach, same, -, answered⟩ :=
    exists_answer_tracedReport name traced session
  obtain ⟨report, reported⟩ := reports entered same
  refine ⟨attach report, ?_⟩
  rw [Answers, answered, reported]
  rfl

/-- A missing source is reported. -/
theorem SourceMissing.reports
    {project : Project}
    {written name operation : String}
    {body : Path → Attempt Report}
    {path : Path}
    (missing :
      SourceMissing session.surroundings project.settings.projectRoot written path) :
    Reports (tracedReport name (project.withSource operation written body)) session :=
  .traced fun _ same => ⟨_, (missing.on_ground same).answers⟩

/-- A report is no fault. -/
theorem Reports.not_answers_error
    {traced : Attempt Report}
    {fault : Fault}
    (reports : Reports traced session)
    (stopped : Answers traced session (.error fault)) :
    False := by
  obtain ⟨report, reported⟩ := reports
  cases stopped.unique reported

end Reports

/-- No function of a project warns with a value of its own. -/
def Silent (project : Project) (session : Session) : Prop :=
  ∀ name function,
    (offered session project.plugins.functions).get? name = some function →
      function.warnsItself = false

section Services

variable
  {project : Project}
  {session : Session}
  {scene : Run.Scene}

theorem FreshScene.worded
    (fresh : FreshScene project session scene)
    (silent : Silent project session) :
    scene.context.Worded := by
  rw [fresh.context]
  exact ⟨nofun, silent⟩

/-- The warnings that worded contexts give are texts. -/
theorem exists_checkedWarnings
    {warnings : List Value}
    (texts : ∀ warning ∈ warnings, ∃ text, warning = .text text) :
    ∃ checked, Report.checkedWarnings warnings = .ok checked := by
  rcases checkedWarnings_cases warnings with
    ⟨checked, rfl⟩ | ⟨⟨warning, member, noText⟩, -⟩
  · exact ⟨checked, checkedWarnings_text checked⟩
  · obtain ⟨text, isText⟩ := texts warning member
    exact absurd isText (noText text)

theorem texts_append
    {first second : List Value}
    (firstTexts : ∀ warning ∈ first, ∃ text, warning = .text text)
    (secondTexts : ∀ warning ∈ second, ∃ text, warning = .text text) :
    ∀ warning ∈ first ++ second, ∃ text, warning = .text text :=
  fun warning member =>
    (List.mem_append.mp member).elim (firstTexts warning) (secondTexts warning)

theorem texts_map
    {α : Type}
    (text : α → String)
    (items : List α) :
    ∀ warning ∈ items.map fun item => Value.text (text item),
      ∃ text, warning = .text text := by
  intro warning member
  obtain ⟨item, -, rfl⟩ := List.mem_map.mp member
  exact ⟨text item, rfl⟩

/-! ## Parsing -/

/-- Parsing stops exactly on a source that cannot be read. -/
theorem parse_stops_iff
    (project : Project)
    (session : Session)
    (written : String)
    (grammar : Grammar)
    (fault : Fault) :
    Answers (project.parse written grammar) session (.error fault) ↔
      SourceFault session.surroundings project.settings.projectRoot written fault := by
  have stops :
      ∀ cause,
        SourceFault session.surroundings project.settings.projectRoot written cause →
          Answers (project.parse written grammar) session (.error cause) := by
    intro cause stopped
    refine stopped.answers_traced "ParseService.parse" fun path later unread => ?_
    have parses := settles_parseSource path grammar later
    rw [unread] at parses
    exact parses.bind_error.answers
  refine ⟨fun stopped => ?_, stops fault⟩
  rcases source_cases session.surroundings project.settings.projectRoot written with
    ⟨path, text, source⟩ | ⟨path, missing⟩ | ⟨cause, refused⟩
  · refine (Reports.not_answers_error (.traced fun entered same => ?_) stopped).elim
    obtain ⟨later, kept, sourced⟩ :=
      (source.on_ground same).exists_answer "parse" (project.reportSource grammar)
    have parses := settles_parseSource path grammar later
    rw [eq_of_ground (·.readText path) (fun _ => rfl) (kept.trans same), source.read]
      at parses
    exact
      .of_answer sourced <|
        parses.reports_bind fun last _ =>
          (settles_display project path last).reports_bind fun _ _ => ⟨_, rfl⟩
  · exact (missing.reports.not_answers_error stopped).elim
  · cases stopped.unique (stops cause refused)
    exact refused

/-! ## Building -/

/-- A build that writes no page is reported, however the run of its commands ends. -/
theorem reports_build
    {request : BuildRequest}
    {path base : Path}
    {text : String}
    (silent : Silent project session)
    (noOutput : request.output = none)
    (source :
      SourceText session.surroundings project.settings.projectRoot
        (request.source.getD project.settings.build.entry) path text)
    (based : basePath project request path session.surroundings = .ok base) :
    Reports (project.build request) session := by
  obtain ⟨scene, result, attach, fresh, ends, built, -⟩ := source.exists_build based
  have worded :=
    Run.condition_of_runBy
      (Run.Retains.execute (.build (workshop project session base))) 0
      (parse .build text).commands (fresh.worded silent)
  have texts :
      ∀ told : List String,
        ∃ checked,
          Report.checkedWarnings
              (buildWarnings (parse .build text)
                  (Run.runBy (Run.execute (.build (workshop project session base))) 0
                    (parse .build text).commands scene).2 ++
                told.map Value.text) =
            .ok checked := by
    intro told
    exact
      exists_checkedWarnings <|
        texts_append (texts_append (texts_map _ _) worded.texts) (texts_map _ told)
  rcases run :
      Run.runBy (Run.execute (.build (workshop project session base))) 0
        (parse .build text).commands scene with
    ⟨⟨executed, _ | ⟨placed, fault⟩⟩, ended⟩
  · obtain ⟨told, report, completed⟩ := ends.complete executed ended noOutput run
    obtain ⟨checked, accepted⟩ := texts told
    rw [run] at accepted
    rw [completed, accepted] at built
    exact ⟨_, built⟩
  · obtain ⟨checked, accepted⟩ := texts []
    rw [run, List.map_nil, List.append_nil] at accepted
    rw [ends.stopped executed placed fault ended run, accepted] at built
    exact ⟨_, built⟩

/-- The directory that the paths of a source are seen from cannot be found. -/
def BaseFault
    (project : Project)
    (session : Session)
    (request : BuildRequest)
    (fault : Fault) :
    Prop :=
  ∃ path text,
    SourceText session.surroundings project.settings.projectRoot
        (request.source.getD project.settings.build.entry) path text ∧
      basePath project request path session.surroundings = .error fault

theorem BaseFault.answers
    {request : BuildRequest}
    {fault : Fault}
    (stopped : BaseFault project session request fault) :
    Answers (project.build request) session (.error fault) := by
  obtain ⟨path, text, source, unbased⟩ := stopped
  refine answers_tracedReport_error fun entered same => ?_
  obtain ⟨later, kept, sourced⟩ :=
    (source.on_ground same).exists_answer "build" (project.buildSource request)
  have parses := settles_parsePhase path later
  rw [eq_of_ground (·.readText path) (fun _ => rfl) (kept.trans same), source.read]
    at parses
  rw [Answers, sourced]
  refine parses.answers_bind fun last ground => ?_
  have bases := settles_baseDirectory project request path last
  rw [eq_of_ground (basePath project request path) (fun _ => rfl)
    (ground.trans (kept.trans same)), unbased] at bases
  exact bases.bind_error.answers

/--
Building stops exactly on a source that cannot be read, and where the directory that its
paths are seen from cannot be found.
-/
theorem build_stops_iff
    {request : BuildRequest}
    (silent : Silent project session)
    (noOutput : request.output = none)
    (fault : Fault) :
    Answers (project.build request) session (.error fault) ↔
      SourceFault session.surroundings project.settings.projectRoot
          (request.source.getD project.settings.build.entry) fault ∨
        BaseFault project session request fault := by
  have stops :
      ∀ cause,
        SourceFault session.surroundings project.settings.projectRoot
            (request.source.getD project.settings.build.entry) cause →
          Answers (project.build request) session (.error cause) := by
    intro cause stopped
    refine stopped.answers_traced "BuildService.build" fun path later unread => ?_
    have parses := settles_parsePhase path later
    rw [unread] at parses
    exact parses.bind_error.answers
  refine ⟨fun stopped => ?_, fun cause => cause.elim (stops fault) BaseFault.answers⟩
  rcases source_cases session.surroundings project.settings.projectRoot
      (request.source.getD project.settings.build.entry) with
    ⟨path, text, source⟩ | ⟨path, missing⟩ | ⟨cause, refused⟩
  · cases based : basePath project request path session.surroundings with
    | error cause =>
        have unbased : BaseFault project session request cause :=
          ⟨path, text, source, based⟩
        cases stopped.unique unbased.answers
        exact .inr unbased
    | ok base =>
        exact
          ((reports_build silent noOutput source based).not_answers_error
            stopped).elim
  · exact (missing.reports.not_answers_error stopped).elim
  · cases stopped.unique (stops cause refused)
    exact .inl refused

/-! ## Loading -/

/-- A load of a page that cannot be fetched is reported where that is foreseen. -/
theorem reports_load_of_foreseen
    {url : String}
    {output : Option Path}
    {fault : Fault}
    (failed :
      (session.surroundings.fetch url (.number project.settings.loader.timeout)).2 =
        .error fault)
    (foreseen : isFetchFailure fault = true) :
    Reports (project.load url output) session := by
  refine .traced fun entered same => ?_
  refine (Settles.consult (.functions project.plugins) session entered).reports_bind
    fun later kept => ?_
  refine (settles_fetchPage_of_foreseen (kept.trans same) failed
    foreseen).reports_bind fun last _ => ?_
  exact ⟨_, rfl⟩

theorem load_stops_of_unforeseen
    {url : String}
    {output : Option Path}
    {fault : Fault}
    (failed :
      (session.surroundings.fetch url (.number project.settings.loader.timeout)).2 =
        .error fault)
    (unforeseen : isFetchFailure fault = false) :
    Answers (project.load url output) session (.error fault) := by
  refine answers_tracedReport_error fun entered same => ?_
  refine (Settles.consult (.functions project.plugins) session entered).answers_bind
    fun later kept => ?_
  exact
    (settles_fetchPage_of_unforeseen (kept.trans same) failed
      unforeseen).bind_error.answers

/-- A load whose block was run is reported where the warnings are texts. -/
theorem reports_loadedReport
    {ended : Run.Scene}
    (url : String)
    (report : Run.LoadReport)
    (worded : ended.context.Worded)
    (session : Session) :
    Reports (project.loadedReport url none report ended) session := by
  obtain ⟨told, loaded, answered⟩ :=
    exists_answers_loadedReport project url report ended session
  obtain ⟨checked, accepted⟩ :=
    exists_checkedWarnings
      (texts_append (texts_append worded.texts (texts_map _ report.failures))
        (texts_map id told))
  refine ⟨loaded checked, answered.trans ?_⟩
  exact congrArg (Except.map loaded) accepted

section Fetched

variable
  {url text block : String}
  {output : Option Path}
  (fetched :
    (session.surroundings.fetch url (.number project.settings.loader.timeout)).2 =
      .ok text)

include fetched

/-- A load goes on with the page that was fetched. -/
theorem exists_answer_loadFetched
    (output : Option Path) :
    ∃ (later : Session) (attach : Report → Report),
      later.ground = session.ground ∧
        (answer (project.load url output) session).1 =
          (answer
            (project.loadFetched (offered session project.plugins.functions) url output
              (.ok text))
            later).1.map attach := by
  obtain ⟨entered, attach, same, -, traced⟩ :=
    exists_answer_tracedReport "LoadService.load"
      (do
        let functions ← consult project.plugins.functions
        let fetched ← fetchPage (.number project.settings.loader.timeout) url
        project.loadFetched functions url output fetched)
      session
  obtain ⟨asked, offers, kept⟩ :=
    Settles.consult (.functions project.plugins) session entered
  obtain ⟨later, page, left⟩ :=
    settles_fetchPage_of_ok (kept.trans same) fetched
  rw [answer_bind_ok offers, answer_bind_ok page] at traced
  exact ⟨later, attach, left.trans (kept.trans same), traced⟩

theorem load_stops_of_refused
    {error : Markup.MarkupError}
    (found : extractBlock? project.settings.loader.blockTag text = some block)
    (refused : Markup.parseTrees block = .error error) :
    Answers (project.load url output) session (.error (.markup error)) := by
  obtain ⟨later, attach, same, loads⟩ := exists_answer_loadFetched fetched output
  obtain ⟨scene, -, runs⟩ := exists_scene_runPage project same url text
  have stopped := runs (.error (.markup error)) fun recorded last => by
    rw [Run.loadText,
      Run.outcome_loadTextBy_of_refused project.loadOptions _ url scene found
        refused]
    rfl
  rw [Answers, loads]
  exact congrArg (Except.map attach) stopped.bind_error

/-- A page without a block is reported. -/
theorem reports_load_of_no_block
    (noBlock : extractBlock? project.settings.loader.blockTag text = none) :
    Reports (project.load url output) session := by
  obtain ⟨later, attach, same, loads⟩ := exists_answer_loadFetched fetched output
  obtain ⟨scene, -, runs⟩ := exists_scene_runPage project same url text
  have answered :=
    runs
      (.ok
        (.error
          (failedLoad url "NO_HSX_BLOCK"
            (Fault.noBlock project.settings.loader.blockTag).message)))
      fun recorded last => by
        rw [Run.loadText,
          Run.outcome_loadTextBy_of_no_block project.loadOptions _ url scene
            noBlock]
        rfl
  exact .of_attached loads (answered.reports_bind fun last => ⟨_, rfl⟩)

/-- A page whose block is accepted as markup is reported, whatever its lines do. -/
theorem reports_load_of_accepted
    {trees : List Markup.Tree}
    (silent : Silent project session)
    (found : extractBlock? project.settings.loader.blockTag text = some block)
    (accepted : Markup.parseTrees block = .ok trees) :
    Reports (project.load url none) session := by
  obtain ⟨later, attach, same, loads⟩ := exists_answer_loadFetched fetched none
  obtain ⟨scene, fresh, runs⟩ := exists_scene_runPage project same url text
  obtain ⟨report, ended, loaded, worded⟩ :=
    Run.exists_worded_of_loadText project.loadOptions url found accepted
      (fresh.worded silent)
  have answered := runs (.ok (.ok (report, ended))) fun recorded last => by
    rw [loaded]
    cases recorded <;> rfl
  exact
    .of_attached loads
      (answered.reports_bind fun last => reports_loadedReport url report worded last)

end Fetched

/-- Loading stops exactly on a page that cannot be read, and on a block that is refused. -/
theorem load_stops_iff
    (silent : Silent project session)
    (url : String)
    (fault : Fault) :
    Answers (project.load url none) session (.error fault) ↔
      PageFault session.surroundings project.settings.loader url fault := by
  constructor
  · intro stopped
    rcases fetch_cases session.surroundings project.settings.loader url with
      ⟨text, fetched⟩ | ⟨cause, failed, foreseen | ⟨unforeseen, page⟩⟩
    · cases found : extractBlock? project.settings.loader.blockTag text with
      | none =>
          exact
            ((reports_load_of_no_block fetched found).not_answers_error stopped).elim
      | some block =>
          cases accepted : Markup.parseTrees block with
          | ok trees =>
              exact
                ((reports_load_of_accepted fetched silent found
                  accepted).not_answers_error stopped).elim
          | error refused =>
              cases stopped.unique (load_stops_of_refused fetched found accepted)
              exact .markup fetched found accepted
    · exact ((reports_load_of_foreseen failed foreseen).not_answers_error stopped).elim
    · cases stopped.unique (load_stops_of_unforeseen failed unforeseen)
      exact page
  · intro page
    cases page with
    | address refused =>
        exact load_stops_of_unforeseen (by rw [fetch_of_refused refused]) rfl
    | unclear named refused =>
        have unforeseen : isFetchFailure fault = false := by
          rw [isFile_error refused]
          rfl
        refine load_stops_of_unforeseen ?_ unforeseen
        rw [fetch_of_named named, Surroundings.readPage, refused]
    | undecodable named holds noText =>
        refine load_stops_of_unforeseen ?_ rfl
        rw [fetch_of_named named, Surroundings.readPage, holds.isFile]
        dsimp only
        rw [holds.readText, noText]
    | markup fetched found refused =>
        exact load_stops_of_refused fetched found refused

end Services

/-! ## All services -/

/--
Where no function warns with a value that is no text, parsing, building and loading
answer with a report on every input but these: a source or a page whose path or address
cannot be followed or whose bytes are no text, a build whose directory cannot be found,
and a page whose block is refused as markup.

Resources have no limits here: neither an input that is nested too deeply for the stack nor
a call that sleeps for ever is modelled.
-/
theorem services_stop_exactly_on_unreadable_input
    (project : Project)
    (session : Session)
    (silent : Silent project session) :
    (∀ written grammar fault,
      Answers (project.parse written grammar) session (.error fault) ↔
        SourceFault session.surroundings project.settings.projectRoot written fault) ∧
      (∀ source fault,
        Answers (project.build { source := source }) session (.error fault) ↔
          SourceFault session.surroundings project.settings.projectRoot
              (source.getD project.settings.build.entry) fault ∨
            BaseFault project session { source := source } fault) ∧
      ∀ url fault,
        Answers (project.load url none) session (.error fault) ↔
          PageFault session.surroundings project.settings.loader url fault :=
  ⟨parse_stops_iff project session,
    fun _ fault => build_stops_iff silent rfl fault,
    load_stops_iff silent⟩

/-- A page whose block the parser of markup refuses stops a load. -/
theorem services_stop_exactly_on_unreadable_input_of_marked_section :
    Silent plainProject (sessionWith "p" "<hsx><![x]></hsx>".toUTF8) ∧
      Answers (plainProject.load "p" none)
        (sessionWith "p" "<hsx><![x]></hsx>".toUTF8)
        (.error (.markup (.unknownSection "'x'"))) := by
  have silent : Silent plainProject (sessionWith "p" "<hsx><![x]></hsx>".toUTF8) :=
    fun name function known => by cases known
  have found : extractBlock? "hsx" "<hsx><![x]></hsx>" = some "<![x]>" := rfl
  have page :
      PageFault (sessionWith "p" "<hsx><![x]></hsx>".toUTF8).surroundings
        plainProject.settings.loader "p" (.markup (.unknownSection "'x'")) :=
    .markup rfl found rfl
  exact
    ⟨silent,
      ((services_stop_exactly_on_unreadable_input _ _ silent).2.2 _ _).mpr page⟩

/-- A source and a page that are no text get no report. -/
theorem undecodable_input_gets_no_report :
    (∀ grammar,
      Answers (plainProject.parse "a.hsx" grammar) (sessionWith "a.hsx" ⟨#[0xff]⟩)
        (.error .undecodable)) ∧
      Answers (plainProject.build { source := some "a.hsx" })
        (sessionWith "a.hsx" ⟨#[0xff]⟩) (.error .undecodable) ∧
      Answers (plainProject.load "a.hsx" none) (sessionWith "a.hsx" ⟨#[0xff]⟩)
        (.error .undecodable) := by
  have silent : Silent plainProject (sessionWith "a.hsx" ⟨#[0xff]⟩) :=
    fun name function known => by cases known
  have noText : String.fromUTF8? ⟨#[0xff]⟩ = none := by
    decide
  have absolute :
      HoldsBytes (sessionWith "a.hsx" ⟨#[0xff]⟩).surroundings ⟨"/", ["a.hsx"]⟩
        ⟨#[0xff]⟩ :=
    ⟨rfl, ["a.hsx"], rfl⟩
  have relative :
      HoldsBytes (sessionWith "a.hsx" ⟨#[0xff]⟩).surroundings ⟨"", ["a.hsx"]⟩
        ⟨#[0xff]⟩ :=
    ⟨rfl, ["a.hsx"], rfl⟩
  have source :
      SourceFault (sessionWith "a.hsx" ⟨#[0xff]⟩).surroundings ⟨"/", []⟩ "a.hsx"
        .undecodable :=
    .undecodable rfl absolute noText
  have page :
      PageFault (sessionWith "a.hsx" ⟨#[0xff]⟩).surroundings {} "a.hsx"
        .undecodable :=
    .undecodable ⟨⟨"", "a.hsx".toList⟩, rfl, rfl⟩ relative noText
  exact
    ⟨fun grammar => (parse_stops_iff _ _ _ grammar _).mpr source,
      (build_stops_iff silent rfl _).mpr (.inl source),
      (load_stops_iff silent _ _).mpr page⟩

end PageScript.Service
