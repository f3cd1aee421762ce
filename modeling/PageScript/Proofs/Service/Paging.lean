import PageScript.Proofs.Run.Loading
import PageScript.Proofs.Run.Warnings
import PageScript.Proofs.Service.Answer
import PageScript.Proofs.Service.Source
import PageScript.Service.Load

namespace PageScript.Service

open World

/-!
# Pages of a load

A page is fetched, and its block runs in a fresh scene.  A page that is not there, an
error of its server and a page without a block are reported.  An address that cannot be
read, a file that is no text and a block that is refused as markup are not foreseen
and stop the load with a fault.
-/

/-! ## Fetching -/

/-- An address names a file. -/
def NamesFile (url : String) (path : Path) : Prop :=
  ∃ address, Address.ofString url = .ok address ∧ address.file? url = some path

/-- Why a page stops a load. -/
inductive PageFault
    (surroundings : Surroundings)
    (settings : LoaderSettings)
    (url : String) :
    Fault → Prop where
  /-- The address cannot be read. -/
  | address
      {error : AddressError}
      (refused : Address.ofString url = .error error) :
      PageFault surroundings settings url (.address error)
  /-- The system does not tell whether the file is there. -/
  | unclear
      {path : Path}
      {fault : Fault}
      (named : NamesFile url path)
      (refused : surroundings.isFile path = .error fault) :
      PageFault surroundings settings url fault
  /-- The bytes of the file are no text. -/
  | undecodable
      {path : Path}
      {bytes : ByteArray}
      (named : NamesFile url path)
      (holds : HoldsBytes surroundings path bytes)
      (noText : String.fromUTF8? bytes = none) :
      PageFault surroundings settings url .undecodable
  /-- The block of the page is refused as markup. -/
  | markup
      {text block : String}
      {error : Markup.MarkupError}
      (fetched : (surroundings.fetch url (.number settings.timeout)).2 = .ok text)
      (found : Script.extractBlock? settings.blockTag text = some block)
      (refused : Markup.parseTrees block = .error error) :
      PageFault surroundings settings url (.markup error)

section Fetching

variable
  {surroundings : Surroundings}
  {settings : LoaderSettings}
  {url : String}
  {path : Path}
  {timeout : Value}
  {fault : Fault}

theorem fetch_of_refused
    {error : AddressError}
    (refused : Address.ofString url = .error error) :
    surroundings.fetch url timeout = (surroundings, .error (.address error)) := by
  rw [Surroundings.fetch, refused]

theorem fetch_of_named
    (named : NamesFile url path) :
    surroundings.fetch url timeout = (surroundings, surroundings.readPage path) := by
  obtain ⟨address, read, file⟩ := named
  rw [Surroundings.fetch, read]
  dsimp only
  rw [file]

theorem fetch_of_asked
    {address : Address}
    (read : Address.ofString url = .ok address)
    (served : address.file? url = none) :
    surroundings.fetch url timeout = surroundings.ask url timeout := by
  rw [Surroundings.fetch, read]
  dsimp only
  rw [served]

/-- Fetching only reports and calls. -/
theorem quiet_fetch
    (surroundings : Surroundings)
    (url : String)
    (timeout : Value) :
    (surroundings.fetch url timeout).1.quiet = surroundings.quiet ∧
      (surroundings.fetch url timeout).2 =
        (surroundings.quiet.fetch url timeout).2 := by
  cases read : Address.ofString url with
  | error error =>
      rw [fetch_of_refused read, fetch_of_refused read]
      exact ⟨rfl, rfl⟩
  | ok address =>
      cases file : address.file? url with
      | some path =>
          rw [fetch_of_named ⟨address, read, file⟩,
            fetch_of_named ⟨address, read, file⟩]
          exact ⟨rfl, rfl⟩
      | none =>
          rw [fetch_of_asked read file, fetch_of_asked read file]
          exact ⟨rfl, rfl⟩

/-- A page is fetched, or it is foreseen that it is not, or it stops the load. -/
theorem fetch_cases
    (surroundings : Surroundings)
    (settings : LoaderSettings)
    (url : String) :
    (∃ text, (surroundings.fetch url (.number settings.timeout)).2 = .ok text) ∨
      ∃ fault,
        (surroundings.fetch url (.number settings.timeout)).2 = .error fault ∧
          (isFetchFailure fault = true ∨
            isFetchFailure fault = false ∧
              PageFault surroundings settings url fault) := by
  cases read : Address.ofString url with
  | error error =>
      rw [fetch_of_refused read]
      exact .inr ⟨_, rfl, .inr ⟨rfl, .address read⟩⟩
  | ok address =>
      cases file : address.file? url with
      | none =>
          rw [fetch_of_asked read file, Surroundings.ask, Surroundings.served]
          split
          · exact .inr ⟨_, rfl, .inl rfl⟩
          · split
            · exact .inr ⟨_, rfl, .inl rfl⟩
            · exact .inl ⟨_, rfl⟩
      | some path =>
          have named : NamesFile url path := ⟨address, read, file⟩
          rw [fetch_of_named named, Surroundings.readPage]
          rcases isFile : surroundings.isFile path with fault | _ | _
          · refine .inr ⟨fault, rfl, .inr ⟨?_, .unclear named isFile⟩⟩
            rw [isFile_error isFile]
            rfl
          · exact .inr ⟨_, rfl, .inl rfl⟩
          · obtain ⟨bytes, holds⟩ := exists_holdsBytes isFile
            dsimp only
            rw [holds.readText]
            cases decoded : String.fromUTF8? bytes with
            | none =>
                exact
                  .inr ⟨_, rfl, .inr ⟨rfl, .undecodable named holds decoded⟩⟩
            | some text =>
                exact .inl ⟨_, rfl⟩

end Fetching

/-! ## Steps of a load -/

section Steps

variable
  {project : Project}
  {session later : Session}
  {url : String}
  {timeout : Value}
  {fault : Fault}
  {text : String}
  {output : Option Path}

/-- A fetch leaves the ground, and answers the same wherever it is made on it. -/
theorem settles_fetch
    (same : later.ground = session.ground)
    (url : String)
    (timeout : Value) :
    Settles
      (Service.consult fun surroundings => (surroundings.fetch url timeout).swap)
      later (.ok (session.surroundings.fetch url timeout).2) := by
  refine
    ⟨{ later with surroundings := (later.surroundings.fetch url timeout).1 }, ?_,
      congrArg (·, later.cache) (quiet_fetch later.surroundings url timeout).1⟩
  rw [← eq_of_ground (fun surroundings => (surroundings.fetch url timeout).2)
    (fun surroundings => (quiet_fetch surroundings url timeout).2) same]
  rfl

theorem settles_fetchPage_of_ok
    (same : later.ground = session.ground)
    (fetched : (session.surroundings.fetch url timeout).2 = .ok text) :
    Settles (fetchPage timeout url) later (.ok (.ok text)) := by
  refine .attemptPhase fun recorded entered entry => ?_
  have fetch := settles_fetch (entry.trans same) url timeout
  rw [fetched] at fetch
  exact fetch.bind fun last _ => .pure _ last

theorem settles_fetchPage_of_foreseen
    (same : later.ground = session.ground)
    (failed : (session.surroundings.fetch url timeout).2 = .error fault)
    (foreseen : isFetchFailure fault = true) :
    Settles (fetchPage timeout url) later
      (.ok
        (.error
          (failedLoad url "FETCH_FAILED"
            ("Could not fetch " ++ url ++ ": " ++ fault.message)))) := by
  refine .attemptPhase fun recorded entered entry => ?_
  have fetch := settles_fetch (entry.trans same) url timeout
  rw [failed] at fetch
  refine fetch.bind fun last _ => ?_
  dsimp only
  rw [if_pos foreseen]
  exact .pure _ last

theorem settles_fetchPage_of_unforeseen
    (same : later.ground = session.ground)
    (failed : (session.surroundings.fetch url timeout).2 = .error fault)
    (unforeseen : isFetchFailure fault = false) :
    Settles (fetchPage timeout url) later (.error fault) := by
  refine .attemptPhase fun recorded entered entry => ?_
  have fetch := settles_fetch (entry.trans same) url timeout
  rw [failed] at fetch
  refine fetch.bind fun last _ => ?_
  dsimp only
  rw [if_neg (Bool.eq_false_iff.mp unforeseen)]
  exact ⟨last, rfl, rfl⟩

/-- The block of a page runs in a fresh scene. -/
theorem exists_scene_runPage
    (project : Project)
    (same : later.ground = session.ground)
    (url text : String) :
    ∃ scene,
      FreshScene project session scene ∧
        ∀ result,
          (∀ recorded last,
            Answers
              (finishPage url recorded
                (Run.outcome (Run.loadText project.loadOptions url text) scene).1
                (Run.outcome (Run.loadText project.loadOptions url text) scene).2)
              last result) →
            Answers
              (runPage project.loadOptions
                (offered session project.plugins.functions) url text)
              later result := by
  obtain ⟨recorded, entered, entry, phase⟩ :=
    exists_answers_attemptPhase "run"
      (fun recorded =>
        liftM
            (inScene (offered session project.plugins.functions)
              (Run.loadText project.loadOptions url text).run) >>=
          fun ended => finishPage url recorded ended.1 ended.2)
      later
  obtain ⟨scene, fresh, finished⟩ :=
    exists_answers_inScene project (entry.trans same)
      (Run.loadText project.loadOptions url text).run
      (fun ended => finishPage url recorded ended.1 ended.2)
  exact
    ⟨scene, fresh, fun result answers =>
      phase result (finished result fun last => answers recorded last)⟩

/-- A load whose block was run is reported, if its warnings can be. -/
theorem exists_answers_loadedReport
    (project : Project)
    (url : String)
    (report : Run.LoadReport)
    (scene : Run.Scene)
    (session : Session) :
    ∃ (told : List String) (loaded : List String → Report),
      Answers (project.loadedReport url none report scene) session
        ((Report.checkedWarnings
          (scene.context.warnings ++ report.failures.map failureWarning ++
            told.map Value.text)).map loaded) := by
  obtain ⟨told, answers⟩ :=
    exists_answers_tell project .postLoad
      [.text url, Value.count report.executed, Value.count report.failures.length]
      (scene.context.warnings ++ report.failures.map failureWarning) session
  refine
    ⟨told, fun checked =>
      { succeeded := true
        operation := "load"
        data :=
          loadData url report ++
            [("html", .text (scene.context.page.markup?.getD ""))]
        warnings := checked }, ?_⟩
  exact answers.bind fun later => answers_checked _ _ later

end Steps

end PageScript.Service
