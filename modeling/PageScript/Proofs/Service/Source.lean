import PageScript.Proofs.Service.Answer
import PageScript.Script.Grammar

namespace PageScript.Service

open World

/-!
# Sources of services

A source is located, looked for and read before anything else is done with it.
Each of these steps only looks at the file tree, so what becomes of a source is
known before a service starts.  A source that is no text, or whose path the system
cannot follow, stops a service with a fault.
-/

/-! ## What a written path leads to -/

section Sources

variable
  (surroundings : Surroundings)
  (root : Path)
  (written : String)

/-- A written path leads to a file that holds a text. -/
structure SourceText (path : Path) (text : String) : Prop where
  located :
    (surroundings.resolve written (some root)).map Path.ofLocation = .ok path
  isFile : surroundings.isFile path = .ok true
  read : surroundings.readText path = .ok text

/-- A written path leads to no file. -/
structure SourceMissing (path : Path) : Prop where
  located :
    (surroundings.resolve written (some root)).map Path.ofLocation = .ok path
  noFile : surroundings.isFile path = .ok false

/-- The bytes of the file that a path leads to. -/
structure HoldsBytes (path : Path) (bytes : ByteArray) : Prop where
  noNull : path.hasNull = false
  found :
    ∃ location,
      surroundings.files.find surroundings.directory path =
        .ok (location, .file bytes)

/-- Why a source cannot be looked for or read. -/
inductive SourceFault : Fault → Prop where
  /-- The path as it is written leads nowhere. -/
  | unlocated
      {fault : Fault}
      (refused : surroundings.resolve written (some root) = .error fault) :
      SourceFault fault
  /-- The system does not tell what stands there. -/
  | unclear
      {path : Path}
      {fault : Fault}
      (located :
        (surroundings.resolve written (some root)).map Path.ofLocation = .ok path)
      (refused : surroundings.isFile path = .error fault) :
      SourceFault fault
  /-- The bytes of the file are no text. -/
  | undecodable
      {path : Path}
      {bytes : ByteArray}
      (located :
        (surroundings.resolve written (some root)).map Path.ofLocation = .ok path)
      (holds : HoldsBytes surroundings path bytes)
      (noText : String.fromUTF8? bytes = none) :
      SourceFault .undecodable

end Sources

section Reading

variable
  {surroundings : Surroundings}
  {root path : Path}
  {written : String}
  {bytes : ByteArray}

theorem exists_holdsBytes
    (isFile : surroundings.isFile path = .ok true) :
    ∃ bytes, HoldsBytes surroundings path bytes := by
  rw [Surroundings.isFile] at isFile
  split at isFile
  · cases isFile
  · rename_i noNull
    rw [Surroundings.named, FileTree.isFile?] at isFile
    split at isFile
    next location bytes found =>
      exact ⟨bytes, Bool.not_eq_true _ ▸ noNull, location, found⟩
    all_goals cases isFile

theorem HoldsBytes.isFile
    (holds : HoldsBytes surroundings path bytes) :
    surroundings.isFile path = .ok true := by
  obtain ⟨noNull, location, found⟩ := holds
  rw [Surroundings.isFile, noNull, FileTree.isFile?, found]
  rfl

/-- The bytes of a file are read as a text, or they are no text. -/
theorem HoldsBytes.readText
    (holds : HoldsBytes surroundings path bytes) :
    surroundings.readText path =
      match String.fromUTF8? bytes with
      | some text => .ok (String.ofList (Text.unifyLineEnds text.toList))
      | none => .error .undecodable := by
  obtain ⟨noNull, location, found⟩ := holds
  rw [Surroundings.readText, noNull, FileTree.readBytes, found]
  rfl

/-- A source has a text, is missing, or cannot be looked for or read. -/
theorem source_cases
    (surroundings : Surroundings)
    (root : Path)
    (written : String) :
    (∃ path text, SourceText surroundings root written path text) ∨
      (∃ path, SourceMissing surroundings root written path) ∨
        ∃ fault, SourceFault surroundings root written fault := by
  cases located : surroundings.resolve written (some root) with
  | error fault =>
      exact .inr (.inr ⟨fault, .unlocated located⟩)
  | ok location =>
      have here :
          (surroundings.resolve written (some root)).map Path.ofLocation =
            .ok (Path.ofLocation location) := by
        rw [located]
        rfl
      rcases isFile : surroundings.isFile (Path.ofLocation location) with
        fault | _ | _
      · exact .inr (.inr ⟨fault, .unclear here isFile⟩)
      · exact .inr (.inl ⟨_, here, isFile⟩)
      · obtain ⟨bytes, holds⟩ := exists_holdsBytes isFile
        have read := holds.readText
        cases decoded : String.fromUTF8? bytes with
        | none =>
            exact .inr (.inr ⟨_, .undecodable here holds decoded⟩)
        | some text =>
            rw [decoded] at read
            exact .inl ⟨_, _, here, isFile, read⟩

/-! ## The same ground -/

theorem SourceText.on_ground
    {session later : Session}
    {text : String}
    (source : SourceText session.surroundings root written path text)
    (same : later.ground = session.ground) :
    SourceText later.surroundings root written path text where
  located := by
    rw [eq_of_ground (·.resolve written (some root)) (fun _ => rfl) same]
    exact source.located
  isFile := by
    rw [eq_of_ground (·.isFile path) (fun _ => rfl) same]
    exact source.isFile
  read := by
    rw [eq_of_ground (·.readText path) (fun _ => rfl) same]
    exact source.read

theorem SourceMissing.on_ground
    {session later : Session}
    (source : SourceMissing session.surroundings root written path)
    (same : later.ground = session.ground) :
    SourceMissing later.surroundings root written path where
  located := by
    rw [eq_of_ground (·.resolve written (some root)) (fun _ => rfl) same]
    exact source.located
  noFile := by
    rw [eq_of_ground (·.isFile path) (fun _ => rfl) same]
    exact source.noFile

theorem HoldsBytes.on_ground
    {session later : Session}
    (holds : HoldsBytes session.surroundings path bytes)
    (same : later.ground = session.ground) :
    HoldsBytes later.surroundings path bytes where
  noNull := holds.noNull
  found := by
    have sameTree :=
      eq_of_ground (fun reached => reached.files.find reached.directory path)
        (fun _ => rfl) same
    rw [sameTree]
    exact holds.found

theorem SourceFault.on_ground
    {session later : Session}
    {fault : Fault}
    (stopped : SourceFault session.surroundings root written fault)
    (same : later.ground = session.ground) :
    SourceFault later.surroundings root written fault := by
  have sameResolve :=
    eq_of_ground (·.resolve written (some root)) (fun _ => rfl) same
  cases stopped with
  | unlocated refused =>
      exact .unlocated (sameResolve.trans refused)
  | @unclear path fault located refused =>
      refine .unclear (sameResolve ▸ located) ?_
      rw [eq_of_ground (·.isFile path) (fun _ => rfl) same]
      exact refused
  | undecodable located holds noText =>
      exact .undecodable (sameResolve ▸ located) (holds.on_ground same) noText

/-! ## Which faults there are -/

theorem follow_error
    {tree : FileTree}
    {reversed : Location}
    {parts : List String}
    {error : SystemError}
    (refused : tree.follow reversed parts = .error error) :
    error = .noEntry ∨ error = .notDirectory ∨ error = .nameTooLong := by
  induction parts generalizing reversed with
  | nil =>
      cases refused
  | cons part rest inductionHypothesis =>
      rw [FileTree.follow] at refused
      split at refused
      · cases refused
        exact .inl rfl
      · cases refused
        exact .inr (.inl rfl)
      · split at refused
        · exact inductionHypothesis refused
        · split at refused
          · cases refused
            exact .inr (.inr rfl)
          · exact inductionHypothesis refused

theorem find_error
    {tree : FileTree}
    {directory : Location}
    {error : SystemError}
    (refused : tree.find directory path = .error error) :
    error = .noEntry ∨ error = .notDirectory ∨ error = .nameTooLong := by
  rw [FileTree.find] at refused
  split at refused
  next cause unreached =>
    cases refused
    rw [FileTree.reach] at unreached
    split at unreached
    · cases unreached
      exact .inr (.inr rfl)
    · exact follow_error unreached
  next location _ =>
    split at refused
    · cases refused
    · cases refused
      exact .inl rfl

/-- Only the length of a path can hide whether it leads to a file. -/
theorem isFile_error
    {fault : Fault}
    (refused : surroundings.isFile path = .error fault) :
    fault = .system .nameTooLong path.toString := by
  rw [Surroundings.isFile] at refused
  split at refused
  · cases refused
  · rw [Surroundings.named, FileTree.isFile?] at refused
    split at refused
    case h_5 error noEntry notDirectory unfound =>
      rcases find_error unfound with rfl | rfl | rfl
      · exact absurd rfl noEntry
      · exact absurd rfl notDirectory
      · cases refused
        rfl
    all_goals cases refused

/-- Only the length of a path can hide whether it leads to a directory. -/
theorem isDirectory_error
    {fault : Fault}
    (refused : surroundings.isDirectory path = .error fault) :
    fault = .system .nameTooLong path.toString := by
  rw [Surroundings.isDirectory] at refused
  split at refused
  · cases refused
  · rw [Surroundings.named, FileTree.isDirectory?] at refused
    split at refused
    case h_5 error noEntry notDirectory unfound =>
      rcases find_error unfound with rfl | rfl | rfl
      · exact absurd rfl noEntry
      · exact absurd rfl notDirectory
      · cases refused
        rfl
    all_goals cases refused

theorem isDirectory_of_tooLong
    (unbroken : path.hasNull = false)
    (unreached :
      surroundings.files.reach surroundings.directory path = .error .nameTooLong) :
    surroundings.isDirectory path = .error (.system .nameTooLong path.toString) := by
  rw [Surroundings.isDirectory, unbroken, Surroundings.named, FileTree.isDirectory?,
    FileTree.find, unreached]
  rfl

end Reading

/-! ## Steps on a source -/

section Steps

variable
  {project : Project}
  {session : Session}
  {written : String}

/-- A source is located by what the session stands on. -/
theorem settles_locate
    (project : Project)
    (written : String)
    (session : Session) :
    Settles (project.locate written) session
      ((session.surroundings.resolve written
        (some project.settings.projectRoot)).map Path.ofLocation) :=
  (Settles.attempt _ session).bind_pure Path.ofLocation

/-- Later steps on the same ground look for the same file. -/
theorem settles_isFile
    {later : Session}
    (path : Path)
    (same : later.ground = session.ground) :
    Settles (attempt fun surroundings => surroundings.isFile path) later
      (session.surroundings.isFile path) := by
  rw [← eq_of_ground (·.isFile path) (fun _ => rfl) same]
  exact .attempt _ later

theorem settles_display
    (project : Project)
    (path : Path)
    (session : Session) :
    Settles (project.display path) session
      (.ok
        (session.surroundings.displayPath path
          (some project.settings.projectRoot))) :=
  ⟨session, rfl, rfl⟩

/-- Lines that are no commands are only reported. -/
theorem settles_parseSource
    (source : Path)
    (grammar : Script.Grammar)
    (session : Session) :
    Settles (Project.parseSource source grammar) session
      ((session.surroundings.readText source).map (Script.parse grammar)) := by
  have told :
      ∀ (unknown : List Script.UnknownLine) (parsed : Script.Parsed) (later : Session),
        Settles
          (do
            unknown.forM fun unknown =>
              (liftM (logEvent .warning "hsxctl.domain.grammar" unknown.message []) :
                Attempt Unit)
            pure parsed)
          later (.ok parsed) := by
    intro unknown parsed later
    refine Settles.bind (?_ : Settles _ later (.ok ())) fun last _ => .pure parsed last
    induction unknown generalizing later with
    | nil =>
        exact .pure () later
    | cons first rest inductionHypothesis =>
        exact
          (Settles.logEvent _ _ _ _ later).bind fun next _ =>
            inductionHypothesis next
  have read := Settles.attempt (fun surroundings => surroundings.readText source) session
  cases decoded : session.surroundings.readText source with
  | error fault =>
      rw [decoded] at read
      exact read.bind_error
  | ok text =>
      rw [decoded] at read
      exact read.bind fun later _ => told _ _ later

variable
  {operation : String}
  {body : Path → Attempt Report}
  {path : Path}

/-- What is located on a ground. -/
theorem Settles.locate
    (located :
      (session.surroundings.resolve written
        (some project.settings.projectRoot)).map Path.ofLocation = .ok path) :
    Settles (project.locate written) session (.ok path) :=
  located ▸ settles_locate project written session

/-- A missing source is reported. -/
theorem SourceMissing.answers
    (missing :
      SourceMissing session.surroundings project.settings.projectRoot written path) :
    Answers (project.withSource operation written body) session
      (.ok (Project.missingSource operation path)) := by
  refine (Settles.locate missing.located).answers_bind fun later same => ?_
  have noFile := settles_isFile path same
  rw [missing.noFile] at noFile
  exact noFile.answers_bind fun last _ => rfl

/-- A source that can be read is handed on, on the same ground. -/
theorem SourceText.exists_answer
    {text : String}
    (source :
      SourceText session.surroundings project.settings.projectRoot written path text)
    (operation : String)
    (body : Path → Attempt Report) :
    ∃ later,
      later.ground = session.ground ∧
        answer (project.withSource operation written body) session =
          answer (body path) later := by
  obtain ⟨reached, same, located⟩ :=
    (Settles.locate source.located).exists_answer_bind _
  have isFile := settles_isFile path same
  rw [source.isFile] at isFile
  obtain ⟨later, kept, looked⟩ := isFile.exists_answer_bind _
  exact ⟨later, kept.trans same, located.trans looked⟩

/-- A source that cannot be looked for or read stops the service. -/
theorem SourceFault.answers
    {fault : Fault}
    (stopped :
      SourceFault session.surroundings project.settings.projectRoot written fault)
    (reads :
      ∀ path later,
        later.surroundings.readText path = .error fault →
          Answers (body path) later (.error fault)) :
    Answers (project.withSource operation written body) session (.error fault) := by
  cases stopped with
  | unlocated refused =>
      have unlocated := settles_locate project written session
      rw [refused] at unlocated
      exact unlocated.bind_error.answers
  | @unclear path fault located refused =>
      refine (Settles.locate located).answers_bind fun later same => ?_
      have unclear := settles_isFile path same
      rw [refused] at unclear
      exact unclear.bind_error.answers
  | @undecodable path bytes located holds noText =>
      refine (Settles.locate located).answers_bind fun later same => ?_
      have isFile := settles_isFile path same
      rw [holds.isFile] at isFile
      refine isFile.answers_bind fun last kept => reads path last ?_
      rw [eq_of_ground (·.readText path) (fun _ => rfl) (kept.trans same),
        holds.readText, noText]

theorem SourceFault.answers_traced
    {fault : Fault}
    (stopped :
      SourceFault session.surroundings project.settings.projectRoot written fault)
    (name : String)
    (reads :
      ∀ path later,
        later.surroundings.readText path = .error fault →
          Answers (body path) later (.error fault)) :
    Answers (tracedReport name (project.withSource operation written body)) session
      (.error fault) :=
  answers_tracedReport_error fun _ same => (stopped.on_ground same).answers reads

end Steps

end PageScript.Service
