import PageScript.Proofs.Run.Loading
import PageScript.Proofs.Run.Simulation

namespace PageScript.Run

open Script

/-!
# Refused lines leave no trace

A line that is unknown, or whose value, call or arguments are refused before a
function is entered, changes nothing but the log.  The executor of a page looks at
the context alone, so what runs after such a line runs as if a blank line stood in
its place, and the report differs by the failure of this line only.
-/

/-! ## What stops an action -/

/-- Every fault that stops an action satisfies a condition. -/
def StopsBy {α : Type} (condition : Fault → Prop) (action : Action α) : Prop :=
  ∀ scene fault, (outcome action scene).1 = .error fault → condition fault

namespace StopsBy

variable {α β : Type} {condition : Fault → Prop}

theorem pure
    (value : α) :
    StopsBy condition (pure value : Action α) :=
  nofun

theorem throw
    {fault : Fault}
    (holds : condition fault) :
    StopsBy condition (throw fault : Action α) := by
  rintro scene other ⟨⟩
  exact holds

theorem require
    {ε : Type}
    {fault : ε → Fault}
    (result : Except ε α)
    (holds : ∀ error, condition (fault error)) :
    StopsBy condition (Run.require fault result) := by
  cases result with
  | ok value =>
      exact .pure value
  | error error =>
      exact .throw (holds error)

theorem changeContext
    (change : Context → Context) :
    StopsBy condition (Run.changeContext change) :=
  nofun

theorem report
    (level : World.LogLevel)
    (logger event : String)
    (fields : List (String × Value)) :
    StopsBy condition (Run.report level logger event fields) :=
  nofun

/-- Two steps stop by what stops one of them. -/
theorem bind
    {action : Action α}
    {next : α → Action β}
    (step : StopsBy condition action)
    (rest : ∀ value, StopsBy condition (next value)) :
    StopsBy condition (action >>= next) := by
  intro scene fault
  have first := step scene
  rw [outcome_bind]
  revert first
  rcases outcome action scene with ⟨stopped | value, reached⟩
  · rintro first ⟨⟩
    exact first fault rfl
  · exact fun _ => rest value reached fault

theorem get_bind
    {next : Scene → Action α}
    (rest : ∀ scene, StopsBy condition (next scene)) :
    StopsBy condition (get >>= next) :=
  fun scene => rest scene scene

theorem warnAs
    (logger message : String) :
    StopsBy condition (Run.warnAs logger message) :=
  .bind (.report _ _ _ _) fun _ => .changeContext _

end StopsBy

/-! ## Refusals -/

/-- A fault that refuses a line or an expression. -/
def IsRefusal (fault : Fault) : Prop :=
  (∃ unknown, fault = .unknownLine unknown) ∨ fault.isEvaluation = true

theorem not_isRefusal_store
    (error : State.StoreError) :
    ¬IsRefusal (faultOfStore error) := by
  rintro (⟨unknown, same⟩ | evaluation)
  · cases error <;> cases same
  · cases error <;> simp [faultOfStore, Fault.isEvaluation, Fault.kind] at evaluation

theorem not_isRefusal_markup
    (error : Markup.MarkupError) :
    ¬IsRefusal (.markup error) := by
  rintro (⟨unknown, same⟩ | evaluation)
  · cases same
  · cases error <;> simp [Fault.isEvaluation, Fault.kind] at evaluation

theorem not_isRefusal_notText
    (typeName : String) :
    ¬IsRefusal (.notText typeName) := by
  rintro (⟨unknown, same⟩ | evaluation)
  · cases same
  · simp [Fault.isEvaluation, Fault.kind] at evaluation

namespace StopsBy

theorem resolve
    {condition : Fault → Prop}
    (selector : String) :
    StopsBy condition (Run.resolve selector) := by
  refine .get_bind fun scene => ?_
  dsimp only
  split
  · exact .pure _
  · exact .bind (.report _ _ _ _) fun _ => .pure _

theorem setContent
    (target : Document.NodeId)
    (markup : String) :
    StopsBy (¬IsRefusal ·) (Run.setContent target markup) :=
  .get_bind fun _ =>
    .bind (.changeContext _) fun _ => .require _ not_isRefusal_markup

theorem bindVariables
    (target : Document.NodeId)
    (names : List Value) :
    StopsBy (¬IsRefusal ·) (Run.bindVariables target names) := by
  induction names with
  | nil =>
      exact .pure 0
  | cons name rest inductionHypothesis =>
      refine .bind (.get_bind fun scene => ?_) fun _ =>
        .bind inductionHypothesis fun _ => .pure _
      split
      · dsimp only
        split
        · exact .pure _
        · refine .bind (.get_bind fun scene => ?_) fun _ => .pure _
          split
          · exact
              .bind (.require _ not_isRefusal_store) fun _ => .changeContext _
          · exact .pure _
      · exact .throw (not_isRefusal_notText _)

/-- Rendering is never refused as a line or an expression is. -/
theorem executeRender
    (name selector : String) :
    StopsBy (¬IsRefusal ·) (Run.executeRender name selector) := by
  have renders : StopsBy (¬IsRefusal ·) (renderInto name selector) := by
    refine .get_bind fun scene => ?_
    split
    · exact .bind (.warnAs _ _) fun _ => .pure none
    · refine .bind (.resolve selector) fun found => ?_
      split
      · exact .bind (.warnAs _ _) fun _ => .pure none
      · refine .bind ?_ fun _ => .pure _
        unfold writeTemplate
        split
        · exact .setContent _ _
        · exact
            .bind (.setContent _ _) fun _ => .throw (not_isRefusal_notText _)
  refine .bind renders fun found => ?_
  split
  · exact .pure ()
  · exact
      .bind (.get_bind fun _ => .bindVariables _ _) fun _ => .report _ _ _ _

theorem executeDefine
    (name content : String) :
    StopsBy (¬IsRefusal ·) (Run.executeDefine name content) :=
  .bind
    (.get_bind fun _ =>
      .bind (.require _ not_isRefusal_store) fun _ => .changeContext _)
    fun _ => .report _ _ _ _

theorem executeMedia
    {condition : Fault → Prop}
    (mediaType url selector : String) :
    StopsBy condition (Run.executeMedia mediaType url selector) := by
  refine .get_bind fun scene => .bind (.resolve selector) fun found => ?_
  dsimp only
  split
  · exact
      .bind (.pure _) fun _ =>
        .bind (.changeContext _) fun _ => .report _ _ _ _
  · exact
      .bind (.report _ _ _ _) fun _ =>
        .bind (.pure _) fun _ =>
          .bind (.changeContext _) fun _ => .report _ _ _ _

end StopsBy

/-! ## Calls -/

/-- The function that a call enters with its arguments, or why it enters none. -/
def entered
    (context : Context)
    (code : String) :
    Except ExpressionError (Function × List Value) :=
  match parseCall code with
  | .error error => .error error
  | .ok parsed =>
      match context.functions.get? parsed.name with
      | none => .error (.unknownFunction parsed.name)
      | some function =>
          (parsed.arguments.mapM (Script.evaluate context.store.lookup)).map
            fun arguments => (function, arguments)

/-- A function is entered only if the table holds it. -/
theorem exists_get?_of_entered
    {context : Context}
    {code : String}
    {call : Function × List Value}
    (entry : entered context code = .ok call) :
    ∃ name, context.functions.get? name = some call.1 := by
  rw [entered] at entry
  split at entry
  · cases entry
  · rename_i parsed _
    split at entry
    · cases entry
    · rename_i function known
      refine ⟨parsed.name, known.trans ?_⟩
      revert entry
      cases parsed.arguments.mapM (Script.evaluate context.store.lookup) with
      | error error =>
          exact nofun
      | ok arguments =>
          rintro ⟨⟩
          rfl

theorem outcome_evaluate
    (expression : String)
    (scene : Scene) :
    outcome (evaluate expression) scene =
      ((Script.evaluate scene.context.store.lookup expression).mapError
          .expression,
        scene) := by
  rw [evaluate, outcome_get_bind]
  cases Script.evaluate scene.context.store.lookup expression <;> rfl

/-- Arguments are evaluated in order, and nothing else happens. -/
theorem outcome_evaluateAll
    (expressions : List String)
    (scene : Scene) :
    outcome (evaluateAll expressions) scene =
      ((expressions.mapM
          (Script.evaluate scene.context.store.lookup)).mapError .expression,
        scene) := by
  induction expressions with
  | nil =>
      rfl
  | cons expression rest inductionHypothesis =>
      rw [evaluateAll, outcome_bind, outcome_evaluate, List.mapM_cons]
      cases Script.evaluate scene.context.store.lookup expression with
      | error error =>
          rfl
      | ok value =>
          simp only [Except.mapError, outcome_bind, inductionHypothesis]
          cases rest.mapM (Script.evaluate scene.context.store.lookup) <;> rfl

/-- A call that enters no function changes nothing. -/
theorem outcome_callBy
    (meaning : Meaning)
    (code : String)
    (scene : Scene) :
    outcome (callBy meaning code) scene =
      match entered scene.context code with
      | .error error => (.error (.expression error), scene)
      | .ok (function, arguments) => outcome (meaning function arguments) scene := by
  rw [callBy, entered]
  cases parseCall code with
  | error error =>
      rfl
  | ok parsed =>
      rw [outcome_bind, outcome_require_ok]
      dsimp only
      rw [outcome_get_bind]
      cases scene.context.functions.get? parsed.name with
      | none =>
          rfl
      | some function =>
          dsimp only
          rw [outcome_bind, outcome_evaluateAll]
          cases parsed.arguments.mapM
            (Script.evaluate scene.context.store.lookup) <;> rfl

theorem outcome_call
    (code : String)
    (scene : Scene) :
    outcome (call code) scene =
      match entered scene.context code with
      | .error error => (.error (.expression error), scene)
      | .ok (function, arguments) =>
          outcome (function.apply arguments) scene :=
  outcome_callBy Function.apply code scene

/-- The scene in which a command that calls a function starts the call. -/
def Scene.atCall (scene : Scene) (code : String) (line : Int) : Scene :=
  (scene.logged (announcement ⟨.runAsync code, line⟩)).logged
    ⟨.info, "hsxctl.services.interpreter", "async.run", [("code", .text code)]⟩

/-- Whoever the host is, a command that calls a function starts the call and drops the answer. -/
theorem outcome_execute_runAsync
    (host : Host)
    (line : Int)
    (code : String)
    (scene : Scene) :
    outcome (execute host ⟨.runAsync code, line⟩) scene =
      outcome (call code >>= fun _ => pure ()) (scene.atCall code line) := by
  cases host <;> rfl

/-! ## The executor of a page -/

namespace Agree

theorem executeMedia
    (mediaType url selector : String) :
    Agree (Run.executeMedia mediaType url selector)
      (Run.executeMedia mediaType url selector) := by
  refine .get_bind fun left right same => ?_
  rw [same]
  refine .bind (.resolve selector) fun found => ?_
  dsimp only
  split
  · exact
      .bind (.pure _) fun _ =>
        .bind (.changeContext _) fun _ => .report _ _ _ _
  · exact
      .bind (.report _ _ _ _) fun _ =>
        .bind (.pure _) fun _ =>
          .bind (.changeContext _) fun _ => .report _ _ _ _

/-- The executor of a page looks at the context alone, as its functions do. -/
theorem executeOnPage
    {meaning : Meaning}
    (sees : meaning.SeesContext)
    (placed : PlacedCommand) :
    Agree (executeBy meaning .runtime placed) (executeBy meaning .runtime placed) := by
  refine .bind (.report _ _ _ _) fun _ => ?_
  rcases placed with ⟨command, line⟩
  cases command with
  | setVariable name expression reactive =>
      exact .executeSet name expression reactive
  | defineComponent name content =>
      exact .executeDefine name content
  | renderComponent name selector =>
      exact .executeRender name selector
  | mediaLoad mediaType url selector =>
      exact .executeMedia mediaType url selector
  | runAsync code =>
      exact .executeCall sees code
  | _ =>
      exact .warnAs _ _

end Agree

section Lines

variable
  {meaning : Meaning}
  {executor : Executor}
  {line : Int}
  {text : List Char}
  {scene left right reached : Scene}
  {fault : Fault}

/-- An executor that looks at the context alone makes lines do so. -/
theorem agree_executeLine
    (agree : ∀ placed, Agree (executor placed) (executor placed))
    (line : Int)
    (text : List Char) :
    Agree (executeLine executor line text) (executeLine executor line text) := by
  rw [executeLine]
  split
  · exact .throw _
  · exact .pure false
  · exact .bind (agree _) fun _ => .pure true

theorem context_afterLine
    (line : Int)
    (ended : Except Fault Bool × Scene) :
    (afterLine line ended).context = ended.2.context := by
  rcases ended with ⟨fault | _, reached⟩ <;> rfl

/-- From equal contexts lines lead to the same report and to equal contexts. -/
theorem runLines_agree
    (agree : ∀ placed, Agree (executor placed) (executor placed))
    (report : LoadReport)
    (line : Int)
    (lines : List (List Char))
    (same : left.context = right.context) :
    (runLines executor report line lines left).1 =
        (runLines executor report line lines right).1 ∧
      (runLines executor report line lines left).2.context =
        (runLines executor report line lines right).2.context := by
  induction lines generalizing report line left right with
  | nil =>
      exact ⟨rfl, same⟩
  | cons text rest inductionHypothesis =>
      obtain ⟨sameResult, sameContext⟩ :=
        agree_executeLine agree line text left right same
      rw [runLines_cons, runLines_cons, sameResult]
      refine inductionHypothesis _ _ ?_
      rw [context_afterLine, context_afterLine, sameContext]

/-- No function is entered by a line, because it is no call or its call is refused. -/
def EntersNothing
    (context : Context)
    (line : Int)
    (text : List Char) :
    Prop :=
  ∀ code,
    parseLine .runtime line text = .ok (some ⟨.runAsync code, line⟩) →
      ∃ error, entered context code = .error error

/-- A command that is refused before a function is entered keeps the context. -/
theorem context_of_refused_command
    {placed : PlacedCommand}
    (stopped :
      outcome (executeBy meaning .runtime placed) scene = (.error fault, reached))
    (refusal : IsRefusal fault)
    (unentered :
      ∀ code,
        placed.command = .runAsync code →
          ∃ error, entered scene.context code = .error error) :
    reached.context = scene.context := by
  rw [outcome_executeBy_runtime] at stopped
  rw [← Scene.context_logged scene (announcement placed)] at unentered ⊢
  generalize scene.logged (announcement placed) = announced at *
  -- Only bindings and calls are refused as a line or an expression is.
  have absurdly :
      ∀ {action : Action Unit},
        StopsBy (¬IsRefusal ·) action →
          outcome action announced = (.error fault, reached) →
            reached.context = announced.context :=
    fun stops ended =>
      (stops announced fault (congrArg Prod.fst ended) refusal).elim
  rcases placed with ⟨command, line⟩
  cases command with
  | setVariable name expression reactive =>
      exact congrArg Scene.context (scene_eq_of_executeSet_error stopped)
  | runAsync code =>
      obtain ⟨error, refused⟩ := unentered code rfl
      change outcome (executeCall meaning code) announced = _ at stopped
      rw [executeCall, outcome_bind, outcome_report] at stopped
      dsimp only at stopped
      rw [outcome_bind, outcome_callBy, Scene.context_logged, refused] at stopped
      cases stopped
      rfl
  | defineComponent name content =>
      exact absurdly (.executeDefine name content) stopped
  | renderComponent name selector =>
      exact absurdly (.executeRender name selector) stopped
  | mediaLoad mediaType url selector =>
      exact absurdly (.executeMedia mediaType url selector) stopped
  | _ =>
      exact absurdly (.warnAs _ _) stopped

/-- A line that is refused before a function is entered keeps the context. -/
theorem context_of_refused_line
    (stopped :
      (outcome (executeLine (executeBy meaning .runtime) line text) scene).1 =
        .error fault)
    (refusal : IsRefusal fault)
    (unentered : EntersNothing scene.context line text) :
    (outcome (executeLine (executeBy meaning .runtime) line text) scene).2.context =
      scene.context := by
  rw [outcome_executeLine] at stopped ⊢
  cases given : parseLine .runtime line text with
  | error unknown =>
      rfl
  | ok found =>
      rw [given] at stopped
      cases found with
      | none =>
          cases stopped
      | some placed =>
          dsimp only at stopped ⊢
          have placedAt := line_of_parseLine given
          rcases step : outcome (executeBy meaning .runtime placed) scene with
            ⟨cause | done, reached⟩
          · rw [step] at stopped
            cases stopped
            refine context_of_refused_command step refusal fun code isCall => ?_
            refine unentered code ?_
            rw [given, ← isCall, ← placedAt]
          · rw [step] at stopped
            cases stopped

/-- A blank line is passed over. -/
theorem outcome_executeLine_of_blank
    (executor : Executor)
    (line : Int)
    (scene : Scene)
    (isBlank : Text.isBlankText text = true) :
    outcome (executeLine executor line text) scene = (.ok false, scene) := by
  have trimmed : Text.trim text = [] :=
    Text.trim_eq_nil_iff.mpr (List.all_eq_true.mp isBlank)
  have passed : parseLine .runtime line text = .ok none := by
    rw [parseLine, trimmed]
    rfl
  rw [outcome_executeLine, passed]

/-! ## Two runs -/

/--
When a line is unknown or is refused before a function is entered, a blank line in
its place leads to the same context and to the same report without the failure of
this line, whatever functions do with the context and their arguments.
-/
theorem refused_line_leaves_no_trace
    (meaning : Meaning)
    (sees : meaning.SeesContext)
    (report : LoadReport)
    (first : Int)
    (before after : List (List Char))
    (text blank : List Char)
    (scene : Scene)
    (fault : Fault)
    (isBlank : Text.isBlankText blank = true)
    (stopped :
      (outcome
            (executeLine (executeBy meaning .runtime) (first + before.length) text)
            (runLines (executeBy meaning .runtime) report first before scene).2).1 =
        .error fault)
    (refusal : IsRefusal fault)
    (unentered :
      EntersNothing
        (runLines (executeBy meaning .runtime) report first before scene).2.context
        (first + before.length) text) :
    ∃ earlier later,
      (runLines (executeBy meaning .runtime) report first
            (before ++ blank :: after) scene).1.failures =
          earlier ++ later ∧
        (runLines (executeBy meaning .runtime) report first
            (before ++ text :: after) scene).1 =
          { (runLines (executeBy meaning .runtime) report first
                (before ++ blank :: after) scene).1 with
            failures :=
              earlier ++
                lineFailure (first + before.length) text fault :: later } ∧
        (runLines (executeBy meaning .runtime) report first
            (before ++ text :: after) scene).2.context =
          (runLines (executeBy meaning .runtime) report first
            (before ++ blank :: after) scene).2.context := by
  rw [runLines_append, runLines_append, runLines_cons, runLines_cons,
    outcome_executeLine_of_blank _ _ _ isBlank, stopped]
  have kept := context_of_refused_line stopped refusal unentered
  generalize
    runLines (executeBy meaning .runtime) report first before scene = reached at *
  generalize first + (before.length : Int) = line at *
  -- Both runs go on from the same context, whatever was logged.
  have same :
      (afterLine line
          (outcome (executeLine (executeBy meaning .runtime) line text)
            reached.2)).context =
        reached.2.context := by
    rw [context_afterLine, kept]
  obtain ⟨sameReport, sameContext⟩ :=
    runLines_agree (Agree.executeOnPage sees) {} (line + 1) after same
  rw [runLines_eq, runLines_eq _ (LoadReport.add _ _), sameReport]
  refine
    ⟨reached.1.failures,
      (runLines (executeBy meaning .runtime) {} (line + 1) after
        reached.2).1.failures,
      ?_, ?_, sameContext⟩
  · simp only [LoadReport.add, LoadReport.ofLine, List.append_nil]
    rfl
  · simp only [LoadReport.add, LoadReport.ofLine, List.append_assoc]
    rfl

/-- A call of a function that no table holds, between two lines that take effect. -/
theorem refused_line_leaves_no_trace_of_unknown_function :
    ∃ earlier later,
      (runLines (execute .runtime) {} 1
            ["hsx set variable a = 'b'".toList, [],
              "hsx define component c Hi".toList]
            bareScene).1.failures =
          earlier ++ later ∧
        (runLines (execute .runtime) {} 1
            ["hsx set variable a = 'b'".toList, "hsx run async f()".toList,
              "hsx define component c Hi".toList]
            bareScene).1 =
          { (runLines (execute .runtime) {} 1
                ["hsx set variable a = 'b'".toList, [],
                  "hsx define component c Hi".toList]
                bareScene).1 with
            failures :=
              earlier ++
                lineFailure 2 "hsx run async f()".toList
                  (.expression (.unknownFunction "f")) :: later } ∧
        (runLines (execute .runtime) {} 1
            ["hsx set variable a = 'b'".toList, "hsx run async f()".toList,
              "hsx define component c Hi".toList]
            bareScene).2.context =
          (runLines (execute .runtime) {} 1
            ["hsx set variable a = 'b'".toList, [],
              "hsx define component c Hi".toList]
            bareScene).2.context :=
  refused_line_leaves_no_trace Function.apply seesContext_apply {} 1
    ["hsx set variable a = 'b'".toList]
    ["hsx define component c Hi".toList] "hsx run async f()".toList []
    bareScene (.expression (.unknownFunction "f")) rfl rfl (.inr rfl)
    (by
      intro code isCall
      cases isCall
      exact ⟨.unknownFunction "f", rfl⟩)

end Lines

end PageScript.Run
