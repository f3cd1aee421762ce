import PageScript.Proofs.Run.OwnPart
import PageScript.Proofs.Script.Literal

namespace PageScript.Run

open Script

/-!
# Reading variables back

A line sets a variable under any word, but an expression is read as a variable only if
it is an identifier and no keyword.  A variable with such a name is read back after it
was set, as an expression and as an argument of a call.  Any other word is a literal or
is refused, whatever the variables are.
-/

/-! ## Arguments of calls -/

/-- All arguments have values, or one of them is refused. -/
theorem evaluateAll_cases
    (lookup : String → Option Value)
    (arguments : List String) :
    (∃ values,
        arguments.mapM (Script.evaluate lookup) = .ok values ∧
          List.Forall₂ (fun argument value => Script.evaluate lookup argument = .ok value)
            arguments values) ∨
      ∃ argument ∈ arguments, ∃ error,
        Script.evaluate lookup argument = .error error ∧
          arguments.mapM (Script.evaluate lookup) = .error error := by
  induction arguments with
  | nil =>
      exact .inl ⟨[], rfl, .nil⟩
  | cons argument rest inductionHypothesis =>
      rw [List.mapM_cons]
      cases evaluated : Script.evaluate lookup argument with
      | error error =>
          exact .inr ⟨argument, List.mem_cons_self, error, evaluated, rfl⟩
      | ok value =>
          rcases inductionHypothesis with
            ⟨values, all, each⟩ | ⟨other, member, error, refused, stopped⟩
          · rw [all]
            exact .inl ⟨value :: values, rfl, .cons evaluated each⟩
          · rw [stopped]
            exact .inr ⟨other, List.mem_cons_of_mem _ member, error, refused, rfl⟩

/-- A name alone between the parentheses of a call is its one argument. -/
theorem parseCall_name
    {function name : String}
    (identifier : Text.isIdentifier function.toList = true)
    (isWord : Text.isWord name.toList = true) :
    parseCall (function ++ "(" ++ name ++ ")") = .ok ⟨function, [name]⟩ := by
  refine parseCall_parenthesised identifier ?_
  have letters := List.all_eq_true.mp (Bool.and_eq_true_iff.mp isWord).2
  have trimmed : Text.trim name.toList = name.toList :=
    Text.trim_of_not_blank fun c member => Text.isBlank_of_isWordChar (letters c member)
  have closed : IsClosed name.toList :=
    isClosed_of_plain fun c member => by simp [isPlainLetter, letters c member]
  have split : splitArguments (", ".intercalate [name]) = .ok [name] :=
    splitArguments_intercalate
      (List.forall_mem_singleton.mpr (ne_empty_of_isWord isWord))
      (List.forall_mem_singleton.mpr trimmed) (List.forall_mem_singleton.mpr closed)
  rwa [String.intercalate_singleton] at split

/--
A name is read as a value: alone, as the one argument of a call, and among the
arguments of every call, which gets the values of its arguments unless another one of
them is refused.
-/
structure ReadsAs (scene : Scene) (name : String) (value : Value) : Prop where
  evaluated : Script.evaluate scene.context.store.lookup name = .ok value
  alone :
    ∀ {host line called function},
      Text.isIdentifier called.toList = true →
        scene.context.functions.get? called = some function →
        outcome (execute host ⟨.runAsync (called ++ "(" ++ name ++ ")"), line⟩) scene =
          outcome (function.apply [value] >>= fun _ => pure ())
            (scene.atCall (called ++ "(" ++ name ++ ")") line)
  among :
    ∀ {host line code parsed function},
      parseCall code = .ok parsed →
        scene.context.functions.get? parsed.name = some function →
        (∃ values,
            List.Forall₂
              (fun argument passed =>
                Script.evaluate scene.context.store.lookup argument = .ok passed ∧
                  (argument = name → passed = value))
              parsed.arguments values ∧
            outcome (execute host ⟨.runAsync code, line⟩) scene =
              outcome (function.apply values >>= fun _ => pure ())
                (scene.atCall code line)) ∨
          ∃ argument ∈ parsed.arguments, ∃ error,
            argument ≠ name ∧
              Script.evaluate scene.context.store.lookup argument = .error error ∧
              outcome (execute host ⟨.runAsync code, line⟩) scene =
                (.error (.expression error), scene.atCall code line)

section Calls

variable
  {scene : Scene}
  {name code : String}
  {parsed : Call}
  {function : Function}
  {values : List Value}
  {value : Value}
  {error : ExpressionError}

theorem outcome_execute_call_of_ok
    (known : parseCall code = .ok parsed)
    (inTable : scene.context.functions.get? parsed.name = some function)
    (evaluated :
      parsed.arguments.mapM (Script.evaluate scene.context.store.lookup) = .ok values)
    (host : Host)
    (line : Int) :
    outcome (execute host ⟨.runAsync code, line⟩) scene =
      outcome (function.apply values >>= fun _ => pure ()) (scene.atCall code line) := by
  have entry : entered (scene.atCall code line).context code = .ok (function, values) := by
    rw [Scene.atCall, Scene.context_logged, Scene.context_logged, entered, known]
    dsimp only
    rw [inTable]
    dsimp only
    rw [evaluated]
    rfl
  rw [outcome_execute_runAsync, outcome_bind, outcome_bind, outcome_call, entry]

theorem outcome_execute_call_of_error
    (known : parseCall code = .ok parsed)
    (inTable : scene.context.functions.get? parsed.name = some function)
    (refused :
      parsed.arguments.mapM (Script.evaluate scene.context.store.lookup) = .error error)
    (host : Host)
    (line : Int) :
    outcome (execute host ⟨.runAsync code, line⟩) scene =
      (.error (.expression error), scene.atCall code line) := by
  have entry : entered (scene.atCall code line).context code = .error error := by
    rw [Scene.atCall, Scene.context_logged, Scene.context_logged, entered, known]
    dsimp only
    rw [inTable]
    dsimp only
    rw [refused]
    rfl
  rw [outcome_execute_runAsync, outcome_bind, outcome_call, entry]

/-- A word that has a value as an expression is read as this value everywhere. -/
theorem readsAs_of_evaluate
    (isWord : Text.isWord name.toList = true)
    (evaluated : Script.evaluate scene.context.store.lookup name = .ok value) :
    ReadsAs scene name value where
  evaluated := evaluated
  alone identifier inTable := by
    refine outcome_execute_call_of_ok (parseCall_name identifier isWord) inTable ?_ _ _
    simp [evaluated]
  among {host line code parsed function} known inTable := by
    rcases evaluateAll_cases scene.context.store.lookup parsed.arguments with
      ⟨values, all, each⟩ | ⟨argument, member, error, refused, stopped⟩
    · refine .inl ⟨values, each.imp ?_, outcome_execute_call_of_ok known inTable all host line⟩
      intro argument passed holds
      refine ⟨holds, ?_⟩
      rintro rfl
      exact Except.ok.inj (holds.symm.trans evaluated)
    · refine .inr ⟨argument, member, error, ?_, refused, ?_⟩
      · rintro rfl
        cases evaluated.symm.trans refused
      · exact outcome_execute_call_of_error known inTable stopped host line

end Calls

/-! ## Set variables -/

/--
Executing a line that sets a variable to an expression with a value succeeds.  If the
name is an identifier and no keyword, it is read as the value from then on, alone and as
an argument.  Otherwise no variable has a part in what the name is read as.
-/
theorem set_variables_are_read_back
    {grammar : Grammar}
    {number : Int}
    {text : List Char}
    {placed : PlacedCommand}
    {name expression : String}
    {reactive : Bool}
    {scene : Scene}
    {value : Value}
    (accepted : parseLine grammar number text = .ok (some placed))
    (isSet : placed.command = .setVariable name expression reactive)
    (evaluated : Script.evaluate scene.context.store.lookup expression = .ok value)
    (host : Host) :
    ∃ reached,
      outcome (execute host placed) scene = (.ok (), reached) ∧
        (IsReference name.toList → ReadsAs reached name value) ∧
        (¬ IsReference name.toList →
          ∀ first second : String → Option Value,
            Script.evaluate first name = Script.evaluate second name) := by
  obtain ⟨command, line⟩ := placed
  obtain rfl : command = .setVariable name expression reactive := isSet
  have isWord := isWord_name_of_parseLine accepted name rfl
  have trimmed : Text.trim name.toList = name.toList := by
    refine Text.trim_of_not_blank fun c member => Text.isBlank_of_isWordChar ?_
    exact List.all_eq_true.mp (Bool.and_eq_true_iff.mp isWord).2 c member
  obtain ⟨reached, done, bound⟩ :=
    endsIn_set host line (ne_empty_of_isWord isWord) evaluated reactive
  refine ⟨reached, done, fun reference => ?_, fun noReference first second => ?_⟩
  · have found : reached.context.store.lookup name = some value := by
      rw [bound.lookup, if_pos rfl, value_bindingOf]
    refine readsAs_of_evaluate isWord ?_
    rw [Script.evaluate, trimmed, evaluateTrimmed_of_isReference reference,
      String.ofList_toList, found]
  · rw [Script.evaluate, Script.evaluate, trimmed]
    exact evaluateTrimmed_eq_of_not_isReference noReference first second

/-- A variable that a line sets to a text is read as this text. -/
theorem set_variables_are_read_back_of_user :
    parseLine .build 1 "hsx set variable user = \"Ada\"".toList =
        .ok (some ⟨.setVariable "user" "\"Ada\"" false, 1⟩) ∧
      Script.evaluate bareScene.context.store.lookup "\"Ada\"" = .ok (.text "Ada") ∧
      ∃ reached,
        outcome (execute .runtime ⟨.setVariable "user" "\"Ada\"" false, 1⟩) bareScene =
            (.ok (), reached) ∧
          ReadsAs reached "user" (.text "Ada") := by
  have accepted :
      parseLine .build 1 "hsx set variable user = \"Ada\"".toList =
        .ok (some ⟨.setVariable "user" "\"Ada\"" false, 1⟩) := rfl
  have evaluated :
      Script.evaluate bareScene.context.store.lookup "\"Ada\"" = .ok (.text "Ada") := rfl
  obtain ⟨reached, done, reads, -⟩ :=
    set_variables_are_read_back accepted rfl evaluated .runtime
  exact ⟨accepted, evaluated, reached, done, reads (by decide)⟩

/--
A line sets the variable `true` to one, and the name is still read as the keyword; a
line sets the variable `é`, and the name is refused.
-/
theorem other_words_are_set_but_not_read :
    parseLine .build 1 "hsx set variable true = 1".toList =
        .ok (some ⟨.setVariable "true" "1" false, 1⟩) ∧
      parseLine .build 1 "hsx set variable é = 1".toList =
        .ok (some ⟨.setVariable "é" "1" false, 1⟩) ∧
      Script.evaluate bareScene.context.store.lookup "1" = .ok (.integer 1) ∧
      (∃ reached,
        outcome (execute .runtime ⟨.setVariable "true" "1" false, 1⟩) bareScene =
            (.ok (), reached) ∧
          reached.context.store.lookup "true" = some (.integer 1) ∧
          Script.evaluate reached.context.store.lookup "true" = .ok (.truth true)) ∧
      ∃ reached,
        outcome (execute .runtime ⟨.setVariable "é" "1" false, 1⟩) bareScene =
            (.ok (), reached) ∧
          reached.context.store.lookup "é" = some (.integer 1) ∧
          Script.evaluate reached.context.store.lookup "é" =
            .error (.unsupported "é") := by
  have evaluated :
      Script.evaluate bareScene.context.store.lookup "1" = .ok (.integer 1) := rfl
  refine ⟨rfl, rfl, evaluated, ?_, ?_⟩
  · have filled : "true" ≠ "" := by decide
    obtain ⟨reached, done, bound⟩ := endsIn_set .runtime 1 filled evaluated false
    exact ⟨reached, done, bound.lookup "true", rfl⟩
  · have filled : "é" ≠ "" := by decide
    obtain ⟨reached, done, bound⟩ := endsIn_set .runtime 1 filled evaluated false
    exact ⟨reached, done, bound.lookup "é", rfl⟩

end PageScript.Run
