import PageScript.Proofs.Run.Isolation
import PageScript.Proofs.Script.Evaluation
import PageScript.Proofs.State.Store

namespace PageScript.Run

open Script

/-!
# Binding variables in a build

A build binds a variable to the value of its expression.  An expression without a
value leaves one warning and nothing else, so no such command stops a build, with one
exception: an integer with more digits than are read is not refused as the grammar
refuses what it does not have, and the build stops there.
-/

/-! ## What a binding changes -/

/-- A scene with a variable bound, and with more log events. -/
structure Scene.Bound
    (scene : Scene)
    (name : String)
    (binding : State.Binding)
    (reached : Scene) :
    Prop where
  context :
    reached.context =
      { scene.context with
        store :=
          { scene.context.store with
            bindings :=
              scene.context.store.bindings.insert (.text name) binding } }
  surroundings :
    ∃ events,
      reached.surroundings =
        { scene.surroundings with log := scene.surroundings.log ++ events }
  cache : reached.cache = scene.cache
  record : reached.record = scene.record

/-- What a variable is bound to when it is set. -/
def bindingOf (value : Value) (reactive : Bool) : State.Binding :=
  if reactive then .reactive { value := value } else .plain value

@[simp] theorem value_bindingOf
    (value : Value)
    (reactive : Bool) :
    (bindingOf value reactive).value = value := by
  cases reactive <;> rfl

section Binding

variable
  {scene reached : Scene}
  {name : String}
  {binding : State.Binding}

/-- A variable that was bound is found, and the variables of other names are as before. -/
theorem Scene.Bound.lookup
    (bound : scene.Bound name binding reached)
    (other : String) :
    reached.context.store.lookup other =
      if other = name then some binding.value
      else scene.context.store.lookup other := by
  rw [bound.context, State.Store.lookup]
  dsimp only
  by_cases same : other = name
  · rw [if_pos same, same, Table.get?_insert_self (isExactKey_text name)]
    rfl
  · have differs : Value.text other ≠ .text name :=
      fun equal => same (Value.text.inj equal)
    rw [if_neg same,
      Table.get?_insert_of_ne (isExactKey_text name) (isExactKey_text other)
        differs]
    rfl

theorem Scene.Bound.of_logged
    {event : World.LogEvent}
    (bound : (scene.logged event).Bound name binding reached) :
    scene.Bound name binding reached where
  context := bound.context
  surroundings := exists_events_of_logged bound.surroundings
  cache := bound.cache
  record := bound.record

/-- A value is bound to a filled name. -/
theorem exists_bound_executeSet
    {expression : String}
    {value : Value}
    (filled : name ≠ "")
    (evaluated :
      Script.evaluate scene.context.store.lookup expression = .ok value)
    (reactive : Bool) :
    ∃ reached,
      outcome (executeSet name expression reactive) scene = (.ok (), reached) ∧
        scene.Bound name (bindingOf value reactive) reached := by
  have bound :
      scene.context.store.setVariable (.text name) value reactive =
        .ok
          { scene.context.store with
            bindings :=
              scene.context.store.bindings.insert (.text name)
                (bindingOf value reactive) } :=
    State.Store.bind_text scene.context.store filled _
  rw [executeSet, outcome_bind, outcome_evaluate, evaluated]
  dsimp only [Except.mapError]
  rw [outcome_bind, setVariable, outcome_get_bind, bound]
  exact ⟨_, rfl, rfl, ⟨[_], rfl⟩, rfl, rfl⟩

/-- An expression without a value binds nothing. -/
theorem outcome_executeSet_of_error
    {expression : String}
    {error : ExpressionError}
    (refused :
      Script.evaluate scene.context.store.lookup expression = .error error)
    (reactive : Bool) :
    outcome (executeSet name expression reactive) scene =
      (.error (.expression error), scene) := by
  rw [executeSet, outcome_bind, outcome_evaluate, refused]
  rfl

end Binding

/-! ## Setting a variable in a build -/

section Setting

variable
  {workshop : Workshop}
  {line : Int}
  {name expression : String}
  {reactive : Bool}
  {scene : Scene}

/-- A log event says nothing about the variables. -/
theorem evaluated_of_logged
    {result : Except ExpressionError Value}
    (evaluated :
      Script.evaluate scene.context.store.lookup expression = result)
    (event : World.LogEvent) :
    Script.evaluate (scene.logged event).context.store.lookup expression = result :=
  evaluated

theorem exists_bound_of_ok
    {value : Value}
    (filled : name ≠ "")
    (evaluated :
      Script.evaluate scene.context.store.lookup expression = .ok value) :
    ∃ reached,
      outcome
            (execute (.build workshop)
              ⟨.setVariable name expression reactive, line⟩)
            scene =
          (.ok (), reached) ∧
        scene.Bound name (bindingOf value reactive) reached := by
  rw [execute, outcome_executeBy_build]
  obtain ⟨reached, done, bound⟩ :=
    exists_bound_executeSet filled
      (evaluated_of_logged evaluated
        (announcement ⟨.setVariable name expression reactive, line⟩))
      reactive
  exact ⟨reached, executeSetInBuild_of_ok done, bound.of_logged⟩

theorem exists_warned_of_evaluation
    {error : ExpressionError}
    (refused :
      Script.evaluate scene.context.store.lookup expression = .error error)
    (evaluation : (Fault.expression error).isEvaluation = true) :
    ∃ reached,
      outcome
            (execute (.build workshop)
              ⟨.setVariable name expression reactive, line⟩)
            scene =
          (.ok (), reached) ∧
        scene.Warned (.text (notSetMessage line name (.expression error)))
          reached := by
  rw [execute, outcome_executeBy_build]
  obtain ⟨reached, done, warned⟩ :=
    executeSetInBuild_of_evaluation line
      (outcome_executeSet_of_error
        (evaluated_of_logged refused
          (announcement ⟨.setVariable name expression reactive, line⟩))
        reactive)
      evaluation
  exact ⟨reached, done, warned.of_logged⟩

theorem exists_stop_of_tooManyDigits
    {count : Nat}
    (refused :
      Script.evaluate scene.context.store.lookup expression =
        .error (.tooManyDigits count)) :
    ∃ reached,
      outcome
            (execute (.build workshop)
              ⟨.setVariable name expression reactive, line⟩)
            scene =
          (.error (.expression (.tooManyDigits count)), reached) ∧
        reached.context = scene.context := by
  rw [execute, outcome_executeBy_build]
  exact
    ⟨_,
      executeSetInBuild_of_fault
        (outcome_executeSet_of_error
          (evaluated_of_logged refused
            (announcement ⟨.setVariable name expression reactive, line⟩))
          reactive)
        (by simp [Fault.isEvaluation, Fault.kind]),
      rfl⟩

end Setting

/--
Whatever an expression is and whatever variables there are, it has a value or its
evaluation fails as an evaluation, unless it writes an integer with more digits than
are read: then the evaluation fails otherwise.  A build that sets a variable with a name
binds it to the value, or leaves one warning and changes nothing else, and it stops
exactly at such an integer, with everything as it was.
-/
theorem only_long_integers_stop_a_binding
    (lookup : String → Option Value)
    (workshop : Workshop)
    (line : Int)
    (name expression : String)
    (reactive : Bool)
    (scene : Scene) :
    (IsTooLong (Text.trim expression.toList) ∧
          (∃ error,
            Script.evaluate lookup expression = .error error ∧
              (Fault.expression error).kind = "ValueError") ∨
        ¬IsTooLong (Text.trim expression.toList) ∧
          ((∃ value, Script.evaluate lookup expression = .ok value) ∨
            ∃ error,
              Script.evaluate lookup expression = .error error ∧
                (Fault.expression error).kind = "EvaluationError")) ∧
      (name ≠ "" →
        IsTooLong (Text.trim expression.toList) ∧
            (∃ fault reached,
              outcome
                    (execute (.build workshop)
                      ⟨.setVariable name expression reactive, line⟩)
                    scene =
                  (.error fault, reached) ∧
                fault.kind = "ValueError" ∧
                reached.context = scene.context) ∨
          ¬IsTooLong (Text.trim expression.toList) ∧
            ∃ reached,
              outcome
                    (execute (.build workshop)
                      ⟨.setVariable name expression reactive, line⟩)
                    scene =
                  (.ok (), reached) ∧
                ((∃ value,
                    Script.evaluate scene.context.store.lookup expression =
                        .ok value ∧
                      scene.Bound name (bindingOf value reactive) reached ∧
                      reached.context.store.lookup name = some value) ∨
                  ∃ error,
                    Script.evaluate scene.context.store.lookup expression =
                        .error error ∧
                      scene.Warned
                        (.text (notSetMessage line name (.expression error)))
                        reached)) := by
  constructor
  · rcases evaluate_cases lookup expression with
      ⟨long, count, refused⟩ | ⟨short, evaluated | ⟨error, refused, evaluation⟩⟩
    · exact .inl ⟨long, _, refused, rfl⟩
    · exact .inr ⟨short, .inl evaluated⟩
    · exact .inr ⟨short, .inr ⟨error, refused, eq_of_beq evaluation⟩⟩
  · intro filled
    rcases evaluate_cases scene.context.store.lookup expression with
      ⟨long, count, refused⟩ |
        ⟨short, ⟨value, evaluated⟩ | ⟨error, refused, evaluation⟩⟩
    · obtain ⟨reached, stopped, kept⟩ := exists_stop_of_tooManyDigits refused
      exact .inl ⟨long, _, reached, stopped, rfl, kept⟩
    · obtain ⟨reached, done, bound⟩ := exists_bound_of_ok filled evaluated
      have found : reached.context.store.lookup name = some value := by
        rw [bound.lookup, if_pos rfl, value_bindingOf]
      exact .inr ⟨short, reached, done, .inl ⟨value, evaluated, bound, found⟩⟩
    · obtain ⟨reached, done, warned⟩ := exists_warned_of_evaluation refused evaluation
      exact .inr ⟨short, reached, done, .inr ⟨error, refused, warned⟩⟩

/-- A variable that is not there leaves a warning in the build that needs it. -/
theorem only_long_integers_stop_a_binding_of_unknown_variable :
    "greeting" ≠ "" ∧
      ∃ reached,
        outcome
              (execute (.build ⟨⟨"/", []⟩, ⟨[]⟩, ⟨[]⟩⟩)
                ⟨.setVariable "greeting" "user" true, 3⟩)
              bareScene =
            (.ok (), reached) ∧
          bareScene.Warned
            (.text
              "Line 3: variable greeting not set: Unknown variable: user")
            reached := by
  have refused :
      Script.evaluate bareScene.context.store.lookup "user" =
        .error (.unknownVariable "user") :=
    rfl
  refine ⟨by decide, ?_⟩
  rcases
      (only_long_integers_stop_a_binding (fun _ => none)
        ⟨⟨"/", []⟩, ⟨[]⟩, ⟨[]⟩⟩ 3 "greeting" "user" true bareScene).2
        (by decide) with
    ⟨⟨negative, digits, integer, -⟩, -⟩ |
      ⟨-, reached, done, ⟨value, evaluated, -⟩ | ⟨error, same, warned⟩⟩
  · obtain ⟨first, rest, shape, starts⟩ := integer.exists_head
    cases shape
    exact absurd starts (by decide)
  · rw [refused] at evaluated
    cases evaluated
  · rw [refused] at same
    cases same
    exact ⟨reached, done, warned⟩

/-- A run of ones. -/
def ones (count : Nat) : String :=
  String.ofList (List.replicate count '1')

theorem isTooLong_ones
    {count : Nat}
    (exceeds : Decimal.digitLimit < count) :
    IsTooLong (Text.trim (ones count).toList) := by
  have same : ∀ c ∈ List.replicate count '1', c = '1' :=
    fun _ member => List.eq_of_mem_replicate member
  rw [ones, String.toList_ofList,
    Text.trim_of_not_blank fun c member => by rw [same c member]; decide]
  refine ⟨false, List.replicate count '1', ⟨⟨[], List.mem_cons_self, rfl⟩, ?_, ?_⟩, ?_⟩
  · rw [Ne, List.replicate_eq_nil_iff]
    omega
  · exact fun c member => by rw [same c member]; decide
  · rwa [List.length_replicate]

/--
The evaluation of 4301 ones neither gives a value nor fails as an evaluation, and a
build that sets a variable to them stops.
-/
theorem long_ones_stop_a_build :
    (∃ error,
        Script.evaluate (fun _ => none) (ones 4301) = .error error ∧
          (Fault.expression error).kind ≠ "EvaluationError") ∧
      ∃ fault reached,
        outcome
              (execute (.build ⟨⟨"/", []⟩, ⟨[]⟩, ⟨[]⟩⟩)
                ⟨.setVariable "a" (ones 4301) false, 1⟩)
              bareScene =
            (.error fault, reached) ∧
          reached.context = bareScene.context := by
  have long : IsTooLong (Text.trim (ones 4301).toList) :=
    isTooLong_ones (by decide)
  constructor
  · obtain ⟨count, refused⟩ :=
      exists_evaluateTrimmed_of_isTooLong long fun _ => none
    exact ⟨_, refused, by simp [Fault.kind]⟩
  · obtain ⟨count, refused⟩ :=
      exists_evaluateTrimmed_of_isTooLong long bareScene.context.store.lookup
    obtain ⟨reached, stopped, kept⟩ := exists_stop_of_tooManyDigits refused
    exact ⟨_, reached, stopped, kept⟩

end PageScript.Run
