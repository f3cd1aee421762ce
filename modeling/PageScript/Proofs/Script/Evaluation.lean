import PageScript.Fault
import PageScript.Proofs.Text.Run

namespace PageScript.Script

/-!
# Values and refusals of expressions

An expression has a value, or it is refused as one that the grammar does not have.
Only integers with more digits than are read are refused otherwise, and what comes of
them depends on no variable.  The variables are asked for identifiers that are no
keywords, and for nothing else.
-/

/-! ## Integers -/

/-- What stands before the digits of an integer. -/
def signs : Bool → List (List Char)
  | true => [['-']]
  | false => [[], ['+']]

/-- A text is an integer: decimal digits behind a sign, which may be missing. -/
structure IsInteger (negative : Bool) (digits s : List Char) : Prop where
  signed : ∃ sign ∈ signs negative, s = sign ++ digits
  filled : digits ≠ []
  decimal : ∀ c ∈ digits, Text.isDecimalDigit c = true

section Integers

variable {negative : Bool} {digits s : List Char}

/-- Decimal digits have no sign before them. -/
theorem takeSign_of_decimal
    (decimal : ∀ c ∈ digits, Text.isDecimalDigit c = true) :
    Decimal.takeSign digits = (false, digits) := by
  unfold Decimal.takeSign
  split
  · exact absurd (decimal '-' List.mem_cons_self) (by decide)
  · exact absurd (decimal '+' List.mem_cons_self) (by decide)
  · rfl

/-- A text is the sign that is taken from it and what is left. -/
theorem exists_sign_takeSign
    (s : List Char) :
    ∃ sign ∈ signs (Decimal.takeSign s).1, s = sign ++ (Decimal.takeSign s).2 := by
  unfold Decimal.takeSign
  split
  · exact ⟨['-'], List.mem_cons_self, rfl⟩
  · exact ⟨['+'], by simp [signs], rfl⟩
  · exact ⟨[], List.mem_cons_self, rfl⟩

/-- The reader of integer literals takes exactly the integers. -/
theorem integerLiteral?_eq_some_iff :
    Decimal.integerLiteral? s = some (negative, digits) ↔
      IsInteger negative digits s := by
  rw [Decimal.integerLiteral?]
  constructor
  · intro taken
    split at taken
    · next reads =>
        have shape := exists_sign_takeSign s
        rw [Option.some.inj taken] at shape reads
        simp only [Bool.and_eq_true, Bool.not_eq_true', List.isEmpty_eq_false_iff,
          List.all_eq_true] at reads
        exact ⟨shape, reads.1, reads.2⟩
    · cases taken
  · rintro ⟨⟨sign, member, rfl⟩, filled, decimal⟩
    have taken : Decimal.takeSign (sign ++ digits) = (negative, digits) := by
      cases negative with
      | true =>
          cases List.mem_singleton.mp member
          rfl
      | false =>
          rcases List.mem_cons.mp member with rfl | plus
          · exact takeSign_of_decimal decimal
          · cases List.mem_singleton.mp plus
            rfl
    rw [taken]
    refine if_pos ?_
    simpa [filled] using decimal

/-- An integer starts with a sign or with a digit. -/
theorem IsInteger.exists_head
    (integer : IsInteger negative digits s) :
    ∃ first rest,
      s = first :: rest ∧
        (first = '-' ∨ first = '+' ∨ Text.isDecimalDigit first = true) := by
  obtain ⟨⟨sign, member, rfl⟩, filled, decimal⟩ := integer
  obtain ⟨first, rest, rfl⟩ := List.exists_cons_of_ne_nil filled
  cases negative with
  | true =>
      cases List.mem_singleton.mp member
      exact ⟨'-', _, rfl, .inl rfl⟩
  | false =>
      rcases List.mem_cons.mp member with rfl | plus
      · exact ⟨first, rest, rfl, .inr (.inr (decimal first List.mem_cons_self))⟩
      · cases List.mem_singleton.mp plus
        exact ⟨'+', _, rfl, .inr (.inl rfl)⟩

/-- An integer is no quoted text. -/
theorem IsInteger.quotedLiteral?_eq_none
    (integer : IsInteger negative digits s) :
    quotedLiteral? s = none := by
  obtain ⟨first, rest, rfl, starts⟩ := integer.exists_head
  refine if_neg fun quoted => ?_
  simp only [Bool.or_eq_true, decide_eq_true_eq] at quoted
  rcases quoted with rfl | rfl
  · exact absurd starts (by decide)
  · exact absurd starts (by decide)

end Integers

/-! ## Evaluation -/

/-- A text is an integer with more digits than are read. -/
def IsTooLong (s : List Char) : Prop :=
  ∃ negative digits,
    IsInteger negative digits s ∧ Decimal.digitLimit < digits.length

section Evaluation

variable {s : List Char}

/-- An integer is evaluated by its digits alone. -/
theorem evaluateTrimmed_of_isInteger
    {negative : Bool}
    {digits : List Char}
    (integer : IsInteger negative digits s)
    (lookup : String → Option Value) :
    evaluateTrimmed lookup s =
      match Decimal.integerOfDigits negative digits with
      | .ok value => .ok (.integer value)
      | .error count => .error (.tooManyDigits count) := by
  obtain ⟨first, rest, shape, -⟩ := integer.exists_head
  have read := integerLiteral?_eq_some_iff.mpr integer
  rw [evaluateTrimmed, if_neg (by simp [shape])]
  cases result : Decimal.integerOfDigits negative digits with
  | ok value =>
      simp only [integer.quotedLiteral?_eq_none, read, result]
  | error count =>
      simp only [integer.quotedLiteral?_eq_none, read, result]

theorem exists_evaluateTrimmed_of_isTooLong
    (long : IsTooLong s)
    (lookup : String → Option Value) :
    ∃ count,
      evaluateTrimmed lookup s = .error (.tooManyDigits count) := by
  obtain ⟨negative, digits, integer, exceeds⟩ := long
  refine ⟨digits.length, ?_⟩
  rw [evaluateTrimmed_of_isInteger integer, Decimal.integerOfDigits,
    if_pos exceeds]

/-- A refusal is that of the grammar, unless the text is an integer that is too long. -/
theorem evaluateTrimmed_error_cases
    {lookup : String → Option Value}
    {error : ExpressionError}
    (refused : evaluateTrimmed lookup s = .error error) :
    (Fault.expression error).isEvaluation = true ∨ IsTooLong s := by
  rw [evaluateTrimmed] at refused
  split at refused
  · cases refused
    exact .inl (by decide)
  split at refused
  · cases refused
  split at refused
  · next negative digits reads =>
      -- An integer is refused for its length only.
      rw [Decimal.integerOfDigits] at refused
      by_cases exceeds : Decimal.digitLimit < digits.length
      · exact
          .inr ⟨negative, digits, integerLiteral?_eq_some_iff.mp reads, exceeds⟩
      · rw [if_neg exceeds] at refused
        cases refused
  split at refused
  · cases refused
  split at refused
  · cases refused
  split at refused
  · split at refused
    · cases refused
    · cases refused
      exact .inl (by simp [Fault.isEvaluation, Fault.kind])
  · cases refused
    exact .inl (by simp [Fault.isEvaluation, Fault.kind])

/-- An expression has a value or is refused by the grammar, unless it is an integer too long. -/
theorem evaluate_cases
    (lookup : String → Option Value)
    (expression : String) :
    (IsTooLong (Text.trim expression.toList) ∧
        ∃ count, evaluate lookup expression = .error (.tooManyDigits count)) ∨
      ¬IsTooLong (Text.trim expression.toList) ∧
        ((∃ value, evaluate lookup expression = .ok value) ∨
          ∃ error,
            evaluate lookup expression = .error error ∧
              (Fault.expression error).isEvaluation = true) := by
  rw [evaluate]
  by_cases long : IsTooLong (Text.trim expression.toList)
  · exact .inl ⟨long, exists_evaluateTrimmed_of_isTooLong long lookup⟩
  · refine .inr ⟨long, ?_⟩
    cases given : evaluateTrimmed lookup (Text.trim expression.toList) with
    | ok value =>
        exact .inl ⟨value, rfl⟩
    | error error =>
        exact
          .inr ⟨error, rfl, (evaluateTrimmed_error_cases given).resolve_right long⟩

end Evaluation

/-! ## Names -/

/-- A text is read as the name of a variable: it is an identifier and no keyword. -/
def IsReference (s : List Char) : Prop :=
  Text.isIdentifier s = true ∧ keyword? s = none

instance (s : List Char) : Decidable (IsReference s) :=
  inferInstanceAs (Decidable (_ ∧ _))

section Names

variable {s : List Char}

/-- An identifier starts with a character that starts no number and no quoted text. -/
theorem exists_head_of_isIdentifier
    (identifier : Text.isIdentifier s = true) :
    ∃ first rest,
      s = first :: rest ∧
        Text.isDecimalDigit first = false ∧
        first ∉ ['-', '+', '.', '\x22', '\x27'] := by
  cases s with
  | nil =>
      cases identifier
  | cons first rest =>
      have starts := (Bool.and_eq_true_iff.mp identifier).1
      have others :
          ∀ c ∈ ['-', '+', '.', '\x22', '\x27'],
            ¬(Text.isLatinLetter c || c = '_') = true := by
        simp [Text.isLatinLetter]
      refine ⟨first, rest, rfl, ?_, fun member => others first member starts⟩
      have le_iff : ∀ a b : Char, a ≤ b ↔ a.toNat ≤ b.toNat :=
        fun _ _ => Iff.rfl
      simp only [Text.isLatinLetter, Bool.or_eq_true, Bool.and_eq_true, decide_eq_true_eq,
        le_iff, ← Char.toNat_inj, Char.reduceToNat] at starts
      rw [Text.isDecimalDigit, Text.digitValue?, if_neg, if_pos]
      · rfl
      · omega
      · simp only [le_iff, Char.reduceToNat]
        omega

/-- A name that is read as a variable has the value of the variable. -/
theorem evaluateTrimmed_of_isReference
    (reference : IsReference s)
    (lookup : String → Option Value) :
    evaluateTrimmed lookup s =
      match lookup (String.ofList s) with
      | some value => .ok value
      | none => .error (.unknownVariable (String.ofList s)) := by
  obtain ⟨identifier, noKeyword⟩ := reference
  obtain ⟨first, rest, rfl, noDigit, noOpening⟩ := exists_head_of_isIdentifier identifier
  simp only [List.mem_cons, List.not_mem_nil, or_false, not_or] at noOpening
  obtain ⟨noMinus, noPlus, noPoint, noDouble, noSingle⟩ := noOpening
  have unsigned : Decimal.takeSign (first :: rest) = (false, first :: rest) := by
    unfold Decimal.takeSign
    split <;> simp_all
  have noQuote : quotedLiteral? (first :: rest) = none := by
    simp [quotedLiteral?, noDouble, noSingle]
  have noInteger : Decimal.integerLiteral? (first :: rest) = none := by
    simp [Decimal.integerLiteral?, unsigned, noDigit]
  have noDecimal : Decimal.decimalLiteral? (first :: rest) = none := by
    simp [Decimal.decimalLiteral?, unsigned, noDigit, noPoint]
  rw [evaluateTrimmed, if_neg (by simp), noQuote, noInteger, noDecimal, noKeyword]
  exact if_pos identifier

/-- What is not read as a variable depends on no variable. -/
theorem evaluateTrimmed_eq_of_not_isReference
    (noReference : ¬IsReference s)
    (first second : String → Option Value) :
    evaluateTrimmed first s = evaluateTrimmed second s := by
  simp only [evaluateTrimmed]
  split
  · rfl
  split
  · rfl
  split
  · rfl
  split
  · rfl
  split
  · rfl
  · next noKeyword =>
      rw [if_neg fun identifier => noReference ⟨identifier, noKeyword⟩,
        if_neg fun identifier => noReference ⟨identifier, noKeyword⟩]

end Names

end PageScript.Script
