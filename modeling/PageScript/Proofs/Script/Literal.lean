import PageScript.Proofs.Script.Arguments
import PageScript.Proofs.Script.Evaluation

namespace PageScript.Script

/-!
# Literals that are read back

A literal writes a value as an expression: a keyword, an integer in base ten, or a
text between quotes of either kind, with a backslash before every backslash and
before every quote of that kind.  No variable has a part in its value.  A call whose
arguments are literals gives back these literals, whatever commas, parentheses and
quotes their texts hold.
-/

/-- The quotes that a text can be written between. -/
inductive QuoteMark where
  | double
  | single
  deriving Repr, DecidableEq

/-- The character of a quote. -/
def QuoteMark.char : QuoteMark → Char
  | double => '\x22'
  | single => '\x27'

/-- A value that an expression can write; an integer has no more digits than are read. -/
inductive Literal where
  | null
  | truth (holds : Bool)
  | integer
      (value : Int)
      (readable :
        (Nat.toDigits 10 value.natAbs).length ≤ Decimal.digitLimit)
  | text (mark : QuoteMark) (content : String)

/-- What is written for a character between quotes. -/
def escapedBetween (mark : QuoteMark) (c : Char) : List Char :=
  if c = '\\' ∨ c = mark.char then ['\\', c] else [c]

/-- What is written for a text between quotes. -/
def quotedContent (mark : QuoteMark) (s : List Char) : List Char :=
  s.flatMap (escapedBetween mark)

namespace Literal

/-- The value that a literal stands for. -/
def value : Literal → Value
  | null => .null
  | truth holds => .truth holds
  | integer value _ => .integer value
  | text _ content => .text content

/-- The characters of a literal. -/
def letters : Literal → List Char
  | null => ['n', 'u', 'l', 'l']
  | truth true => ['t', 'r', 'u', 'e']
  | truth false => ['f', 'a', 'l', 's', 'e']
  | integer value _ => Value.integerText value
  | text mark content =>
      mark.char :: quotedContent mark content.toList ++ [mark.char]

/-- The expression that a literal writes. -/
def written (literal : Literal) : String :=
  String.ofList literal.letters

end Literal

/-- The call of a function with literals as its arguments. -/
def writtenCall (name : String) (literals : List Literal) : String :=
  name ++ "(" ++ String.intercalate ", " (literals.map Literal.written) ++ ")"

/-! ## Quoted texts -/

section Quoted

variable {mark : QuoteMark}

theorem QuoteMark.char_ne_backslash
    (mark : QuoteMark) :
    mark.char ≠ '\\' := by
  cases mark <;> decide

/-- A character stands for itself, unless a backslash has to stand before it. -/
theorem escapedBetween_cases
    (mark : QuoteMark)
    (c : Char) :
    escapedBetween mark c = ['\\', c] ∧ escapedChar? c = some c ∨
      escapedBetween mark c = [c] ∧ c ≠ '\\' ∧ c ≠ mark.char := by
  by_cases special : c = '\\' ∨ c = mark.char
  · refine .inl ⟨if_pos special, ?_⟩
    rcases special with rfl | rfl
    · rfl
    · cases mark <;> rfl
  · exact .inr ⟨if_neg special, not_or.mp special⟩

theorem quotedContent_cons
    (mark : QuoteMark)
    (c : Char)
    (rest : List Char) :
    quotedContent mark (c :: rest) =
      escapedBetween mark c ++ quotedContent mark rest :=
  List.flatMap_cons

theorem unescape_cons
    {c : Char}
    (plain : c ≠ '\\')
    (rest : List Char) :
    unescape (c :: rest) = c :: unescape rest := by
  rw [unescape]
  intro d others same
  exact absurd same plain

/-- What was written between quotes stands for the text that it was written for. -/
theorem unescape_quotedContent
    (mark : QuoteMark)
    (s : List Char) :
    unescape (quotedContent mark s) = s := by
  induction s with
  | nil =>
      rfl
  | cons c rest inductionHypothesis =>
      rw [quotedContent_cons]
      rcases escapedBetween_cases mark c with
        ⟨shape, escaped⟩ | ⟨shape, plain, -⟩
      · rw [shape, List.cons_append, List.cons_append, List.nil_append,
          unescape, escaped]
        dsimp only
        rw [inductionHypothesis]
      · rw [shape, List.cons_append, List.nil_append, unescape_cons plain,
          inductionHypothesis]

/-- The closing quote is found behind what was written between quotes. -/
theorem quotedBody?_quotedContent
    (mark : QuoteMark)
    (s : List Char) :
    quotedBody? mark.char (quotedContent mark s ++ [mark.char]) =
      some (quotedContent mark s) := by
  induction s with
  | nil =>
      cases mark <;> rfl
  | cons c rest inductionHypothesis =>
      rw [quotedContent_cons, List.append_assoc]
      rcases escapedBetween_cases mark c with
        ⟨shape, -⟩ | ⟨shape, plain, open_⟩
      · rw [shape, List.cons_append, List.cons_append, List.nil_append,
          quotedBody?, inductionHypothesis]
        rfl
      · rw [shape, List.cons_append, List.nil_append, quotedBody?,
          if_neg open_, if_neg plain, inductionHypothesis]
        · rfl
        · intro d others same
          exact absurd same plain

theorem quotedLiteral?_quotedContent
    (mark : QuoteMark)
    (s : List Char) :
    quotedLiteral? (mark.char :: quotedContent mark s ++ [mark.char]) =
      some s := by
  have opens : (mark.char = '\x22' || mark.char = '\x27') = true := by
    cases mark <;> decide
  rw [List.cons_append, quotedLiteral?, if_pos opens,
    quotedBody?_quotedContent, Option.map_some, unescape_quotedContent]

end Quoted

/-! ## Integers -/

section Integers

/-- The text of an integer is its digits, behind a sign if it is negative. -/
theorem integerText_eq
    (value : Int) :
    Value.integerText value =
      (if value < 0 then ['-'] else []) ++ Nat.toDigits 10 value.natAbs := by
  change value.repr.toList = _
  rw [Int.repr_eq_if]
  by_cases negative : value < 0
  · rw [if_neg (by omega), if_pos negative, String.toList_append,
      Nat.toList_repr, show (-value).toNat = value.natAbs by omega]
    rfl
  · rw [if_pos (by omega), if_neg negative, Nat.toList_repr,
      show value.toNat = value.natAbs by omega]
    rfl

/-- The text of an integer is an integer. -/
theorem isInteger_integerText
    (value : Int) :
    IsInteger (decide (value < 0)) (Nat.toDigits 10 value.natAbs)
      (Value.integerText value) where
  signed := by
    refine ⟨_, ?_, integerText_eq value⟩
    by_cases negative : value < 0 <;> simp [negative, signs]
  filled := Nat.toDigits_ne_nil
  decimal := Text.isDecimalDigit_of_mem_toDigits _

end Integers

/-! ## Evaluating literals -/

section Evaluating

/-- A character that a keyword or an integer can hold. -/
def isPlainLetter (c : Char) : Bool :=
  c = '-' || Text.isWordChar c

theorem isBlank_of_isPlainLetter
    {c : Char}
    (plain : isPlainLetter c = true) :
    Text.isBlank c = false := by
  rcases (Bool.or_eq_true _ _).mp plain with sign | word
  · rw [of_decide_eq_true sign]
    decide
  · exact Text.isBlank_of_isWordChar word

theorem isPlainLetter_of_mem_integerText
    (value : Int) :
    ∀ c ∈ Value.integerText value, isPlainLetter c = true := by
  rw [integerText_eq]
  refine List.forall_mem_append.mpr ⟨?_, ?_⟩
  · split
    · exact List.all_eq_true.mp (by decide)
    · exact List.forall_mem_nil _
  · intro c member
    have word := Text.isWordChar_of_mem_toDigits _ c member
    simp [isPlainLetter, word]

/-- A literal is a text between quotes, or it has plain letters only. -/
theorem Literal.letters_cases
    (literal : Literal) :
    (∃ mark content,
        literal.letters =
          mark.char :: quotedContent mark content ++ [mark.char]) ∨
      literal.letters ≠ [] ∧
        ∀ c ∈ literal.letters, isPlainLetter c = true := by
  cases literal with
  | null =>
      exact .inr ⟨List.cons_ne_nil _ _, List.all_eq_true.mp (by decide)⟩
  | truth holds =>
      cases holds
      · exact .inr ⟨List.cons_ne_nil _ _, List.all_eq_true.mp (by decide)⟩
      · exact .inr ⟨List.cons_ne_nil _ _, List.all_eq_true.mp (by decide)⟩
  | integer value readable =>
      obtain ⟨first, rest, shape, -⟩ := (isInteger_integerText value).exists_head
      exact
        .inr
          ⟨by rw [letters, shape]; exact List.cons_ne_nil _ _,
            isPlainLetter_of_mem_integerText value⟩
  | text mark content =>
      exact .inl ⟨mark, content.toList, rfl⟩

theorem Literal.letters_ne_nil
    (literal : Literal) :
    literal.letters ≠ [] := by
  rcases literal.letters_cases with ⟨mark, content, shape⟩ | ⟨filled, -⟩
  · rw [shape]
    exact List.cons_ne_nil _ _
  · exact filled

/-- No blank stands at either end of a literal. -/
theorem Literal.trim_letters
    (literal : Literal) :
    Text.trim literal.letters = literal.letters := by
  rcases literal.letters_cases with ⟨mark, content, shape⟩ | ⟨-, plain⟩
  · have solid : Text.isBlank mark.char = false := by
      cases mark <;> decide
    rw [shape, Text.trim_eq_self_iff]
    constructor
    · simpa using solid
    · rw [List.getLast?_concat]
      simpa using solid
  · exact
      Text.trim_of_not_blank fun c member =>
        isBlank_of_isPlainLetter (plain c member)

/-- A literal has its value, whatever the variables are. -/
theorem evaluate_written
    (lookup : String → Option Value)
    (literal : Literal) :
    evaluate lookup literal.written = .ok literal.value := by
  rw [evaluate, Literal.written, String.toList_ofList, literal.trim_letters]
  cases literal with
  | null =>
      rfl
  | truth holds =>
      cases holds <;> rfl
  | integer value readable =>
      rw [Literal.letters,
        evaluateTrimmed_of_isInteger (isInteger_integerText value),
        Decimal.integerOfDigits, if_neg (Nat.not_lt.mpr readable),
        Text.digitsValue_toDigits]
      by_cases negative : value < 0
      · rw [decide_eq_true negative]
        dsimp only
        rw [if_pos rfl, Int.ofNat_natAbs_of_nonpos (Int.le_of_lt negative), Int.neg_neg]
        rfl
      · rw [decide_eq_false negative]
        dsimp only
        rw [if_neg Bool.false_ne_true, Int.natAbs_of_nonneg (Int.not_lt.mp negative)]
        rfl
  | text mark content =>
      rw [Literal.letters, evaluateTrimmed, if_neg (by simp),
        quotedLiteral?_quotedContent]
      dsimp only
      rw [String.ofList_toList, Literal.value]

end Evaluating

/-! ## Splitting arguments -/

section Splitting

/-- A scan leaves a quoted text behind its closing quote. -/
theorem closesFrom_quotedContent
    (mark : QuoteMark)
    (s : List Char) :
    ClosesFrom (.inside mark.char) (quotedContent mark s ++ [mark.char]) := by
  induction s with
  | nil =>
      refine closesFrom_cons_iff.mpr ⟨by simp, closesFrom_nil_iff.mpr ?_⟩
      rw [QuoteState.next, if_neg mark.char_ne_backslash, if_pos rfl]
  | cons c others inductionHypothesis =>
      rw [quotedContent_cons, List.append_assoc]
      rcases escapedBetween_cases mark c with
        ⟨shape, -⟩ | ⟨shape, plain, differs⟩
      · rw [shape]
        refine closesFrom_cons_iff.mpr ⟨by simp, ?_⟩
        exact closesFrom_cons_iff.mpr ⟨by simp [QuoteState.next], inductionHypothesis⟩
      · have stays :
            (QuoteState.inside mark.char).next c = .inside mark.char := by
          rw [QuoteState.next, if_neg plain, if_neg differs]
        rw [shape]
        refine closesFrom_cons_iff.mpr ⟨by simp, ?_⟩
        rwa [stays]

theorem isClosed_of_plain
    {s : List Char}
    (plain : ∀ c ∈ s, isPlainLetter c = true) :
    IsClosed s := by
  induction s with
  | nil =>
      exact closesFrom_nil_iff.mpr rfl
  | cons c others inductionHypothesis =>
      obtain ⟨first, othersPlain⟩ := List.forall_mem_cons.mp plain
      have stays : QuoteState.outside.next c = .outside := by
        refine if_neg fun quote => ?_
        simp only [Bool.or_eq_true, decide_eq_true_eq] at quote
        rcases quote with rfl | rfl
        · exact absurd first (by decide)
        · exact absurd first (by decide)
      refine closesFrom_cons_iff.mpr ⟨?_, ?_⟩
      · rintro ⟨-, rfl⟩
        exact absurd first (by decide)
      · rw [stays]
        exact inductionHypothesis othersPlain

/-- A literal is one argument, whatever its text holds. -/
theorem Literal.isClosed_letters
    (literal : Literal) :
    IsClosed literal.letters := by
  rcases literal.letters_cases with ⟨mark, content, shape⟩ | ⟨-, plain⟩
  · have joins : ¬(QuoteState.outside = .outside ∧ mark.char = ',') := by
      cases mark <;> decide
    have opens : QuoteState.outside.next mark.char = .inside mark.char := by
      cases mark <;> decide
    rw [shape]
    refine closesFrom_cons_iff.mpr ⟨joins, ?_⟩
    rw [opens]
    exact closesFrom_quotedContent mark content
  · exact isClosed_of_plain plain

/-- Literals with commas between them are split into these literals. -/
theorem splitArguments_written
    (literals : List Literal) :
    splitArguments (String.intercalate ", " (literals.map Literal.written)) =
      .ok (literals.map Literal.written) := by
  refine splitArguments_intercalate ?_ ?_ ?_
  · refine List.forall_mem_map.mpr fun literal _ empty => literal.letters_ne_nil ?_
    rwa [Literal.written, String.ofList_eq_empty_iff] at empty
  · refine List.forall_mem_map.mpr fun literal _ => ?_
    rw [Literal.written, String.toList_ofList, literal.trim_letters]
  · refine List.forall_mem_map.mpr fun literal _ => ?_
    rw [Literal.written, String.toList_ofList]
    exact literal.isClosed_letters

end Splitting

/-! ## Calls -/

/-- What stands between the parentheses at the ends of a text. -/
theorem parenthesised?_append
    (body : List Char) :
    parenthesised? ('(' :: body ++ [')']) = some body := by
  rw [List.cons_append, parenthesised?, List.reverse_append]
  simp

/-- An identifier is filled with letters of words. -/
theorem isWordChar_of_isIdentifier
    {name : List Char}
    (identifier : Text.isIdentifier name = true) :
    name ≠ [] ∧ ∀ c ∈ name, Text.isWordChar c = true := by
  rcases name with _ | ⟨first, rest⟩
  · cases identifier
  · simp only [Text.isIdentifier, Bool.and_eq_true, List.all_eq_true] at identifier
    refine ⟨List.cons_ne_nil _ _, List.forall_mem_cons.mpr ⟨?_, identifier.2⟩⟩
    rcases (Bool.or_eq_true _ _).mp identifier.1 with letter | underscore
    · simp [Text.isWordChar, letter]
    · simp [Text.isWordChar, of_decide_eq_true underscore]

/-- A call is parsed into its name and the arguments between its parentheses. -/
theorem parseCall_parenthesised
    {name body : String}
    {arguments : List String}
    (identifier : Text.isIdentifier name.toList = true)
    (split : splitArguments body = .ok arguments) :
    parseCall (name ++ "(" ++ body ++ ")") = .ok ⟨name, arguments⟩ := by
  obtain ⟨filled, letters⟩ := isWordChar_of_isIdentifier identifier
  have shape :
      (name ++ "(" ++ body ++ ")").toList =
        name.toList ++ '(' :: (body.toList ++ [')']) := by
    simp
  have trimmed :
      Text.trim (name.toList ++ '(' :: (body.toList ++ [')'])) =
        name.toList ++ '(' :: (body.toList ++ [')']) := by
    obtain ⟨first, rest, nameIs⟩ := List.exists_cons_of_ne_nil filled
    refine (Text.trim_eq_self_iff _).mpr ⟨?_, ?_⟩
    · have solid :=
        Text.isBlank_of_isWordChar (letters first (by simp [nameIs]))
      simpa [nameIs] using solid
    · have closed : Text.isBlank ')' = false := by
        decide
      rw [← List.cons_append, ← List.append_assoc, List.getLast?_concat]
      simpa using closed
  have opens : Text.isWordChar '(' = false := by
    decide
  have rest :
      Text.trimStart ('(' :: (body.toList ++ [')'])) =
        '(' :: body.toList ++ [')'] :=
    rfl
  rw [parseCall, shape, trimmed, Text.takeWhile_run letters opens,
    Text.dropWhile_run letters opens, identifier, rest, parenthesised?_append,
    if_neg (by simp), if_neg (by simp)]
  dsimp only
  rw [String.ofList_toList, String.ofList_toList, split]
  rfl

/-- A call with literals as its arguments is parsed into its name and these literals. -/
theorem parseCall_writtenCall
    {name : String}
    (identifier : Text.isIdentifier name.toList = true)
    (literals : List Literal) :
    parseCall (writtenCall name literals) =
      .ok ⟨name, literals.map Literal.written⟩ :=
  parseCall_parenthesised identifier (splitArguments_written literals)

/--
A call of a function with literals as its arguments gives back the name of the function
and exactly these literals, and each of them has the value that it was written for,
whatever the variables are.
-/
theorem calls_give_back_literals
    (name : String)
    (literals : List Literal)
    (identifier : Text.isIdentifier name.toList = true) :
    parseCall (writtenCall name literals) =
        .ok ⟨name, literals.map Literal.written⟩ ∧
      ∀ literal ∈ literals, ∀ lookup : String → Option Value,
        evaluate lookup literal.written = .ok literal.value :=
  ⟨parseCall_writtenCall identifier literals,
    fun literal _ lookup => evaluate_written lookup literal⟩

/-- Literals of all kinds, with commas, parentheses, quotes and a line end in texts. -/
def mixedLiterals : List Literal :=
  [.null, .truth true, .integer (-7) (by decide), .text .double "a\"b\\,'\n)",
    .text .single "it's, (\"x\""]

/-- A call with literals of all kinds is read back. -/
theorem calls_give_back_literals_of_mixed_call :
    Text.isIdentifier "f_1".toList = true ∧
      writtenCall "f_1" mixedLiterals =
        "f_1(null, true, -7, \"a\\\"b\\\\,'\n)\", 'it\\'s, (\"x\"')" ∧
      parseCall (writtenCall "f_1" mixedLiterals) =
        .ok
          ⟨"f_1",
            ["null", "true", "-7", "\"a\\\"b\\\\,'\n)\"",
              "'it\\'s, (\"x\"'"]⟩ ∧
      ∀ literal ∈ mixedLiterals, ∀ lookup : String → Option Value,
        evaluate lookup literal.written = .ok literal.value := by
  have identifier : Text.isIdentifier "f_1".toList = true := by
    decide
  obtain ⟨parsed, values⟩ :=
    calls_give_back_literals "f_1" mixedLiterals identifier
  exact ⟨identifier, by decide +kernel, parsed, values⟩

end PageScript.Script
