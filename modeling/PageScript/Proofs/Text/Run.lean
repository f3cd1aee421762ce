import Mathlib.Data.List.DropRight
import Mathlib.Data.List.Induction
import Mathlib.Data.List.Infix
import Mathlib.Data.Nat.Digits.Defs
import PageScript.Text.Digit
import PageScript.Text.Search
import PageScript.Text.Word

namespace PageScript.Text

/-!
# Runs of characters, trimmed texts and replaced tokens

A run of characters that pass a test ends at the first character that fails it.
A text is trimmed when it has no blank at either end; blanks around a trimmed
text are all that trimming takes away.  No character of a word is blank.  The
digits of a number in base ten are characters of words and are read as this number.

A token occurs in a text when it is an infix of it.  Replaced occurrences can
leave new ones behind: in the new text itself, or where it meets its
surroundings.  Neither happens when the new text lies nowhere inside the token
and holds neither of the characters at the ends of the token.
-/

/-! ## Runs -/

section Runs

variable {test : Char → Bool} {run rest : List Char} {stop : Char}

/-- A run is taken up to a rest that starts with no character of its kind. -/
theorem takeWhile_run_append
    (all : ∀ c ∈ run, test c = true)
    (ends : ∀ c ∈ rest.head?, test c = false) :
    (run ++ rest).takeWhile test = run := by
  rw [List.takeWhile_append_of_pos all]
  cases rest with
  | nil =>
      rw [List.takeWhile_nil, List.append_nil]
  | cons c others =>
      rw [List.takeWhile_cons_of_neg (by simpa using ends), List.append_nil]

theorem dropWhile_run_append
    (all : ∀ c ∈ run, test c = true)
    (ends : ∀ c ∈ rest.head?, test c = false) :
    (run ++ rest).dropWhile test = rest := by
  rw [List.dropWhile_append_of_pos all]
  cases rest with
  | nil =>
      rfl
  | cons c others =>
      exact List.dropWhile_cons_of_neg (by simpa using ends)

/-- What is left after a run starts with no character of its kind. -/
theorem head_dropWhile_not
    (s : List Char) :
    ∀ c ∈ (s.dropWhile test).head?, test c = false := by
  intro c first
  have stops := List.head?_dropWhile_not test s
  rwa [first] at stops

theorem takeWhile_run
    (all : ∀ c ∈ run, test c = true)
    (ends : test stop = false) :
    (run ++ stop :: rest).takeWhile test = run :=
  takeWhile_run_append all (by simpa using ends)

theorem dropWhile_run
    (all : ∀ c ∈ run, test c = true)
    (ends : test stop = false) :
    (run ++ stop :: rest).dropWhile test = stop :: rest :=
  dropWhile_run_append all (by simpa using ends)

/-- A text is cut at the first occurrence of a character. -/
theorem cutAt?_run
    (absent : stop ∉ run) :
    cutAt? stop (run ++ stop :: rest) = some (run, rest) := by
  induction run with
  | nil =>
      rw [List.nil_append, cutAt?, if_pos rfl]
  | cons c others inductionHypothesis =>
      obtain ⟨different, othersAbsent⟩ :=
        not_or.mp (mt List.mem_cons.mpr absent)
      rw [List.cons_append, cutAt?, if_neg (Ne.symm different),
        inductionHypothesis othersAbsent]
      rfl

/-- A text without the character is not cut. -/
theorem cutAt?_of_not_mem
    (absent : stop ∉ run) :
    cutAt? stop run = none := by
  induction run with
  | nil =>
      rfl
  | cons c others inductionHypothesis =>
      obtain ⟨different, othersAbsent⟩ :=
        not_or.mp (mt List.mem_cons.mpr absent)
      rw [cutAt?, if_neg (Ne.symm different), inductionHypothesis othersAbsent]
      rfl

/-- A cut divides a text at a character that does not occur before. -/
theorem of_cutAt?_eq_some
    {s left right : List Char}
    (cut : cutAt? stop s = some (left, right)) :
    s = left ++ stop :: right ∧ stop ∉ left := by
  induction s generalizing left with
  | nil =>
      cases cut
  | cons c others inductionHypothesis =>
      rw [cutAt?] at cut
      split at cut
      · next same =>
          cases cut
          exact ⟨by rw [same]; rfl, List.not_mem_nil⟩
      · next different =>
          obtain ⟨⟨front, back⟩, found, shape⟩ :=
            Option.map_eq_some_iff.mp cut
          cases shape
          obtain ⟨divided, absent⟩ := inductionHypothesis found
          refine ⟨by rw [divided]; rfl, ?_⟩
          rintro (_ | ⟨_, member⟩)
          · exact different rfl
          · exact absent member

/-- A text without the separator is one piece. -/
theorem splitAt_of_not_mem
    (absent : stop ∉ run) :
    splitAt stop run = [run] := by
  induction run with
  | nil =>
      rfl
  | cons c others inductionHypothesis =>
      obtain ⟨different, othersAbsent⟩ :=
        not_or.mp (mt List.mem_cons.mpr absent)
      rw [splitAt, if_neg (Ne.symm different), inductionHypothesis othersAbsent]

/-- The first piece of a text ends at the first separator. -/
theorem splitAt_run
    (absent : stop ∉ run) :
    splitAt stop (run ++ stop :: rest) = run :: splitAt stop rest := by
  induction run with
  | nil =>
      rw [List.nil_append, splitAt, if_pos rfl]
  | cons c others inductionHypothesis =>
      obtain ⟨different, othersAbsent⟩ :=
        not_or.mp (mt List.mem_cons.mpr absent)
      rw [List.cons_append, splitAt, if_neg (Ne.symm different),
        inductionHypothesis othersAbsent]

end Runs

/-! ## Trimming -/

/-- A text without its leading blanks is what follows the blanks. -/
theorem exists_blanks_trimStart
    (s : List Char) :
    ∃ blanks,
      (∀ c ∈ blanks, isBlank c = true) ∧
        s = blanks ++ trimStart s :=
  ⟨s.takeWhile isBlank, fun _ member => List.mem_takeWhile_imp member,
    List.takeWhile_append_dropWhile.symm⟩

/-- What is left of a text without its blanks at the end ends in no blank. -/
theorem exists_blanks_trimEnd
    (s : List Char) :
    ∃ blanks,
      (∀ c ∈ blanks, isBlank c = true) ∧
        s = trimEnd s ++ blanks ∧
          ∀ c ∈ (trimEnd s).getLast?, isBlank c = false := by
  obtain ⟨blanks, allBlank, division⟩ := exists_blanks_trimStart s.reverse
  refine ⟨blanks.reverse, by simpa using allBlank, ?_, ?_⟩
  · have turned := congrArg List.reverse division
    rwa [List.reverse_reverse, List.reverse_append] at turned
  · rw [trimEnd, List.getLast?_reverse]
    exact head_dropWhile_not _

/-- A text is its trimmed part between blanks. -/
theorem exists_blanks_trim
    (s : List Char) :
    ∃ before after,
      (∀ c ∈ before, isBlank c = true) ∧
        (∀ c ∈ after, isBlank c = true) ∧
          s = before ++ (trim s ++ after) := by
  obtain ⟨before, beforeBlank, start⟩ := exists_blanks_trimStart s
  obtain ⟨after, afterBlank, finish, -⟩ := exists_blanks_trimEnd (trimStart s)
  refine ⟨before, after, beforeBlank, afterBlank, ?_⟩
  rw [trim, ← finish]
  exact start

theorem trimStart_run_append
    {before rest : List Char}
    (beforeBlank : ∀ c ∈ before, isBlank c = true)
    (ends : ∀ c ∈ rest.head?, isBlank c = false) :
    trimStart (before ++ rest) = rest :=
  dropWhile_run_append beforeBlank ends

theorem trimStart_eq_nil_iff
    {s : List Char} :
    trimStart s = [] ↔ ∀ c ∈ s, isBlank c = true :=
  List.dropWhile_eq_nil_iff

/-- Trimming changes nothing exactly when neither end is blank. -/
theorem trim_eq_self_iff
    (s : List Char) :
    trim s = s ↔
      (∀ c ∈ s.head?, isBlank c = false) ∧
        ∀ c ∈ s.getLast?, isBlank c = false := by
  have trimmedEnd :
      ∀ t : List Char,
        trimEnd t = t ↔ ∀ c ∈ t.getLast?, isBlank c = false := by
    intro t
    change t.rdropWhile isBlank = t ↔ _
    rw [List.rdropWhile_eq_self_iff]
    cases t using List.reverseRecOn <;> simp
  have trimmedStart :
      trimStart s = s ↔ ∀ c ∈ s.head?, isBlank c = false := by
    rw [trimStart, List.dropWhile_eq_self_iff]
    cases s <;> simp
  rw [← trimmedStart, ← trimmedEnd]
  constructor
  · intro whole
    -- Neither cut can shorten the text, since together they do not.
    have startLe : (trimStart s).length ≤ s.length :=
      List.length_dropWhile_le _ _
    have endLe : (trim s).length ≤ (trimStart s).length := by
      rw [trim, trimEnd, List.length_reverse]
      exact (List.length_dropWhile_le _ _).trans_eq List.length_reverse
    have start : trimStart s = s := by
      refine (List.dropWhile_suffix isBlank).eq_of_length ?_
      rw [whole] at endLe
      exact Nat.le_antisymm startLe endLe
    refine ⟨start, ?_⟩
    rwa [trim, start] at whole
  · rintro ⟨start, finish⟩
    rw [trim, start, finish]

/-- Blanks around a trimmed text are trimmed away. -/
theorem trim_surrounded
    {s before after : List Char}
    (trimmed : trim s = s)
    (filled : s ≠ [])
    (beforeBlank : ∀ c ∈ before, isBlank c = true)
    (afterBlank : ∀ c ∈ after, isBlank c = true) :
    trim (before ++ s ++ after) = s := by
  obtain ⟨start, finish⟩ := (trim_eq_self_iff s).mp trimmed
  obtain ⟨first, others, rfl⟩ := List.exists_cons_of_ne_nil filled
  have cutStart :
      trimStart (before ++ (first :: others) ++ after) =
        (first :: others) ++ after := by
    rw [trimStart, List.append_assoc]
    exact dropWhile_run beforeBlank (by simpa using start)
  rw [trim, cutStart, trimEnd, List.reverse_append,
    dropWhile_run_append]
  · exact List.reverse_reverse _
  · simpa using afterBlank
  · rw [List.head?_reverse]
    exact finish

/-- Trimmed texts make a trimmed text. -/
theorem trim_append
    {s t : List Char}
    (first : trim s = s)
    (second : trim t = t) :
    trim (s ++ t) = s ++ t := by
  obtain ⟨firstStart, firstFinish⟩ := (trim_eq_self_iff s).mp first
  obtain ⟨secondStart, secondFinish⟩ := (trim_eq_self_iff t).mp second
  refine (trim_eq_self_iff (s ++ t)).mpr ⟨?_, ?_⟩
  · intro c head
    rw [List.head?_append, Option.mem_def, Option.or_eq_some_iff] at head
    rcases head with inFirst | ⟨-, inSecond⟩
    · exact firstStart c inFirst
    · exact secondStart c inSecond
  · intro c last
    rw [List.getLast?_append, Option.mem_def, Option.or_eq_some_iff] at last
    rcases last with inSecond | ⟨-, inFirst⟩
    · exact secondFinish c inSecond
    · exact firstFinish c inFirst

/-- The ends of a text decide whether it is trimmed, whatever stands between them. -/
theorem trim_between
    {front back : List Char}
    (frontFilled : front ≠ [])
    (backFilled : back ≠ [])
    (between other : List Char)
    (trimmed : trim (front ++ (between ++ back)) = front ++ (between ++ back)) :
    trim (front ++ (other ++ back)) = front ++ (other ++ back) := by
  rw [trim_eq_self_iff, List.head?_append_of_ne_nil _ frontFilled, ← List.append_assoc,
    List.getLast?_append_of_ne_nil _ backFilled] at trimmed ⊢
  exact trimmed

theorem trim_append_append
    {s t : List Char}
    (first : trim s = s)
    (second : trim t = t)
    (firstFilled : s ≠ [])
    (secondFilled : t ≠ [])
    (between : List Char) :
    trim (s ++ (between ++ t)) = s ++ (between ++ t) :=
  trim_between firstFilled secondFilled [] between (trim_append first second)

theorem mem_trim
    {s : List Char}
    {c : Char}
    (member : c ∈ s)
    (solid : isBlank c = false) :
    c ∈ trim s := by
  have kept :
      ∀ {t : List Char}, c ∈ t → c ∈ t.dropWhile isBlank := by
    intro t inText
    rw [← List.takeWhile_append_dropWhile (p := isBlank) (l := t)] at inText
    rcases List.mem_append.mp inText with blank | later
    · rw [List.mem_takeWhile_imp blank] at solid
      cases solid
    · exact later
  rw [trim, trimEnd, List.mem_reverse]
  exact kept (List.mem_reverse.mpr (kept member))

/-- Nothing is left of a text by trimming exactly when it is blank. -/
theorem trim_eq_nil_iff
    {s : List Char} :
    trim s = [] ↔ ∀ c ∈ s, isBlank c = true := by
  constructor
  · intro empty c member
    by_contra solid
    have kept := mem_trim member (by simpa using solid)
    rw [empty] at kept
    cases kept
  · intro blank
    rw [trim, trimStart_eq_nil_iff.mpr blank]
    rfl

/-- A text that was trimmed has no blank at either end. -/
theorem trim_trim
    (s : List Char) :
    trim (trim s) = trim s := by
  obtain ⟨after, -, finish, ends⟩ := exists_blanks_trimEnd (trimStart s)
  refine (trim_eq_self_iff _).mpr ⟨fun c first => ?_, ends⟩
  refine head_dropWhile_not s c ?_
  rw [← trimStart, finish, ← trim, List.head?_append, Option.mem_def.mp first]
  rfl

/-- Blanks at the end of a text are trimmed away. -/
theorem trim_append_of_blank
    {blanks : List Char}
    (s : List Char)
    (allBlank : ∀ c ∈ blanks, isBlank c = true) :
    trim (s ++ blanks) = trim s := by
  by_cases empty : trim s = []
  · rw [empty, trim_eq_nil_iff]
    exact List.forall_mem_append.mpr ⟨trim_eq_nil_iff.mp empty, allBlank⟩
  · obtain ⟨before, after, beforeBlank, afterBlank, shape⟩ := exists_blanks_trim s
    have surrounded :=
      trim_surrounded (trim_trim s) empty beforeBlank
        (List.forall_mem_append.mpr ⟨afterBlank, allBlank⟩)
    rwa [← List.append_assoc, List.append_assoc before, ← shape] at surrounded

/-- A text that starts with no blank is trimmed at its end alone. -/
theorem exists_trim_cons
    {c : Char}
    (solid : isBlank c = false)
    (rest : List Char) :
    ∃ others, trim (c :: rest) = c :: others ∧ others <+: rest := by
  have start : trimStart (c :: rest) = c :: rest :=
    List.dropWhile_cons_of_neg (by simpa using solid)
  have initial : trim (c :: rest) <+: c :: rest := by
    rw [trim, start]
    exact List.rdropWhile_prefix isBlank (c :: rest)
  have filled := List.ne_nil_of_mem (mem_trim (s := c :: rest) List.mem_cons_self solid)
  obtain ⟨first, others, trimmed⟩ := List.exists_cons_of_ne_nil filled
  rw [trimmed] at initial ⊢
  obtain ⟨rfl, shorter⟩ := List.cons_prefix_cons.mp initial
  exact ⟨others, rfl, shorter⟩

/-! ## Words -/

/-- Ranges that do not meet cover no character together. -/
theorem not_covers_of_apart
    {first second : List (Nat × Nat)}
    (apart :
      ∀ left ∈ first, ∀ right ∈ second, left.2 < right.1 ∨ right.2 < left.1)
    {c : Char}
    (covered : covers first c = true) :
    covers second c = false := by
  obtain ⟨left, leftMember, inLeft⟩ := List.any_eq_true.mp covered
  refine List.any_eq_false.mpr fun right rightMember inRight => ?_
  simp only [Bool.and_eq_true, decide_eq_true_eq] at inLeft inRight
  rcases apart left leftMember right rightMember with lower | higher
  · omega
  · omega

/-- No letter or number beyond the basic block is blank. -/
theorem alphanumericRanges_apart_blankRanges :
    ∀ left ∈ alphanumericRanges, ∀ right ∈ blankRanges,
      left.2 < right.1 ∨ right.2 < left.1 := by
  decide +kernel

theorem isBlank_of_isWordChar
    {c : Char}
    (word : isWordChar c = true) :
    isBlank c = false := by
  have le_iff : ∀ a b : Char, a ≤ b ↔ a.toNat ≤ b.toNat :=
    fun _ _ => Iff.rfl
  by_contra blank
  simp only [isWordChar, isLatinLetter, isPlainDigit, isBlank, isWhiteSpace,
    Bool.not_eq_false, Bool.or_eq_true, Bool.and_eq_true, decide_eq_true_eq,
    le_iff, ← Char.toNat_inj, Char.reduceToNat] at word blank
  rcases word with nearBlock | ⟨beyond, letter⟩
  · omega
  · rw [not_covers_of_apart alphanumericRanges_apart_blankRanges letter]
      at blank
    simp only [Bool.false_eq_true, and_false, or_false] at blank
    omega

theorem trim_of_not_blank
    {s : List Char}
    (solid : ∀ c ∈ s, isBlank c = false) :
    trim s = s :=
  (trim_eq_self_iff s).mpr
    ⟨fun c first => solid c (List.mem_of_mem_head? first),
      fun c last => solid c (List.mem_of_getLast? last)⟩

/-! ## Digits -/

/-- A digit of base ten has the value that its place in the block gives. -/
theorem digitValue?_of_isDigit
    {c : Char}
    (digit : c.isDigit = true) :
    digitValue? c = some (c.toNat - '0'.toNat) := by
  simp only [Char.isDigit, Bool.and_eq_true, decide_eq_true_eq] at digit
  exact if_pos digit

section Digits

variable (n : Nat)

theorem isDigit_of_mem_toDigits :
    ∀ c ∈ Nat.toDigits 10 n, c.isDigit = true :=
  fun _ member => Nat.isDigit_of_mem_toDigits (by decide) (by decide) member

theorem isDecimalDigit_of_mem_toDigits :
    ∀ c ∈ Nat.toDigits 10 n, isDecimalDigit c = true := by
  intro c member
  rw [isDecimalDigit, digitValue?_of_isDigit (isDigit_of_mem_toDigits n c member)]
  rfl

theorem isWordChar_of_mem_toDigits :
    ∀ c ∈ Nat.toDigits 10 n, isWordChar c = true := by
  intro c member
  have plain : isPlainDigit c = true := isDigit_of_mem_toDigits n c member
  simp [isWordChar, plain]

/-- The digits of a number are read as this number. -/
theorem digitsValue_toDigits :
    digitsValue (Nat.toDigits 10 n) = n := by
  have steps :
      ∀ total : Nat, ∀ c ∈ Nat.toDigits 10 n,
        total * 10 + (digitValue? c).getD 0 =
          10 * total + (c.toNat - '0'.toNat) := by
    intro total c member
    rw [digitValue?_of_isDigit (isDigit_of_mem_toDigits n c member), Nat.mul_comm]
    rfl
  rw [digitsValue, List.foldl_ext _ _ 0 steps]
  exact Nat.ofDigitChars_toDigits (by decide) (by decide)

end Digits

/-! ## Replaced tokens -/

section Tokens

variable {token text s : List Char}

theorem occursIn_iff_inside :
    occursIn token s = true ↔ token <:+: s := by
  induction s with
  | nil =>
      simp [occursIn]
  | cons c rest inductionHypothesis =>
      simp [occursIn, inductionHypothesis, List.infix_cons_iff]

/-! ### One step -/

/-- What belongs to an occurrence that was replaced is passed over. -/
theorem replaceSkipping_skip
    (token text front rest : List Char) :
    replaceSkipping token text front.length (front ++ rest) =
      replaceSkipping token text 0 rest := by
  induction front with
  | nil =>
      rfl
  | cons c others inductionHypothesis =>
      exact inductionHypothesis

/-- A token that stands first is replaced. -/
theorem replaceSkipping_token
    (nonempty : token ≠ [])
    (text rest : List Char) :
    replaceSkipping token text 0 (token ++ rest) =
      text ++ replaceSkipping token text 0 rest := by
  cases token with
  | nil =>
      exact absurd rfl nonempty
  | cons c back =>
      have here : (c :: back).isPrefixOf (c :: (back ++ rest)) = true := by
        simp
      have skipped := replaceSkipping_skip (c :: back) text back rest
      rw [List.cons_append, replaceSkipping, if_pos here]
      simpa using skipped

/-- A character that starts no token is kept. -/
theorem replaceSkipping_cons
    {c : Char}
    (notHere : ¬ token <+: c :: s) :
    replaceSkipping token text 0 (c :: s) =
      c :: replaceSkipping token text 0 s := by
  rw [replaceSkipping, if_neg]
  rwa [List.isPrefixOf_iff_prefix]

/-! ### Occurrences that are left behind -/

/-- A text without the first character of another one lies behind it. -/
theorem infix_of_infix_cons
    {c : Char}
    {rest : List Char}
    (absent : c ∉ text)
    (inside : text <:+: c :: rest) :
    text <:+: rest := by
  rcases List.infix_cons_iff.mp inside with starts | later
  · cases text with
    | nil =>
        exact List.nil_infix
    | cons first others =>
        obtain ⟨rfl, -⟩ := List.cons_prefix_cons.mp starts
        exact absurd List.mem_cons_self absent
  · exact later

/-- A text without the last character of another one lies before it. -/
theorem infix_of_infix_concat
    {c : Char}
    {front : List Char}
    (absent : c ∉ text)
    (inside : text <:+: front ++ [c]) :
    text <:+: front := by
  rw [← List.reverse_infix, List.reverse_append] at inside
  rw [← List.reverse_infix]
  exact infix_of_infix_cons (by simpa using absent) inside

/-- A text without a character of what stands behind another one lies before it. -/
theorem infix_of_infix_apart
    {front back : List Char}
    (absent : ∀ c ∈ back, c ∉ text)
    (inside : text <:+: front ++ back) :
    text <:+: front := by
  induction back using List.reverseRec with
  | nil =>
      rwa [List.append_nil] at inside
  | append_singleton others last inductionHypothesis =>
      obtain ⟨othersAbsent, lastAbsent⟩ := List.forall_mem_append.mp absent
      rw [← List.append_assoc] at inside
      exact
        inductionHypothesis othersAbsent
          (infix_of_infix_concat (lastAbsent last List.mem_cons_self) inside)

/-- A text lies nowhere inside a token and does not hold its last character. -/
structure Parted (text token : List Char) : Prop where
  notInside : ¬ text <:+: token
  noLast : ∀ c ∈ token.getLast?, c ∉ text

theorem Parted.tail
    {c : Char}
    (parted : Parted text (c :: token)) :
    Parted text token where
  notInside inside := parted.notInside (List.infix_cons inside)
  noLast last isLast := by
    cases token with
    | nil =>
        cases isLast
    | cons second others =>
        exact parted.noLast last (by rwa [List.getLast?_cons_cons])

/-- What is parted from a text and starts it as a part of its beginning is empty. -/
theorem Parted.eq_nil_of_prefix
    {rest : List Char}
    (parted : Parted text token)
    (starts : token <+: text ++ rest) :
    token = [] := by
  -- A longer token would contain the text, and a shorter one would end in it.
  rcases List.prefix_or_prefix_of_prefix starts (List.prefix_append text rest)
    with within | beyond
  · cases token using List.reverseRec with
    | nil =>
        rfl
    | append_singleton front last =>
        exact absurd (within.subset (by simp)) (parted.noLast last (by simp))
  · exact absurd beyond.isInfix parted.notInside

/--
What starts a text after replacements, and is parted from what was put in,
started it before.
-/
theorem prefix_of_prefix_replaceSkipping
    {start : List Char}
    (parted : Parted text start)
    (starts : start <+: replaceSkipping token text 0 s) :
    start <+: s := by
  induction s generalizing start with
  | nil =>
      exact starts
  | cons c rest inductionHypothesis =>
      rw [replaceSkipping] at starts
      split at starts
      · rw [parted.eq_nil_of_prefix starts]
        exact List.nil_prefix
      · cases start with
        | nil =>
            exact List.nil_prefix
        | cons first others =>
            obtain ⟨rfl, later⟩ := List.cons_prefix_cons.mp starts
            exact
              List.cons_prefix_cons.mpr
                ⟨rfl, inductionHypothesis parted.tail later⟩

/-- An occurrence that starts at none of the first characters comes after them. -/
theorem infix_of_infix_append
    {c : Char}
    (noFirst : c ∉ text)
    (inside : c :: token <:+: text ++ s) :
    c :: token <:+: s := by
  induction text with
  | nil =>
      exact inside
  | cons first others inductionHypothesis =>
      obtain ⟨different, noLater⟩ := not_or.mp (mt List.mem_cons.mpr noFirst)
      rcases List.infix_cons_iff.mp inside with starts | later
      · exact absurd (List.cons_prefix_cons.mp starts).1 different
      · exact inductionHypothesis noLater later

/-- Replacing leaves no occurrence behind when the new text is parted from the token. -/
theorem not_infix_replaceSkipping
    {c : Char}
    (parted : Parted text (c :: token))
    (noFirst : c ∉ text)
    (skip : Nat) :
    ¬ c :: token <:+: replaceSkipping (c :: token) text skip s := by
  induction s generalizing skip with
  | nil =>
      cases skip <;> simp [replaceSkipping]
  | cons d rest inductionHypothesis =>
      cases skip with
      | succ skip =>
          exact inductionHypothesis skip
      | zero =>
          rw [replaceSkipping]
          split
          · intro inside
            exact inductionHypothesis _ (infix_of_infix_append noFirst inside)
          · next notHere =>
              intro inside
              rcases List.infix_cons_iff.mp inside with starts | later
              · obtain ⟨rfl, behind⟩ := List.cons_prefix_cons.mp starts
                refine notHere (List.isPrefixOf_iff_prefix.mpr ?_)
                exact
                  List.cons_prefix_cons.mpr
                    ⟨rfl, prefix_of_prefix_replaceSkipping parted.tail behind⟩
              · exact inductionHypothesis 0 later

/-! ### Erased tokens -/

/-- A text gets no longer when a token is erased from it. -/
theorem length_replaceSkipping_nil_le
    (skip : Nat) :
    (replaceSkipping token [] skip s).length ≤ s.length := by
  induction s generalizing skip with
  | nil =>
      cases skip <;> simp [replaceSkipping]
  | cons c rest inductionHypothesis =>
      cases skip with
      | succ skip =>
          exact Nat.le_succ_of_le (inductionHypothesis skip)
      | zero =>
          rw [replaceSkipping]
          split
          · exact Nat.le_succ_of_le (inductionHypothesis _)
          · exact Nat.succ_le_succ (inductionHypothesis 0)

/-- A text that holds a token gets shorter when the token is erased from it. -/
theorem length_replaceSkipping_nil_lt
    (nonempty : token ≠ [])
    (occurs : occursIn token s = true) :
    (replaceSkipping token [] 0 s).length < s.length := by
  induction s with
  | nil =>
      simp [occursIn, nonempty] at occurs
  | cons c rest inductionHypothesis =>
      rw [replaceSkipping]
      split
      · exact Nat.lt_succ_of_le (length_replaceSkipping_nil_le _)
      · next notHere =>
          rw [occursIn, Bool.eq_false_iff.mpr notHere] at occurs
          exact Nat.succ_lt_succ (inductionHypothesis occurs)

end Tokens

end PageScript.Text
