import Mathlib.Data.Bool.AllAny
import PageScript.Text.SameLetter

namespace PageScript.Text

/-!
# Lower-cased texts

Every character of a lower-cased text is small: lower-casing it again changes
nothing.  A small letter that replaces a capital is no blank and comes after all
marks of the basic block that end a name.  Comparing without regard to case takes
four characters beyond the basic block for letters of it.
-/

/-! ## The table of capitals -/

namespace CapitalRun

/-- The small letter of the first capital. -/
def firstLower (run : CapitalRun) : Nat :=
  run.first + run.lastLower - run.last

/-- A code point is one of the capitals. -/
def Contains (run : CapitalRun) (code : Nat) : Prop :=
  run.first ≤ code ∧ code ≤ run.last ∧ (code - run.first) % run.step = 0

instance (run : CapitalRun) (code : Nat) : Decidable (run.Contains code) :=
  inferInstanceAs (Decidable (_ ∧ _ ∧ _))

/--
The small letters of a run lie before or after all capitals of another one, or
between every two of them.
-/
def avoids (run other : CapitalRun) : Bool :=
  Nat.blt run.lastLower other.first || (Nat.blt other.last run.firstLower ||
    ((Nat.beq other.step 2 || Nat.beq other.first other.last) &&
      ((Nat.beq run.step 2 || Nat.beq run.first run.last) &&
        Nat.beq ((run.firstLower + other.first) % 2) 1)))

/-- The small letters of a run are letters, beyond the basic block or the letter k. -/
def wellPlaced (run : CapitalRun) : Bool :=
  Nat.ble run.last (run.first + run.lastLower) &&
    ((Nat.ble 0x80 run.firstLower ||
        (Nat.beq run.first run.last && Nat.beq run.lastLower 0x6B)) &&
      (Nat.blt run.lastLower 0xD800 ||
        (Nat.blt 0xDFFF run.firstLower && Nat.blt run.lastLower 0x110000)))

variable {run other : CapitalRun} {code : Nat}

/-- The small letter of a capital is no capital of a run that is avoided. -/
theorem not_contains_of_avoids
    (contains : run.Contains code)
    (placed : run.wellPlaced = true)
    (avoids : run.avoids other = true) :
    ¬ other.Contains (code + run.lastLower - run.last) := by
  obtain ⟨afterFirst, beforeLast, inStep⟩ := contains
  simp only [wellPlaced, CapitalRun.avoids, firstLower, Bool.and_eq_true,
    Bool.or_eq_true, Nat.blt_eq, Nat.ble_eq, Nat.beq_eq] at placed avoids
  rintro ⟨afterOther, beforeOther, inOtherStep⟩
  rcases avoids with before | after | ⟨otherShape, shape, odd⟩
  · omega
  · omega
  -- Both the small letter and the capital have a known parity.
  · have parity : (code - run.first) % 2 = 0 := by
      rcases shape with two | single
      · rwa [two] at inStep
      · omega
    have otherParity :
        (code + run.lastLower - run.last - other.first) % 2 = 0 := by
      rcases otherShape with two | single
      · rwa [two] at inOtherStep
      · omega
    omega

end CapitalRun

/-- What no small letter of the table is: a capital, a blank, or one of two special capitals. -/
def obstacles : List CapitalRun :=
  capitalRuns ++
    (blankRanges.map fun range => ⟨range.1, range.2, 1, range.2⟩) ++
    [⟨0x03A3, 0x03A3, 1, 0x03A3⟩, ⟨0x0130, 0x0130, 1, 0x0130⟩]

theorem capitalRuns_avoid_obstacles :
    ∀ run ∈ capitalRuns,
      run.wellPlaced = true ∧ ∀ other ∈ obstacles, run.avoids other = true := by
  have table :
      (capitalRuns.all fun run =>
        run.wellPlaced && obstacles.all run.avoids) = true := by
    decide +kernel
  intro run member
  have checked := List.all_eq_true.mp table run member
  rw [Bool.and_eq_true, List.all_eq_true] at checked
  exact checked

/-! ## Small characters -/

/-- The code point of a character that a valid code point makes. -/
theorem toNat_ofNat_of_isValidChar
    {code : Nat}
    (valid : code.isValidChar) :
    (Char.ofNat code).toNat = code := by
  rw [Char.ofNat, dif_pos valid]
  rfl

/-- Lower-casing changes nothing about a character. -/
structure IsSmall (c : Char) : Prop where
  notSigma : c ≠ 'Σ'
  notDotted : c ≠ 'İ'
  kept : lowerChar c = c

/-- A letter that replaces a capital. -/
structure IsNewLetter (c : Char) : Prop where
  small : IsSmall c
  solid : isBlank c = false
  afterMarks : 'a' ≤ c

/-- The small letters of the basic block are new letters. -/
theorem isNewLetter_of_basic
    {c : Char}
    (afterFirst : 'a' ≤ c)
    (beforeLast : c ≤ 'z') :
    IsNewLetter c := by
  have le_iff : ∀ a b : Char, a ≤ b ↔ a.toNat ≤ b.toNat :=
    fun _ _ => Iff.rfl
  simp only [le_iff, Char.reduceToNat] at afterFirst beforeLast
  refine ⟨⟨?_, ?_, ?_⟩, ?_, afterFirst⟩
  · rintro rfl
    simp at beforeLast
  · rintro rfl
    simp at beforeLast
  · rw [lowerChar, if_neg, if_pos]
    · omega
    · simp only [le_iff, Char.reduceToNat]
      omega
  · simp only [isBlank, isWhiteSpace, Bool.or_eq_false_iff,
      Bool.and_eq_false_iff, decide_eq_false_iff_not, le_iff, ← Char.toNat_inj,
      Char.reduceToNat]
    omega

/-- A character beyond the basic block that meets no obstacle is a new letter. -/
theorem isNewLetter_of_apart
    {c : Char}
    (beyond : 0x80 ≤ c.toNat)
    (apart : ∀ other ∈ obstacles, ¬ other.Contains c.toNat) :
    IsNewLetter c := by
  have le_iff : ∀ a b : Char, a ≤ b ↔ a.toNat ≤ b.toNat :=
    fun _ _ => Iff.rfl
  have notPoint :
      ∀ {code : Nat},
        ⟨code, code, 1, code⟩ ∈ obstacles → c.toNat ≠ code := by
    rintro code member same
    refine apart _ member ⟨Nat.le_of_eq same.symm, Nat.le_of_eq same, ?_⟩
    exact Nat.mod_one _
  refine ⟨⟨?_, ?_, ?_⟩, ?_, ?_⟩
  · rintro rfl
    exact
      @notPoint 0x03A3 (List.mem_append_right _ List.mem_cons_self) (by decide)
  · rintro rfl
    exact
      @notPoint 0x0130
        (List.mem_append_right _ (List.mem_cons_of_mem _ List.mem_cons_self))
        (by decide)
  · have noRun :
        (capitalRuns.find? fun run =>
          run.first ≤ c.toNat && c.toNat ≤ run.last &&
            (c.toNat - run.first) % run.step == 0) = none := by
      refine List.find?_eq_none.mpr fun run member found => ?_
      refine apart run ?_ ?_
      · exact List.mem_append_left _ (List.mem_append_left _ member)
      · simpa [CapitalRun.Contains, and_assoc] using found
    rw [lowerChar, if_neg, if_neg, noRun]
    · omega
    · simp only [le_iff, Char.reduceToNat]
      omega
  · have notCovered : covers blankRanges c = false := by
      refine List.any_eq_false.mpr fun range member inRange => ?_
      simp only [Bool.and_eq_true, decide_eq_true_eq] at inRange
      refine apart ⟨range.1, range.2, 1, range.2⟩ ?_ ?_
      · refine List.mem_append_left _ (List.mem_append_right _ ?_)
        exact List.mem_map_of_mem member
      · exact ⟨inRange.1, inRange.2, Nat.mod_one _⟩
    simp only [isBlank, isWhiteSpace, notCovered, Bool.and_false,
      Bool.or_false, Bool.or_eq_false_iff, Bool.and_eq_false_iff,
      decide_eq_false_iff_not, le_iff, ← Char.toNat_inj, Char.reduceToNat]
    omega
  · simp only [le_iff, Char.reduceToNat]
    omega

/-- The code point of the small letter of a capital in the table. -/
theorem CapitalRun.toNat_small
    {run : CapitalRun}
    {code : Nat}
    (placed : run.wellPlaced = true)
    (contains : run.Contains code) :
    (Char.ofNat (code + run.lastLower - run.last)).toNat =
      code + run.lastLower - run.last := by
  obtain ⟨afterFirst, beforeLast, -⟩ := contains
  simp only [wellPlaced, firstLower, Bool.and_eq_true, Bool.or_eq_true, Nat.blt_eq,
    Nat.ble_eq, Nat.beq_eq] at placed
  obtain ⟨-, -, low | ⟨high, last⟩⟩ := placed
  · exact toNat_ofNat_of_isValidChar (.inl (by omega))
  · exact toNat_ofNat_of_isValidChar (.inr ⟨by omega, by omega⟩)

/-- The small letter of a capital in the table is a new letter. -/
theorem isNewLetter_of_mem_capitalRuns
    {run : CapitalRun}
    (member : run ∈ capitalRuns)
    {code : Nat}
    (contains : run.Contains code) :
    IsNewLetter (Char.ofNat (code + run.lastLower - run.last)) := by
  obtain ⟨placed, avoids⟩ := capitalRuns_avoid_obstacles run member
  have codeIs := CapitalRun.toNat_small placed contains
  have bounds := placed
  obtain ⟨afterFirst, beforeLast, -⟩ := id contains
  simp only [CapitalRun.wellPlaced, CapitalRun.firstLower, Bool.and_eq_true,
    Bool.or_eq_true, Nat.blt_eq, Nat.ble_eq, Nat.beq_eq] at bounds
  obtain ⟨enough, place, -⟩ := bounds
  rcases place with beyond | ⟨single, letter⟩
  · refine isNewLetter_of_apart (by omega) fun other obstacle => ?_
    rw [codeIs]
    exact
      CapitalRun.not_contains_of_avoids contains placed (avoids other obstacle)
  · have isK : code + run.lastLower - run.last = 'k'.toNat := by
      simp only [Char.reduceToNat]
      omega
    rw [isK, Char.ofNat_toNat]
    exact isNewLetter_of_basic (by decide) (by decide)

/-- A character beyond the basic block stays, or it is a capital of the table. -/
theorem lowerChar_of_beyond
    {c : Char}
    (beyond : 0x80 ≤ c.toNat) :
    lowerChar c = c ∨
      ∃ run ∈ capitalRuns,
        run.Contains c.toNat ∧
          lowerChar c = Char.ofNat (c.toNat + run.lastLower - run.last) := by
  have notCapital : ¬('A' ≤ c ∧ c ≤ 'Z') := by
    rintro ⟨-, beforeLast⟩
    have inBlock : c.toNat ≤ 'Z'.toNat := beforeLast
    simp only [Char.reduceToNat] at inBlock
    omega
  rw [lowerChar, if_neg notCapital, if_neg (Nat.not_lt.mpr beyond)]
  cases found :
      capitalRuns.find? fun run =>
        run.first ≤ c.toNat && c.toNat ≤ run.last &&
          (c.toNat - run.first) % run.step == 0 with
  | none =>
      exact .inl rfl
  | some run =>
      refine .inr ⟨run, List.mem_of_find?_eq_some found, ?_, rfl⟩
      simpa [CapitalRun.Contains, and_assoc] using List.find?_some found

/-- Apart from the two special capitals, a character stays or becomes a new letter. -/
theorem lowerChar_cases
    {c : Char}
    (notSigma : c ≠ 'Σ')
    (notDotted : c ≠ 'İ') :
    lowerChar c = c ∧ IsSmall c ∨ IsNewLetter (lowerChar c) := by
  have le_iff : ∀ a b : Char, a ≤ b ↔ a.toNat ≤ b.toNat :=
    fun _ _ => Iff.rfl
  have stays :
      lowerChar c = c → lowerChar c = c ∧ IsSmall c ∨ IsNewLetter (lowerChar c) :=
    fun kept => .inl ⟨kept, notSigma, notDotted, kept⟩
  by_cases capital : 'A' ≤ c ∧ c ≤ 'Z'
  · have code : lowerChar c = Char.ofNat (c.toNat + 32) := by
      rw [lowerChar, if_pos capital]
    simp only [le_iff, Char.reduceToNat] at capital
    have codeIs : (Char.ofNat (c.toNat + 32)).toNat = c.toNat + 32 :=
      toNat_ofNat_of_isValidChar (.inl (by omega))
    rw [code]
    refine .inr (isNewLetter_of_basic ?_ ?_)
    · simp only [le_iff, codeIs, Char.reduceToNat]
      omega
    · simp only [le_iff, codeIs, Char.reduceToNat]
      omega
  by_cases basic : c.toNat < 0x80
  · exact stays (by rw [lowerChar, if_neg capital, if_pos basic])
  rcases lowerChar_of_beyond (Nat.not_lt.mp basic) with kept | ⟨run, member, contains, small⟩
  · exact stays kept
  · rw [small]
    exact .inr (isNewLetter_of_mem_capitalRuns member contains)

/-- A character and its small letter are the same letter. -/
theorem sameLetter_lowerChar
    {c : Char}
    (notSigma : c ≠ 'Σ')
    (notDotted : c ≠ 'İ') :
    sameLetter (lowerChar c) c = true := by
  have small : lowerChar c ≠ 'İ' ∧ lowerChar (lowerChar c) = lowerChar c := by
    rcases lowerChar_cases notSigma notDotted with ⟨kept, -⟩ | new
    · rw [kept]
      exact ⟨notDotted, kept⟩
    · exact ⟨new.small.notDotted, new.small.kept⟩
  simp [sameLetter, letterOf, small, notDotted]

/-! ## Letters of the basic block -/

/-- The characters beyond the basic block that are compared like a letter of it. -/
def strayLetters : List (Char × Char) :=
  [('i', 'İ'), ('i', 'ı'), ('s', 'ſ'), ('k', '\u212a')]

/--
A character differs in case only from a character of the basic block: both have the same
small letter, or it is one of the stray letters.
-/
def IsVariant (basic c : Char) : Prop :=
  c.toLower = basic.toLower ∨ (basic.toLower, c) ∈ strayLetters

theorem basic_of_table
    (holds : Char → Prop)
    (table : ∀ code < 0x80, holds (Char.ofNat code))
    {c : Char}
    (basic : c.toNat < 0x80) :
    holds c := by
  have checked := table c.toNat basic
  rwa [Char.ofNat_toNat] at checked

theorem letterOf_of_basic
    {c : Char}
    (basic : c.toNat < 0x80) :
    letterOf c = c.toLower ∧ c.toLower.toNat < 0x80 :=
  basic_of_table (fun c => letterOf c = c.toLower ∧ c.toLower.toNat < 0x80)
    (by decide +kernel) basic

/-- Only one run of the table has its small letter in the basic block. -/
theorem capitalRuns_reach :
    ∀ run ∈ capitalRuns,
      (0x80 ≤ run.firstLower ∨ run.first = 0x212A ∧ run.last = 0x212A) ∧
        ∀ code ∈ [0x0131, 0x017F], code < run.firstLower ∨ run.lastLower < code := by
  decide +kernel

/-- Only two variants are compared like letters of the basic block. -/
theorem letterVariants_reach :
    ∀ entry ∈ letterVariants,
      0x80 ≤ entry.2 ∧ entry.2.isValidChar ∨
        entry = (0x0131, 'i'.toNat) ∨ entry = (0x017F, 's'.toNat) := by
  decide +kernel

/--
The small letter of a character beyond the basic block is beyond it too, unless the
character is the sign for Kelvin.  Two of the variants are small letters of themselves alone.
-/
theorem lowerChar_reach
    {c : Char}
    (beyond : 0x80 ≤ c.toNat) :
    c = '\u212a' ∨
      0x80 ≤ (lowerChar c).toNat ∧
        ∀ code ∈ [0x0131, 0x017F], (lowerChar c).toNat = code → lowerChar c = c := by
  rcases lowerChar_of_beyond beyond with kept | ⟨run, member, contains, small⟩
  · rw [kept]
    exact .inr ⟨beyond, fun _ _ _ => rfl⟩
  · obtain ⟨place, reach⟩ := capitalRuns_reach run member
    have code := CapitalRun.toNat_small (capitalRuns_avoid_obstacles run member).1 contains
    obtain ⟨afterFirst, beforeLast, -⟩ := contains
    rw [small, code]
    rcases place with high | ⟨first, last⟩
    · refine .inr ⟨?_, fun variant known same => ?_⟩
      · rw [CapitalRun.firstLower] at high
        omega
      · have outside := reach variant known
        rw [CapitalRun.firstLower] at outside
        omega
    · refine .inl (Char.toNat_inj.mp ?_)
      change c.toNat = 0x212A
      omega

/-- Beyond the basic block, only the stray letters are compared like a letter of it. -/
theorem letterOf_eq_basic_iff
    {basic c : Char}
    (isBasic : basic.toNat < 0x80)
    (beyond : 0x80 ≤ c.toNat) :
    letterOf c = basic ↔ (basic, c) ∈ strayLetters := by
  constructor
  · intro same
    by_cases dotted : c = 'İ'
    · rw [dotted] at same ⊢
      rw [← same]
      decide
    rcases lowerChar_reach beyond with rfl | ⟨high, alone⟩
    · rw [← same]
      decide +kernel
    rw [letterOf, if_neg dotted, if_neg (Nat.not_lt.mpr high)] at same
    split at same
    · next code found =>
        obtain ⟨before, after, division, -⟩ := List.lookup_eq_some_iff.mp found
        have entry : ((lowerChar c).toNat, code) ∈ letterVariants := by
          rw [division]
          exact List.mem_append_right _ List.mem_cons_self
        rcases letterVariants_reach _ entry with ⟨codeBeyond, valid⟩ | isI | isS
        · rw [← same, toNat_ofNat_of_isValidChar valid] at isBasic
          exact absurd isBasic (Nat.not_lt.mpr codeBeyond)
        · obtain ⟨variant, rfl⟩ := Prod.mk.inj isI
          rw [alone _ (by simp) variant] at variant
          obtain rfl : c = 'ı' := Char.toNat_inj.mp variant
          rw [← same]
          decide
        · obtain ⟨variant, rfl⟩ := Prod.mk.inj isS
          rw [alone _ (by simp) variant] at variant
          obtain rfl : c = 'ſ' := Char.toNat_inj.mp variant
          rw [← same]
          decide
    · rw [same] at high
      omega
  · intro stray
    have table : ∀ entry ∈ strayLetters, letterOf entry.2 = entry.1 := by
      decide +kernel
    exact table _ stray

/-- Comparing without regard to case, spelled out for characters of the basic block. -/
theorem sameLetter_iff_of_basic
    {basic c : Char}
    (isBasic : basic.toNat < 0x80) :
    sameLetter basic c = true ↔ IsVariant basic c := by
  obtain ⟨letter, small⟩ := letterOf_of_basic isBasic
  rw [sameLetter, beq_iff_eq, letter, IsVariant]
  by_cases inBlock : c.toNat < 0x80
  · have strayBeyond : ∀ entry ∈ strayLetters, 0x80 ≤ entry.2.toNat := by
      decide +kernel
    rw [(letterOf_of_basic inBlock).1, eq_comm (a := c.toLower)]
    refine ⟨.inl, fun variant => variant.resolve_right fun stray => ?_⟩
    have beyond := strayBeyond _ stray
    dsimp only at beyond
    omega
  · have beyond := Nat.not_lt.mp inBlock
    have kept : c.toLower = c := by
      refine dif_neg fun capital => ?_
      have inBasic : c.toNat ≤ 'Z'.toNat := capital.2
      simp only [Char.reduceToNat] at inBasic
      omega
    rw [eq_comm, letterOf_eq_basic_iff small beyond, kept]
    refine ⟨.inr, fun variant => variant.resolve_left ?_⟩
    rintro rfl
    omega

/-! ## Small texts -/

/-- What a character becomes in its place. -/
def smallLetters (before : List Char) (c : Char) (rest : List Char) : List Char :=
  if c = 'Σ' then
    [if startsCased before && !startsCased rest then 'ς' else 'σ']
  else if c = 'İ' then
    ['i', '\u0307']
  else
    [lowerChar c]

theorem lowerAfter_cons
    (before : List Char)
    (c : Char)
    (rest : List Char) :
    lowerAfter before (c :: rest) =
      smallLetters before c rest ++ lowerAfter (c :: before) rest :=
  rfl

/-- A character becomes itself, if it is small, or new letters. -/
theorem smallLetters_cases
    (before : List Char)
    (c : Char)
    (rest : List Char) :
    smallLetters before c rest = [c] ∧ IsSmall c ∨
      smallLetters before c rest ≠ [] ∧
        ∀ d ∈ smallLetters before c rest, IsNewLetter d := by
  by_cases sigma : c = 'Σ'
  · refine .inr ⟨by simp [smallLetters, sigma], ?_⟩
    rw [smallLetters, if_pos sigma]
    refine List.forall_mem_singleton.mpr ?_
    split
    · exact isNewLetter_of_apart (by decide) (by decide +kernel)
    · exact isNewLetter_of_apart (by decide) (by decide +kernel)
  by_cases dotted : c = 'İ'
  · refine .inr ⟨by simp [smallLetters, dotted], ?_⟩
    rw [smallLetters, if_neg sigma, if_pos dotted]
    refine List.forall_mem_cons.mpr ⟨?_, List.forall_mem_singleton.mpr ?_⟩
    · exact isNewLetter_of_basic (by decide) (by decide)
    · exact isNewLetter_of_apart (by decide) (by decide +kernel)
  rw [smallLetters, if_neg sigma, if_neg dotted]
  rcases lowerChar_cases sigma dotted with ⟨kept, small⟩ | new
  · exact .inl ⟨congrArg (fun d => [d]) kept, small⟩
  · exact .inr ⟨List.cons_ne_nil _ _, List.forall_mem_singleton.mpr new⟩

/-- Small characters are kept when a text is lower-cased. -/
theorem lowerAfter_of_small
    {s : List Char}
    (small : ∀ c ∈ s, IsSmall c)
    (before : List Char) :
    lowerAfter before s = s := by
  induction s generalizing before with
  | nil =>
      rfl
  | cons c rest inductionHypothesis =>
      obtain ⟨first, restSmall⟩ := List.forall_mem_cons.mp small
      rw [lowerAfter_cons, smallLetters, if_neg first.notSigma,
        if_neg first.notDotted, first.kept, inductionHypothesis restSmall]
      rfl

/-- A lower-cased text has small characters, which are its own or new letters. -/
theorem of_mem_lowerAfter
    {s : List Char}
    {before : List Char} :
    ∀ d ∈ lowerAfter before s, IsSmall d ∧ (d ∈ s ∨ IsNewLetter d) := by
  induction s generalizing before with
  | nil =>
      exact List.forall_mem_nil _
  | cons c rest inductionHypothesis =>
      rw [lowerAfter_cons]
      refine List.forall_mem_append.mpr ⟨?_, ?_⟩
      · rcases smallLetters_cases before c rest with ⟨kept, small⟩ | ⟨-, new⟩
        · rw [kept]
          exact
            List.forall_mem_singleton.mpr
              ⟨small, .inl List.mem_cons_self⟩
        · exact fun d member => ⟨(new d member).small, .inr (new d member)⟩
      · intro d member
        obtain ⟨small, origin⟩ := inductionHypothesis d member
        exact ⟨small, origin.imp_left (List.mem_cons_of_mem c)⟩

/-- Lower-casing twice is lower-casing once. -/
theorem lower_lower
    (s : List Char) :
    lower (lower s) = lower s :=
  lowerAfter_of_small (fun d member => (of_mem_lowerAfter d member).1) []

/-- A text that starts with a character starts with it or a new letter in lower case. -/
theorem exists_lower_cons
    (c : Char)
    (rest : List Char) :
    ∃ d others,
      lower (c :: rest) = d :: others ∧
        (d = c ∨ IsNewLetter d) ∧
        ∀ e ∈ others, e ∈ rest ∨ IsNewLetter e := by
  have later :
      ∀ e ∈ lowerAfter [c] rest, e ∈ rest ∨ IsNewLetter e :=
    fun e member => (of_mem_lowerAfter e member).2
  rw [lower, lowerAfter_cons]
  rcases smallLetters_cases [] c rest with ⟨kept, -⟩ | ⟨nonempty, new⟩
  · rw [kept]
    exact ⟨c, _, rfl, .inl rfl, later⟩
  · obtain ⟨d, more, shape⟩ := List.exists_cons_of_ne_nil nonempty
    rw [shape] at new ⊢
    obtain ⟨first, moreNew⟩ := List.forall_mem_cons.mp new
    refine ⟨d, _, rfl, .inr first, List.forall_mem_append.mpr ⟨?_, later⟩⟩
    exact fun e member => .inr (moreNew e member)

end PageScript.Text
