import Mathlib.Data.Bool.AllAny
import PageScript.Markup.Event
import PageScript.Markup.Tree
import PageScript.Proofs.Text.Run

namespace PageScript.Markup

/-!
# Trees that can be written

Writing loses nothing of a tree whose tags and attribute names are plain, whose
attributes are listed once, and whose texts are neither empty nor neighbours.  A
void element has no children, and inside a script or a style stands at most one
text, which does not look like an end tag.

An end tag without further parts is a name with blanks around it, up to its
closing mark.  The end tag of a script or a style ends the data before it, so a
text inside one of them is safe when no such tag starts in it.
-/

/-- The characters that start a plain name. -/
def nameLetters : List Char :=
  "abcdefghijklmnopqrstuvwxyz".toList

/-- The characters of a plain name. -/
def nameCharacters : List Char :=
  nameLetters ++ "0123456789-".toList

/-- A name is a small letter followed by small letters, digits and hyphens. -/
def IsPlainName (name : String) : Prop :=
  ∃ first rest,
    name.toList = first :: rest ∧
      first ∈ nameLetters ∧
      ∀ c ∈ rest, c ∈ nameCharacters

/-- An attribute is read under its name when nothing in it ends a name or has a small letter. -/
structure IsAttributeName (name : String) : Prop where
  starts :
    ∃ first rest,
      name.toList = first :: rest ∧
        startsAttributeName first = true ∧
        ∀ c ∈ rest, isAttributeNameChar c = true
  small : Text.lower name.toList = name.toList

/-- Whether a list of trees starts with a text. -/
def startsWithText : List Tree → Bool
  | .text _ :: _ => true
  | _ => false

/-- A text that is written as it is does not look like an end tag. -/
def IsRawText (data : String) : Prop :=
  data ≠ "" ∧ Text.occursIn ['<', '/'] data.toList = false

mutual

/-- Writing loses nothing of a tree. -/
def Tree.Writable : Tree → Prop
  | .text data => data ≠ ""
  | .element tag attributes children =>
      IsPlainName tag ∧
        (∀ name ∈ attributes.keys, IsPlainName name) ∧
        attributes.keys.Nodup ∧
        (isVoidTag tag = true → children = []) ∧
        (if isRawTag tag then
          children = [] ∨ ∃ data, children = [.text data] ∧ IsRawText data
        else
          TreesWritable children)

/-- Writing loses nothing of neighbouring trees. -/
def TreesWritable : List Tree → Prop
  | [] => True
  | tree :: rest =>
      tree.Writable ∧
        (startsWithText [tree] = true → startsWithText rest = false) ∧
        TreesWritable rest

end

/-! ## Plain names -/

/--
Whether a list of characters is a small letter with such characters behind it.
-/
def spellsPlainName : List Char → Bool
  | [] => false
  | first :: rest =>
      nameLetters.contains first && rest.all fun c => nameCharacters.contains c

/-- A name is plain exactly when it is spelled like one. -/
theorem spellsPlainName_iff
    {name : String} :
    spellsPlainName name.toList = true ↔ IsPlainName name := by
  rw [IsPlainName]
  cases name.toList with
  | nil =>
      exact ⟨nofun, nofun⟩
  | cons first rest =>
      rw [spellsPlainName, Bool.and_eq_true, List.contains_iff_mem,
        List.all_eq_true]
      simp only [List.contains_iff_mem]
      constructor
      · rintro ⟨letter, restPlain⟩
        exact ⟨first, rest, rfl, letter, restPlain⟩
      · rintro ⟨_, _, split, letter, restPlain⟩
        cases split
        exact ⟨letter, restPlain⟩

instance (name : String) : Decidable (IsPlainName name) :=
  decidable_of_iff _ spellsPlainName_iff

/--
A letter of a plain name is a Latin letter, and nothing else is special about
it.
-/
theorem of_mem_nameLetters :
    ∀ c ∈ nameLetters,
      Text.isLatinLetter c = true ∧
        c ∈ nameCharacters ∧
        startsAttributeName c = true :=
  List.all_iff_forall_prop.mp (by decide)

/-- The characters of a plain name go on every kind of name. -/
theorem of_mem_nameCharacters :
    ∀ c ∈ nameCharacters,
      isTagNameChar c = true ∧
        isEndTagNameChar c = true ∧
        isAttributeNameChar c = true :=
  List.all_iff_forall_prop.mp (by decide)

/-- The characters of a plain name are small already. -/
theorem lower_of_mem_nameCharacters :
    ∀ c ∈ nameCharacters,
      c ≠ 'Σ' ∧ c ≠ 'İ' ∧ Text.lowerChar c = c :=
  List.all_iff_forall_prop.mp (by decide)

/-- Small characters are kept in small letters. -/
theorem lowerAfter_of_nameCharacters
    {s : List Char}
    (plain : ∀ c ∈ s, c ∈ nameCharacters)
    (before : List Char) :
    Text.lowerAfter before s = s := by
  induction s generalizing before with
  | nil =>
      rfl
  | cons c rest inductionHypothesis =>
      obtain ⟨firstPlain, restPlain⟩ := List.forall_mem_cons.mp plain
      obtain ⟨notSigma, notDotted, small⟩ :=
        lower_of_mem_nameCharacters c firstPlain
      rw [Text.lowerAfter, if_neg notSigma, if_neg notDotted, small,
        inductionHypothesis restPlain]
      rfl

namespace IsPlainName

variable {name : String}

theorem characters
    (plain : IsPlainName name) :
    ∀ c ∈ name.toList, c ∈ nameCharacters := by
  obtain ⟨first, rest, split, letter, restPlain⟩ := plain
  rw [split]
  exact List.forall_mem_cons.mpr
    ⟨(of_mem_nameLetters first letter).2.1, restPlain⟩

theorem lower_eq
    (plain : IsPlainName name) :
    Text.lower name.toList = name.toList :=
  lowerAfter_of_nameCharacters plain.characters []

theorem isAttributeName
    (plain : IsPlainName name) :
    IsAttributeName name := by
  refine ⟨?_, plain.lower_eq⟩
  obtain ⟨first, rest, split, letter, restPlain⟩ := plain
  exact
    ⟨first, rest, split, (of_mem_nameLetters first letter).2.2,
      fun c member => (of_mem_nameCharacters c (restPlain c member)).2.2⟩

end IsPlainName

open Text (takeWhile_run_append dropWhile_run_append cutAt?_run)

/-! ## End tags without further parts -/

/-- The characters between `</` and `>` of an end tag: a name with blanks around it. -/
def SpellsEndTag (name inner : List Char) : Prop :=
  ∃ gap first others after,
    inner = gap ++ first :: (others ++ after) ∧
      (∀ c ∈ gap, Text.isBlank c = true) ∧
      Text.isLatinLetter first = true ∧
      (∀ c ∈ others, isEndTagNameChar c = true) ∧
      (∀ c ∈ after, Text.isBlank c = true) ∧
      Text.lower (first :: others) = name

/-- A character that takes part in markup: it starts or ends a tag. -/
def isMark (c : Char) : Bool :=
  c = '<' || c = '>'

/-- A test that no mark passes finds no mark. -/
theorem not_isMark_of_test
    {test : Char → Bool}
    (notLess : test '<' = false)
    (notGreater : test '>' = false)
    {c : Char}
    (passes : test c = true) :
    isMark c = false := by
  simp only [isMark, Bool.or_eq_false_iff, decide_eq_false_iff_not]
  constructor
  · rintro rfl
    rw [notLess] at passes
    cases passes
  · rintro rfl
    rw [notGreater] at passes
    cases passes

theorem not_isMark_of_isBlank
    {c : Char}
    (blank : Text.isBlank c = true) :
    isMark c = false :=
  not_isMark_of_test (by decide) (by decide) blank

theorem not_isMark_of_isEndTagNameChar
    {c : Char}
    (continues : isEndTagNameChar c = true) :
    isMark c = false :=
  not_isMark_of_test (by decide) (by decide) continues

theorem isEndTagNameChar_of_isLatinLetter
    {c : Char}
    (letter : Text.isLatinLetter c = true) :
    isEndTagNameChar c = true := by
  simp [isEndTagNameChar, letter]

/-- The characters of the names of end tags lie in the basic block and are not blank. -/
theorem of_isEndTagNameChar
    {c : Char}
    (continues : isEndTagNameChar c = true) :
    c.toNat < 0x80 ∧ Text.isBlank c = false := by
  have le_iff : ∀ a b : Char, a ≤ b ↔ a.toNat ≤ b.toNat :=
    fun _ _ => Iff.rfl
  simp only [isEndTagNameChar, Text.isLatinLetter, Text.isPlainDigit,
    Bool.or_eq_true, Bool.and_eq_true, decide_eq_true_eq, le_iff,
    ← Char.toNat_inj, Char.reduceToNat] at continues
  have basic : c.toNat < 0x80 := by
    omega
  refine ⟨basic, ?_⟩
  simp only [Text.isBlank, Text.isWhiteSpace, Bool.or_eq_false_iff,
    Bool.and_eq_false_iff, decide_eq_false_iff_not, le_iff, ← Char.toNat_inj,
    Char.reduceToNat]
  omega

namespace SpellsEndTag

variable {name inner : List Char}

/-- No tag starts or ends inside an end tag. -/
theorem not_isMark
    (spells : SpellsEndTag name inner) :
    ∀ c ∈ inner, isMark c = false := by
  obtain ⟨gap, first, others, after, rfl, gapBlank, letter, continued,
    afterBlank, -⟩ := spells
  simp only [List.forall_mem_append, List.forall_mem_cons]
  refine ⟨fun c member => not_isMark_of_isBlank (gapBlank c member), ?_, ?_, ?_⟩
  · exact not_isMark_of_isEndTagNameChar (isEndTagNameChar_of_isLatinLetter letter)
  · exact fun c member => not_isMark_of_isEndTagNameChar (continued c member)
  · exact fun c member => not_isMark_of_isBlank (afterBlank c member)

end SpellsEndTag

/-- A plain end tag that is read spells its name before a `>`. -/
theorem exists_of_plainEndTag?
    {s name rest : List Char}
    (read : plainEndTag? s = some (name, rest)) :
    ∃ inner, s = inner ++ '>' :: rest ∧ SpellsEndTag name inner := by
  obtain ⟨gap, gapBlank, split⟩ := Text.exists_blanks_trimStart s
  rw [plainEndTag?] at read
  split at read
  · cases read
  next first tail trimmed =>
  split at read
  · cases read
  next letter =>
  split at read
  · next rest' ends =>
      cases read
      obtain ⟨after, afterBlank, afterName⟩ :=
        Text.exists_blanks_trimStart (tail.dropWhile isEndTagNameChar)
      refine
        ⟨gap ++ first :: (tail.takeWhile isEndTagNameChar ++ after), ?_,
          gap, first, _, after, rfl, gapBlank, by simpa using letter,
          fun _ member => List.mem_takeWhile_imp member, afterBlank, rfl⟩
      have whole := @List.takeWhile_append_dropWhile _ isEndTagNameChar tail
      rw [afterName, ends] at whole
      rw [split, trimmed]
      conv_lhs => rw [← whole]
      simp only [List.append_assoc, List.cons_append]
  · cases read

/-- What spells a name before a `>` is read as a plain end tag. -/
theorem plainEndTag?_of_spells
    {name inner : List Char}
    (spells : SpellsEndTag name inner)
    (rest : List Char) :
    plainEndTag? (inner ++ '>' :: rest) = some (name, rest) := by
  obtain ⟨gap, first, others, after, rfl, gapBlank, letter, continued,
    afterBlank, rfl⟩ := spells
  have solid :=
    (of_isEndTagNameChar (isEndTagNameChar_of_isLatinLetter letter)).2
  -- The name ends at a blank or at the closing mark.
  have stops :
      ∀ c ∈ (after ++ '>' :: rest).head?, isEndTagNameChar c = false := by
    intro c isHead
    cases after with
    | nil =>
        cases isHead
        decide
    | cons blank others =>
        cases isHead
        by_contra continues
        have isSolid :=
          (of_isEndTagNameChar (Bool.of_not_eq_false continues)).2
        rw [afterBlank c List.mem_cons_self] at isSolid
        cases isSolid
  have front :
      Text.trimStart (gap ++ first :: (others ++ (after ++ '>' :: rest))) =
        first :: (others ++ (after ++ '>' :: rest)) :=
    Text.trimStart_run_append gapBlank (by simpa using solid)
  have finish : Text.trimStart (after ++ '>' :: rest) = '>' :: rest :=
    Text.trimStart_run_append afterBlank fun c isHead => by
      cases isHead
      decide
  simp only [List.append_assoc, List.cons_append]
  rw [plainEndTag?, front]
  dsimp only
  rw [letter, dropWhile_run_append continued stops,
    takeWhile_run_append continued stops, finish]
  rfl

/-- An end tag is read exactly when it is spelled out up to its closing mark. -/
theorem plainEndTag?_eq_some_iff
    {s name rest : List Char} :
    plainEndTag? s = some (name, rest) ↔
      ∃ inner, s = inner ++ '>' :: rest ∧ SpellsEndTag name inner := by
  constructor
  · exact exists_of_plainEndTag?
  · rintro ⟨inner, rfl, spells⟩
    exact plainEndTag?_of_spells spells rest

/-- A plain end tag is read up to its `>`. -/
theorem plainEndTag?_written
    {tag : String}
    (plain : IsPlainName tag)
    (rest : List Char) :
    plainEndTag? (tag.toList ++ '>' :: rest) = some (tag.toList, rest) := by
  have small := plain.lower_eq
  obtain ⟨first, others, split, letter, othersPlain⟩ := plain
  refine plainEndTag?_eq_some_iff.mpr ⟨tag.toList, rfl, ?_⟩
  refine
    ⟨[], first, others, [], ?_, List.forall_mem_nil _,
      (of_mem_nameLetters first letter).1,
      fun c member => (of_mem_nameCharacters c (othersPlain c member)).2.1,
      List.forall_mem_nil _, ?_⟩
  · rw [List.append_nil]
    exact split
  · rw [← split]
    exact small

/-! ## End tags of scripts and styles -/

/-- An element without content is neither a script nor a style. -/
theorem isRawTag_of_isVoidTag
    {tag : String}
    (void : isVoidTag tag = true) :
    isRawTag tag = false := by
  rw [isRawTag, Bool.or_eq_false_iff, beq_eq_false_iff_ne, beq_eq_false_iff_ne]
  constructor
  · rintro rfl
    revert void
    decide
  · rintro rfl
    revert void
    decide

/-- The mode after a start tag: scripts and styles are read as they are. -/
def modeAfter (tag : String) : RawMode :=
  if isRawTag tag then some tag.toList else none

/-- The end tag of a script or a style with the given name starts here, after its `<`. -/
def closesRaw (name : List Char) : List Char → Bool
  | '/' :: rest => (plainEndTag? rest).any fun found => found.1 = name
  | _ => false

/-- Whether the end tag of a script or a style with the given name starts inside a text. -/
def holdsEndTag (name : List Char) : List Char → Bool
  | [] => false
  | c :: rest => (c = '<' && closesRaw name rest) || holdsEndTag name rest

section EndTags

variable {name s rest : List Char}

theorem closesRaw_iff :
    closesRaw name s = true ↔
      ∃ inner rest, s = '/' :: (inner ++ '>' :: rest) ∧ SpellsEndTag name inner := by
  constructor
  · intro closes
    unfold closesRaw at closes
    split at closes
    · next after =>
        cases found : plainEndTag? after with
        | none =>
            rw [found] at closes
            cases closes
        | some read =>
            rw [found] at closes
            obtain rfl := of_decide_eq_true closes
            obtain ⟨inner, rfl, spells⟩ := plainEndTag?_eq_some_iff.mp found
            exact ⟨inner, read.2, rfl, spells⟩
    · cases closes
  · rintro ⟨inner, after, rfl, spells⟩
    rw [closesRaw, plainEndTag?_eq_some_iff.mpr ⟨inner, rfl, spells⟩]
    simp

/-- An end tag is the same whatever follows it. -/
theorem closesRaw_append
    (closes : closesRaw name s = true)
    (more : List Char) :
    closesRaw name (s ++ more) = true := by
  obtain ⟨inner, rest, rfl, spells⟩ := closesRaw_iff.mp closes
  refine closesRaw_iff.mpr ⟨inner, rest ++ more, ?_, spells⟩
  simp only [List.append_assoc, List.cons_append]

/-- A text without marks and a `>` lie before the first `<`. -/
theorem exists_of_append_eq
    {inner front after back : List Char}
    (unmarked : ∀ c ∈ inner, isMark c = false)
    (same : inner ++ '>' :: after = front ++ '<' :: back) :
    ∃ between, front = inner ++ '>' :: between ∧ after = between ++ '<' :: back := by
  induction inner generalizing front with
  | nil =>
      cases front <;> cases same
      exact ⟨_, rfl, rfl⟩
  | cons c others inductionHypothesis =>
      obtain ⟨first, othersUnmarked⟩ := List.forall_mem_cons.mp unmarked
      cases front with
      | nil =>
          cases same
          cases first
      | cons d tail =>
          obtain ⟨rfl, restSame⟩ := List.cons.inj same
          obtain ⟨between, rfl, split⟩ :=
            inductionHypothesis othersUnmarked restSame
          exact ⟨between, rfl, split⟩

/-- An end tag ends before the next `<`. -/
theorem closesRaw_of_append
    {more : List Char}
    (closes : closesRaw name (s ++ '<' :: more) = true) :
    closesRaw name s = true := by
  obtain ⟨inner, rest, split, spells⟩ := closesRaw_iff.mp closes
  have unmarked : ∀ c ∈ '/' :: inner, isMark c = false :=
    List.forall_mem_cons.mpr ⟨by decide, spells.not_isMark⟩
  obtain ⟨between, rfl, -⟩ := exists_of_append_eq unmarked split.symm
  exact closesRaw_iff.mpr ⟨inner, between, rfl, spells⟩

/-- A text holds an end tag exactly when one starts after a `<` in it. -/
theorem holdsEndTag_eq_false_iff :
    holdsEndTag name s = false ↔
      ∀ before after, s = before ++ '<' :: after → closesRaw name after = false := by
  induction s with
  | nil =>
      simp [holdsEndTag]
  | cons c others inductionHypothesis =>
      rw [holdsEndTag, Bool.or_eq_false_iff, inductionHypothesis]
      constructor
      · rintro ⟨notHere, notLater⟩ before after split
        rcases before with _ | ⟨d, before⟩
        · cases split
          simpa using notHere
        · cases split
          exact notLater before after rfl
      · intro nowhere
        refine ⟨?_, fun before after split => ?_⟩
        · rw [Bool.and_eq_false_imp]
          intro isLess
          obtain rfl := of_decide_eq_true isLess
          exact nowhere [] others rfl
        · exact nowhere (c :: before) after (congrArg (c :: ·) split)

/-- What holds no end tag holds none further on. -/
theorem holdsEndTag_of_append
    {before : List Char}
    (noEnd : holdsEndTag name (before ++ s) = false) :
    holdsEndTag name s = false := by
  rw [holdsEndTag_eq_false_iff] at noEnd ⊢
  rintro front back rfl
  exact noEnd (before ++ front) back (by simp)

end EndTags

end PageScript.Markup
