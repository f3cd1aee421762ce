import Mathlib.Data.List.Forall2
import PageScript.Proofs.Text.LowerCase
import PageScript.Proofs.Text.Run
import PageScript.Script.Block

namespace PageScript.Script

/-!
# The first block of a page

An opening is a tag name between angle brackets, capitals and small letters taken as the
same, with a blank and anything but the closing bracket behind the name or with nothing
there.  A closing is the end tag of this name, with blanks behind the name or without.  The
block of a page is what stands between the first opening that a closing follows and the
nearest closing behind it, and a page has no block exactly when no opening is followed by a
closing.
-/

/-! ## Tags -/

/-- A text is a tag name, whatever letters are capitals. -/
def Names (tag name : List Char) : Prop :=
  List.Forall₂ Text.IsVariant tag name

/-- An opening tag, from one angle bracket to the other. -/
inductive IsOpening (tag : List Char) : List Char → Prop where
  /-- The name alone. -/
  | bare {name : List Char} :
      Names tag name →
      IsOpening tag ('<' :: (name ++ ['>']))
  /-- The name, a blank and characters up to the first closing bracket. -/
  | spaced {name attributes : List Char} {blank : Char} :
      Names tag name →
      Text.isBlank blank = true →
      '>' ∉ attributes →
      IsOpening tag ('<' :: (name ++ blank :: (attributes ++ ['>'])))

/-- A closing tag, from one angle bracket to the other. -/
inductive IsClosing (tag : List Char) : List Char → Prop where
  | named {name blanks : List Char} :
      Names tag name →
      (∀ c ∈ blanks, Text.isBlank c = true) →
      IsClosing tag ('<' :: '/' :: (name ++ (blanks ++ ['>'])))

/-- A page has an opening, and a closing somewhere behind it. -/
structure Encloses (tag page before opening between closing after : List Char) : Prop where
  divided :
    page = before ++ (opening ++ (between ++ (closing ++ after)))
  opens :
    IsOpening tag opening
  closes :
    IsClosing tag closing

/--
The block of a page: no opening with a closing behind it starts earlier, and no closing
starts between this opening and this closing.
-/
structure IsFirstBlock (tag page before opening block closing after : List Char) : Prop
    extends Encloses tag page before opening block closing after where
  first :
    ∀ front other between finish back : List Char,
      Encloses tag page front other between finish back →
        before.length ≤ front.length
  nearest :
    ∀ between finish back : List Char,
      block ++ (closing ++ after) = between ++ (finish ++ back) →
        IsClosing tag finish →
          block.length ≤ between.length

/-! ## First places -/

/-- The first place of a text at which what follows has a property. -/
structure IsFirstPlace (holds : List Char → Prop) (s before rest : List Char) : Prop where
  divided :
    s = before ++ rest
  here :
    holds rest
  first :
    ∀ front back : List Char,
      s = front ++ back → holds back → before.length ≤ front.length

section Places

variable {holds : List Char → Prop} {c : Char} {s before rest : List Char}

theorem IsFirstPlace.unique
    {front back : List Char}
    (place : IsFirstPlace holds s before rest)
    (other : IsFirstPlace holds s front back) :
    before = front ∧ rest = back := by
  have sameLength : before.length = front.length :=
    Nat.le_antisymm (place.first _ _ other.divided other.here)
      (other.first _ _ place.divided place.here)
  exact List.append_inj (place.divided.symm.trans other.divided) sameLength

/-- A text that has the property itself has its first place in front. -/
theorem isFirstPlace_iff_of_holds
    (here : holds s) :
    IsFirstPlace holds s before rest ↔ before = [] ∧ rest = s := by
  have start : IsFirstPlace holds s [] s :=
    ⟨rfl, here, fun _ _ _ _ => Nat.zero_le _⟩
  constructor
  · exact fun place => place.unique start
  · rintro ⟨rfl, rfl⟩
    exact start

/-- A text without the property has its first place behind its first character. -/
theorem isFirstPlace_cons_iff
    (absent : ¬ holds (c :: s)) :
    IsFirstPlace holds (c :: s) before rest ↔
      ∃ others, before = c :: others ∧ IsFirstPlace holds s others rest := by
  constructor
  · rintro ⟨divided, here, first⟩
    cases before with
    | nil =>
        rw [List.nil_append] at divided
        exact (absent (divided ▸ here)).elim
    | cons d others =>
        obtain ⟨rfl, shape⟩ := List.cons_eq_cons.mp divided
        refine ⟨others, rfl, shape, here, fun front back same holdsBack => ?_⟩
        have later := first (c :: front) back (by rw [same]; rfl) holdsBack
        exact Nat.le_of_succ_le_succ later
  · rintro ⟨others, rfl, divided, here, first⟩
    refine ⟨by rw [divided]; rfl, here, fun front back same holdsBack => ?_⟩
    cases front with
    | nil =>
        rw [List.nil_append] at same
        exact (absent (same ▸ holdsBack)).elim
    | cons d others =>
        obtain ⟨rfl, shape⟩ := List.cons_eq_cons.mp same
        exact Nat.succ_le_succ (first others back shape holdsBack)

end Places

/-! ## Reading tags -/

section Reading

variable {tag s rest : List Char}

theorem Names.refl
    (tag : List Char) :
    Names tag tag := by
  induction tag with
  | nil =>
      exact .nil
  | cons c others inductionHypothesis =>
      exact .cons (.inl rfl) inductionHypothesis

variable (basic : ∀ c ∈ tag, c.toNat < 0x80)

include basic

/-- Comparing letter by letter takes a tag name from the front of a text. -/
theorem afterLetters?_eq_some_iff :
    Text.afterLetters? tag s = some rest ↔ ∃ name, Names tag name ∧ s = name ++ rest := by
  induction tag generalizing s with
  | nil =>
      simp [Text.afterLetters?, Names, List.forall₂_nil_left_iff]
  | cons expected others inductionHypothesis =>
      obtain ⟨first, othersBasic⟩ := List.forall_mem_cons.mp basic
      cases s with
      | nil =>
          refine iff_of_false nofun ?_
          rintro ⟨_, _ | _, shape⟩
          exact absurd shape (List.cons_ne_nil _ _).symm
      | cons c more =>
          rw [Text.afterLetters?]
          split
          · next same =>
              rw [inductionHypothesis othersBasic]
              constructor
              · rintro ⟨name, names, rfl⟩
                have variant := (Text.sameLetter_iff_of_basic first).mp same
                exact ⟨c :: name, .cons variant names, rfl⟩
              · rintro ⟨_, _ | ⟨-, names⟩, shape⟩
                exact ⟨_, names, (List.cons.inj shape).2⟩
          · next other =>
              refine iff_of_false nofun ?_
              rintro ⟨_, _ | ⟨variant, -⟩, shape⟩
              obtain ⟨rfl, -⟩ := List.cons.inj shape
              exact other ((Text.sameLetter_iff_of_basic first).mpr variant)

/-- A text has an opening in front exactly when the reader finds what is behind it. -/
theorem afterOpening?_eq_some_iff :
    afterOpening? tag s = some rest ↔
      ∃ opening, IsOpening tag opening ∧ s = opening ++ rest := by
  constructor
  · intro read
    unfold afterOpening? at read
    split at read
    · next inside =>
        split at read
        · next after named =>
            obtain ⟨name, names, rfl⟩ := (afterLetters?_eq_some_iff basic).mp named
            cases read
            exact ⟨_, .bare names, by simp⟩
        · next c more _ named =>
            obtain ⟨name, names, rfl⟩ := (afterLetters?_eq_some_iff basic).mp named
            split at read
            · next isBlank =>
                obtain ⟨⟨attributes, back⟩, cut, rfl⟩ := Option.map_eq_some_iff.mp read
                obtain ⟨rfl, apart⟩ := Text.of_cutAt?_eq_some cut
                exact ⟨_, .spaced names isBlank apart, by simp⟩
            · exact nomatch read
        · exact nomatch read
    · exact nomatch read
  · rintro ⟨_, @⟨name, names⟩ | @⟨name, attributes, blank, names, isBlank, apart⟩, rfl⟩
    · have named : Text.afterLetters? tag (name ++ '>' :: rest) = some ('>' :: rest) :=
        (afterLetters?_eq_some_iff basic).mpr ⟨name, names, rfl⟩
      simp [afterOpening?, named]
    · have named :
          Text.afterLetters? tag (name ++ blank :: (attributes ++ '>' :: rest)) =
            some (blank :: (attributes ++ '>' :: rest)) :=
        (afterLetters?_eq_some_iff basic).mpr ⟨name, names, rfl⟩
      have notClosed : blank ≠ '>' := by
        rintro rfl
        exact absurd isBlank (by decide)
      simp [afterOpening?, named, isBlank, Text.cutAt?_run apart]

/-- A text has a closing in front exactly when the reader finds one. -/
theorem startsClosing_eq_true_iff :
    startsClosing tag s = true ↔
      ∃ closing after, IsClosing tag closing ∧ s = closing ++ after := by
  constructor
  · intro read
    unfold startsClosing at read
    split at read
    · next inside =>
        split at read
        · next behind named =>
            obtain ⟨name, names, rfl⟩ := (afterLetters?_eq_some_iff basic).mp named
            obtain ⟨blanks, allBlank, divided⟩ := Text.exists_blanks_trimStart behind
            obtain ⟨after, closed⟩ := List.head?_eq_some_iff.mp (beq_iff_eq.mp read)
            refine ⟨_, after, .named names allBlank, ?_⟩
            rw [divided, closed]
            simp
        · exact nomatch read
    · exact nomatch read
  · rintro ⟨_, after, @⟨name, blanks, names, allBlank⟩, rfl⟩
    have named :
        Text.afterLetters? tag (name ++ (blanks ++ '>' :: after)) =
          some (blanks ++ '>' :: after) :=
      (afterLetters?_eq_some_iff basic).mpr ⟨name, names, rfl⟩
    have shown : Text.trimStart (blanks ++ '>' :: after) = '>' :: after :=
      Text.trimStart_run_append allBlank (fun c first => by cases first; decide)
    simp [startsClosing, named, shown]

end Reading

/-! ## Searching -/

section Searching

variable {tag s block : List Char}

/-- A text starts with a closing. -/
def ClosesHere (tag s : List Char) : Prop :=
  startsClosing tag s = true

/-- The text up to the first closing, if a page starts with an opening. -/
def blockHere? (tag s : List Char) : Option (List Char) :=
  (afterOpening? tag s).bind (beforeClosing? tag)

/-- A page starts with a block. -/
def HasBlockHere (tag s : List Char) : Prop :=
  ∃ block, blockHere? tag s = some block

/-- A closing is looked for from the left. -/
theorem beforeClosing?_eq_some_iff :
    beforeClosing? tag s = some block ↔
      ∃ rest, IsFirstPlace (ClosesHere tag) s block rest := by
  induction s generalizing block with
  | nil =>
      refine iff_of_false nofun ?_
      rintro ⟨rest, place⟩
      obtain ⟨-, rfl⟩ := List.append_eq_nil_iff.mp place.divided.symm
      exact nomatch place.here
  | cons c others inductionHypothesis =>
      rw [beforeClosing?]
      by_cases here : ClosesHere tag (c :: others)
      · rw [if_pos (show startsClosing tag (c :: others) = true from here)]
        simp [isFirstPlace_iff_of_holds here, eq_comm]
      · rw [if_neg (show ¬ startsClosing tag (c :: others) = true from here),
          Option.map_eq_some_iff]
        simp only [inductionHypothesis, isFirstPlace_cons_iff here]
        constructor
        · rintro ⟨front, ⟨rest, place⟩, rfl⟩
          exact ⟨rest, front, rfl, place⟩
        · rintro ⟨rest, front, rfl, place⟩
          exact ⟨front, ⟨rest, place⟩, rfl⟩

/-- An opening with a closing behind it is looked for from the left. -/
theorem blockOf?_eq_some_iff :
    blockOf? tag s = some block ↔
      ∃ before rest,
        IsFirstPlace (HasBlockHere tag) s before rest ∧ blockHere? tag rest = some block := by
  induction s with
  | nil =>
      refine iff_of_false nofun ?_
      rintro ⟨before, rest, place, found⟩
      obtain ⟨-, rfl⟩ := List.append_eq_nil_iff.mp place.divided.symm
      exact nomatch found
  | cons c others inductionHypothesis =>
      rw [blockOf?, ← blockHere?]
      cases here : blockHere? tag (c :: others) with
      | some first =>
          have has : HasBlockHere tag (c :: others) := ⟨first, here⟩
          simp [isFirstPlace_iff_of_holds has, here]
      | none =>
          have absent : ¬ HasBlockHere tag (c :: others) := by
            simp [HasBlockHere, here]
          simp only [inductionHypothesis, isFirstPlace_cons_iff absent]
          constructor
          · rintro ⟨front, rest, place, found⟩
            exact ⟨_, rest, ⟨front, rfl, place⟩, found⟩
          · rintro ⟨_, rest, ⟨front, rfl, place⟩, found⟩
            exact ⟨front, rest, place, found⟩

end Searching

/-! ## The block of a page -/

section Blocks

variable {tag page s before block rest : List Char}

/-- A property that holds at some place of a text holds at a first one. -/
theorem exists_isFirstPlace
    {holds : List Char → Prop}
    (divided : s = before ++ rest)
    (here : holds rest) :
    ∃ front back, IsFirstPlace holds s front back := by
  induction s generalizing before with
  | nil =>
      obtain ⟨rfl, rfl⟩ := List.append_eq_nil_iff.mp divided.symm
      exact ⟨[], [], (isFirstPlace_iff_of_holds here).mpr ⟨rfl, rfl⟩⟩
  | cons c others inductionHypothesis =>
      by_cases start : holds (c :: others)
      · exact ⟨[], _, (isFirstPlace_iff_of_holds start).mpr ⟨rfl, rfl⟩⟩
      cases before with
      | nil =>
          exact absurd (divided ▸ here) start
      | cons d more =>
          obtain ⟨rfl, shape⟩ := List.cons.inj divided
          obtain ⟨front, back, place⟩ := inductionHypothesis shape
          exact ⟨_, back, (isFirstPlace_cons_iff start).mpr ⟨front, rfl, place⟩⟩

variable (basic : ∀ c ∈ tag, c.toNat < 0x80)

include basic

/-- The block at the front of a page ends at the nearest closing behind the opening. -/
theorem blockHere?_eq_some_iff :
    blockHere? tag s = some block ↔
      ∃ opening closing after,
        Encloses tag s [] opening block closing after ∧
          ∀ between finish back : List Char,
            block ++ (closing ++ after) = between ++ (finish ++ back) →
              IsClosing tag finish →
                block.length ≤ between.length := by
  rw [blockHere?, Option.bind_eq_some_iff]
  constructor
  · rintro ⟨behind, opened, closed⟩
    obtain ⟨opening, opens, rfl⟩ := (afterOpening?_eq_some_iff basic).mp opened
    obtain ⟨_, rfl, here, first⟩ := beforeClosing?_eq_some_iff.mp closed
    obtain ⟨closing, after, closes, rfl⟩ := (startsClosing_eq_true_iff basic).mp here
    refine ⟨opening, closing, after, ⟨rfl, opens, closes⟩, ?_⟩
    intro between finish back same finishes
    exact first _ _ same ((startsClosing_eq_true_iff basic).mpr ⟨_, _, finishes, rfl⟩)
  · rintro ⟨opening, closing, after, ⟨divided, opens, closes⟩, nearest⟩
    refine ⟨_, (afterOpening?_eq_some_iff basic).mpr ⟨opening, opens, divided⟩, ?_⟩
    have here : ClosesHere tag (closing ++ after) :=
      (startsClosing_eq_true_iff basic).mpr ⟨closing, after, closes, rfl⟩
    refine beforeClosing?_eq_some_iff.mpr ⟨_, rfl, here, fun front back same holds => ?_⟩
    obtain ⟨finish, more, finishes, rfl⟩ := (startsClosing_eq_true_iff basic).mp holds
    exact nearest _ _ _ same finishes

/-- A page has a block at its front exactly when it starts with an opening before a closing. -/
theorem hasBlockHere_iff :
    HasBlockHere tag s ↔
      ∃ opening between closing after, Encloses tag s [] opening between closing after := by
  constructor
  · rintro ⟨block, found⟩
    obtain ⟨opening, closing, after, encloses, -⟩ := (blockHere?_eq_some_iff basic).mp found
    exact ⟨opening, block, closing, after, encloses⟩
  · rintro ⟨opening, between, closing, after, divided, opens, closes⟩
    have here : ClosesHere tag (closing ++ after) :=
      (startsClosing_eq_true_iff basic).mpr ⟨closing, after, closes, rfl⟩
    obtain ⟨block, back, place⟩ :=
      exists_isFirstPlace (s := between ++ (closing ++ after)) rfl here
    have opened := (afterOpening?_eq_some_iff basic).mpr ⟨opening, opens, divided⟩
    have closed := beforeClosing?_eq_some_iff.mpr ⟨back, place⟩
    exact ⟨block, Option.bind_eq_some_iff.mpr ⟨_, opened, closed⟩⟩

/-- The reader finds the first block of a page and nothing else. -/
theorem blockOf?_eq_some_iff_isFirstBlock :
    blockOf? tag page = some block ↔
      ∃ before opening closing after,
        IsFirstBlock tag page before opening block closing after := by
  rw [blockOf?_eq_some_iff]
  constructor
  · rintro ⟨before, rest, ⟨rfl, -, first⟩, found⟩
    obtain ⟨opening, closing, after, ⟨rfl, opens, closes⟩, nearest⟩ :=
      (blockHere?_eq_some_iff basic).mp found
    refine ⟨before, opening, closing, after, ⟨rfl, opens, closes⟩, ?_, nearest⟩
    intro front other between finish back earlier
    exact first _ _ earlier.divided ((hasBlockHere_iff basic).mpr
      ⟨other, between, finish, back, rfl, earlier.opens, earlier.closes⟩)
  · rintro ⟨before, opening, closing, after, ⟨divided, opens, closes⟩, first, nearest⟩
    have found : blockHere? tag (opening ++ (block ++ (closing ++ after))) = some block :=
      (blockHere?_eq_some_iff basic).mpr
        ⟨opening, closing, after, ⟨rfl, opens, closes⟩, nearest⟩
    refine
      ⟨before, _, ⟨divided, ⟨block, found⟩, fun front back same has => ?_⟩, found⟩
    obtain ⟨other, between, finish, more, encloses⟩ := (hasBlockHere_iff basic).mp has
    refine first front other between finish more ⟨?_, encloses.opens, encloses.closes⟩
    rw [same, encloses.divided]
    rfl

/-- The reader finds nothing exactly when no opening of a page has a closing behind it. -/
theorem blockOf?_eq_none_iff :
    blockOf? tag page = none ↔
      ¬ ∃ before opening between closing after,
        Encloses tag page before opening between closing after := by
  constructor
  · rintro nothing ⟨before, opening, between, closing, after, divided, opens, closes⟩
    obtain ⟨front, back, place⟩ :=
      exists_isFirstPlace divided
        ((hasBlockHere_iff basic).mpr ⟨opening, between, closing, after, rfl, opens, closes⟩)
    obtain ⟨block, found⟩ := place.here
    have something := blockOf?_eq_some_iff.mpr ⟨front, back, place, found⟩
    rw [nothing] at something
    exact nomatch something
  · intro absent
    refine Option.eq_none_iff_forall_ne_some.mpr fun block found => ?_
    obtain ⟨before, opening, closing, after, isFirst⟩ :=
      (blockOf?_eq_some_iff_isFirstBlock basic).mp found
    exact absent ⟨before, opening, block, closing, after, isFirst.toEncloses⟩

end Blocks

/-! ## A page with one block -/

section Written

variable {tag name : List Char}

/-- The two characters in front of the name of a closing. -/
def closingMark : List Char :=
  ['<', '/']

theorem eq_of_mem_closingMark
    {basic c : Char}
    (isBasic : basic.toNat < 0x80)
    (mark : c ∈ closingMark)
    (variant : Text.IsVariant basic c) :
    basic = c := by
  have same := (Text.sameLetter_iff_of_basic isBasic).mpr variant
  rcases List.mem_pair.mp mark with rfl | rfl
  · exact Text.basic_of_table (fun d => Text.sameLetter d '<' = true → d = '<')
      (by decide +kernel) isBasic same
  · exact Text.basic_of_table (fun d => Text.sameLetter d '/' = true → d = '/')
      (by decide +kernel) isBasic same

/-- A name holds the marks of a closing only if the tag does. -/
theorem Names.closingMark_infix
    (names : Names tag name)
    (basic : ∀ c ∈ tag, c.toNat < 0x80)
    (inside : closingMark <:+: name) :
    closingMark <:+: tag := by
  obtain ⟨left, right, rfl⟩ := inside
  rw [List.append_assoc] at names
  have later := List.forall₂_drop_append _ _ _ names
  obtain ⟨first, rest, firstVariant, more, shape⟩ := List.forall₂_cons_right_iff.mp later
  obtain ⟨second, rest, secondVariant, -, rfl⟩ := List.forall₂_cons_right_iff.mp more
  have divided : tag.take left.length ++ first :: second :: rest = tag := by
    rw [← shape, List.take_append_drop]
  obtain rfl : first = '<' := by
    refine eq_of_mem_closingMark (basic _ ?_) (by decide) firstVariant
    rw [← divided]
    simp
  obtain rfl : second = '/' := by
    refine eq_of_mem_closingMark (basic _ ?_) (by decide) secondVariant
    rw [← divided]
    simp
  exact ⟨_, rest, by simpa [closingMark] using divided⟩

/-- The marks of a closing stand in a closing once, in front. -/
theorem not_closingMark_infix
    {blanks : List Char}
    (basic : ∀ c ∈ tag, c.toNat < 0x80)
    (apart : ¬ closingMark <:+: tag)
    (names : Names tag name)
    (allBlank : ∀ c ∈ blanks, Text.isBlank c = true) :
    ¬ closingMark <:+: '/' :: (name ++ (blanks ++ ['>'])) := by
  have noneBehind : ∀ c ∈ blanks ++ ['>'], c ∉ closingMark := by
    refine List.forall_mem_append.mpr
      ⟨fun c member marked => ?_, List.forall_mem_singleton.mpr (by decide)⟩
    rcases List.mem_pair.mp marked with rfl | rfl
    · exact absurd (allBlank _ member) (by decide)
    · exact absurd (allBlank _ member) (by decide)
  intro inside
  rcases List.infix_cons_iff.mp inside with starts | later
  · exact absurd (List.cons_prefix_cons.mp starts).1 (by decide)
  · exact apart (names.closingMark_infix basic (Text.infix_of_infix_apart noneBehind later))

/-- A tag starts in the first text and ends in what stands behind it. -/
def Crosses (isTag : List Char → Prop) (before behind : List Char) : Prop :=
  ∃ front found back,
    before ++ behind = front ++ (found ++ back) ∧
      isTag found ∧
        front.length < before.length ∧
          before.length < front.length + found.length

/-- A tag neither inside a text nor across its end does not start in it. -/
theorem length_le_of_not_crosses
    {isTag : List Char → Prop}
    {before behind front found back : List Char}
    (noneInside : ∀ other, isTag other → ¬ other <:+: before)
    (noneAcross : ¬ Crosses isTag before behind)
    (divided : before ++ behind = front ++ (found ++ back))
    (here : isTag found) :
    before.length ≤ front.length := by
  refine Nat.le_of_not_lt fun starts => ?_
  refine noneAcross ⟨front, found, back, divided, here, starts, ?_⟩
  refine Nat.lt_of_not_le fun ends => noneInside _ here ?_
  have within : front ++ found <+: before := by
    have whole : front ++ found <+: before ++ behind :=
      ⟨back, by rw [divided, List.append_assoc]⟩
    refine List.prefix_of_prefix_length_le whole (List.prefix_append _ _) ?_
    rwa [List.length_append]
  exact (List.suffix_append front found).isInfix.trans within.isInfix

/-- A closing that starts in front of the marks of a closing ends in front of them. -/
theorem not_crosses_of_apart
    (basic : ∀ c ∈ tag, c.toNat < 0x80)
    (apart : ¬ closingMark <:+: tag)
    (before after : List Char) :
    ¬ Crosses (IsClosing tag) before (closingMark ++ after) := by
  rintro ⟨front, finish, back, same, @⟨name, blanks, names, allBlank⟩, starts, crosses⟩
  have once := not_closingMark_infix basic apart names allBlank
  rcases List.append_eq_append_iff.mp same with ⟨_, rfl, -⟩ | ⟨start, rfl, rest⟩
  · simp at starts
  rcases List.append_eq_append_iff.mp rest with ⟨more, rfl, -⟩ | ⟨beyond, divided, marks⟩
  · rw [List.length_append, List.length_append] at crosses
    omega
  -- What is left of the closing behind the text is empty, one mark or both.
  cases start with
  | nil =>
      simp at starts
  | cons first others =>
  cases beyond with
  | nil =>
      rw [divided, List.append_nil, List.length_append] at crosses
      exact Nat.lt_irrefl _ crosses
  | cons mark beyond =>
  obtain ⟨rfl, secondMark⟩ := List.cons.inj marks
  obtain ⟨rfl, behind⟩ := List.cons.inj divided
  cases beyond with
  | nil =>
      have ends : ('/' :: (name ++ blanks)) ++ ['>'] = others ++ ['<'] := by
        simpa using behind
      exact absurd (List.append_inj' ends rfl).2 (by decide)
  | cons mark beyond =>
      obtain ⟨rfl, -⟩ := List.cons.inj secondMark
      exact absurd ⟨others, beyond, by simpa [closingMark] using behind.symm⟩ once

end Written

/-! ## Extraction -/

/-- The opening without attributes. -/
def openingOf (tag : List Char) : List Char :=
  '<' :: (tag ++ ['>'])

/-- The closing without blanks. -/
def closingOf (tag : List Char) : List Char :=
  closingMark ++ (tag ++ ['>'])

theorem isOpening_openingOf
    (tag : List Char) :
    IsOpening tag (openingOf tag) :=
  .bare (.refl tag)

theorem isClosing_closingOf
    (tag : List Char) :
    IsClosing tag (closingOf tag) := by
  have named := IsClosing.named (.refl tag) (List.forall_mem_nil _)
  rwa [List.nil_append] at named

/-- A page with a tag written around a text. -/
def writtenPage (tag before body rest : List Char) : List Char :=
  before ++ (openingOf tag ++ (body ++ (closingOf tag ++ rest)))

/--
The text between a written opening and closing is the block if no opening starts in front of
them and no closing in the text.
-/
theorem isFirstBlock_writtenPage
    {tag before body rest : List Char}
    (basic : ∀ c ∈ tag, c.toNat < 0x80)
    (noOpening : ∀ opening, IsOpening tag opening → ¬ opening <:+: before)
    (noOpeningAcross : ¬ Crosses (IsOpening tag) before (writtenPage tag [] body rest))
    (noClosing : ∀ closing, IsClosing tag closing → ¬ closing <:+: body)
    (noClosingAcross :
      closingMark <:+: tag → ¬ Crosses (IsClosing tag) body (closingOf tag ++ rest)) :
    IsFirstBlock tag (writtenPage tag before body rest)
      before (openingOf tag) body (closingOf tag) rest := by
  have noneAcross : ¬ Crosses (IsClosing tag) body (closingOf tag ++ rest) := by
    by_cases apart : closingMark <:+: tag
    · exact noClosingAcross apart
    · rw [closingOf, List.append_assoc]
      exact not_crosses_of_apart basic apart body _
  refine ⟨⟨rfl, isOpening_openingOf tag, isClosing_closingOf tag⟩, ?_, ?_⟩
  · intro front other between finish back earlier
    exact length_le_of_not_crosses noOpening noOpeningAcross earlier.divided earlier.opens
  · intro between finish back same finishes
    exact length_le_of_not_crosses noClosing noneAcross same finishes

/--
What is extracted from a page is the first block and nothing else, and nothing is extracted
exactly when no opening is followed by a closing.  In particular, a text without a closing
between the tags is extracted when no opening starts in front of them.  A closing that
reaches from the text into the closing tag needs a tag that holds the marks of a closing,
which no name of a tag does.
-/
theorem extraction_is_exact
    (tag : String)
    (basic : ∀ c ∈ tag.toList, c.toNat < 0x80) :
    (∀ page block,
      extractBlock? tag page = some block ↔
        ∃ before opening closing after,
          IsFirstBlock tag.toList page.toList before opening block.toList closing after) ∧
      (∀ page,
        extractBlock? tag page = none ↔
          ¬ ∃ before opening between closing after,
            Encloses tag.toList page.toList before opening between closing after) ∧
      ∀ before body rest : String,
        (∀ opening, IsOpening tag.toList opening → ¬ opening <:+: before.toList) →
        ¬ Crosses (IsOpening tag.toList) before.toList
            (writtenPage tag.toList [] body.toList rest.toList) →
        (∀ closing, IsClosing tag.toList closing → ¬ closing <:+: body.toList) →
        (closingMark <:+: tag.toList →
          ¬ Crosses (IsClosing tag.toList) body.toList (closingOf tag.toList ++ rest.toList)) →
          extractBlock? tag
              (before ++ "<" ++ tag ++ ">" ++ body ++ "</" ++ tag ++ ">" ++ rest) =
            some body := by
  have extracts :
      ∀ page block,
        extractBlock? tag page = some block ↔
          ∃ before opening closing after,
            IsFirstBlock tag.toList page.toList before opening block.toList closing after := by
    intro page block
    rw [← blockOf?_eq_some_iff_isFirstBlock basic, extractBlock?, Option.map_eq_some_iff]
    constructor
    · rintro ⟨found, read, rfl⟩
      rwa [String.toList_ofList]
    · exact fun read => ⟨_, read, String.ofList_toList⟩
  refine ⟨extracts, fun page => ?_, ?_⟩
  · rw [← blockOf?_eq_none_iff basic, extractBlock?, Option.map_eq_none_iff]
  · intro before body rest noOpening noOpeningAcross noClosing noClosingAcross
    have isFirst :=
      isFirstBlock_writtenPage basic noOpening noOpeningAcross noClosing noClosingAcross
    have written :
        (before ++ "<" ++ tag ++ ">" ++ body ++ "</" ++ tag ++ ">" ++ rest).toList =
          writtenPage tag.toList before.toList body.toList rest.toList := by
      simp [writtenPage, openingOf, closingOf, closingMark]
    rw [← written] at isFirst
    exact (extracts _ _).mpr ⟨_, _, _, _, isFirst⟩

/-- Pages with a block behind other markup, with a longer name only, and with nothing before. -/
theorem extraction_is_exact_of_pages :
    (∀ c ∈ "hsx".toList, c.toNat < 0x80) ∧
      (∃ before opening closing after,
        IsFirstBlock "hsx".toList "<p>x</p><HSX a=\"1\">body</Hsx ></hsx>".toList
          before opening "body".toList closing after) ∧
        (¬ ∃ before opening between closing after,
          Encloses "hsx".toList "<hsxfoo>x</hsxfoo></hsx>".toList
            before opening between closing after) ∧
          extractBlock? "hsx" "<hsx>one</hsx><hsx>two</hsx>" = some "one" := by
  have basic : ∀ c ∈ "hsx".toList, c.toNat < 0x80 := by simp
  obtain ⟨found, missing, written⟩ := extraction_is_exact "hsx" basic
  refine ⟨basic, (found _ _).mp rfl, (missing _).mp rfl, ?_⟩
  refine written "" "one" "<hsx>two</hsx>" ?_ ?_ ?_ ?_
  · intro opening opens inside
    cases opens <;> simp at inside
  · rintro ⟨front, opening, back, -, -, starts, -⟩
    exact Nat.not_lt_zero _ starts
  · intro closing closes inside
    obtain @⟨name, blanks, -, -⟩ := closes
    have marked : '<' ∈ "one".toList := inside.subset List.mem_cons_self
    exact absurd marked (by decide)
  · exact fun marked => absurd marked (by decide)

end PageScript.Script
