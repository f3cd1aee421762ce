import PageScript.Proofs.Text.Run
import PageScript.Text.Cell

namespace PageScript.Text

/-!
# Cells of joined texts

The cells of two texts add up when the second one starts plainly: no joiner and no
picture mark, which change what stands before or behind them, comes before the first
character that takes a cell.  A text is steady when it starts plainly and what follows
each of its blanks does, so that it can be divided at its blanks.

The clusters of a text take the cells of the text.  A number of cells that is enough
for a text up to the blanks at its end therefore takes all of its visible characters.
-/

/-! ## Visible characters -/

/-- The characters of a text that are not blank. -/
def visible (s : List Char) : List Char :=
  s.filter fun c => !isBlank c

section Visible

variable {s t : List Char} {c : Char}

@[simp]
theorem visible_append (s t : List Char) : visible (s ++ t) = visible s ++ visible t :=
  List.filter_append s t

theorem visible_cons_of_blank (blank : isBlank c = true) : visible (c :: s) = visible s :=
  List.filter_cons_of_neg (by simp [blank])

theorem visible_of_blank (blank : ∀ c ∈ s, isBlank c = true) : visible s = [] :=
  List.filter_eq_nil_iff.mpr fun c member => by simp [blank c member]

/-- The blanks at the end of a text are not visible. -/
theorem visible_trimEnd (s : List Char) : visible (trimEnd s) = visible s := by
  obtain ⟨blanks, blank, division, -⟩ := exists_blanks_trimEnd s
  conv_rhs => rw [division, visible_append, visible_of_blank blank, List.append_nil]

theorem trimEnd_of_blank (blank : ∀ c ∈ s, isBlank c = true) : trimEnd s = [] :=
  List.rdropWhile_eq_nil_iff.mpr blank

theorem trimEnd_isPrefix (s : List Char) : trimEnd s <+: s :=
  List.rdropWhile_prefix isBlank s

/-- A text ends where its last part ends that is not blank. -/
theorem trimEnd_append (s t : List Char) :
    trimEnd (s ++ t) = if trimEnd t = [] then trimEnd s else s ++ trimEnd t := by
  simp only [trimEnd, List.reverse_append, List.dropWhile_append, List.reverse_eq_nil_iff,
    List.isEmpty_iff]
  split
  · rfl
  · rw [List.reverse_append, List.reverse_reverse]

end Visible

/-! ## Texts that start plainly -/

/--
Whether no joiner and no picture mark comes before the first character of a text that takes a
cell.
-/
def startsPlainly : List Char → Bool
  | [] => true
  | c :: rest => c != joiner && c != pictureMark && (cellWidth c != 0 || startsPlainly rest)

/-- Whether what follows each blank of a text starts plainly. -/
def isPlainBehindBlanks : List Char → Bool
  | [] => true
  | c :: rest => (!isBlank c || startsPlainly rest) && isPlainBehindBlanks rest

/-- Whether a text starts plainly, and what follows each of its blanks as well. -/
def isSteady (s : List Char) : Bool :=
  startsPlainly s && isPlainBehindBlanks s

section Plain

variable {s t : List Char} {c : Char}

theorem startsPlainly_cons_iff :
    startsPlainly (c :: s) = true ↔
      c ≠ joiner ∧ c ≠ pictureMark ∧ (cellWidth c ≠ 0 ∨ startsPlainly s = true) := by
  simp [startsPlainly, and_assoc]

theorem ne_joiner_of_isBlank (blank : isBlank c = true) : c ≠ joiner := by
  rintro rfl
  exact absurd blank (by decide)

theorem ne_pictureMark_of_isBlank (blank : isBlank c = true) : c ≠ pictureMark := by
  rintro rfl
  exact absurd blank (by decide)

theorem startsPlainly_cons_of_blank
    (blank : isBlank c = true)
    (plain : startsPlainly s = true) :
    startsPlainly (c :: s) = true :=
  startsPlainly_cons_iff.mpr
    ⟨ne_joiner_of_isBlank blank, ne_pictureMark_of_isBlank blank, .inr plain⟩

theorem startsPlainly_of_blank (blank : ∀ c ∈ s, isBlank c = true) :
    startsPlainly s = true := by
  induction s with
  | nil =>
      rfl
  | cons c rest inductionHypothesis =>
      obtain ⟨first, others⟩ := List.forall_mem_cons.mp blank
      exact startsPlainly_cons_of_blank first (inductionHypothesis others)

theorem startsPlainly_append
    (first : startsPlainly s = true)
    (second : startsPlainly t = true) :
    startsPlainly (s ++ t) = true := by
  induction s with
  | nil =>
      exact second
  | cons c rest inductionHypothesis =>
      obtain ⟨notJoiner, notMark, cells⟩ := startsPlainly_cons_iff.mp first
      exact
        startsPlainly_cons_iff.mpr ⟨notJoiner, notMark, cells.imp_right inductionHypothesis⟩

theorem startsPlainly_of_append (plain : startsPlainly (s ++ t) = true) :
    startsPlainly s = true := by
  induction s with
  | nil =>
      rfl
  | cons c rest inductionHypothesis =>
      obtain ⟨notJoiner, notMark, cells⟩ := startsPlainly_cons_iff.mp plain
      exact
        startsPlainly_cons_iff.mpr ⟨notJoiner, notMark, cells.imp_right inductionHypothesis⟩

theorem startsPlainly_of_isPrefix
    (initial : s <+: t)
    (plain : startsPlainly t = true) :
    startsPlainly s = true := by
  obtain ⟨rest, rfl⟩ := initial
  exact startsPlainly_of_append plain

/-- Characters that take no cell can be left out. -/
theorem startsPlainly_filter
    {kept : Char → Bool}
    (noCells : ∀ c, kept c = false → cellWidth c = 0)
    (plain : startsPlainly s = true) :
    startsPlainly (s.filter kept) = true := by
  induction s with
  | nil =>
      rfl
  | cons c rest inductionHypothesis =>
      obtain ⟨notJoiner, notMark, cells⟩ := startsPlainly_cons_iff.mp plain
      cases keeps : kept c with
      | false =>
          rw [List.filter_cons_of_neg (by simp [keeps])]
          exact inductionHypothesis (cells.resolve_left (not_not_intro (noCells c keeps)))
      | true =>
          rw [List.filter_cons_of_pos keeps]
          exact
            startsPlainly_cons_iff.mpr ⟨notJoiner, notMark, cells.imp_right inductionHypothesis⟩

theorem isPlainBehindBlanks_cons_iff :
    isPlainBehindBlanks (c :: s) = true ↔
      (isBlank c = true → startsPlainly s = true) ∧ isPlainBehindBlanks s = true := by
  rw [isPlainBehindBlanks, Bool.and_eq_true, Bool.or_eq_true, Bool.not_eq_true',
    ← Bool.not_eq_true, ← imp_iff_not_or]

theorem isPlainBehindBlanks_filter
    {kept : Char → Bool}
    (noCells : ∀ c, kept c = false → cellWidth c = 0)
    (plain : isPlainBehindBlanks s = true) :
    isPlainBehindBlanks (s.filter kept) = true := by
  induction s with
  | nil =>
      rfl
  | cons c rest inductionHypothesis =>
      obtain ⟨behind, others⟩ := isPlainBehindBlanks_cons_iff.mp plain
      cases keeps : kept c with
      | false =>
          rw [List.filter_cons_of_neg (by simp [keeps])]
          exact inductionHypothesis others
      | true =>
          rw [List.filter_cons_of_pos keeps]
          exact
            isPlainBehindBlanks_cons_iff.mpr
              ⟨fun blank => startsPlainly_filter noCells (behind blank),
                inductionHypothesis others⟩

/-- A steady text is still steady without some characters that take no cell. -/
theorem isSteady_filter
    {kept : Char → Bool}
    (noCells : ∀ c, kept c = false → cellWidth c = 0)
    (steady : isSteady s = true) :
    isSteady (s.filter kept) = true := by
  obtain ⟨starts, behind⟩ := (Bool.and_eq_true _ _).mp steady
  exact
    (Bool.and_eq_true _ _).mpr
      ⟨startsPlainly_filter noCells starts, isPlainBehindBlanks_filter noCells behind⟩

theorem isPlainBehindBlanks_append_iff
    (blank : isBlank c = true) :
    isPlainBehindBlanks (s ++ c :: t) = true ↔
      isPlainBehindBlanks s = true ∧ isSteady t = true := by
  induction s with
  | nil =>
      rw [List.nil_append, isPlainBehindBlanks_cons_iff, isSteady, Bool.and_eq_true]
      exact
        ⟨fun plain => ⟨rfl, plain.1 blank, plain.2⟩,
          fun plain => ⟨fun _ => plain.2.1, plain.2.2⟩⟩
  | cons d rest inductionHypothesis =>
      rw [List.cons_append, isPlainBehindBlanks_cons_iff, isPlainBehindBlanks_cons_iff,
        inductionHypothesis, and_assoc]
      refine and_congr_left fun ⟨_, steady⟩ => imp_congr_right fun _ => ?_
      have behind := startsPlainly_cons_of_blank blank ((Bool.and_eq_true _ _).mp steady).1
      exact ⟨startsPlainly_of_append, fun starts => startsPlainly_append starts behind⟩

/-- Texts with a blank between them are steady when both are. -/
theorem isSteady_append_cons_iff
    (s t : List Char)
    (blank : isBlank c = true) :
    isSteady (s ++ c :: t) = true ↔ isSteady s = true ∧ isSteady t = true := by
  have divided :
      isSteady (s ++ c :: t) = true ↔
        startsPlainly (s ++ c :: t) = true ∧
          isPlainBehindBlanks s = true ∧ isSteady t = true := by
    rw [isSteady, Bool.and_eq_true, isPlainBehindBlanks_append_iff blank]
  rw [divided, isSteady.eq_def s, Bool.and_eq_true, and_assoc]
  refine and_congr_left fun ⟨_, steady⟩ => ?_
  have behind := startsPlainly_cons_of_blank blank ((Bool.and_eq_true _ _).mp steady).1
  exact ⟨startsPlainly_of_append, fun starts => startsPlainly_append starts behind⟩

theorem isSteady_cons_iff
    (blank : isBlank c = true) :
    isSteady (c :: s) = true ↔ isSteady s = true :=
  (isSteady_append_cons_iff [] s blank).trans (and_iff_right rfl)

end Plain

/-! ## Texts joined by blanks -/

section Joined

variable {c : Char} {pieces : List (List Char)}

theorem isSteady_joinWith_iff
    (blank : isBlank c = true) :
    isSteady (joinWith [c] pieces) = true ↔ ∀ piece ∈ pieces, isSteady piece = true := by
  induction pieces with
  | nil =>
      exact iff_of_true rfl (List.forall_mem_nil _)
  | cons piece others inductionHypothesis =>
      cases others with
      | nil =>
          rw [joinWith, List.intercalate_singleton, List.forall_mem_singleton]
      | cons second rest =>
          rw [joinWith, List.intercalate_cons_cons, List.append_assoc, List.singleton_append,
            isSteady_append_cons_iff piece _ blank, List.forall_mem_cons]
          exact and_congr_right fun _ => inductionHypothesis

theorem visible_joinWith
    (blank : isBlank c = true) :
    visible (joinWith [c] pieces) = pieces.flatMap visible := by
  induction pieces with
  | nil =>
      rfl
  | cons piece others inductionHypothesis =>
      cases others with
      | nil =>
          rw [joinWith, List.intercalate_singleton, List.flatMap_singleton]
      | cons second rest =>
          rw [joinWith, List.intercalate_cons_cons, List.append_assoc, List.singleton_append,
            visible_append, visible_cons_of_blank blank, List.flatMap_cons]
          exact congrArg (visible piece ++ ·) inductionHypothesis

theorem splitAt_ne_nil (separator : Char) (s : List Char) : splitAt separator s ≠ [] := by
  cases s with
  | nil =>
      exact List.cons_ne_nil _ _
  | cons c rest =>
      rw [splitAt]
      split
      · exact List.cons_ne_nil _ _
      · split <;> exact List.cons_ne_nil _ _

/-- Joining undoes splitting. -/
theorem joinWith_splitAt (separator : Char) (s : List Char) :
    joinWith [separator] (splitAt separator s) = s := by
  induction s with
  | nil =>
      rfl
  | cons c rest inductionHypothesis =>
      rw [splitAt]
      cases pieces : splitAt separator rest with
      | nil =>
          exact absurd pieces (splitAt_ne_nil separator rest)
      | cons first others =>
          rw [pieces] at inductionHypothesis
          rw [← inductionHypothesis]
          split
          · next same =>
              rw [same]
              rfl
          · cases others <;> rfl

theorem isSteady_of_mem_splitAt
    {separator : Char}
    {s : List Char}
    (blank : isBlank separator = true)
    (steady : isSteady s = true) :
    ∀ piece ∈ splitAt separator s, isSteady piece = true := by
  refine (isSteady_joinWith_iff blank).mp ?_
  rwa [joinWith_splitAt]

theorem visible_splitAt
    {separator : Char}
    (blank : isBlank separator = true)
    (s : List Char) :
    (splitAt separator s).flatMap visible = visible s := by
  rw [← visible_joinWith blank, joinWith_splitAt]

end Joined

/-! ## Measures -/

namespace Measure

variable {measure : Measure} {s t : List Char} {c : Char}

/-- A measure with cells before it. -/
def behind (cells : Nat) (measure : Measure) : Measure :=
  { measure with cells := cells + measure.cells }

theorem add_of_cells
    (shown : measure.hides = false)
    (notJoiner : c ≠ joiner)
    (notMark : c ≠ pictureMark)
    (cells : cellWidth c ≠ 0) :
    measure.add c = ⟨measure.cells + cellWidth c, some c, false⟩ := by
  obtain ⟨width, same⟩ := Nat.exists_eq_succ_of_ne_zero cells
  rw [add, shown, if_neg Bool.false_ne_true, if_neg notJoiner, if_neg notMark, same]
  rfl

theorem add_of_no_cells
    (shown : measure.hides = false)
    (notJoiner : c ≠ joiner)
    (notMark : c ≠ pictureMark)
    (noCells : cellWidth c = 0) :
    measure.add c = measure := by
  rw [add, shown, if_neg Bool.false_ne_true, if_neg notJoiner, if_neg notMark, noCells]
  rfl

/-- What comes before a character does not change what it adds. -/
theorem add_behind (cells : Nat) (measure : Measure) (c : Char) :
    (measure.behind cells).add c = (measure.add c).behind cells := by
  obtain ⟨own, measured, hides⟩ := measure
  cases hides with
  | true =>
      rfl
  | false =>
      by_cases joins : c = joiner
      · subst joins
        rfl
      by_cases marks : c = pictureMark
      · subst marks
        exact congrArg (Measure.mk · none false) (Nat.add_assoc _ _ _)
      by_cases noCells : cellWidth c = 0
      · rw [add_of_no_cells rfl joins marks noCells, add_of_no_cells rfl joins marks noCells]
      · rw [add_of_cells rfl joins marks noCells, add_of_cells rfl joins marks noCells]
        exact congrArg (Measure.mk · (some c) false) (Nat.add_assoc _ _ _)

theorem foldl_add_behind (cells : Nat) (measure : Measure) (s : List Char) :
    s.foldl add (measure.behind cells) = (s.foldl add measure).behind cells := by
  induction s generalizing measure with
  | nil =>
      rfl
  | cons c rest inductionHypothesis =>
      rw [List.foldl_cons, add_behind, inductionHypothesis, List.foldl_cons]

/-- Characters take no cells away. -/
theorem cells_le_add (measure : Measure) (c : Char) : measure.cells ≤ (measure.add c).cells := by
  have same :
      measure.add c = (({ measure with cells := 0 } : Measure).add c).behind measure.cells :=
    add_behind measure.cells { measure with cells := 0 } c
  rw [same]
  exact Nat.le_add_right _ _

theorem cells_le_foldl_add (measure : Measure) (s : List Char) :
    measure.cells ≤ (s.foldl add measure).cells := by
  induction s generalizing measure with
  | nil =>
      exact Nat.le_refl _
  | cons c rest inductionHypothesis =>
      exact (cells_le_add measure c).trans (inductionHypothesis (measure.add c))

/-- Only a joiner hides the next character. -/
theorem hides_add_of_ne (notJoiner : c ≠ joiner) (measure : Measure) :
    (measure.add c).hides = false := by
  cases hidden : measure.hides with
  | true =>
      rw [add, hidden, if_pos rfl]
  | false =>
      by_cases marks : c = pictureMark
      · rw [add, hidden, if_neg Bool.false_ne_true, if_neg notJoiner, if_pos marks]
      by_cases noCells : cellWidth c = 0
      · rw [add_of_no_cells hidden notJoiner marks noCells, hidden]
      · rw [add_of_cells hidden notJoiner marks noCells]

/-- A text that starts plainly adds its own cells, and hides the same character behind it. -/
theorem foldl_add_of_startsPlainly
    (plain : startsPlainly s = true)
    (shown : measure.hides = false) :
    (s.foldl add measure).cells = measure.cells + cellLength s ∧
      (s.foldl add measure).hides = (s.foldl add {}).hides := by
  -- Up to the first character that takes a cell nothing changes; from there on, what was
  -- measured before is forgotten.
  induction s with
  | nil =>
      exact ⟨rfl, shown⟩
  | cons c rest inductionHypothesis =>
      obtain ⟨notJoiner, notMark, cells⟩ := startsPlainly_cons_iff.mp plain
      rw [cellLength, List.foldl_cons, List.foldl_cons]
      by_cases noCells : cellWidth c = 0
      · rw [add_of_no_cells shown notJoiner notMark noCells,
          add_of_no_cells rfl notJoiner notMark noCells]
        exact inductionHypothesis (cells.resolve_left (not_not_intro noCells))
      · rw [add_of_cells shown notJoiner notMark noCells,
          add_of_cells rfl notJoiner notMark noCells, Nat.zero_add]
        have divided :
            rest.foldl add ⟨measure.cells + cellWidth c, some c, false⟩ =
              (rest.foldl add ⟨cellWidth c, some c, false⟩).behind measure.cells :=
          foldl_add_behind measure.cells ⟨cellWidth c, some c, false⟩ rest
        rw [divided]
        exact ⟨rfl, rfl⟩

end Measure

/-- Whether the character behind a text is hidden. -/
def hidesNext (s : List Char) : Bool :=
  (s.foldl Measure.add {}).hides

section Joined

variable {s t : List Char}

/-- Only a joiner at the end of a text hides what comes behind it. -/
theorem hidesNext_of_getLast
    (ends : ∀ c ∈ s.getLast?, c ≠ joiner) :
    hidesNext s = false := by
  cases s using List.reverseRecOn with
  | nil =>
      rfl
  | append_singleton front last =>
      rw [hidesNext, List.foldl_concat]
      exact Measure.hides_add_of_ne (ends last List.getLast?_concat) _

theorem cellLength_append
    (shown : hidesNext s = false)
    (plain : startsPlainly t = true) :
    cellLength (s ++ t) = cellLength s + cellLength t := by
  rw [cellLength, List.foldl_append]
  exact (Measure.foldl_add_of_startsPlainly plain shown).1

theorem hidesNext_append
    (shown : hidesNext s = false)
    (plain : startsPlainly t = true) :
    hidesNext (s ++ t) = hidesNext t := by
  rw [hidesNext, List.foldl_append]
  exact (Measure.foldl_add_of_startsPlainly plain shown).2

theorem cellLength_le_of_isPrefix (initial : s <+: t) : cellLength s ≤ cellLength t := by
  obtain ⟨rest, rfl⟩ := initial
  rw [cellLength, cellLength, List.foldl_append]
  exact Measure.cells_le_foldl_add _ _

end Joined

/-! ## Clusters -/

theorem cellWidth_le_two (c : Char) : cellWidth c ≤ 2 := by
  rw [cellWidth]
  repeat' split
  all_goals decide

theorem pictureCells_le (measured : Option Char) :
    pictureCells measured ≤ if measured.isSome then 1 else 0 := by
  rw [pictureCells]
  cases measured with
  | none =>
      exact Nat.le_refl 0
  | some c =>
      rw [Option.isSome_some, if_pos rfl]
      split <;> decide

namespace OpenCluster

variable {cluster longer : OpenCluster} {c : Char} {rest : List Char}

/-- An open cluster as a measure. -/
def measure (cluster : OpenCluster) : Measure :=
  ⟨cluster.cells, cluster.measured, cluster.hides⟩

/-- The cells that a cluster can take when picture marks are added to it. -/
def widest (cluster : OpenCluster) : Nat :=
  cluster.cells + if cluster.measured.isSome then 1 else 0

/-- A character starts a cluster of its own when it takes a cell and is not hidden. -/
theorem add?_eq_none_iff :
    cluster.add? c = none ↔
      cluster.hides = false ∧ c ≠ joiner ∧ c ≠ pictureMark ∧ cellWidth c ≠ 0 := by
  rw [add?]
  repeat' split
  all_goals simp_all

/-- A character that is added to a cluster is measured, and leaves no room for more cells. -/
theorem of_add?_eq_some (adds : cluster.add? c = some longer) :
    longer.taken = c :: cluster.taken ∧
      longer.measure = cluster.measure.add c ∧ longer.widest ≤ cluster.widest := by
  obtain ⟨taken, cells, measured, hides⟩ := cluster
  cases hides with
  | true =>
      cases adds
      exact ⟨rfl, rfl, Nat.le_refl _⟩
  | false =>
      by_cases joins : c = joiner
      · subst joins
        cases adds
        exact ⟨rfl, rfl, Nat.le_refl _⟩
      by_cases marks : c = pictureMark
      · subst marks
        cases adds
        exact ⟨rfl, rfl, Nat.add_le_add_left (pictureCells_le measured) cells⟩
      by_cases noCells : cellWidth c = 0
      · rw [add?, if_neg Bool.false_ne_true, if_neg joins, if_neg marks, if_pos noCells] at adds
        cases adds
        exact ⟨rfl, (Measure.add_of_no_cells rfl joins marks noCells).symm, Nat.le_refl _⟩
      · rw [add?_eq_none_iff.mpr ⟨rfl, joins, marks, noCells⟩] at adds
        cases adds

/-- Only picture marks add cells to a cluster. -/
theorem cells_of_add?
    (adds : cluster.add? c = some longer)
    (notMark : c ≠ pictureMark) :
    longer.cells = cluster.cells := by
  rw [add?, if_neg notMark] at adds
  repeat' split at adds
  all_goals cases adds
  all_goals rfl

/-- An open cluster that takes the cells of its text, which are three at most. -/
structure IsMeasured (cluster : OpenCluster) : Prop where
  spelled : cluster.taken.reverse.foldl Measure.add {} = cluster.measure
  narrow : cluster.widest ≤ 3

theorem isMeasured_start (notJoiner : c ≠ joiner) : (start c (cellWidth c)).IsMeasured := by
  by_cases marks : c = pictureMark
  · subst marks
    exact ⟨rfl, by decide⟩
  by_cases noCells : cellWidth c = 0
  · have same : ({} : Measure).add c = {} :=
      Measure.add_of_no_cells rfl notJoiner marks noCells
    rw [start, noCells, if_pos rfl]
    exact ⟨same, Nat.zero_le 3⟩
  · have next : ({} : Measure).add c = ⟨0 + cellWidth c, some c, false⟩ :=
      Measure.add_of_cells rfl notJoiner marks noCells
    rw [Nat.zero_add] at next
    rw [start, if_neg noCells]
    exact ⟨next, Nat.succ_le_succ (cellWidth_le_two c)⟩

theorem IsMeasured.add
    (measured : cluster.IsMeasured)
    (adds : cluster.add? c = some longer) :
    longer.IsMeasured := by
  obtain ⟨taken, next, narrower⟩ := of_add?_eq_some adds
  refine ⟨?_, narrower.trans measured.narrow⟩
  rw [taken, List.reverse_cons, List.foldl_concat, measured.spelled, next]

theorem IsMeasured.cellLength_eq
    (measured : cluster.IsMeasured) :
    cellLength cluster.taken.reverse = cluster.cells :=
  congrArg Measure.cells measured.spelled

theorem IsMeasured.hidesNext_eq
    (measured : cluster.IsMeasured) :
    hidesNext cluster.taken.reverse = cluster.hides :=
  congrArg Measure.hides measured.spelled

theorem IsMeasured.cells_le
    (measured : cluster.IsMeasured) :
    cluster.cells ≤ 3 :=
  (Nat.le_add_right _ _).trans measured.narrow

end OpenCluster

/-- Clusters hold the characters of their text in order. -/
theorem characters_clustersBehind
    (cluster : OpenCluster)
    (s : List Char) :
    (clustersBehind cluster s).flatMap Cluster.characters = cluster.taken.reverse ++ s := by
  induction s generalizing cluster with
  | nil =>
      simp [clustersBehind, OpenCluster.closed]
  | cons c rest inductionHypothesis =>
      rw [clustersBehind]
      cases adds : cluster.add? c with
      | some longer =>
          dsimp only
          rw [inductionHypothesis, (OpenCluster.of_add?_eq_some adds).1, List.reverse_cons,
            List.append_assoc]
          rfl
      | none =>
          dsimp only
          rw [List.flatMap_cons, inductionHypothesis]
          rfl

theorem characters_clusters (s : List Char) :
    (clusters s).flatMap Cluster.characters = s := by
  cases s with
  | nil =>
      rfl
  | cons c rest =>
      exact characters_clustersBehind (OpenCluster.start c (cellWidth c)) rest

end PageScript.Text
