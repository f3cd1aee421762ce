import Mathlib.Data.List.Chain
import PageScript.Console.Printing
import PageScript.Proofs.Text.Cell

namespace PageScript.Console

/-!
# Visible characters of broken lines

Breaking a text into lines moves its blanks, but keeps its visible characters in order.
Every line that words fill takes at most the width up to the blanks at its end, so what
is cut off behind the width are blanks.  Words, and the pieces of a word that is longer
than a line, have to start plainly for their cells to add up, which they do in a steady
text.
-/

open Text

/-! ## Words -/

section Words

variable {taken s : List Char}

/-- A word that has another one behind it ends in a blank. -/
def IsParted (word _next : List Char) : Prop :=
  ∀ c ∈ word.getLast?, isBlank c = true

theorem hidesNext_of_isParted
    {word next : List Char}
    (parted : IsParted word next) :
    hidesNext word = false :=
  hidesNext_of_getLast fun c last => ne_joiner_of_isBlank (parted c last)

theorem IsParted.append
    {front word next : List Char}
    (first : IsParted front word)
    (second : IsParted word next) :
    IsParted (front ++ word) next := by
  intro c last
  rw [List.getLast?_append, Option.mem_def, Option.or_eq_some_iff] at last
  rcases last with inWord | ⟨-, inFront⟩
  · exact second c inWord
  · exact first c inFront

theorem IsParted.of_append
    {front word next : List Char}
    (parted : IsParted (front ++ word) next) :
    IsParted word next := fun c last =>
  parted c (by rw [List.getLast?_append, Option.mem_def.mp last]; rfl)

theorem flatten_wordsFrom (taken s : List Char) :
    (wordsFrom taken s).flatten = taken.reverse ++ s := by
  induction s generalizing taken with
  | nil =>
      rw [wordsFrom, List.append_nil]
      split
      · next empty =>
          rw [List.isEmpty_iff.mp empty]
          rfl
      · rw [List.flatten_singleton]
  | cons c rest inductionHypothesis =>
      rw [wordsFrom]
      split
      · rw [List.flatten_cons, inductionHypothesis]
        rfl
      · rw [inductionHypothesis, List.reverse_cons, List.append_assoc]
        rfl

/-- Words end in a blank, the last one apart. -/
theorem isChain_wordsFrom (taken s : List Char) :
    (wordsFrom taken s).IsChain IsParted := by
  induction s generalizing taken with
  | nil =>
      rw [wordsFrom]
      split
      · exact .nil
      · exact .singleton _
  | cons c rest inductionHypothesis =>
      rw [wordsFrom]
      split
      · next ends =>
          refine List.isChain_cons.mpr ⟨fun _ _ last isLast => ?_, inductionHypothesis [c]⟩
          rw [List.getLast?_reverse] at isLast
          simp only [Bool.and_eq_true] at ends
          rw [Option.mem_def.mp isLast] at ends
          exact ends.1.2
      · exact inductionHypothesis (c :: taken)

/-- The words of a steady text start plainly. -/
theorem startsPlainly_of_mem_wordsFrom
    (steady : isSteady (taken.reverse ++ s) = true) :
    ∀ word ∈ wordsFrom taken s, startsPlainly word = true := by
  induction s generalizing taken with
  | nil =>
      intro word member
      rw [wordsFrom] at member
      rw [List.append_nil] at steady
      split at member
      · cases member
      · rw [List.mem_singleton.mp member]
        exact ((Bool.and_eq_true _ _).mp steady).1
  | cons c rest inductionHypothesis =>
      rw [wordsFrom]
      split
      · next ends =>
          -- The open word ends in a blank, so what follows is steady by itself.
          have own := startsPlainly_of_append ((Bool.and_eq_true _ _).mp steady).1
          have behind : isSteady (c :: rest) = true := by
            cases taken with
            | nil =>
                exact steady
            | cons last front =>
                have blank : isBlank last = true := by
                  simp only [Bool.and_eq_true] at ends
                  exact ends.1.2
                rw [List.reverse_cons, List.append_assoc] at steady
                exact ((isSteady_append_cons_iff _ _ blank).mp steady).2
          exact List.forall_mem_cons.mpr ⟨own, inductionHypothesis behind⟩
      · refine inductionHypothesis ?_
        rwa [List.reverse_cons, List.append_assoc]

end Words

/-! ## Folded words -/

section Folded

variable {width used : Nat} {taken rest : List Char} {cluster : OpenCluster}

theorem flatten_foldedFrom
    (width : Nat)
    (taken : List Char)
    (used : Nat)
    (clusters : List Cluster) :
    (foldedFrom width taken used clusters).flatten =
      taken.reverse ++ clusters.flatMap Cluster.characters := by
  induction clusters generalizing taken used with
  | nil =>
      rw [foldedFrom, List.flatten_singleton, List.flatMap_nil, List.append_nil]
  | cons cluster rest inductionHypothesis =>
      rw [foldedFrom]
      split
      · rw [List.flatten_cons, inductionHypothesis, List.reverse_reverse]
        rfl
      · rw [inductionHypothesis, List.reverse_append, List.reverse_reverse, List.append_assoc]
        rfl

theorem flatten_folded (width : Nat) (word : List Char) :
    (folded width word).flatten = word :=
  (flatten_foldedFrom width [] 0 (clusters word)).trans (characters_clusters word)

theorem foldedFrom_ne_nil
    (width : Nat)
    (taken : List Char)
    (used : Nat)
    (clusters : List Cluster) :
    foldedFrom width taken used clusters ≠ [] := by
  induction clusters generalizing taken used with
  | nil =>
      exact List.cons_ne_nil _ _
  | cons cluster rest inductionHypothesis =>
      rw [foldedFrom]
      split
      · exact List.cons_ne_nil _ _
      · exact inductionHypothesis _ _

/-- A text that starts plainly and takes at most the width. -/
def IsNarrow (width : Nat) (s : List Char) : Prop :=
  startsPlainly s = true ∧ cellLength s ≤ width

/-- An open piece that takes the cells counted for it. -/
structure IsPiece (width : Nat) (taken : List Char) (used : Nat) : Prop where
  narrow : IsNarrow width taken.reverse
  cells : cellLength taken.reverse = used

/-- A cluster closes the open piece or becomes a part of it. -/
theorem exists_foldedFrom_cons
    (three : 3 ≤ width)
    (piece : IsPiece width taken used)
    (shown : hidesNext taken.reverse = false)
    (measured : cluster.IsMeasured)
    (plain : startsPlainly cluster.taken.reverse = true)
    (others : List Cluster) :
    ∃ closed later total,
      foldedFrom width taken used (cluster.closed :: others) =
          closed ++ foldedFrom width later total others ∧
        (∀ s ∈ closed, IsNarrow width s) ∧
          IsPiece width later total ∧ hidesNext later.reverse = cluster.hides := by
  have own : cellLength cluster.taken.reverse = cluster.cells := measured.cellLength_eq
  rw [foldedFrom]
  split
  · refine
      ⟨[taken.reverse], cluster.taken.reverse.reverse, cluster.cells, rfl,
        List.forall_mem_singleton.mpr piece.narrow, ?_, ?_⟩
    · rw [List.reverse_reverse]
      exact ⟨⟨plain, own.trans_le (measured.cells_le.trans three)⟩, own⟩
    · rw [List.reverse_reverse]
      exact measured.hidesNext_eq
  · next fits =>
      have joined :
          (cluster.taken.reverse.reverse ++ taken).reverse =
            taken.reverse ++ cluster.taken.reverse := by
        rw [List.reverse_append, List.reverse_reverse]
      have cells :
          cellLength (cluster.taken.reverse.reverse ++ taken).reverse = used + cluster.cells := by
        rw [joined, cellLength_append shown plain, piece.cells, own]
      have starts :
          startsPlainly (cluster.taken.reverse.reverse ++ taken).reverse = true := by
        rw [joined]
        exact startsPlainly_append piece.narrow.1 plain
      have narrow := cells.trans_le (Nat.le_of_not_lt fits)
      refine
        ⟨[], cluster.taken.reverse.reverse ++ taken, used + cluster.cells, rfl,
          List.forall_mem_nil _, ⟨⟨starts, narrow⟩, cells⟩, ?_⟩
      rw [joined, hidesNext_append shown plain]
      exact measured.hidesNext_eq

theorem isNarrow_of_mem_foldedFrom
    (three : 3 ≤ width)
    (piece : IsPiece width taken used)
    (shown : hidesNext taken.reverse = false)
    (measured : cluster.IsMeasured)
    (plain : startsPlainly (cluster.taken.reverse ++ rest) = true) :
    ∀ s ∈ foldedFrom width taken used (clustersBehind cluster rest), IsNarrow width s := by
  induction rest generalizing taken used cluster with
  | nil =>
      rw [List.append_nil] at plain
      obtain ⟨closed, later, total, divided, narrow, last, -⟩ :=
        exists_foldedFrom_cons three piece shown measured plain []
      rw [clustersBehind, divided]
      exact List.forall_mem_append.mpr ⟨narrow, List.forall_mem_singleton.mpr last.narrow⟩
  | cons c rest inductionHypothesis =>
      rw [clustersBehind]
      cases adds : cluster.add? c with
      | some longer =>
          refine inductionHypothesis piece shown (measured.add adds) ?_
          rwa [(OpenCluster.of_add?_eq_some adds).1, List.reverse_cons, List.append_assoc]
      | none =>
          obtain ⟨ends, notJoiner, notMark, cells⟩ := OpenCluster.add?_eq_none_iff.mp adds
          obtain ⟨closed, later, total, divided, narrow, next, hides⟩ :=
            exists_foldedFrom_cons three piece shown measured (startsPlainly_of_append plain)
              (clustersBehind (OpenCluster.start c (cellWidth c)) rest)
          dsimp only
          rw [divided]
          refine List.forall_mem_append.mpr ⟨narrow, ?_⟩
          exact
            inductionHypothesis next (hides.trans ends) (OpenCluster.isMeasured_start notJoiner)
              (startsPlainly_cons_iff.mpr ⟨notJoiner, notMark, .inl cells⟩)

/-- No piece of a word that starts plainly is longer than a line of three cells or more. -/
theorem isNarrow_of_mem_folded
    {word : List Char}
    (three : 3 ≤ width)
    (plain : startsPlainly word = true) :
    ∀ s ∈ folded width word, IsNarrow width s := by
  cases word with
  | nil =>
      exact List.forall_mem_singleton.mpr ⟨rfl, Nat.zero_le width⟩
  | cons c rest =>
      exact
        isNarrow_of_mem_foldedFrom three ⟨⟨rfl, Nat.zero_le width⟩, rfl⟩ rfl
          (OpenCluster.isMeasured_start (startsPlainly_cons_iff.mp plain).1) plain

end Folded

/-! ## Filled lines -/

section Filled

variable {width : Nat} {line : OpenLine} {word : List Char} {words : List (List Char)}

/-- A line that starts plainly and takes at most the width up to the blanks at its end. -/
def Fits (width : Nat) (line : List Char) : Prop :=
  startsPlainly line = true ∧ cellLength (trimEnd line) ≤ width

theorem IsNarrow.fits
    {s : List Char}
    (narrow : IsNarrow width s) :
    Fits width s :=
  ⟨narrow.1, (cellLength_le_of_isPrefix (trimEnd_isPrefix s)).trans narrow.2⟩

theorem flatten_closed (line : OpenLine) : line.closed.flatten = line.characters := by
  rw [OpenLine.closed]
  split
  · next empty =>
      rw [List.isEmpty_iff.mp empty]
      rfl
  · exact List.flatten_singleton

theorem mem_closed
    {s : List Char}
    (member : s ∈ line.closed) :
    s = line.characters := by
  rw [OpenLine.closed] at member
  split at member
  · cases member
  · exact List.mem_singleton.mp member

/-- A folded word has a last piece, and the pieces make up the word. -/
theorem exists_folded_eq_concat (width : Nat) (word : List Char) :
    ∃ front last, folded width word = front ++ [last] ∧ front.flatten ++ last = word := by
  obtain empty | ⟨front, last, pieces⟩ := (folded width word).eq_nil_or_concat
  · exact absurd empty (foldedFrom_ne_nil width [] 0 (clusters word))
  · rw [List.concat_eq_append] at pieces
    have whole := flatten_folded width word
    rw [pieces, List.flatten_concat] at whole
    exact ⟨front, last, pieces, whole⟩

/-- Filling lines keeps every character of the words. -/
theorem flatten_fillLines
    (width : Nat)
    (fold : Bool)
    (line : OpenLine)
    (words : List (List Char)) :
    (fillLines width fold line words).flatten = line.characters ++ words.flatten := by
  induction words generalizing line with
  | nil =>
      rw [fillLines, List.flatten_singleton, List.flatten_nil, List.append_nil]
  | cons word rest inductionHypothesis =>
      rw [fillLines, List.flatten_cons]
      dsimp only
      split
      · rw [inductionHypothesis, OpenLine.add, List.append_assoc]
      · split
        · obtain ⟨front, last, pieces, whole⟩ := exists_folded_eq_concat width word
          rw [pieces, List.dropLast_concat, List.getLast?_concat, Option.getD_some,
            List.flatten_append, List.flatten_append, inductionHypothesis, flatten_closed,
            OpenLine.ofPiece, List.append_assoc, ← List.append_assoc front.flatten, whole]
        · rw [List.flatten_append, inductionHypothesis, flatten_closed, OpenLine.ofPiece]

/-- An open line that takes the cells counted for it. -/
structure IsMeasured (width : Nat) (line : OpenLine) : Prop where
  fits : Fits width line.characters
  cells : cellLength line.characters = line.cells

/-- A word that fits behind a line makes a line that fits. -/
theorem IsMeasured.add
    (measured : IsMeasured width line)
    (shown : hidesNext line.characters = false)
    (plain : startsPlainly word = true)
    (enough : line.cells + cellLength (trimEnd word) ≤ width) :
    IsMeasured width (line.add word) := by
  have starts : startsPlainly (line.characters ++ word) = true :=
    startsPlainly_append measured.fits.1 plain
  have ends : cellLength (trimEnd (line.characters ++ word)) ≤ width := by
    rw [trimEnd_append]
    split
    · exact measured.fits.2
    · rw [cellLength_append shown (startsPlainly_of_isPrefix (trimEnd_isPrefix word) plain),
        measured.cells]
      exact enough
  refine ⟨⟨starts, ends⟩, ?_⟩
  rw [OpenLine.add, cellLength_append shown plain, measured.cells]

theorem Fits.isMeasured
    {piece : List Char}
    (fits : Fits width piece) :
    IsMeasured width (OpenLine.ofPiece piece) :=
  ⟨fits, rfl⟩

/-- Every line that words fill fits. -/
theorem fits_of_mem_fillLines
    (three : 3 ≤ width)
    (measured : IsMeasured width line)
    (plain : ∀ word ∈ words, startsPlainly word = true)
    (parted : (line.characters :: words).IsChain IsParted) :
    ∀ s ∈ fillLines width true line words, Fits width s := by
  induction words generalizing line with
  | nil =>
      exact List.forall_mem_singleton.mpr measured.fits
  | cons word rest inductionHypothesis =>
      obtain ⟨wordPlain, restPlain⟩ := List.forall_mem_cons.mp plain
      obtain ⟨lineParted, wordsParted⟩ := List.isChain_cons_cons.mp parted
      obtain ⟨wordParted, restParted⟩ := List.isChain_cons.mp wordsParted
      have closes : ∀ s ∈ line.closed, Fits width s := fun s member => by
        rw [mem_closed member]
        exact measured.fits
      rw [fillLines]
      dsimp only
      split
      · next enough =>
          have shown := hidesNext_of_isParted lineParted
          refine inductionHypothesis (measured.add shown wordPlain enough) restPlain ?_
          refine List.isChain_cons.mpr ⟨fun next first => ?_, restParted⟩
          exact lineParted.append (wordParted next first)
      · split
        · obtain ⟨front, last, pieces, whole⟩ := exists_folded_eq_concat width word
          have narrow := isNarrow_of_mem_folded three wordPlain
          rw [pieces] at narrow ⊢
          obtain ⟨frontNarrow, lastNarrow⟩ := List.forall_mem_append.mp narrow
          rw [List.dropLast_concat, List.getLast?_concat, Option.getD_some, List.append_assoc]
          refine List.forall_mem_append.mpr ⟨closes, List.forall_mem_append.mpr ⟨?_, ?_⟩⟩
          · exact fun s member => (frontNarrow s member).fits
          · have fits := (List.forall_mem_singleton.mp lastNarrow).fits
            refine inductionHypothesis fits.isMeasured restPlain ?_
            refine List.isChain_cons.mpr ⟨fun next first => ?_, restParted⟩
            have parted := wordParted next first
            rw [← whole] at parted
            exact parted.of_append
        · next long =>
            have fits : Fits width word := ⟨wordPlain, by simpa using long⟩
            exact
              List.forall_mem_append.mpr
                ⟨closes, inductionHypothesis fits.isMeasured restPlain wordsParted⟩

/-- Breaking a line keeps all its characters. -/
theorem flatten_brokenLines (width : Nat) (fold : Bool) (s : List Char) :
    (brokenLines width fold s).flatten = s := by
  rw [brokenLines]
  split
  · exact List.flatten_singleton
  · rw [flatten_fillLines, spacedWords, flatten_wordsFrom]
    rfl

/-- The lines of a steady text fit. -/
theorem fits_of_mem_brokenLines
    {s : List Char}
    (three : 3 ≤ width)
    (steady : isSteady s = true) :
    ∀ line ∈ brokenLines width true s, Fits width line := by
  rw [brokenLines]
  split
  · next blank =>
      have blanks : ∀ c ∈ s, isBlank c = true := List.all_eq_true.mp blank
      refine List.forall_mem_singleton.mpr ⟨startsPlainly_of_blank blanks, ?_⟩
      rw [trimEnd_of_blank blanks]
      exact Nat.zero_le width
  · refine
      fits_of_mem_fillLines three ⟨⟨rfl, Nat.zero_le width⟩, rfl⟩
        (startsPlainly_of_mem_wordsFrom steady) ?_
    exact List.isChain_cons.mpr ⟨fun _ _ _ last => (nomatch last), isChain_wordsFrom [] s⟩

end Filled

/-! ## Cut lines -/

section Cut

variable {width cells : Nat} {cluster : OpenCluster} {s rest blanks : List Char}

theorem takeClusters_succ_cons (cells : Nat) (cluster : Cluster) (others : List Cluster) :
    takeClusters (cells + 1) (cluster :: others) =
      if cluster.cells ≤ cells + 1 then
        cluster.characters ++ takeClusters (cells + 1 - cluster.cells) others
      else
        List.replicate (cells + 1) ' ' :=
  rfl

/-- What is taken of clusters of blanks is blank. -/
theorem visible_takeClusters_of_blank
    (cells : Nat)
    {clusters : List Cluster}
    (blank : ∀ c ∈ clusters.flatMap Cluster.characters, isBlank c = true) :
    visible (takeClusters cells clusters) = [] := by
  have padding : ∀ count, visible (List.replicate count ' ') = [] := fun count =>
    visible_of_blank fun c member => by rw [List.eq_of_mem_replicate member]; rfl
  induction clusters generalizing cells with
  | nil =>
      cases cells with
      | zero =>
          rfl
      | succ cells =>
          exact padding _
  | cons cluster others inductionHypothesis =>
      rw [List.flatMap_cons] at blank
      obtain ⟨own, later⟩ := List.forall_mem_append.mp blank
      cases cells with
      | zero =>
          rfl
      | succ cells =>
          rw [takeClusters_succ_cons]
          split
          · rw [visible_append, visible_of_blank own, inductionHypothesis _ later]
            rfl
          · exact padding _

/-- A cluster that fits is taken. -/
theorem visible_takeClusters_cons
    {others : List Cluster}
    (positive : 0 < cells)
    (fits : cluster.cells ≤ cells) :
    visible (takeClusters cells (cluster.closed :: others)) =
      visible cluster.taken.reverse ++ visible (takeClusters (cells - cluster.cells) others) := by
  obtain ⟨fewer, rfl⟩ := Nat.exists_eq_succ_of_ne_zero positive.ne'
  rw [takeClusters_succ_cons, if_pos (show cluster.closed.cells ≤ fewer + 1 from fits),
    visible_append]
  rfl

/-- Blanks behind a cluster that fits change nothing. -/
theorem visible_takeClusters_blanks
    (positive : 0 < cells)
    (blank : ∀ c ∈ blanks, isBlank c = true)
    (fits : cluster.cells ≤ cells) :
    visible (takeClusters cells (clustersBehind cluster blanks)) =
      visible cluster.taken.reverse := by
  induction blanks generalizing cluster with
  | nil =>
      rw [clustersBehind, visible_takeClusters_cons positive fits,
        visible_takeClusters_of_blank _ (List.forall_mem_nil _), List.append_nil]
  | cons c rest inductionHypothesis =>
      obtain ⟨first, others⟩ := List.forall_mem_cons.mp blank
      rw [clustersBehind]
      cases adds : cluster.add? c with
      | some longer =>
          have same := OpenCluster.cells_of_add? adds (ne_pictureMark_of_isBlank first)
          dsimp only
          rw [inductionHypothesis others (same.trans_le fits),
            (OpenCluster.of_add?_eq_some adds).1, List.reverse_cons, visible_append,
            visible_cons_of_blank first]
          exact List.append_nil _
      | none =>
          dsimp only
          rw [visible_takeClusters_cons positive fits, visible_takeClusters_of_blank,
            List.append_nil]
          rw [characters_clustersBehind]
          exact List.forall_mem_cons.mpr ⟨first, others⟩

/-- As many cells as a text takes are enough for its visible characters. -/
theorem visible_takeClusters
    (positive : 0 < cells)
    (blank : ∀ c ∈ blanks, isBlank c = true)
    (enough : (rest.foldl Measure.add cluster.measure).cells ≤ cells) :
    visible (takeClusters cells (clustersBehind cluster (rest ++ blanks))) =
      visible (cluster.taken.reverse ++ rest) := by
  induction rest generalizing cluster cells with
  | nil =>
      rw [List.nil_append, List.append_nil]
      exact visible_takeClusters_blanks positive blank enough
  | cons c rest inductionHypothesis =>
      rw [List.cons_append, clustersBehind]
      rw [List.foldl_cons] at enough
      cases adds : cluster.add? c with
      | some longer =>
          obtain ⟨taken, next, -⟩ := OpenCluster.of_add?_eq_some adds
          rw [← next] at enough
          dsimp only
          rw [inductionHypothesis positive enough, taken, List.reverse_cons, List.append_assoc]
          rfl
      | none =>
          -- The character starts a cluster of at least one cell, so there are cells left for it.
          obtain ⟨shown, notJoiner, notMark, takes⟩ := OpenCluster.add?_eq_none_iff.mp adds
          have next :
              cluster.measure.add c =
                (OpenCluster.start c (cellWidth c)).measure.behind cluster.cells := by
            rw [Measure.add_of_cells shown notJoiner notMark takes, OpenCluster.start,
              if_neg takes]
            rfl
          rw [next, Measure.foldl_add_behind] at enough
          have first : cellWidth c ≤ _ :=
            Measure.cells_le_foldl_add (OpenCluster.start c (cellWidth c)).measure rest
          have divided :
              cluster.cells +
                  (rest.foldl Measure.add (OpenCluster.start c (cellWidth c)).measure).cells ≤
                cells :=
            enough
          dsimp only
          rw [visible_takeClusters_cons positive (by omega), inductionHypothesis (by omega)
            (by omega), ← visible_append]
          rfl

/-- A line that fits shows all its visible characters in the cells of the width. -/
theorem visible_takeCells
    (positive : 0 < cells)
    (fits : Fits cells s) :
    visible (takeCells cells s) = visible s := by
  obtain ⟨blanks, blank, division, -⟩ := exists_blanks_trimEnd s
  obtain ⟨plain, enough⟩ := fits
  cases ends : trimEnd s with
  | nil =>
      rw [ends, List.nil_append] at division
      rw [takeCells, visible_takeClusters_of_blank, visible_of_blank]
      · rwa [division]
      · rwa [characters_clusters, division]
  | cons c rest =>
      rw [ends] at division enough
      rw [division, List.cons_append] at plain
      obtain ⟨notJoiner, -⟩ := startsPlainly_cons_iff.mp plain
      have spelled := (OpenCluster.isMeasured_start notJoiner).spelled
      rw [cellLength, List.foldl_cons, show ({} : Measure).add c = _ from spelled] at enough
      have shown : visible (c :: rest ++ blanks) = visible (c :: rest) := by
        rw [visible_append, visible_of_blank blank, List.append_nil]
      rw [division, shown, takeCells, List.cons_append, clusters,
        visible_takeClusters positive blank enough]
      rfl

/-- Cropping a line takes blanks away from its end. -/
theorem exists_blanks_cropEnd (width : Nat) (s : List Char) :
    ∃ blanks, (∀ c ∈ blanks, isBlank c = true) ∧ cropEnd width s = trimEnd s ++ blanks := by
  obtain ⟨blanks, blank, division, -⟩ := exists_blanks_trimEnd s
  have cropped :
      ∀ count,
        (trimEnd s).length ≤ count →
          s.take count = trimEnd s ++ blanks.take (count - (trimEnd s).length) := by
    intro count enough
    conv_lhs => rw [division]
    rw [List.take_append, List.take_of_length_le enough]
  have shorter : (trimEnd s).length ≤ s.length := (trimEnd_isPrefix s).length_le
  refine ⟨_, fun c member => blank c (List.mem_of_mem_take member), cropped _ ?_⟩
  omega

/-- What is cut off a line that fits are blanks. -/
theorem visible_aligned_cropEnd
    (positive : 0 < width)
    (fits : Fits width s) :
    visible (aligned .free .fold width (cropEnd width s)) = visible s := by
  obtain ⟨blanks, blank, cropped⟩ := exists_blanks_cropEnd width s
  have start : startsPlainly (trimEnd s) = true :=
    startsPlainly_of_isPrefix (trimEnd_isPrefix s) fits.1
  have shown : visible (cropEnd width s) = visible s := by
    rw [cropped, visible_append, visible_of_blank blank, List.append_nil, visible_trimEnd]
  have still : Fits width (cropEnd width s) := by
    rw [cropped]
    refine ⟨startsPlainly_append start (startsPlainly_of_blank blank), ?_⟩
    rw [trimEnd_append, if_pos (trimEnd_of_blank blank)]
    exact (cellLength_le_of_isPrefix (trimEnd_isPrefix _)).trans fits.2
  rw [aligned, cut]
  split
  · exact shown
  · exact (visible_takeCells positive still).trans shown

end Cut

/-! ## The lines of a text -/

section Lines

variable {width : Nat} {s : List Char}

theorem isBlank_of_mem_replicate
    {count : Nat} :
    ∀ c ∈ List.replicate count ' ', isBlank c = true := by
  intro c member
  rw [List.eq_of_mem_replicate member]
  rfl

theorem isSteady_replicate_append_iff (count : Nat) (s : List Char) :
    isSteady (List.replicate count ' ' ++ s) = true ↔ isSteady s = true := by
  induction count with
  | zero =>
      rw [List.replicate_zero, List.nil_append]
  | succ count inductionHypothesis =>
      rw [List.replicate_succ, List.cons_append, isSteady_cons_iff rfl, inductionHypothesis]

/-- A tab leaves at least one blank behind the part before it. -/
theorem exists_expandedParts_cons
    (column : Nat)
    (part second : List Char)
    (rest : List (List Char)) :
    ∃ count reached,
      expandedParts column (part :: second :: rest) =
        part ++ ' ' :: (List.replicate count ' ' ++ expandedParts reached (second :: rest)) := by
  let reached := column + cellLength (part ++ [' '])
  let blanks := (tabSize - reached % tabSize) % tabSize
  have expanded :
      expandedParts column (part :: second :: rest) =
        part ++ [' '] ++ List.replicate blanks ' ' ++
          expandedParts (reached + blanks) (second :: rest) :=
    rfl
  refine ⟨blanks, reached + blanks, ?_⟩
  rw [expanded, List.append_assoc, List.append_assoc]
  rfl

/-- Blanks for tabs keep a line steady. -/
theorem isSteady_expandedParts
    (column : Nat)
    {parts : List (List Char)}
    (steady : ∀ part ∈ parts, isSteady part = true) :
    isSteady (expandedParts column parts) = true := by
  induction parts generalizing column with
  | nil =>
      rfl
  | cons part rest inductionHypothesis =>
      obtain ⟨first, others⟩ := List.forall_mem_cons.mp steady
      cases rest with
      | nil =>
          exact first
      | cons second later =>
          obtain ⟨count, reached, expanded⟩ :=
            exists_expandedParts_cons column part second later
          rw [expanded, isSteady_append_cons_iff _ _ rfl, isSteady_replicate_append_iff]
          exact ⟨first, inductionHypothesis reached others⟩

theorem isSteady_expandTabs
    (steady : isSteady s = true) :
    isSteady (expandTabs s) = true :=
  isSteady_expandedParts 0 (isSteady_of_mem_splitAt rfl steady)

/-- Blanks for tabs leave the visible characters alone. -/
theorem visible_expandedParts (column : Nat) (parts : List (List Char)) :
    visible (expandedParts column parts) = parts.flatMap visible := by
  induction parts generalizing column with
  | nil =>
      rfl
  | cons part rest inductionHypothesis =>
      cases rest with
      | nil =>
          exact (List.flatMap_singleton _ _).symm
      | cons second later =>
          obtain ⟨count, reached, expanded⟩ :=
            exists_expandedParts_cons column part second later
          rw [expanded, visible_append, visible_cons_of_blank rfl, visible_append,
            visible_of_blank isBlank_of_mem_replicate, inductionHypothesis]
          rfl

theorem visible_expandTabs (s : List Char) : visible (expandTabs s) = visible s :=
  (visible_expandedParts 0 _).trans (visible_splitAt rfl s)

theorem visible_flatten (lines : List (List Char)) :
    visible lines.flatten = lines.flatMap visible :=
  List.filter_flatten

theorem isSteady_withoutControls
    (steady : isSteady s = true) :
    isSteady (withoutControls s) = true := by
  refine isSteady_filter (fun c dropped => ?_) steady
  simp only [isDropped, Bool.not_eq_false', Bool.or_eq_true, decide_eq_true_eq] at dropped
  rcases dropped with ((((rfl | rfl) | rfl) | rfl) | rfl) <;> decide

/-- The lines of one line of a text. -/
def arranged (width : Nat) (line : List Char) : List (List Char) :=
  (brokenLines width true (expandTabs line)).map fun part =>
    aligned .free .fold width (cropEnd width part)

theorem lines_eq (width : Nat) (s : List Char) :
    ({ width := width } : Arrangement).lines s =
      (splitAt '\n' (withoutControls s)).flatMap (arranged width) :=
  rfl

/-- The lines of one line of a steady text show its visible characters. -/
theorem visible_arranged
    (three : 3 ≤ width)
    (steady : isSteady s = true) :
    visible (arranged width s).flatten = visible s := by
  have fits := fits_of_mem_brokenLines three (isSteady_expandTabs steady)
  have positive : 0 < width := Nat.lt_of_lt_of_le (by decide) three
  have same :
      ∀ part ∈ brokenLines width true (expandTabs s),
        visible (aligned .free .fold width (cropEnd width part)) = visible part :=
    fun part member => visible_aligned_cropEnd positive (fits part member)
  rw [arranged, visible_flatten, List.flatMap_map, List.flatMap_congr same, ← visible_flatten,
    flatten_brokenLines, visible_expandTabs]

/-- The lines of a steady text show what the text shows without its control characters. -/
theorem visible_lines
    (three : 3 ≤ width)
    (steady : isSteady s = true) :
    visible (({ width := width } : Arrangement).lines s).flatten =
      visible (withoutControls s) := by
  have pieces : ∀ piece ∈ splitAt '\n' (withoutControls s), isSteady piece = true :=
    isSteady_of_mem_splitAt rfl (isSteady_withoutControls steady)
  have same :
      ∀ piece ∈ splitAt '\n' (withoutControls s),
        (arranged width piece).flatMap visible = visible piece := by
    intro piece member
    rw [← visible_flatten]
    exact visible_arranged three (pieces piece member)
  rw [lines_eq, visible_flatten, List.flatMap_assoc, List.flatMap_congr same, visible_splitAt rfl]

end Lines

/-! ## Printed pieces -/

/-- What is seen of a text: its characters that are neither blank nor left out. -/
def seen (s : List Char) : List Char :=
  visible (withoutControls s)

section Printed

variable {pieces : List Piece} {texts : List (List Char)}

theorem seen_eq (s : List Char) : seen s = withoutControls (visible s) :=
  List.filter_comm _ _ s

/-- Pieces are seen one behind the other. -/
theorem seen_joinWith (texts : List (List Char)) :
    seen (joinWith [' '] texts) = texts.flatMap seen := by
  rw [seen_eq, visible_joinWith rfl, withoutControls, List.filter_flatMap]
  exact List.flatMap_congr fun text _ => (seen_eq text).symm

/-- Pieces with steady texts are printed, and their texts are seen. -/
theorem exists_printed
    (shown : pieces.mapM Piece.shown = .ok texts)
    (steady : ∀ text ∈ texts, isSteady text = true) :
    ∃ lines, printed pieces = .ok lines ∧ visible lines.flatten = texts.flatMap seen := by
  refine ⟨_, by rw [printed, shown]; rfl, ?_⟩
  have whole : isSteady (joinWith [' '] texts) = true := (isSteady_joinWith_iff rfl).mpr steady
  rw [visible_lines (by decide) whole]
  exact seen_joinWith texts

/-- What goes on without a failure succeeds exactly when its first part does. -/
theorem exists_bind_eq_ok_iff
    {fault first last : Type}
    {part : Except fault first}
    {next : first → Except fault last}
    (succeeds : ∀ found, ∃ result, next found = .ok result) :
    (∃ result, part >>= next = .ok result) ↔ ∃ found, part = .ok found := by
  cases part with
  | error reason =>
      exact iff_of_false (fun ⟨_, impossible⟩ => nomatch impossible)
        fun ⟨_, impossible⟩ => nomatch impossible
  | ok found =>
      exact iff_of_true (succeeds found) ⟨found, rfl⟩

/-- Printing fails exactly when a piece cannot be shown. -/
theorem printed_eq_ok_iff :
    (∃ lines, printed pieces = .ok lines) ↔ ∃ texts, pieces.mapM Piece.shown = .ok texts :=
  exists_bind_eq_ok_iff fun _ => ⟨_, rfl⟩

end Printed

end PageScript.Console
