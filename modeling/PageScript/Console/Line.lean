import PageScript.Text.Cell
import PageScript.Text.Search

namespace PageScript.Console

/-!
# Lines of a console

A text is broken into lines of at most a given number of cells.  Lines break between
words, where a word keeps the blanks behind it.  A word that is longer than a line
starts on a line of its own; it is either folded or cut.
-/

/-- What happens to a line that does not fit. -/
inductive Overflow where
  /-- Words are folded. -/
  | fold
  /-- The line is cut and ends with an ellipsis. -/
  | ellipsis
  deriving Repr, DecidableEq

/-- Where a line stands within its width. -/
inductive Alignment where
  /-- At the start, without blanks behind it. -/
  | free
  /-- At the start, filled up with blanks. -/
  | left
  /-- At the end, filled up with blanks. -/
  | right
  deriving Repr, DecidableEq

/-- The control characters that are left out of a text. -/
def isDropped (c : Char) : Bool :=
  c = '\x07' || c = '\x08' || c = '\x0b' || c = '\x0c' || c = '\r'

/-- A text without the control characters that are left out. -/
def withoutControls (s : List Char) : List Char :=
  s.filter fun c => !isDropped c

/-- The distance between the places that tabs lead to. -/
def tabSize : Nat :=
  8

/-- Parts of a line with blanks for the tabs between them, from a column on. -/
def expandedParts (column : Nat) : List (List Char) → List Char
  | [] => []
  | [last] => last
  | part :: rest =>
      let spaced := part ++ [' ']
      let reached := column + Text.cellLength spaced
      let blanks := (tabSize - reached % tabSize) % tabSize
      spaced ++ List.replicate blanks ' ' ++ expandedParts (reached + blanks) rest

/-- A line with blanks for its tabs. -/
def expandTabs (line : List Char) : List Char :=
  expandedParts 0 (Text.splitAt '\t' line)

/-- The words of a line with the blanks behind them, where `taken` is the open word, last first. -/
def wordsFrom (taken : List Char) : List Char → List (List Char)
  | [] => if taken.isEmpty then [] else [taken.reverse]
  | c :: rest =>
      let opened := taken.any fun t => !Text.isBlank t
      let ended := (taken.head?.map Text.isBlank).getD false
      if opened && ended && !Text.isBlank c then
        taken.reverse :: wordsFrom [c] rest
      else
        wordsFrom (c :: taken) rest

/-- The words of a line with the blanks behind them; the first word has the blanks before it. -/
def spacedWords (s : List Char) : List (List Char) :=
  wordsFrom [] s

/-- Pieces of at most `width` cells, where `taken` is the open piece of `used` cells, last first. -/
def foldedFrom (width : Nat) (taken : List Char) (used : Nat) :
    List Text.Cluster → List (List Char)
  | [] => [taken.reverse]
  | cluster :: rest =>
      if width < used + cluster.cells then
        taken.reverse :: foldedFrom width cluster.characters.reverse cluster.cells rest
      else
        foldedFrom width (cluster.characters.reverse ++ taken) (used + cluster.cells) rest

/-- A word in pieces of at most `width` cells; no cluster is divided. -/
def folded (width : Nat) (word : List Char) : List (List Char) :=
  foldedFrom width [] 0 (Text.clusters word)

/-- A line and the number of cells that it takes. -/
structure OpenLine where
  characters : List Char := []
  cells : Nat := 0

/-- A line of one piece. -/
def OpenLine.ofPiece (piece : List Char) : OpenLine :=
  ⟨piece, Text.cellLength piece⟩

/-- A line with a further word. -/
def OpenLine.add (line : OpenLine) (word : List Char) : OpenLine :=
  ⟨line.characters ++ word, line.cells + Text.cellLength word⟩

/-- The lines that end before a word that starts on a new line. -/
def OpenLine.closed (line : OpenLine) : List (List Char) :=
  if line.characters.isEmpty then [] else [line.characters]

/-- The lines that words fill behind an open line. -/
def fillLines (width : Nat) (fold : Bool) (line : OpenLine) :
    List (List Char) → List (List Char)
  | [] => [line.characters]
  | word :: rest =>
      let needed := Text.cellLength (Text.trimEnd word)
      if line.cells + needed ≤ width then
        fillLines width fold (line.add word) rest
      else if width < needed && fold then
        let pieces := folded width word
        line.closed ++ pieces.dropLast ++
          fillLines width fold (OpenLine.ofPiece (pieces.getLast?.getD [])) rest
      else
        line.closed ++ fillLines width fold (OpenLine.ofPiece word) rest

/-- The lines of a line of words; blanks alone are one line. -/
def brokenLines (width : Nat) (fold : Bool) (s : List Char) : List (List Char) :=
  if Text.isBlankText s then [s] else fillLines width fold {} (spacedWords s)

/-- A line without the blanks at its end that lie behind the width. -/
def cropEnd (width : Nat) (line : List Char) : List Char :=
  let blanks := line.length - (Text.trimEnd line).length
  line.take (line.length - min blanks (line.length - width))

/--
The first clusters that fit into a number of cells; a blank stands for one that fits only in
part.
-/
def takeClusters : Nat → List Text.Cluster → List Char
  | 0, _ => []
  | cells, [] => List.replicate cells ' '
  | cells, cluster :: rest =>
      if cluster.cells ≤ cells then
        cluster.characters ++ takeClusters (cells - cluster.cells) rest
      else
        List.replicate cells ' '

/-- The start of a line in a number of cells. -/
def takeCells (cells : Nat) (line : List Char) : List Char :=
  takeClusters cells (Text.clusters line)

/-- A line cut to a number of cells. -/
def cut (overflow : Overflow) (width : Nat) (line : List Char) : List Char :=
  if Text.cellLength line ≤ width then
    line
  else
    match overflow with
    | .fold => takeCells width line
    | .ellipsis => takeCells (width - 1) line ++ ['…']

/-- A line with blanks behind it up to a number of cells. -/
def filled (width : Nat) (line : List Char) : List Char :=
  line ++ List.replicate (width - Text.cellLength line) ' '

/--
A line at its place within the width.  A joiner at the end of a line hides the first
blank behind it, so what has been filled up is measured and filled up once more.
-/
def aligned (alignment : Alignment) (overflow : Overflow) (width : Nat) (line : List Char) :
    List Char :=
  match alignment with
  | .free => cut overflow width line
  | .left => filled width (filled width (cut overflow width line))
  | .right =>
      let fitting := cut overflow width (Text.trimEnd line)
      filled width (List.replicate (width - Text.cellLength fitting) ' ' ++ fitting)

/-- How a text is arranged in lines. -/
structure Arrangement where
  width : Nat
  overflow : Overflow := .fold
  alignment : Alignment := .free
  wraps : Bool := true

/-- The lines of a text. -/
def Arrangement.lines (arrangement : Arrangement) (s : List Char) : List (List Char) :=
  (Text.splitAt '\n' (withoutControls s)).flatMap fun line =>
    let spaced := expandTabs line
    let broken :=
      if arrangement.wraps then
        brokenLines arrangement.width (arrangement.overflow = .fold) spaced
      else
        [spaced]
    broken.map fun part =>
      aligned arrangement.alignment arrangement.overflow arrangement.width
        (cropEnd arrangement.width part)

end PageScript.Console
