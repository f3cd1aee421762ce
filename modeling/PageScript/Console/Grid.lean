import PageScript.Console.Line
import PageScript.Decimal.Layout
import PageScript.Text.Line

namespace PageScript.Console

/-!
# Grids

A grid has columns with titles, and one blank on either side of every cell.  When it
is wider than the console, the widest columns that may wrap shrink towards the next
widest ones, and when that is not enough all columns shrink evenly.  A cell without
room for a character shows nothing.
-/

/-- A column of a grid. -/
structure Column where
  title : String
  alignment : Alignment := .left
  /-- Whether the cells may take several lines, so that the column can shrink. -/
  wraps : Bool := true

/-- A grid: columns and the rows of its cells. -/
structure Grid where
  columns : List Column
  rows : List (List (List Char))

/-- The blanks on both sides of a cell. -/
def paddingWidth : Nat :=
  2

/-- The greatest of some numbers. -/
def greatest (numbers : List Nat) : Nat :=
  numbers.foldl max 0

/-- The sum of some numbers. -/
def total : List Nat → Nat
  | [] => 0
  | number :: rest => number + total rest

/-- The number of cells of the longest line of a text. -/
def contentWidth (s : List Char) : Nat :=
  greatest ((Text.lines (withoutControls s)).map Text.cellLength)

/-- The width of a column with the given contents within a limit. -/
def columnWidth (contents : List (List Char)) (limit : Nat) : Nat :=
  if limit ≤ paddingWidth then
    limit
  else
    min (greatest (contents.map contentWidth) + paddingWidth) limit

/-- A width that may shrink by at most `most`, if it takes part. -/
structure Shrinking where
  takesPart : Bool
  most : Nat
  width : Nat

/--
Shrink widths by an excess in all, in equal shares for the `sharers` that take part
and are still to come.
-/
def shrinkShares (excess sharers : Nat) : List Shrinking → List Nat
  | [] => []
  | shrinking :: rest =>
      if shrinking.takesPart && shrinking.most ≠ 0 then
        let share := min shrinking.most (Decimal.roundedQuotient excess sharers)
        (shrinking.width - share) :: shrinkShares (excess - share) (sharers - 1) rest
      else
        shrinking.width :: shrinkShares excess sharers rest

/-- Shrink widths by an excess in all. -/
def shrink (excess : Nat) (shrinkings : List Shrinking) : List Nat :=
  shrinkShares excess
    (shrinkings.filter fun shrinking => shrinking.takesPart && shrinking.most ≠ 0).length shrinkings

/--
Shrink the widest columns that may wrap towards the next widest ones, with fuel for the
steps.
-/
def collapse (limit : Nat) (wraps : List Bool) : Nat → List Nat → List Nat
  | 0, widths => widths
  | fuel + 1, widths =>
      let excess := total widths - limit
      let pairs := wraps.zip widths
      let shrinkable := (pairs.filter (·.1)).map (·.2)
      let widest := greatest shrinkable
      let second := greatest (shrinkable.filter (· ≠ widest))
      if excess = 0 || shrinkable.isEmpty || widest = second then
        widths
      else
        let most := min excess (widest - second)
        collapse limit wraps fuel
          (shrink excess
            (pairs.map fun pair => ⟨pair.1 && pair.2 = widest, most, pair.2⟩))

/-- The contents of the columns of a grid, titles first. -/
def Grid.contents (grid : Grid) : List (List (List Char)) :=
  grid.columns.zipIdx.map fun entry =>
    entry.1.title.toList :: grid.rows.map fun row => (row[entry.2]?).getD []

/-- The widths of the columns of a grid on a console. -/
def Grid.widths (grid : Grid) (limit : Nat) : List Nat :=
  let contents := grid.contents
  let wished := contents.map fun column => columnWidth column limit
  if total wished ≤ limit then
    wished
  else
    let collapsed := collapse limit (grid.columns.map Column.wraps) (total wished) wished
    let fitted :=
      if total collapsed ≤ limit then
        collapsed
      else
        shrink (total collapsed - limit) (collapsed.map fun width => ⟨true, width, width⟩)
    (contents.zip fitted).map fun entry => columnWidth entry.1 entry.2

/-- The lines of a cell in a column of a given width. -/
def cellLines (column : Column) (width : Nat) (s : List Char) : List (List Char) :=
  if width ≤ paddingWidth then
    []
  else
    let arrangement : Arrangement :=
      { width := width - paddingWidth
        overflow := .ellipsis
        alignment := column.alignment
        wraps := column.wraps }
    (arrangement.lines s).map fun line => ' ' :: line ++ [' ']

/-- The lines of a row; every cell is filled up with blank lines. -/
def rowLines (columns : List Column) (widths : List Nat) (row : List (List Char)) :
    List (List Char) :=
  let cells := (columns.zip (widths.zip row)).map fun entry =>
    (entry.2.1, cellLines entry.1 entry.2.1 entry.2.2)
  let height := max 1 (greatest (cells.map fun cell => cell.2.length))
  (List.range height).map fun index =>
    cells.flatMap fun cell => (cell.2[index]?).getD (List.replicate cell.1 ' ')

/-- The lines of a grid on a console. -/
def Grid.lines (grid : Grid) (limit : Nat) : List (List Char) :=
  let widths := grid.widths limit
  (grid.columns.map (·.title.toList) :: grid.rows).flatMap (rowLines grid.columns widths)

end PageScript.Console
