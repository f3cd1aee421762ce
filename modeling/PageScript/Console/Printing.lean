import PageScript.Console.Line
import PageScript.Console.Markup

namespace PageScript.Console

/-!
# Printing

What is printed at once consists of pieces with one blank between them.  A piece is
either literal or markup; its text is broken into lines of the width of the console.
-/

/-- The number of cells of a line of the console. -/
def consoleWidth : Nat :=
  120

/-- A piece of what is printed. -/
inductive Piece where
  /-- A text as it is. -/
  | literal (text : String)
  /-- A text whose tags vanish. -/
  | markup (text : String)

/-- The text that a piece shows. -/
def Piece.shown : Piece → Except TagError (List Char)
  | .literal text => .ok text.toList
  | .markup text => shownText text.toList

/-- The lines of pieces that are printed at once. -/
def printed (pieces : List Piece) : Except TagError (List (List Char)) :=
  (pieces.mapM Piece.shown).map fun texts =>
    let arrangement : Arrangement := { width := consoleWidth }
    arrangement.lines (Text.joinWith [' '] texts)

end PageScript.Console
