namespace PageScript.Text

/-!
# Blank characters

A text is worked on as a list of characters.  This module says which characters
are blank, cuts blanks from the ends of a text, and divides a text into its
words.  Cutting leaves a text with no blank at either end.
-/

/-- Whether a character lies in one of the closed ranges of code points. -/
def covers
    (ranges : List (Nat × Nat))
    (c : Char) :
    Bool :=
  ranges.any fun range => range.1 ≤ c.toNat && c.toNat ≤ range.2

/-- The blank characters beyond the basic block, as closed ranges of code points. -/
def blankRanges : List (Nat × Nat) :=
  [(0x0085, 0x0085), (0x00A0, 0x00A0), (0x1680, 0x1680), (0x2000, 0x200A), (0x2028, 0x2029),
   (0x202F, 0x202F), (0x205F, 0x205F), (0x3000, 0x3000)]

/-- Whether a character is white space in any script, line ends included. -/
def isWhiteSpace (c : Char) : Bool :=
  c = ' ' || ('\t' ≤ c && c ≤ '\r') || (0x80 ≤ c.toNat && covers blankRanges c)

/--
Whether a character is white space or one of the separators of files, groups, records and
units.
-/
def isBlank (c : Char) : Bool :=
  isWhiteSpace c || ('\x1c' ≤ c && c ≤ '\x1f')

/-- A text without its leading blanks. -/
def trimStart (s : List Char) : List Char :=
  s.dropWhile isBlank

/-- A text without its trailing blanks. -/
def trimEnd (s : List Char) : List Char :=
  (s.reverse.dropWhile isBlank).reverse

/-- A text without the blanks at its ends. -/
def trim (s : List Char) : List Char :=
  trimEnd (trimStart s)

/-- The words of a text, where `word` holds the letters of the open word, last first. -/
def wordsAfter (word : List Char) : List Char → List (List Char)
  | [] => if word.isEmpty then [] else [word.reverse]
  | c :: rest =>
      if isBlank c then
        if word.isEmpty then wordsAfter [] rest else word.reverse :: wordsAfter [] rest
      else
        wordsAfter (c :: word) rest

/-- The maximal runs of characters that are not blank. -/
def words (s : List Char) : List (List Char) :=
  wordsAfter [] s

/-- A text made of blanks only is called blank. -/
def isBlankText (s : List Char) : Bool :=
  s.all isBlank

end PageScript.Text
