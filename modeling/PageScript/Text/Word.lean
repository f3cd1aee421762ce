import PageScript.Text.WordRanges

namespace PageScript.Text

/-!
# Words of names

A name is a run of word characters: letters and numbers of any script, and the
underscore.  An identifier starts with a Latin letter or an underscore.
-/

/-- Latin letters of the basic block. -/
def isLatinLetter (c : Char) : Bool :=
  ('a' ≤ c && c ≤ 'z') || ('A' ≤ c && c ≤ 'Z')

/-- Digits of the basic block. -/
def isPlainDigit (c : Char) : Bool :=
  '0' ≤ c && c ≤ '9'

/-- Letters and numbers of any script, and the underscore. -/
def isWordChar (c : Char) : Bool :=
  isLatinLetter c || isPlainDigit c || c = '_' ||
    (0x80 ≤ c.toNat && covers alphanumericRanges c)

/-- Whether a text is a non-empty run of word characters. -/
def isWord (s : List Char) : Bool :=
  !s.isEmpty && s.all isWordChar

/-- Whether a text is a word that starts with a Latin letter or an underscore. -/
def isIdentifier : List Char → Bool
  | [] => false
  | c :: rest => (isLatinLetter c || c = '_') && rest.all isWordChar

end PageScript.Text
