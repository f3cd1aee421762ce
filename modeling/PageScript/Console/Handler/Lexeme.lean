import PageScript.Text.NameRanges
import PageScript.Text.Quoted

namespace PageScript.Console.Handler

/-!
# Lexemes of handler arguments

The arguments of a handler are an expression in a small language, cut into names,
keywords, numbers, texts and signs.  A lexeme knows how many brackets are open behind
it.  This module also says which characters may stand in a name and how a text that
cannot be cut is refused.
-/

/-- What a lexeme is. -/
inductive LexemeKind where
  | name
  | keyword
  | number
  | text
  | sign
  | lineEnd
  | finish
  deriving Repr, DecidableEq

/-- A piece of an expression. -/
structure Lexeme where
  kind : LexemeKind
  text : String
  /-- The number of brackets that are open behind the lexeme. -/
  level : Nat
  deriving Repr, DecidableEq

/-- The words that are no names. -/
def keywords : List String :=
  ["False", "None", "True", "and", "as", "assert", "async", "await", "break", "class", "continue",
   "def", "del", "elif", "else", "except", "finally", "for", "from", "global", "if", "import", "in",
   "is", "lambda", "nonlocal", "not", "or", "pass", "raise", "return", "try", "while", "with",
   "yield"]

/-- Why a text cannot be cut into lexemes. -/
inductive LexicalFault where
  /-- A character that stands for itself has no place in an expression. -/
  | strange (c : Char)
  /-- A character that cannot be shown has no place in an expression. -/
  | unprintable (c : Char)
  /-- A number of some base is broken. -/
  | brokenNumber (base : String)
  /-- A number has a digit that its base does not have. -/
  | foreignDigit (digit : Char) (base : String)
  /-- A number starts with needless zeros. -/
  | leadingZeros
  /-- A text is still open at the end of its line. -/
  | openText (line : Nat)
  /-- A text of several lines is still open at the end. -/
  | openLongText (line : Nat)
  /-- Too many brackets are open. -/
  | tooDeep
  /-- A bracket closes nothing. -/
  | unmatched (closing : Char)
  /--
  A bracket closes one of another form, which was opened on the given line if not on the
  same.
  -/
  | mismatched (closing opening : Char) (line : Option Nat)
  deriving Repr, DecidableEq

/-- The code point of a character in base sixteen. -/
def codePoint (c : Char) : String :=
  "U+" ++ String.ofList ((Text.hexDigits 4 c.toNat).map Char.toUpper)

/-- The text of a fault. -/
def LexicalFault.message : LexicalFault → String
  | strange c => "invalid character '" ++ c.toString ++ "' (" ++ codePoint c ++ ")"
  | unprintable c => "invalid non-printable character " ++ codePoint c
  | brokenNumber base => "invalid " ++ base ++ " literal"
  | foreignDigit digit base =>
      "invalid digit '" ++ digit.toString ++ "' in " ++ base ++ " literal"
  | leadingZeros =>
      "leading zeros in decimal integer literals are not permitted; " ++
        "use an 0o prefix for octal integers"
  | openText line => "unterminated string literal (detected at line " ++ toString line ++ ")"
  | openLongText line =>
      "unterminated triple-quoted string literal (detected at line " ++ toString line ++ ")"
  | tooDeep => "too many nested parentheses"
  | unmatched closing => "unmatched '" ++ closing.toString ++ "'"
  | mismatched closing opening line =>
      "closing parenthesis '" ++ closing.toString ++ "' does not match opening parenthesis '" ++
        opening.toString ++ "'" ++
        match line with
        | some number => " on line " ++ toString number
        | none => ""

/-- A fault for a character that has no place in an expression. -/
def LexicalFault.ofCharacter (c : Char) : LexicalFault :=
  if Text.isPrintable c then strange c else unprintable c

/-- Whether a character of the basic block may stand in a name. -/
def isPlainNameChar (c : Char) : Bool :=
  c.toNat < 0x80 && Text.isWordChar c

/-- Whether a character may start or continue what looks like a name. -/
def looksLikeName (c : Char) : Bool :=
  0x80 ≤ c.toNat || Text.isWordChar c

/-- The first character of what looks like a name that has no place there. -/
def strangeInName? : List Char → Option Char
  | [] => none
  | first :: rest =>
      if Text.startsName first then rest.find? (fun c => !Text.continuesName c) else some first

end PageScript.Console.Handler
