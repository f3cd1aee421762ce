import PageScript.Console.Handler.Number
import PageScript.Text.LowerCase

namespace PageScript.Console.Handler

/-!
# Cutting expressions into lexemes

Blanks and comments are passed over, and so are line ends inside brackets.  A text is
cut until its end or until the first place that cannot be cut; what happened there is
kept beside the lexemes, because it only matters once a reader gets that far.
-/

/-- How cutting a text came to its end. -/
inductive Ending where
  /-- The whole text is cut, and a last lexeme marks its end. -/
  | complete
  /-- Something cannot be cut. -/
  | refused (fault : LexicalFault)
  /-- A bracket is still open at the end. -/
  | unclosed (bracket : Char)
  /-- A backslash does not stand at the end of its line. -/
  | badContinuation
  /-- A further line starts with blanks. -/
  | indented
  deriving Repr, DecidableEq

/-- A bracket that is open, and the line where it was opened. -/
structure OpenBracket where
  character : Char
  line : Nat

/-- The letters in front of a quote that say how the text behind it is read. -/
def textMarks : List String :=
  ["b", "u", "r", "f", "br", "rb", "fr", "rf"]

/-- Whether a character is a quote. -/
def isQuote (c : Char) : Bool :=
  c = '\x27' || c = '\x22'

/-- The number of letters in front of a quote, if a text starts here. -/
def textMarkLength? (s : List Char) : Option Nat :=
  let marked (length : Nat) : Bool :=
    textMarks.contains (String.ofList ((s.take length).map Char.toLower)) &&
      ((s.drop length).head?.map isQuote).getD false
  if (s.head?.map isQuote).getD false then some 0
  else if marked 1 then some 1
  else if marked 2 then some 2
  else none

/-- The rest behind a text of one line, from behind its first quote; none if it stays open. -/
def lineTextRest? (quote : Char) : List Char → Option (List Char)
  | [] => none
  | '\\' :: _ :: rest => lineTextRest? quote rest
  | c :: rest =>
      if c = quote then some rest else if c = '\n' then none else lineTextRest? quote rest

/-- The number of the line that a text of one line ends on when it stays open. -/
def openTextLine (line : Nat) : List Char → Nat
  | '\\' :: '\n' :: rest => openTextLine (line + 1) rest
  | '\\' :: _ :: rest => openTextLine line rest
  | c :: rest => if c = '\n' then line else openTextLine line rest
  | [] => line

/-- The rest behind a text of several lines, where `met` quotes stand right before. -/
def longTextRest? (quote : Char) (met : Nat) : List Char → Option (List Char)
  | [] => none
  | '\\' :: _ :: rest => longTextRest? quote 0 rest
  | c :: rest =>
      if c = quote then
        if met = 2 then some rest else longTextRest? quote (met + 1) rest
      else
        longTextRest? quote 0 rest

/-- The number of line ends in a text. -/
def lineEnds (s : List Char) : Nat :=
  (s.filter (· = '\n')).length

/-- The rest behind a text that starts with a quote on a line. -/
def textRest (line : Nat) : List Char → Except LexicalFault (List Char)
  | a :: b :: c :: rest =>
      if a = b && b = c then
        match longTextRest? a 0 rest with
        | some behind => .ok behind
        | none => .error (.openLongText (line + lineEnds rest))
      else if a = b then
        .ok (c :: rest)
      else
        lineText a (b :: c :: rest)
  | [a, b] => if a = b then .ok [] else lineText a [b]
  | a :: rest => lineText a rest
  | [] => .ok []
where
  /-- The rest behind a text of one line. -/
  lineText (quote : Char) (s : List Char) : Except LexicalFault (List Char) :=
    match lineTextRest? quote s with
    | some behind => .ok behind
    | none => .error (.openText (openTextLine line s))

/-- The signs of several characters, the longest first. -/
def longSigns : List String :=
  ["**=", "//=", "<<=", ">>=", "...", "!=", "%=", "&=", "**", "*=", "+=", "-=", "->", "//", "/=",
   ":=", "<<", "<=", "<>", "==", ">=", ">>", "@=", "^=", "|="]

/-- The number of characters of the sign at the start of a text. -/
def signLength (s : List Char) : Nat :=
  ((longSigns.find? fun sign => sign.toList.isPrefixOf s).map String.length).getD 1

/-- The greatest number of brackets that may be open. -/
def levelLimit : Nat :=
  200

/-- Open or close a bracket; other signs leave the open brackets as they are. -/
def bracketsBehind (opened : List OpenBracket) (line : Nat) (sign : Char) :
    Except LexicalFault (List OpenBracket) :=
  if sign = '(' || sign = '[' || sign = '\x7b' then
    if levelLimit ≤ opened.length then .error .tooDeep else .ok (⟨sign, line⟩ :: opened)
  else if sign = ')' || sign = ']' || sign = '\x7d' then
    match opened with
    | [] => .error (.unmatched sign)
    | bracket :: rest =>
        if (bracket.character, sign) = ('(', ')') || (bracket.character, sign) = ('[', ']') ||
            (bracket.character, sign) = ('\x7b', '\x7d') then
          .ok rest
        else
          .error (.mismatched sign bracket.character
            (if bracket.line = line then none else some bracket.line))
  else
    .ok opened

/-- A piece at the start of a text. -/
inductive Piece where
  /-- A lexeme of some characters. -/
  | lexeme (kind : LexemeKind) (length : Nat)
  /-- A number of characters that do not count. -/
  | skipped (length : Nat)
  /-- A backslash that joins two lines. -/
  | continuation
  /-- A backslash that joins nothing. -/
  | badContinuation

/-- The piece of a name or a keyword. -/
def namePiece (s : List Char) : Except LexicalFault Piece :=
  let name := s.takeWhile looksLikeName
  match (if name.all fun c => c.toNat < 0x80 then none else strangeInName? name) with
  | some c => .error (.ofCharacter c)
  | none =>
      .ok (.lexeme (if keywords.contains (String.ofList name) then .keyword else .name) name.length)

/-- The piece at the start of a text on a line, in brackets or not. -/
def pieceAt (line : Nat) : List Char → Except LexicalFault Piece
  | [] => .ok (.skipped 1)
  | c :: rest =>
      let s := c :: rest
      if c = ' ' || c = '\t' || c = '\x0c' then
        .ok (.skipped 1)
      else if c = '#' then
        .ok (.skipped (s.takeWhile (· ≠ '\n')).length)
      else if c = '\n' then
        .ok (.lexeme .lineEnd 1)
      else if c = '\\' then
        .ok (match rest with
          | '\n' :: _ :: _ => .continuation
          | _ => .badContinuation)
      else
        match textMarkLength? s with
        | some marks =>
            (textRest line (s.drop marks)).map fun behind =>
              .lexeme .text (s.length - behind.length)
        | none =>
            if startsNumber s then
              (numberRest s).map fun behind => .lexeme .number (s.length - behind.length)
            else if looksLikeName c then
              namePiece s
            else if c < ' ' || c = '\x7f' then
              .error (.unprintable c)
            else
              .ok (.lexeme .sign (signLength s))

/-- The end of a text where some brackets are open. -/
def endOf : List OpenBracket → List Lexeme × Ending
  | [] => ([⟨.finish, "", 0⟩], .complete)
  | bracket :: _ => ([], .unclosed bracket.character)

/-- Whether a line starts with blanks and has something other than a comment behind them. -/
def startsIndented (s : List Char) : Bool :=
  let blanks := s.takeWhile fun c => c = ' ' || c = '\t' || c = '\x0c'
  match s.drop blanks.length with
  | [] => false
  | c :: _ => c ≠ '#' && c ≠ '\n' && !blanks.isEmpty && blanks.getLast? ≠ some '\x0c'

/--
Cut a text into lexemes, where `opened` brackets are open.  A line end counts outside of
brackets and behind another lexeme only.  The length of the text is fuel enough.
-/
def lexemesFrom : Nat → Nat → List OpenBracket → Bool → List Char → List Lexeme × Ending
  | 0, _, opened, _, _ => endOf opened
  | _ + 1, _, opened, _, [] => endOf opened
  | fuel + 1, line, opened, lineStarted, s =>
      match pieceAt line s with
      | .error fault => ([], .refused fault)
      | .ok .badContinuation => ([], .badContinuation)
      | .ok .continuation => lexemesFrom fuel (line + 1) opened lineStarted (s.drop 2)
      | .ok (.skipped length) => lexemesFrom fuel line opened lineStarted (s.drop length)
      | .ok (.lexeme .lineEnd _) =>
          let rest :=
            if opened.isEmpty && startsIndented (s.drop 1) then ([], .indented)
            else lexemesFrom fuel (line + 1) opened false (s.drop 1)
          if opened.isEmpty && lineStarted then (⟨.lineEnd, "", 0⟩ :: rest.1, rest.2) else rest
      | .ok (.lexeme kind length) =>
          let text := s.take length
          let sign := if kind = .sign then text.head?.getD ' ' else ' '
          match bracketsBehind opened line (if length = 1 then sign else ' ') with
          | .error fault => ([], .refused fault)
          | .ok behind =>
              let rest :=
                lexemesFrom fuel (line + lineEnds text) behind true (s.drop length)
              (⟨kind, String.ofList text, behind.length⟩ :: rest.1, rest.2)

/-- The lexemes of a text, and how cutting it came to its end. -/
def lexemes (s : List Char) : List Lexeme × Ending :=
  lexemesFrom (s.length + 1) 1 [] false s

end PageScript.Console.Handler
