import PageScript.Console.Handler.Tree
import PageScript.Script.Expression

namespace PageScript.Console.Handler

/-!
# Texts and numbers in expressions

Texts that follow each other are one text.  They are either all made of bytes or none
is, and their escapes have to be complete.  A formatted text has expressions in braces,
whose form may be followed by a conversion and by a format.  A number must not have too
many digits.
-/

/-- A text without its quotes, and the letters in front of it. -/
structure Quotation where
  marks : List Char
  body : List Char

namespace Quotation

/-- The text that a lexeme holds. -/
def ofLexeme (lexeme : Lexeme) : Quotation :=
  let written := lexeme.text.toList
  let quoted := written.dropWhile fun c => !isQuote c
  let width :=
    match quoted with
    | a :: b :: c :: _ => if a = b && b = c then 3 else 1
    | _ => 1
  { marks := (written.takeWhile fun c => !isQuote c).map Char.toLower
    body := (quoted.drop width).take (quoted.length - 2 * width) }

/-- Whether a text is made of bytes. -/
def isBytes (quotation : Quotation) : Bool :=
  quotation.marks.contains 'b'

/-- Whether the backslashes of a text stand for themselves. -/
def isRaw (quotation : Quotation) : Bool :=
  quotation.marks.contains 'r'

/-- Whether a text has expressions in braces. -/
def isFormatted (quotation : Quotation) : Bool :=
  quotation.marks.contains 'f'

end Quotation

/-! ### Escapes -/

/-- Whether a character is a digit in base sixteen. -/
def isHexDigit (c : Char) : Bool :=
  isDigit c || ('a' ≤ c && c ≤ 'f') || ('A' ≤ c && c ≤ 'F')

/-- The number that digits in base sixteen write. -/
def hexNumber (digits : List Char) : Nat :=
  digits.foldl
    (fun value c =>
      value * 16 +
        (if isDigit c then c.toNat - 0x30 else c.toLower.toNat - 0x57))
    0

/-- The number of digits of the escape that a letter stands for. -/
def escapeWidth? (letter : Char) : Option Nat :=
  if letter = 'x' then some 2
  else if letter = 'u' then some 4
  else if letter = 'U' then some 8
  else none

/-- The pattern of an escape as it is named when it is broken. -/
def escapePattern (letter : Char) (width : Nat) : String :=
  "\\" ++ letter.toString ++ String.ofList (List.replicate width 'X')

/-- The text for a broken escape between two positions. -/
def escapeFault (first last : Nat) (reason : String) : String :=
  "(unicode error) 'unicodeescape' codec can't decode bytes in position " ++ toString first ++
    "-" ++ toString last ++ ": " ++ reason

/--
The number of positions of a character: one in the basic block, and ten for its escape
otherwise.
-/
def positionsOf (c : Char) : Nat :=
  if c.toNat < 0x80 then 1 else 10

/-- The number of positions of a text. -/
def positionCount (s : List Char) : Nat :=
  s.foldl (fun count c => count + positionsOf c) 0

/-- What is wrong with an escape of digits behind its letter, if it is at a position. -/
def digitEscapeFault?
    (position : Nat)
    (letter : Char)
    (width : Nat)
    (s : List Char) :
    Option String :=
  let digits := (s.take width).takeWhile isHexDigit
  if digits.length < width then
    some (escapeFault position (position + 1 + digits.length)
      ("truncated " ++ escapePattern letter width ++ " escape"))
  else if 0x10FFFF < hexNumber digits then
    some (escapeFault position (position + 1 + width) "illegal Unicode character")
  else
    none

/-- What is wrong with an escape by a name behind its letter, if it is at a position. -/
def nameEscapeFault? (position : Nat) (s : List Char) : Option String :=
  let reason := "malformed \\N character escape"
  match s with
  | '\x7b' :: rest =>
      let name := rest.takeWhile (· ≠ '\x7d')
      if name.length = rest.length then
        some (escapeFault position (position + 2 + positionCount rest) reason)
      else if name.isEmpty then
        some (escapeFault position (position + 2) reason)
      else
        none
  | _ => some (escapeFault position (position + 1) reason)

/-- What is wrong with the escapes of a text from a position on. -/
def escapesFault? (position : Nat) : List Char → Option String
  | [] => none
  | '\\' :: c :: rest =>
      if 0x80 ≤ c.toNat then
        escapesFault? (position + 6 + positionsOf c) rest
      else
        let fault :=
          match escapeWidth? c with
          | some width => digitEscapeFault? position c width rest
          | none => if c = 'N' then nameEscapeFault? position rest else none
        fault.or (escapesFault? (position + 2) rest)
  | c :: rest => escapesFault? (position + positionsOf c) rest

/-- What is wrong with the escapes of bytes from a position on. -/
def byteEscapesFault? (position : Nat) : List Char → Option String
  | [] => none
  | '\\' :: c :: rest =>
      if c = 'x' && ((rest.take 2).filter isHexDigit).length ≠ 2 then
        some ("(value error) invalid \\x escape at position " ++ toString position)
      else
        byteEscapesFault? (position + 2) rest
  | _ :: rest => byteEscapesFault? (position + 1) rest

/-! ### Formatted texts -/

/-- A reader of expressions inside texts, which says what is wrong with one. -/
abbrev InnerReader := List Char → Option ReadingFault

/-- What may be wrong with a part of a formatted text, and the rest behind it. -/
abbrev FormattedRest := Except ReadingFault (List Char)

/-- A fault of a formatted text. -/
def refused (reason : String) : ReadingFault :=
  { reason := reason }

/-- A quote that is open inside an expression. -/
structure OpenQuote where
  character : Char
  isLong : Bool

/-- The state of looking for the end of an expression in braces. -/
structure Braced where
  /-- The characters of the expression, last first. -/
  taken : List Char := []
  quote : Option OpenQuote := none
  brackets : List Char := []

/-- Whether three of a character follow. -/
def startsLong (c : Char) (rest : List Char) : Bool :=
  [c, c].isPrefixOf rest

/-- Whether a character may end an expression in braces. -/
def endsBraced (c : Char) : Bool :=
  c = '!' || c = ':' || c = '\x7d' || c = '='

/-- Whether a sign and the equals sign behind it are one sign. -/
def joinsEquals (c : Char) (rest : List Char) : Bool :=
  (c = '!' || c = '=' || c = '<' || c = '>') && rest.head? == some '='

/-- Close a bracket inside an expression in braces. -/
def closedBracket (brackets : List Char) (c : Char) : FormattedRest :=
  match brackets with
  | [] => .error (refused ("f-string: unmatched '" ++ c.toString ++ "'"))
  | opening :: others =>
      if (opening, c) = ('(', ')') || (opening, c) = ('[', ']') ||
          (opening, c) = ('\x7b', '\x7d') then
        .ok others
      else
        .error (refused ("f-string: closing parenthesis '" ++ c.toString ++
          "' does not match opening parenthesis '" ++ opening.toString ++ "'"))

/--
The state at the end of an expression in braces, and the rest from there; the length is fuel
enough.
-/
def bracedFrom : Nat → Braced → List Char → Except ReadingFault (Braced × List Char)
  | 0, state, s => .ok (state, s)
  | _ + 1, state, [] => .ok (state, [])
  | fuel + 1, state, c :: rest =>
      let kept : Braced := { state with taken := c :: state.taken }
      if c = '\\' then
        .error (refused "f-string expression part cannot include a backslash")
      else
        match state.quote with
        | some quote =>
            if c ≠ quote.character then
              bracedFrom fuel kept rest
            else if !quote.isLong then
              bracedFrom fuel { kept with quote := none } rest
            else if startsLong c rest then
              bracedFrom fuel
                { kept with taken := c :: c :: kept.taken, quote := none } (rest.drop 2)
            else
              bracedFrom fuel kept rest
        | none =>
            if isQuote c then
              if startsLong c rest then
                bracedFrom fuel
                  { kept with taken := c :: c :: kept.taken, quote := some ⟨c, true⟩ } (rest.drop 2)
              else
                bracedFrom fuel { kept with quote := some ⟨c, false⟩ } rest
            else if c = '(' || c = '[' || c = '\x7b' then
              bracedFrom fuel { kept with brackets := c :: state.brackets } rest
            else if c = '#' then
              .error (refused "f-string expression part cannot include '#'")
            else if state.brackets.isEmpty && joinsEquals c rest then
              bracedFrom fuel { kept with taken := '=' :: kept.taken } (rest.drop 1)
            else if state.brackets.isEmpty && endsBraced c then
              .ok (state, c :: rest)
            else if c = ')' || c = ']' || c = '\x7d' then
              match closedBracket state.brackets c with
              | .error fault => .error fault
              | .ok others => bracedFrom fuel { kept with brackets := others } rest
            else
              bracedFrom fuel kept rest

/-- The fault of braces that are not closed. -/
def expectingBrace : ReadingFault :=
  refused "f-string: expecting '\x7d'"

/-- The fault of an expression that is missing before a character. -/
def missingExpression (c : Char) : ReadingFault :=
  if c = '!' || c = ':' || c = '=' then
    refused ("f-string: expression required before '" ++ c.toString ++ "'")
  else
    refused "f-string: empty expression not allowed"

/-- Read an expression in braces up to what follows it. -/
def bracedExpression (inner : InnerReader) (s : List Char) : FormattedRest := do
  let ended ← bracedFrom (s.length + 1) {} s
  if ended.1.quote.isSome then
    throw (refused "f-string: unterminated string")
  match ended.1.brackets with
  | opening :: _ => throw (refused ("f-string: unmatched '" ++ opening.toString ++ "'"))
  | [] => pure ()
  if ended.2.isEmpty then
    throw expectingBrace
  let expression := ended.1.taken.reverse
  if expression.all fun c => c = ' ' || c = '\t' || c = '\n' || c = '\x0c' then
    throw (missingExpression (ended.2.head?.getD ' '))
  match inner ('(' :: expression ++ [')']) with
  | some fault => throw fault.inText
  | none => pure ended.2

/-- Read the conversion behind an expression, if there is one. -/
def conversionRest : List Char → FormattedRest
  | '!' :: [] => .error expectingBrace
  | '!' :: c :: rest =>
      if c = 's' || c = 'r' || c = 'a' then .ok rest
      else .error (refused "f-string: invalid conversion character: expected 's', 'r', or 'a'")
  | s => .ok s

/-- Whether a character is white space of the basic block. -/
def isPlainBlank (c : Char) : Bool :=
  c = ' ' || ('\t' ≤ c && c ≤ '\r')

/-- How the plain characters of a formatted text end. -/
inductive PlainEnd where
  /-- The text ends. -/
  | finished
  /-- A doubled brace stands for one brace, and more follows. -/
  | doubled (rest : List Char)
  /-- An expression starts, and more follows behind its brace. -/
  | opened (rest : List Char)
  /-- A format ends with the brace at the start of the rest. -/
  | closed (rest : List Char)

/-- The number of characters of an escape behind its backslash. -/
def escapeLength : List Char → Nat
  | 'N' :: '\x7b' :: rest => (rest.takeWhile (· ≠ '\x7d')).length + 3
  | 'N' :: _ :: _ => 2
  | _ => 1

/--
The plain characters at the start of a formatted text, and what ends them.  The first
`kept` characters belong to an escape, and `taken` are the characters before, last first.
-/
def plainPart (isRaw isFormat : Bool) (taken : List Char) :
    Nat → List Char → Except ReadingFault (List Char × PlainEnd)
  | _, [] => .ok (taken.reverse, .finished)
  | kept + 1, c :: rest => plainPart isRaw isFormat (c :: taken) kept rest
  | 0, c :: rest =>
      if c = '\\' then
        let isEscape := !isRaw && rest.head? ≠ some '\x7b' && rest.head? ≠ some '\x7d'
        plainPart isRaw isFormat (c :: taken) (if isEscape then escapeLength rest else 0) rest
      else if c ≠ '\x7b' && c ≠ '\x7d' then
        plainPart isRaw isFormat (c :: taken) 0 rest
      else if !isFormat && rest.head? == some c then
        .ok ((c :: taken).reverse, .doubled (rest.drop 1))
      else if c = '\x7b' then
        .ok (taken.reverse, .opened rest)
      else if isFormat then
        .ok (taken.reverse, .closed (c :: rest))
      else
        .error (refused "f-string: single '\x7d' is not allowed")

/-- Read a formatted text, or a format inside of one, up to its end; the fuel bounds its parts. -/
def formattedRest (inner : InnerReader) (isRaw : Bool) : Nat → Nat → List Char → FormattedRest
  | 0, _, s => .ok s
  | fuel + 1, level, s => do
      let plain ← plainPart isRaw (level ≠ 0) [] 0 s
      match if isRaw then none else escapesFault? 0 plain.1 with
      | some reason => throw (refused reason)
      | none => pure ()
      match plain.2 with
      | .finished => pure []
      | .closed rest => pure rest
      | .doubled rest => formattedRest inner isRaw fuel level rest
      | .opened rest =>
          if 2 ≤ level then
            throw (refused "f-string: expressions nested too deeply")
          let stopped ← bracedExpression inner rest
          let shown :=
            if stopped.head? == some '=' then (stopped.drop 1).dropWhile isPlainBlank else stopped
          let formatted ←
            match ← conversionRest shown with
            | ':' :: [] => throw expectingBrace
            | ':' :: format => formattedRest inner isRaw fuel (level + 1) format
            | other => pure other
          match formatted with
          | '\x7d' :: behind => formattedRest inner isRaw fuel level behind
          | _ => throw expectingBrace

/-! ### Faults -/

/-- What is wrong with one text. -/
def quotationFault? (quotation : Quotation) : Option String :=
  if quotation.isBytes then
    if quotation.body.any fun c => 0x80 ≤ c.toNat then
      some "bytes can only contain ASCII literal characters"
    else if quotation.isRaw then none
    else byteEscapesFault? 0 quotation.body
  else if quotation.isFormatted || quotation.isRaw then none
  else escapesFault? 0 quotation.body

/-- What is wrong with the expressions of a text, if it is formatted. -/
def formattedFault? (inner : InnerReader) (quotation : Quotation) : Option ReadingFault :=
  if quotation.isFormatted then
    match formattedRest inner quotation.isRaw (quotation.body.length + 1) 0 quotation.body with
    | .error fault => some fault
    | .ok _ => none
  else
    none

/-- What is wrong with texts that follow each other, the first of which is made of bytes or not. -/
def quotationsFault? (inner : InnerReader) (bytes : Bool) :
    List Quotation → Option ReadingFault
  | [] => none
  | quotation :: rest =>
      let mixed :=
        if quotation.isBytes = bytes then none else some "cannot mix bytes and nonbytes literals"
      (((quotationFault? quotation).or mixed).map refused).or
        ((formattedFault? inner quotation).or (quotationsFault? inner bytes rest))

/-- What is wrong with a number: an integer in base ten may have too many digits. -/
def numberFault? (text : String) : Option String :=
  let digits := text.toList.filter isDigit
  let isInteger := text.toList.all fun c => isDigit c || c = '_'
  if isInteger && Decimal.digitLimit < digits.length then
    some (Script.tooManyDigitsMessage digits.length ++
      " - Consider hexadecimal for huge integer literals to avoid decimal conversion limits.")
  else
    none

/-- What is wrong with a number or with texts that follow each other. -/
def literalFault? (inner : InnerReader) (trees : List Tree) : Option ReadingFault :=
  let lexemes :=
    trees.filterMap fun tree =>
      match tree with
      | .leaf lexeme => some lexeme
      | .node .. => none
  match lexemes with
  | [] => none
  | first :: _ =>
      if first.kind = .number then
        (numberFault? first.text).map refused
      else
        let quotations := lexemes.map Quotation.ofLexeme
        quotationsFault? inner (Quotation.ofLexeme first).isBytes quotations

end PageScript.Console.Handler
