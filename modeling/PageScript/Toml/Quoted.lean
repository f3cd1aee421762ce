import PageScript.Json.Reader
import PageScript.Toml.Failure

namespace PageScript.Toml

/-!
# Quoted texts

Between single quotes every character stands for itself.  Between double quotes a
backslash starts an escape.  Three quotes start a text of several lines, in which a
backslash at the end of a line joins it to the next one.
-/

/-- The rest of a text between single quotes, after the opening one. -/
def literalText (s : List Char) : Reading (List Char) :=
  match splitBefore ['\x27'] s with
  | none => refuse "Expected \"'\"" []
  | some parts =>
      (takeLegal isIllegalInLine s parts.1 parts.2).map fun read => (read.1, read.2.drop 1)

/-- The characters that single letters stand for after a backslash. -/
def escapes : List (Char × Char) :=
  [('b', '\x08'), ('t', '\t'), ('n', '\n'), ('f', '\x0c'), ('r', '\r'), ('\x22', '\x22'),
   ('\\', '\\')]

/-- The number that digits of base sixteen write. -/
def hexNumber? (digits : List Char) : Option Nat :=
  digits.foldlM (fun value c => (Json.hexDigit? c).map fun digit => value * 16 + digit) 0

/-- The character that `count` digits of base sixteen write. -/
def hexCharacter (count : Nat) (s : List Char) : Reading (List Char) :=
  let digits := s.take count
  if digits.length < count then
    refuse "Invalid hex value" s
  else
    match hexNumber? digits with
    | none => refuse "Invalid hex value" s
    | some code =>
        let rest := s.drop count
        if code < 0xD800 ∨ (0xE000 ≤ code ∧ code < 0x110000) then
          .ok ([Char.ofNat code], rest)
        else
          refuse "Escaped character is not a Unicode scalar value" rest

/-- The reason for which an escape is refused. -/
def strayBackslash : String :=
  "Unescaped '\\' in a string"

/-- The rest after a backslash and blanks that end a line. -/
def joinLines (s : List Char) : Reading (List Char) :=
  match skipSpace s with
  | [] => .ok ([], [])
  | '\n' :: rest => .ok ([], rest.dropWhile isSpaceOrLineEnd)
  | rest => refuse strayBackslash rest

/-- What an escape stands for, after its backslash. -/
def escape (block : Bool) : List Char → Reading (List Char)
  | [] => refuse strayBackslash []
  | c :: rest =>
      if block && c = '\n' then .ok ([], rest.dropWhile isSpaceOrLineEnd)
      else if block && isSpace c then joinLines rest
      else if c = 'u' then hexCharacter 4 rest
      else if c = 'U' then hexCharacter 8 rest
      else
        match escapes.find? fun entry => entry.1 = c with
        | some entry => .ok ([entry.2], rest)
        | none => refuse strayBackslash rest

/-- Whether three quotes of one kind start a text. -/
def startsWithThree (quote : Char) (s : List Char) : Bool :=
  [quote, quote, quote].isPrefixOf s

/--
The rest of a text between double quotes, after the opening ones, with `done`
holding the characters read, last first.  Every step consumes a character, so the
length of the text is fuel enough.
-/
def basicText (block : Bool) : Nat → List Char → List Char → Reading (List Char)
  | 0, _, s => refuse "Unterminated string" s
  | _ + 1, _, [] => refuse "Unterminated string" []
  | fuel + 1, done, c :: rest =>
      if c = '\x22' && !block then
        .ok (done.reverse, rest)
      else if c = '\x22' && startsWithThree '\x22' (c :: rest) then
        .ok (done.reverse, rest.drop 2)
      else if c = '\\' then
        match escape block rest with
        | .error failure => .error failure
        | .ok read => basicText block fuel (read.1.reverse ++ done) read.2
      else if (if block then isIllegalInBlock c else isIllegalInLine c) then
        refuse ("Illegal character " ++ characterText c) (c :: rest)
      else
        basicText block fuel (c :: done) rest

/-- Add up to two quotes that stand right behind a text of several lines. -/
def withTrailingQuotes (quote : Char) (read : List Char × List Char) : List Char × List Char :=
  let quotes := (read.2.take 2).takeWhile (· = quote)
  (read.1 ++ quotes, read.2.drop quotes.length)

/-- A text without its first line end. -/
def skipLineEnd : List Char → List Char
  | '\n' :: rest => rest
  | s => s

/-- The rest of a text of several lines between single quotes, after the opening ones. -/
def literalBlock (s : List Char) : Reading (List Char) :=
  match splitBefore ['\x27', '\x27', '\x27'] s with
  | none => refuse "Expected \"'''\"" []
  | some parts =>
      (takeLegal isIllegalInBlock s parts.1 parts.2).map fun read =>
        withTrailingQuotes '\x27' (read.1, read.2.drop 3)

/-- The quoted text at the start of a text that starts with a quote. -/
def quotedText (s : List Char) : Reading (List Char) :=
  if startsWithThree '\x22' s then
    (basicText true (s.length + 1) [] (skipLineEnd (s.drop 3))).map (withTrailingQuotes '\x22')
  else if startsWithThree '\x27' s then
    literalBlock (skipLineEnd (s.drop 3))
  else if ['\x27'].isPrefixOf s then
    literalText (s.drop 1)
  else
    basicText false (s.length + 1) [] (s.drop 1)

end PageScript.Toml
