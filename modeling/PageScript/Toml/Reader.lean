import PageScript.Toml.Namespace
import PageScript.Toml.Quoted
import PageScript.Toml.Scalar

namespace PageScript.Toml

/-!
# Reading settings texts

A settings text is a sequence of lines: headers in brackets, bindings of names to
values, comments and blank lines.  Each step consumes characters, so the length of
the text bounds the nesting and the number of steps.
-/

/-- Whether a character may stand in a bare name. -/
def isBareCharacter (c : Char) : Bool :=
  c.isAlphanum || c = '-' || c = '_'

/-- One part of a dotted name. -/
def keyPart (s : List Char) : Reading String :=
  match s with
  | [] => refuse "Invalid initial character for a key part" s
  | c :: rest =>
      if isBareCharacter c then
        .ok (String.ofList (s.takeWhile isBareCharacter), s.dropWhile isBareCharacter)
      else if c = '\x27' then
        (literalText rest).map fun read => (String.ofList read.1, read.2)
      else if c = '\x22' then
        (basicText false (s.length + 1) [] rest).map fun read => (String.ofList read.1, read.2)
      else
        refuse "Invalid initial character for a key part" s

/-- A dotted name and the rest behind the blanks after it; the length of the text is fuel enough. -/
def dottedKey : Nat → List Char → Reading Key
  | 0, s => refuse "Invalid initial character for a key part" s
  | fuel + 1, s =>
      match keyPart s with
      | .error failure => .error failure
      | .ok (part, rest) =>
          match skipSpace rest with
          | '.' :: after =>
              (dottedKey fuel (skipSpace after)).map fun read => (part :: read.1, read.2)
          | after => .ok ([part], after)

/-- A dotted name at the start of a text. -/
def key (s : List Char) : Reading Key :=
  dottedKey (s.length + 1) s

/-- The rest of a text behind blanks, line ends and comments. -/
def skipFiller : Nat → List Char → Except Failure (List Char)
  | 0, s => .ok s
  | fuel + 1, s =>
      match skipComment (s.dropWhile isSpaceOrLineEnd) with
      | .error failure => .error failure
      | .ok rest => if rest.length < s.length then skipFiller fuel rest else .ok rest

/-- The rest of a text behind everything that may stand between the items of a list. -/
def skipBetween (s : List Char) : Except Failure (List Char) :=
  skipFiller (s.length + 1) s

/-- A reason at a place. -/
def at_ {α : Type} (rest : List Char) (outcome : Except String α) : Except Failure α :=
  match outcome with
  | .ok value => .ok value
  | .error reason => refuse reason rest

mutual

/-- The value at the start of a text. -/
def value : Nat → List Char → Except Failure (Value × List Char)
  | 0, s => refuse "Invalid value" s
  | fuel + 1, s =>
      match s with
      | [] => refuse "Invalid value" s
      | c :: rest =>
          if c = '\x22' || c = '\x27' then
            (quotedText s).map fun read => (.text (String.ofList read.1), read.2)
          else if c = '[' then
            match skipBetween rest with
            | .error failure => .error failure
            | .ok (']' :: after) => .ok (.list [], after)
            | .ok after => (items fuel after).map fun read => (.list read.1, read.2)
          else if c = '\x7b' then
            match skipSpace rest with
            | '\x7d' :: after => .ok (.table [], after)
            | after => inlineRecord fuel {} after
          else
            match named? [("true", .truth true), ("false", .truth false)] s with
            | some read => .ok read
            | none => scalar s

/-- The items of a list, up to and with its closing bracket. -/
def items : Nat → List Char → Except Failure (List Value × List Char)
  | 0, s => refuse "Unclosed array" s
  | fuel + 1, s => do
      let (item, afterItem) ← value fuel s
      match ← skipBetween afterItem with
      | ']' :: after => pure ([item], after)
      | ',' :: afterComma =>
          match ← skipBetween afterComma with
          | ']' :: after => pure ([item], after)
          | after => do
              let (others, rest) ← items fuel after
              pure (item :: others, rest)
      | after => refuse "Unclosed array" after

/-- The bindings of a record between braces, up to and with its closing brace. -/
def inlineRecord : Nat → Namespaces → List Char → Except Failure (Value × List Char)
  | 0, _, s => refuse "Unclosed inline table" s
  | fuel + 1, spaces, s => do
      let (name, bound, afterValue) ← binding fuel s
      let assigned ← at_ afterValue (spaces.assignInline name bound)
      match skipSpace afterValue with
      | '\x7d' :: after => pure (.table assigned.entries, after)
      | ',' :: after =>
          let closed := if Namespaces.isCollection bound then assigned.close name else assigned
          inlineRecord fuel closed (skipSpace after)
      | after => refuse "Unclosed inline table" after

/-- A dotted name, its value, and the rest. -/
def binding : Nat → List Char → Except Failure (Key × Value × List Char)
  | 0, s => refuse "Invalid value" s
  | fuel + 1, s => do
      let (name, afterName) ← key s
      match afterName with
      | '=' :: rest => do
          let (bound, after) ← value fuel (skipSpace rest)
          pure (name, bound, after)
      | _ => refuse "Expected '=' after a key in a key/value pair" afterName

end

/-- The rest of a header behind its opening brackets, which starts a record or an item of a list. -/
def header (isItem : Bool) (spaces : Namespaces) (s : List Char) :
    Except Failure (Namespaces × List Char) := do
  let (name, rest) ← key (skipSpace s)
  let started ←
    at_ rest (if isItem then spaces.startItem name else spaces.startRecord name)
  let closing := if isItem then "]]" else "]"
  if closing.toList.isPrefixOf rest then
    pure (started, rest.drop closing.length)
  else
    refuse
      (if isItem then "Expected ']]' at the end of an array declaration"
      else "Expected ']' at the end of a table declaration")
      rest

/-- The statement at the start of a line that is not blank, with the rest of its line. -/
def statement (spaces : Namespaces) (s : List Char) : Except Failure (Namespaces × List Char) :=
  match s with
  | '[' :: '[' :: rest => header true spaces.settle rest
  | '[' :: rest => header false spaces.settle rest
  | '#' :: _ => .ok (spaces, s)
  | [] => .ok (spaces, s)
  | c :: _ =>
      if isBareCharacter c || c = '\x22' || c = '\x27' then do
        let (name, bound, rest) ← binding (2 * s.length + 2) s
        let assigned ← at_ rest (spaces.assign name bound)
        pure (assigned, rest)
      else
        refuse "Invalid statement" s

/--
Read lines one by one; every line consumes characters, so the length of the text is fuel
enough.
-/
def statements : Nat → Namespaces → List Char → Except Failure Namespaces
  | 0, spaces, _ => .ok spaces
  | fuel + 1, spaces, s =>
      match skipSpace s with
      | [] => .ok spaces
      | '\n' :: rest => statements fuel spaces rest
      | start => do
          let (stated, behind) ← statement spaces start
          match ← skipComment (skipSpace behind) with
          | [] => pure stated
          | '\n' :: rest => statements fuel stated rest
          | rest => refuse "Expected newline or end of document after a statement" rest

/-- The settings of a whole text. -/
def read (s : List Char) : Except Failure Value :=
  (statements (s.length + 1) {} s).map fun spaces => .table spaces.entries

end PageScript.Toml
