import PageScript.Markup.CharacterReference
import PageScript.Text.Quoted
import PageScript.Text.SameLetter
import PageScript.Text.Word

namespace PageScript.Markup

/-!
# Markup events

A markup text is a sequence of events: start tags, elements closed at once, end
tags and runs of data.  Comments, declarations and processing instructions give
no event.  Inside a script or a style everything up to its end tag is data.  What
looks like markup and is not complete is data too, so the only refusals are
marked sections without a known name and references with too many digits.

`Event.step` reads one event and always consumes at least one character.
-/

/-- One event of a markup text. -/
inductive Event where
  /-- A start tag. -/
  | opening (tag : String) (attributes : List (String × String))
  /-- A start tag that closes its element. -/
  | closed (tag : String) (attributes : List (String × String))
  /-- An end tag. -/
  | closing (tag : String)
  /-- A run of characters. -/
  | data (characters : List Char)
  deriving Repr, DecidableEq

/-- Characters that may continue the name of a tag. -/
def isTagNameChar (c : Char) : Bool :=
  !(c = '\t' || c = '\n' || c = '\r' || c = '\x0c' || c = ' ' || c = '/' || c = '>' ||
    c = '\x00')

/-- Characters that may continue the name of an end tag without further parts. -/
def isEndTagNameChar (c : Char) : Bool :=
  c = '-' || c = '.' || c = ':' || c = '_' || Text.isLatinLetter c || Text.isPlainDigit c

/-- Characters that may continue the name of a marked section. -/
def isSectionNameChar (c : Char) : Bool :=
  c = '-' || c = '_' || c = '.' || Text.isLatinLetter c || Text.isPlainDigit c

/-- Quotes around attribute values. -/
def isQuote (c : Char) : Bool :=
  c = '\x22' || c = '\x27'

/-- Characters that may start the name of an attribute. -/
def startsAttributeName (c : Char) : Bool :=
  !(Text.isBlank c || c = '/' || c = '>')

/-- Characters that may continue the name of an attribute. -/
def isAttributeNameChar (c : Char) : Bool :=
  startsAttributeName c && c ≠ '='

/-- Characters of an attribute value without quotes. -/
def isBareValueChar (c : Char) : Bool :=
  !(c = '>' || Text.isBlank c)

/-- A text without the blanks and slashes at its start, where a slash before `>` stays. -/
def skipGaps : List Char → List Char
  | [] => []
  | '/' :: '>' :: rest => '/' :: '>' :: rest
  | c :: rest => if c = '/' || Text.isBlank c then skipGaps rest else c :: rest

/-- The characters between an equals sign and what follows it, as an attribute value. -/
structure ValueRead where
  value : List Char
  rest : List Char
  quoted : Bool

/--
The value of an attribute whose name has been read.  After an opening quote that
is never closed the value is empty when a blank precedes the quote, starts at the
last equals sign when there are several, and does not exist otherwise.
-/
def attributeValue? (s : List Char) : Option ValueRead :=
  let start := Text.trimStart s
  let equals := start.takeWhile (· = '=')
  let afterEquals := start.dropWhile (· = '=')
  let gap := afterEquals.takeWhile Text.isBlank
  let body := afterEquals.dropWhile Text.isBlank
  if equals.isEmpty then
    none
  else
    match body with
    | [] => some ⟨[], [], false⟩
    | c :: inner =>
        if isQuote c then
          match Text.cutAt? c inner with
          | some (value, rest) => some ⟨value, rest, true⟩
          | none =>
              match gap.getLast? with
              | some blank => some ⟨[], blank :: body, false⟩
              | none =>
                  if 2 ≤ equals.length then
                    some ⟨'=' :: body.takeWhile isBareValueChar, body.dropWhile isBareValueChar, false⟩
                  else
                    none
        else
          some ⟨body.takeWhile isBareValueChar, body.dropWhile isBareValueChar, false⟩

/-- An attribute, the rest after it, and whether another attribute may start there. -/
structure AttributeRead where
  name : List Char
  value : List Char
  rest : List Char
  separated : Bool

/-- Whether the last character of a name lets an attribute follow at once. -/
def endsSeparated (name : List Char) : Bool :=
  match name.getLast? with
  | some c => isQuote c || Text.isBlank c
  | none => false

/-- The attribute at the start of a text. -/
def attribute? : List Char → Option AttributeRead
  | [] => none
  | c :: s =>
      if !startsAttributeName c then
        none
      else
        let name := c :: s.takeWhile isAttributeNameChar
        let afterName := s.dropWhile isAttributeNameChar
        match attributeValue? afterName with
        | some read =>
            let rest := skipGaps read.rest
            some ⟨name, read.value, rest, read.quoted || rest.length < read.rest.length⟩
        | none =>
            let rest := skipGaps afterName
            some ⟨name, [], rest, endsSeparated name || rest.length < afterName.length⟩

/--
The attributes at the start of a text and the rest, with `fuel` bounding their
number.  An attribute is read only where the text before it ends a name or value.
-/
def attributesWithin : Nat → Bool → List Char → List (List Char × List Char) × List Char
  | 0, _, s => ([], s)
  | fuel + 1, separated, s =>
      if !separated then
        ([], s)
      else
        match attribute? s with
        | none => ([], s)
        | some read =>
            let more := attributesWithin fuel read.separated read.rest
            ((read.name, read.value) :: more.1, more.2)

/-- The attributes at the start of a text and the rest. -/
def attributes (separated : Bool) (s : List Char) : List (List Char × List Char) × List Char :=
  attributesWithin s.length separated s

/-- Attributes with small names and decoded values. -/
def decodeAttributes : List (List Char × List Char) → Except MarkupError (List (String × String))
  | [] => .ok []
  | (name, value) :: rest =>
      match decode value with
      | .error error => .error error
      | .ok decoded =>
          (decodeAttributes rest).map fun others =>
            (String.ofList (Text.lower name), String.ofList decoded) :: others

/-- Whether events are read inside a script or a style, and in which one. -/
abbrev RawMode := Option (List Char)

/-- The outcome of reading one event. -/
inductive Step where
  /-- The markup is refused. -/
  | refused (error : MarkupError)
  /-- Nothing is left. -/
  | finished
  /-- The events that were read, the mode after them, and the rest. -/
  | read (events : List Event) (mode : RawMode) (rest : List Char)

/-- A run of data in which references are decoded. -/
def decodedData (characters : List Char) (rest : List Char) : Step :=
  match decode characters with
  | .error error => .refused error
  | .ok text => .read [.data text] none rest

/--
Markup that is not complete, after its `<`: it is data up to the next `>`, or up
to the next `<`, or else the `<` alone.
-/
def incomplete (s : List Char) : Step :=
  match Text.cutAt? '>' s with
  | some (before, rest) => decodedData ('<' :: before ++ ['>']) rest
  | none =>
      match Text.cutAt? '<' s with
      | some (before, rest) => decodedData ('<' :: before) ('<' :: rest)
      | none => decodedData ['<'] s

/-- The tags whose content is data. -/
def rawTags : List (List Char) :=
  [['s', 'c', 'r', 'i', 'p', 't'], ['s', 't', 'y', 'l', 'e']]

/-- A start tag, after its `<`. -/
def startTag (s : List Char) : Step :=
  let name := s.takeWhile isTagNameChar
  let afterName := s.dropWhile isTagNameChar
  let start := skipGaps afterName
  let read := attributes (endsSeparated name || start.length < afterName.length) start
  let tag := Text.lower name
  match read.2 with
  | '>' :: rest =>
      match decodeAttributes read.1 with
      | .error error => .refused error
      | .ok decoded =>
          .read [.opening (String.ofList tag) decoded]
            (if rawTags.contains tag then some tag else none) rest
  | '/' :: '>' :: rest =>
      match decodeAttributes read.1 with
      | .error error => .refused error
      | .ok decoded => .read [.closed (String.ofList tag) decoded] none rest
  | [] => incomplete s
  | c :: rest =>
      if c = '/' || c = '=' || Text.isLatinLetter c then
        incomplete s
      else
        match decodeAttributes read.1 with
        | .error error => .refused error
        | .ok _ => .read [.data ('<' :: s.take (s.length - (c :: rest).length))] none (c :: rest)

/-- The name of an end tag that consists of a name and blanks, and the rest, after `</`. -/
def plainEndTag? (s : List Char) : Option (List Char × List Char) :=
  match Text.trimStart s with
  | [] => none
  | c :: rest =>
      if !Text.isLatinLetter c then
        none
      else
        match Text.trimStart (rest.dropWhile isEndTagNameChar) with
        | '>' :: after => some (Text.lower (c :: rest.takeWhile isEndTagNameChar), after)
        | _ => none

/-- An end tag outside scripts and styles, after `</`. -/
def endTag (s : List Char) : Step :=
  match Text.cutAt? '>' s with
  | none => incomplete ('/' :: s)
  | some (_, afterFirst) =>
      match plainEndTag? s with
      | some (name, rest) => .read [.closing (String.ofList name)] none rest
      | none =>
          match s with
          | [] => .read [] none afterFirst
          | c :: _ =>
              if Text.isLatinLetter c then
                .read [.closing (String.ofList (Text.lower (s.takeWhile isTagNameChar)))] none
                  afterFirst
              else
                .read [] none afterFirst

/-- The rest after a closing mark: `marks`, blanks and `>`, with blanks allowed between marks. -/
def afterMarks? : List Char → List Char → Option (List Char)
  | [], s =>
      match Text.trimStart s with
      | '>' :: rest => some rest
      | _ => none
  | mark :: marks, s =>
      match Text.trimStart s with
      | c :: rest => if c = mark then afterMarks? marks rest else none
      | [] => none

/-- The rest after the first `--` that only blanks separate from a `>`. -/
def afterComment? : List Char → Option (List Char)
  | [] => none
  | '-' :: '-' :: rest =>
      match afterMarks? [] rest with
      | some after => some after
      | none => afterComment? ('-' :: rest)
  | _ :: rest => afterComment? rest

/-- The rest after the first `]` that starts the given closing marks. -/
def afterSection? (marks : List Char) : List Char → Option (List Char)
  | [] => none
  | ']' :: rest =>
      match afterMarks? marks rest with
      | some after => some after
      | none => afterSection? marks rest
  | _ :: rest => afterSection? marks rest

/-- The names of marked sections that two brackets close. -/
def doubleSections : List (List Char) :=
  ["temp".toList, "cdata".toList, "ignore".toList, "include".toList, "rcdata".toList]

/-- The names of marked sections that one bracket closes. -/
def singleSections : List (List Char) :=
  ["if".toList, "else".toList, "endif".toList]

/-- The rest after a closing mark, or incomplete markup. -/
def skipTo (s : List Char) : Option (List Char) → Step
  | some rest => .read [] none rest
  | none => incomplete s

/-- A marked section, after `<![`. -/
def markedSection (s : List Char) : Step :=
  let whole := '!' :: '[' :: s
  match s with
  | [] => incomplete whole
  | c :: rest =>
      if !Text.isLatinLetter c then
        .refused (.sectionWithoutName
          (String.ofList (Text.quoted (('<' :: whole).take 20))))
      else
        let name := c :: rest.takeWhile isSectionNameChar
        let afterName := rest.dropWhile isSectionNameChar
        let afterGap := Text.trimStart afterName
        let keyword := Text.lower name
        if afterGap.isEmpty then
          incomplete whole
        else if doubleSections.contains keyword then
          skipTo whole (afterSection? [']'] s)
        else if singleSections.contains keyword then
          skipTo whole (afterSection? [] s)
        else
          .refused (.unknownSection
            (String.ofList (Text.quoted (name ++ afterName.takeWhile Text.isBlank))))

/-- What starts with `<`, after that character. -/
def markup (s : List Char) : Step :=
  match s with
  | [] => .read [.data ['<']] none []
  | '/' :: rest => endTag rest
  | '!' :: '-' :: '-' :: rest => skipTo s (afterComment? rest)
  | '!' :: '[' :: rest => markedSection rest
  | '!' :: rest => skipTo s ((Text.cutAt? '>' rest).map (·.2))
  | '?' :: rest => skipTo s ((Text.cutAt? '>' rest).map (·.2))
  | c :: rest =>
      if Text.isLatinLetter c then startTag (c :: rest) else .read [.data ['<']] none (c :: rest)

/--
Whether an end tag of the given name starts here, after its `<`, letters compared without
case.
-/
def endsRaw (name : List Char) : List Char → Bool
  | '/' :: rest =>
      match Text.afterLetters? name (Text.trimStart rest) with
      | some after => (Text.trimStart after).head? == some '>'
      | none => false
  | _ => false

/-- The data before the end tag of a script or a style, and the text after the `<` of that tag. -/
def rawData? (name : List Char) : List Char → Option (List Char × List Char)
  | [] => none
  | c :: rest =>
      if c = '<' && endsRaw name rest then
        some ([], rest)
      else
        (rawData? name rest).map fun parts => (c :: parts.1, parts.2)

/-- A run of data, if there is any. -/
def dataEvents (characters : List Char) : List Event :=
  if characters.isEmpty then [] else [.data characters]

/--
The content of a script or a style up to its end tag.  An end tag that is spelled
with variants of its letters is data, and without an end tag the rest is dropped.
-/
def rawContent (name : List Char) (s : List Char) : Step :=
  match rawData? name s with
  | none => .finished
  | some (before, tagText) =>
      match plainEndTag? (tagText.drop 1) with
      | some (closed, rest) =>
          if closed = name then
            .read (dataEvents before ++ [.closing (String.ofList closed)]) none rest
          else
            .read (dataEvents before ++ [.data ('<' :: tagText.take (tagText.length - rest.length))])
              (some name) rest
      | none =>
          match Text.cutAt? '>' tagText with
          | some (inner, rest) =>
              .read (dataEvents before ++ [.data ('<' :: inner ++ ['>'])]) (some name) rest
          | none => .finished

/-- Read one event. -/
def step (mode : RawMode) (s : List Char) : Step :=
  match mode with
  | some name => rawContent name s
  | none =>
      match s with
      | [] => .finished
      | '<' :: rest => markup rest
      | c :: rest =>
          decodedData (c :: rest.takeWhile (· ≠ '<')) (rest.dropWhile (· ≠ '<'))

/-- The events of a text, with `fuel` bounding their number. -/
def eventsWithin : Nat → RawMode → List Char → Except MarkupError (List Event)
  | 0, _, _ => .ok []
  | fuel + 1, mode, s =>
      match step mode s with
      | .refused error => .error error
      | .finished => .ok []
      | .read found next rest => (eventsWithin fuel next rest).map (found ++ ·)

/-- The events of a markup text. -/
def events (s : List Char) : Except MarkupError (List Event) :=
  eventsWithin (s.length + 1) none s

end PageScript.Markup
