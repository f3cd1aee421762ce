import PageScript.Console.Handler.Literal
import PageScript.Console.Picture.Code
import PageScript.Console.Style

namespace PageScript.Console

/-!
# Console markup

Tags in square brackets switch styles on and off and vanish from the text.  A
backslash before a tag keeps it as text, and every two backslashes before a tag stand
for one.  Codes of pictures in the text become pictures.  Closing a style that is not
open is an error.  A tag that starts with an at sign names a handler; when it is closed,
the arguments of the handler have to be a literal.
-/

/-- Why markup is refused. -/
inductive TagError where
  /-- A tag closes a style that is not open. -/
  | unopened (tag : String) (position : Nat)
  /-- A tag closes the last style, and none is open. -/
  | nothingOpen (position : Nat)
  /-- A colour has a part that is no number. -/
  | colourPart (fault : NumberFault)
  /-- The arguments of a handler are refused, where `parameters` is all that the tag says. -/
  | handler (parameters arguments : String) (fault : Handler.ArgumentFault)
  deriving Repr, DecidableEq

/-- The text of an error. -/
def TagError.message : TagError → String
  | unopened tag position =>
      "closing tag '" ++ tag ++ "' at position " ++ toString position ++
        " doesn't match any open tag"
  | nothingOpen position =>
      "closing tag '[/]' at position " ++ toString position ++ " has nothing to close"
  | colourPart fault => fault.message
  | handler parameters arguments (.unreadable reason) =>
      "error parsing " ++ Text.quotedString arguments ++ " in " ++ Text.quotedString parameters ++
        "; " ++ reason
  | handler parameters _ (.unusable reason) =>
      "error parsing " ++ Text.quotedString parameters ++ "; " ++ reason
  | handler parameters _ .notLiteral =>
      "error parsing " ++ Text.quotedString parameters ++ "; the arguments are no literal"

/-- A piece of markup: text, or a tag at its position. -/
inductive Mark where
  | text (characters : List Char)
  | tag (position : Nat) (body : List Char)
  deriving Repr, DecidableEq

/-- Whether a character starts a tag behind its bracket. -/
def startsTag (c : Char) : Bool :=
  ('a' ≤ c && c ≤ 'z') || c = '#' || c = '/' || c = '@'

/-- The text up to the closing bracket of a tag, and the rest behind it. -/
def tagBody? : List Char → Option (List Char × List Char)
  | [] => none
  | ']' :: rest => some ([], rest)
  | '[' :: _ => none
  | c :: rest => (tagBody? rest).map fun read => (c :: read.1, read.2)

/-- The body of the tag at the start of a text, and the rest behind it. -/
def tagAt? : List Char → Option (List Char × List Char)
  | '[' :: c :: rest =>
      if startsTag c then (tagBody? rest).map fun read => (c :: read.1, read.2) else none
  | _ => none

/-- A text of markup, in which a backslash before a bracket is dropped. -/
def plainMark (taken : List Char) : List Mark :=
  if taken.isEmpty then [] else [.text (Text.replaceAll ['\\', '['] ['['] taken.reverse)]

/--
The pieces of markup, where `taken` holds the open text, last first; the length of the text
is fuel enough.
-/
def marksFrom : Nat → Nat → List Char → List Char → List Mark
  | 0, _, taken, _ => plainMark taken
  | _ + 1, _, taken, [] => plainMark taken
  | fuel + 1, position, taken, c :: rest =>
      let escapes := ((c :: rest).takeWhile (· = '\\')).length
      match tagAt? ((c :: rest).drop escapes) with
      | none => marksFrom fuel (position + 1) (c :: taken) rest
      | some (body, after) =>
          let kept : List Mark :=
            if escapes / 2 = 0 then [] else [.text (List.replicate (escapes / 2) '\\')]
          let mark : Mark :=
            if escapes % 2 = 0 then
              .tag (position + escapes) body
            else
              .text ('[' :: body ++ [']'])
          plainMark taken ++ kept ++
            mark :: marksFrom fuel (position + escapes + body.length + 2) [] after

/-- The pieces of markup. -/
def marks (s : List Char) : List Mark :=
  marksFrom (s.length + 1) 0 [] s

/-- A tag that switches a style on. -/
structure OpenTag where
  /-- The normal form of the style. -/
  name : String
  /-- What follows the name behind an equals sign. -/
  parameters : Option (List Char) := none

namespace OpenTag

/-- The tag with a body. -/
def ofBody (body : List Char) : Except TagError OpenTag :=
  let (name, parameters) :=
    match Text.cutAt? '=' body with
    | some (name, parameters) => (name, some parameters)
    | none => (body, none)
  ((normalStyle name).mapError .colourPart).map fun style => ⟨style, parameters⟩

/-- Whether a tag names a handler. -/
def isHandler (tag : OpenTag) : Bool :=
  tag.name.toList.head? == some '@'

/-- Check a tag when it is closed. -/
def checkClosed (tag : OpenTag) : Except TagError Unit :=
  match tag.isHandler, tag.parameters with
  | true, some (first :: rest) =>
      (Handler.checkParameters (first :: rest)).mapError fun fault =>
        .handler (String.ofList (first :: rest)) fault.1 fault.2
  | _, _ => .ok ()

/-- Check that the style of a tag can be shown. -/
def checkShown (tag : OpenTag) : Except TagError Unit :=
  let written :=
    match tag.parameters with
    | some parameters => tag.name.toList ++ ' ' :: parameters
    | none => tag.name.toList
  if tag.isHandler then
    .ok ()
  else
    ((Style.ofText? written).mapError .colourPart).map fun _ => ()

end OpenTag

/-- The name that the body of a tag closes, if it closes one. -/
def closedName? (body : List Char) : Option (List Char) :=
  match body.takeWhile (· ≠ '=') with
  | '/' :: name => some (Text.trim name)
  | _ => none

/-- The tag that is closed by a name or, if there is none, the last one; and the other open tags. -/
def closedTag (opened : List OpenTag) (position : Nat) (body name : List Char) :
    Except TagError (OpenTag × List OpenTag) :=
  if name.isEmpty then
    match opened with
    | [] => .error (.nothingOpen position)
    | tag :: rest => .ok (tag, rest)
  else do
    let style ← (normalStyle name).mapError .colourPart
    match opened.find? fun tag => tag.name == style with
    | some tag => .ok (tag, opened.eraseP fun other => other.name == style)
    | none => .error (.unopened (String.ofList ('[' :: body ++ [']'])) position)

/-- What markup shows: a text, and the tags that give it its styles. -/
structure Shown where
  text : List Char := []
  tags : List OpenTag := []

/-- What pieces show, where some tags are open, innermost first. -/
def shownBehind (opened : List OpenTag) : List Mark → Except TagError Shown
  | [] => .ok {}
  | .text characters :: rest => do
      let shown ← shownBehind opened rest
      pure { shown with text := Picture.withPictures characters ++ shown.text }
  | .tag position body :: rest =>
      match closedName? body with
      | some name => do
          let (tag, others) ← closedTag opened position body name
          tag.checkClosed
          shownBehind others rest
      | none => do
          let tag ← OpenTag.ofBody body
          let shown ← shownBehind (tag :: opened) rest
          pure { shown with tags := tag :: shown.tags }

/-- The text that markup shows. -/
def shownText (s : List Char) : Except TagError (List Char) := do
  let shown ← shownBehind [] (marks s)
  shown.tags.forM OpenTag.checkShown
  pure shown.text

end PageScript.Console
