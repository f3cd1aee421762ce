import PageScript.Markup.Event
import PageScript.Markup.Tree

namespace PageScript.Markup

/-!
# Trees from events

The builder keeps the elements that are still open, innermost first.  Data and
elements are added to the innermost one, neighbouring data become one text, and
an end tag closes the innermost open element of its name with everything inside.
-/

/-- An element that is still open, with its children so far, last first. -/
structure OpenElement where
  tag : String
  attributes : Table String String
  children : List Tree

/-- The open elements, innermost first, and the finished trees outside them, last first. -/
structure Builder where
  opened : List OpenElement
  finished : List Tree

namespace Builder

/-- Nothing is open and nothing is finished. -/
def empty : Builder :=
  ⟨[], []⟩

/-- The element that an open element becomes. -/
def close (element : OpenElement) : Tree :=
  .element element.tag element.attributes element.children.reverse

/-- Add a tree at the innermost place. -/
def add (builder : Builder) (tree : Tree) : Builder :=
  match builder.opened with
  | [] => { builder with finished := tree :: builder.finished }
  | inner :: outer =>
      { builder with opened := { inner with children := tree :: inner.children } :: outer }

/-- Add data to trees that are listed last first, joined to a text that stands last. -/
def joinData (characters : List Char) : List Tree → List Tree
  | .text data :: others => .text (data ++ String.ofList characters) :: others
  | others => .text (String.ofList characters) :: others

/-- Add data at the innermost place. -/
def addData (builder : Builder) (characters : List Char) : Builder :=
  match builder.opened with
  | [] => { builder with finished := joinData characters builder.finished }
  | inner :: outer =>
      { builder with
        opened := { inner with children := joinData characters inner.children } :: outer }

/-- Close the innermost element. -/
def closeInnermost (builder : Builder) : Builder :=
  match builder.opened with
  | [] => builder
  | inner :: outer => { builder with opened := outer }.add (close inner)

/-- Close a number of elements. -/
def closeMany : Nat → Builder → Builder
  | 0, builder => builder
  | count + 1, builder => closeMany count builder.closeInnermost

/-- The attributes of a start tag; of two with one name the last value counts. -/
def attributeTable (attributes : List (String × String)) : Table String String :=
  Table.ofList attributes

/-- Take one event. -/
def take (builder : Builder) : Event → Builder
  | .opening tag attributes =>
      if isVoidTag tag then
        builder.add (.element tag (attributeTable attributes) [])
      else
        { builder with opened := ⟨tag, attributeTable attributes, []⟩ :: builder.opened }
  | .closed tag attributes => builder.add (.element tag (attributeTable attributes) [])
  | .closing tag =>
      match builder.opened.findIdx? fun element => element.tag == tag with
      | some depth => closeMany (depth + 1) builder
      | none => builder
  | .data characters => builder.addData characters

/-- The trees of a builder, with all open elements closed. -/
def trees (builder : Builder) : List Tree :=
  (closeMany builder.opened.length builder).finished.reverse

/-- The trees of a sequence of events. -/
def ofEvents (found : List Event) : List Tree :=
  (found.foldl take empty).trees

end Builder

/-- The trees of a markup text. -/
def parseTrees (markup : String) : Except MarkupError (List Tree) :=
  (events markup.toList).map Builder.ofEvents

end PageScript.Markup
