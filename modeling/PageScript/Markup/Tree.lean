import PageScript.Markup.CharacterReference
import PageScript.Table

namespace PageScript.Markup

/-!
# Markup trees

A tree is a text or an element with a tag, attributes in order and child trees.
Writing a tree escapes texts and attribute values, except the texts directly
inside a script or a style, which are written as they are.  A void element has no
end tag.
-/

/-- A text or an element. -/
inductive Tree where
  /-- A run of characters. -/
  | text (data : String)
  /-- A tag with attributes and children. -/
  | element (tag : String) (attributes : Table String String) (children : List Tree)
  deriving Inhabited

/-- The tags of elements without content and end tag. -/
def voidTags : List String :=
  ["area", "base", "br", "col", "embed", "hr", "img", "input", "link", "meta", "param",
   "source", "track", "wbr"]

/-- Whether elements with this tag have no end tag. -/
def isVoidTag (tag : String) : Bool :=
  voidTags.contains tag

/-- Whether the texts inside elements with this tag are written as they are. -/
def isRawTag (tag : String) : Bool :=
  tag == "script" || tag == "style"

/-- The attributes of a start tag. -/
def writeAttributes (attributes : Table String String) : List Char :=
  attributes.entries.flatMap fun entry =>
    ' ' :: entry.1.toList ++ ['=', '\x22'] ++ escapeAttribute entry.2.toList ++ ['\x22']

/-- The start tag of an element. -/
def writeStartTag (tag : String) (attributes : Table String String) : List Char :=
  '<' :: tag.toList ++ writeAttributes attributes ++ ['>']

/-- The end tag of an element. -/
def writeEndTag (tag : String) : List Char :=
  '<' :: '/' :: tag.toList ++ ['>']

mutual

/-- The markup of a tree, where `raw` says that it stands directly inside a script or a style. -/
def Tree.write (raw : Bool) : Tree → List Char
  | .text data => if raw then data.toList else escapeText data.toList
  | .element tag attributes children =>
      if isVoidTag tag then
        writeStartTag tag attributes
      else
        writeStartTag tag attributes ++ writeTrees (isRawTag tag) children ++ writeEndTag tag

/-- The markup of neighbouring trees. -/
def writeTrees (raw : Bool) : List Tree → List Char
  | [] => []
  | tree :: rest => Tree.write raw tree ++ writeTrees raw rest

end

mutual

/-- The characters of all texts in a tree. -/
def Tree.textContent : Tree → List Char
  | .text data => data.toList
  | .element _ _ children => treesTextContent children

/-- The characters of all texts in neighbouring trees. -/
def treesTextContent : List Tree → List Char
  | [] => []
  | tree :: rest => tree.textContent ++ treesTextContent rest

end

/-- The tag of an element. -/
def Tree.tag? : Tree → Option String
  | .text _ => none
  | .element tag _ _ => some tag

/-- The markup of a detached tree. -/
def Tree.markup (tree : Tree) : String :=
  String.ofList (tree.write false)

end PageScript.Markup
