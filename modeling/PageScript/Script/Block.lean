import PageScript.Text.SameLetter
import PageScript.Text.Search

namespace PageScript.Script

/-!
# Script blocks

The script of a page is the text of its first block: an opening tag, and the
characters up to the first closing tag after it.  Letters of the tag are compared
without regard to case, and the block is not read as markup.
-/

/-- The text after an opening tag that starts here: the tag alone, or the tag, a blank and more. -/
def afterOpening? (tag : List Char) : List Char → Option (List Char)
  | '<' :: rest =>
      match Text.afterLetters? tag rest with
      | some ('>' :: after) => some after
      | some (c :: more) => if Text.isBlank c then (Text.cutAt? '>' more).map (·.2) else none
      | _ => none
  | _ => none

/-- Whether a closing tag starts here. -/
def startsClosing (tag : List Char) : List Char → Bool
  | '<' :: '/' :: rest =>
      match Text.afterLetters? tag rest with
      | some after => (Text.trimStart after).head? == some '>'
      | none => false
  | _ => false

/-- The text before the first closing tag. -/
def beforeClosing? (tag : List Char) : List Char → Option (List Char)
  | [] => none
  | c :: rest =>
      if startsClosing tag (c :: rest) then
        some []
      else
        (beforeClosing? tag rest).map (c :: ·)

/-- The text of the first block. -/
def blockOf? (tag : List Char) : List Char → Option (List Char)
  | [] => none
  | c :: rest =>
      match (afterOpening? tag (c :: rest)).bind (beforeClosing? tag) with
      | some block => some block
      | none => blockOf? tag rest

/-- The text of the first block of a page with the given tag. -/
def extractBlock? (tag text : String) : Option String :=
  (blockOf? tag.toList text.toList).map String.ofList

end PageScript.Script
