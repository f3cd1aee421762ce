import PageScript.Document.Page

namespace PageScript.Document

/-!
# Placeholder slots

A slot is a place in a forest that held a token when it was captured: a text node
or the value of an attribute.  Substitution replaces the token in whatever the
place holds now, and does nothing when the token is gone.
-/

/-- A place whose characters can be replaced. -/
inductive Slot where
  /-- The characters of a text. -/
  | text (node : NodeId)
  /-- The value of an attribute. -/
  | attribute (element : NodeId) (name : String)
  deriving Repr, DecidableEq

/-- Replace a token in a string. -/
def replaceToken (token text : String) (s : String) : String :=
  String.ofList (Text.replaceAll token.toList text.toList s.toList)

/-- Whether a token occurs in a string. -/
def holdsToken (token s : String) : Bool :=
  Text.occursIn token.toList s.toList

namespace Forest

/-- Replace a token at a slot. -/
def substitute (forest : Forest) (token text : String) (slot : Slot) : Forest :=
  match slot with
  | .text node =>
      forest.modifyText node fun data =>
        if holdsToken token data then replaceToken token text data else data
  | .attribute element name =>
      forest.modifyAttributes element fun attributes =>
        match attributes.get? name with
        | some value =>
            if holdsToken token value then
              attributes.insert name (replaceToken token text value)
            else
              attributes
        | none => attributes

/-- Replace a token at slots in order. -/
def substituteAll (forest : Forest) (token text : String) (slots : List Slot) : Forest :=
  slots.foldl (fun changed slot => changed.substitute token text slot) forest

/-- The attributes of an element whose values hold a token. -/
def attributeSlots (forest : Forest) (token : String) (element : NodeId) : List Slot :=
  ((forest.attributes element).entries.filter fun entry => holdsToken token entry.2).map
    fun entry => .attribute element entry.1

/-- The slots at a node itself. -/
def slotsAt (forest : Forest) (token : String) (id : NodeId) : List Slot :=
  match forest.data? id with
  | some data => if holdsToken token data then [.text id] else []
  | none => forest.attributeSlots token id

/-- The slots of an element and of everything below it, in document order. -/
def slots (forest : Forest) (token : String) (target : NodeId) : List Slot :=
  forest.attributeSlots token target ++
    (forest.descendants target).flatMap (forest.slotsAt token)

end Forest

end PageScript.Document
