import PageScript.Markup.Tree

namespace PageScript.Selector

/-!
# Selectors

A compound selector is a set of tests on one element.  A chain joins compounds by
combinators, which relate the elements they match; its last compound tests the
element that is selected.  A selector is a list of chains, any of which may match.
-/

/-- A structural test of an element. -/
inductive PseudoClass where
  | firstChild
  | lastChild
  | onlyChild
  | empty
  | nthChild (position : Nat)
  deriving Repr, DecidableEq

/-- The name of a structural test. -/
def PseudoClass.name : PseudoClass → String
  | firstChild => "first-child"
  | lastChild => "last-child"
  | onlyChild => "only-child"
  | empty => "empty"
  | nthChild _ => "nth-child"

/-- The number of a structural test, zero for the tests without one. -/
def PseudoClass.position : PseudoClass → Nat
  | nthChild position => position
  | _ => 0

/-- The tests of one element; an attribute is tested for its presence or for its value. -/
structure Compound where
  tag : Option String := none
  id : Option String := none
  classes : List String := []
  attributes : List (String × Option String) := []
  pseudo : List PseudoClass := []
  deriving Repr, DecidableEq

/-- How the elements of neighbouring compounds are related. -/
inductive Combinator where
  /-- The left element is above the right one. -/
  | descendant
  /-- The left element is the parent of the right one. -/
  | child
  /-- The left element directly precedes the right one among the sibling elements. -/
  | adjacent
  /-- The left element precedes the right one among the sibling elements. -/
  | sibling
  deriving Repr, DecidableEq

/-- The sign of a combinator. -/
def Combinator.sign : Combinator → String
  | descendant => " "
  | child => ">"
  | adjacent => "+"
  | sibling => "~"

/-- Compounds joined by combinators; the last compound is outermost. -/
inductive Chain where
  /-- A single compound. -/
  | single (compound : Compound)
  /-- A chain, a combinator, and the compound of the selected element. -/
  | step (before : Chain) (combinator : Combinator) (compound : Compound)
  deriving Repr, DecidableEq

/-- The compounds of a chain in order, each with the combinator before it. -/
def Chain.steps : Chain → List (Option Combinator × Compound)
  | single compound => [(none, compound)]
  | step before combinator compound => before.steps ++ [(some combinator, compound)]

/-- Why a selector is refused. -/
inductive SelectorError where
  /-- The selector uses a form that is not supported. -/
  | unsupported (selector : String)
  /-- The position of a structural test is written with forms that are no decimal digits. -/
  | invalidPosition (position : String)
  /-- The position of a structural test has too many digits. -/
  | tooManyDigits (count : Nat)
  deriving Repr, DecidableEq

end PageScript.Selector
