import PageScript.Document.Page
import PageScript.Selector.Reader

namespace PageScript.Selector

/-!
# Matching selectors

An element matches a chain when it passes the tests of the last compound and some
element in the right place matches the chain before it.  A query selects the
elements below a node in document order.
-/

open Document

/-- Whether an element passes a structural test. -/
def PseudoClass.holds (forest : Forest) (element : NodeId) : PseudoClass → Bool
  | .empty => (forest.children element).isEmpty
  | .firstChild => (forest.elementSiblings element).head? == some element
  | .lastChild => (forest.elementSiblings element).getLast? == some element
  | .onlyChild => (forest.elementSiblings element).length == 1
  | .nthChild position =>
      1 ≤ position && (forest.elementSiblings element)[position - 1]? == some element

/-- Whether an element passes the test of one attribute. -/
def holdsAttribute (attributes : Table String String) (test : String × Option String) : Bool :=
  match attributes.get? test.1, test.2 with
  | none, _ => false
  | some _, none => true
  | some actual, some expected => actual == expected

/-- Whether an element passes all tests of a compound. -/
def Compound.holds (forest : Forest) (element : NodeId) (compound : Compound) : Bool :=
  (match compound.tag with
    | none => true
    | some tag => forest.tag? element == some tag) &&
  (match compound.id with
    | none => true
    | some id => (forest.attributes element).get? "id" == some id) &&
  (compound.classes.all fun name => (forest.classes element).contains name) &&
  (compound.attributes.all fun test => holdsAttribute (forest.attributes element) test) &&
  compound.pseudo.all fun pseudo => pseudo.holds forest element

/-- The elements that a combinator relates to an element on its right. -/
def Combinator.candidates (forest : Forest) (element : NodeId) : Combinator → List NodeId
  | .descendant => forest.ancestors element
  | .child => (forest.parent? element).toList
  | .adjacent => (forest.elementsBefore element).getLast?.toList
  | .sibling => forest.elementsBefore element

/-- Whether an element matches a chain. -/
def Chain.holds (forest : Forest) : Chain → NodeId → Bool
  | .single compound, element => compound.holds forest element
  | .step before combinator compound, element =>
      compound.holds forest element &&
        (combinator.candidates forest element).any fun candidate => before.holds forest candidate

/-- Whether an element matches some chain of a selector. -/
def matchesAny (forest : Forest) (chains : List Chain) (element : NodeId) : Bool :=
  chains.any fun chain => chain.holds forest element

/-- The elements below a node that a selector selects, in document order. -/
def selectAll
    (forest : Forest)
    (top : NodeId)
    (selector : String) :
    Except SelectorError (List NodeId) :=
  (read selector).map fun chains => (forest.elementsBelow top).filter (matchesAny forest chains)

/-- The first element below a node that a selector selects. -/
def selectFirst
    (forest : Forest)
    (top : NodeId)
    (selector : String) :
    Except SelectorError (Option NodeId) :=
  (read selector).map fun chains => (forest.elementsBelow top).find? (matchesAny forest chains)

/-- The first element of a page that a selector selects; a refused selector selects nothing. -/
def resolve (page : Page) (selector : String) : Option NodeId :=
  match selectFirst page.forest page.root selector with
  | .ok found => found
  | .error _ => none

end PageScript.Selector
