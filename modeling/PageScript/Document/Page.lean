import PageScript.Document.Traversal
import PageScript.Markup.Builder

namespace PageScript.Document

/-!
# Pages

A page is a forest with an `html` element whose children are a `head` and a
`body`.  Reading a page puts the children of every head into the head and all
other content into the body; when the markup has an `html` element at its top
level, only the content of the first one counts.
-/

/-- What a page holds in its head and body. -/
structure PageContent where
  head : List Markup.Tree
  bodyAttributes : Table String String
  body : List Markup.Tree

namespace PageContent

/-- Distribute trees between the head and the body. -/
def ofTops : List Markup.Tree → PageContent
  | [] => ⟨[], ⟨[]⟩, []⟩
  | top :: rest =>
      let others := ofTops rest
      match top with
      | .element "head" _ children => { others with head := children ++ others.head }
      | .element "body" attributes children =>
          { others with
            bodyAttributes := attributes.insertAll others.bodyAttributes.entries
            body := children ++ others.body }
      | tree => { others with body := tree :: others.body }

/-- The trees that are distributed: the children of the first `html` element, or everything. -/
def tops (trees : List Markup.Tree) : List Markup.Tree :=
  match trees.findSome? fun tree =>
      match tree with
      | .element "html" _ children => some children
      | _ => none with
  | some children => children
  | none => trees

/-- The content of a page with the given top-level trees. -/
def ofTrees (trees : List Markup.Tree) : PageContent :=
  ofTops (tops trees)

end PageContent

/-- A forest with the three elements of a page. -/
structure Page where
  forest : Forest
  root : NodeId
  head : NodeId
  body : NodeId

namespace Page

/-- The page with nothing in its head and body. -/
def blank : Page :=
  { forest :=
      ⟨#[⟨none, .element "html" ⟨[]⟩ [1, 2]⟩, ⟨some 0, .element "head" ⟨[]⟩ []⟩,
        ⟨some 0, .element "body" ⟨[]⟩ []⟩]⟩
    root := 0
    head := 1
    body := 2 }

/-- The page with the given content. -/
def ofContent (content : PageContent) : Page :=
  let page := blank
  let withHead := page.forest.appendTrees page.head content.head
  let withBody := withHead.appendTrees page.body content.body
  { page with forest := withBody.modifyAttributes page.body fun _ => content.bodyAttributes }

/-- The page that a markup text describes. -/
def ofMarkup (markup : String) : Except Markup.MarkupError Page :=
  (Markup.parseTrees markup).map fun trees => ofContent (PageContent.ofTrees trees)

/-- The markup of a page, with its document type. -/
def markup? (page : Page) : Option String :=
  (page.forest.markup? page.root).map ("<!DOCTYPE html>\n" ++ ·)

/--
Replace the children of an element by the trees of a markup text.  The children
are taken out first, so refused markup leaves the element empty.
-/
def setContent
    (page : Page)
    (target : NodeId)
    (markup : String) :
    Page × Except Markup.MarkupError Unit :=
  let cleared := { page with forest := page.forest.clear target }
  match Markup.parseTrees markup with
  | .error error => (cleared, .error error)
  | .ok trees => ({ cleared with forest := cleared.forest.appendTrees target trees }, .ok ())

/-- Add a new element with the given attributes at the end of an element. -/
def appendElement
    (page : Page)
    (target : NodeId)
    (tag : String)
    (attributes : List (String × String)) :
    Page × NodeId :=
  let created := page.forest.createElement tag ⟨[]⟩
  let attributed := created.1.modifyAttributes created.2 fun table => table.insertAll attributes
  ({ page with forest := attributed.append target created.2 }, created.2)

end Page

end PageScript.Document
