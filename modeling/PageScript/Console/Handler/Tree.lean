import PageScript.Console.Handler.Lexing

namespace PageScript.Console.Handler

/-!
# Trees of expressions

Reading an expression gives a tree whose leaves are lexemes.  Brackets that only group
leave no trace.  An expression is named by its outermost form when it stands in a place
where it must not stand.
-/

/-- Why an expression is refused. -/
structure ReadingFault where
  reason : String
  /-- Whether the reason is told as it is when the expression stands inside a text. -/
  isFinal : Bool := false

/-- A fault as it is told when the expression stands inside a text. -/
def ReadingFault.inText (fault : ReadingFault) : ReadingFault :=
  if fault.isFinal then fault else ⟨"f-string: " ++ fault.reason, true⟩

/-- The form of an inner node. -/
inductive Shape where
  | conditional
  | function
  | operation
  | sum
  | signed
  | comparison
  | awaited
  /-- Something with members, calls, or both behind it. -/
  | chain
  | member
  | call
  | keyword
  | keywordSpread
  | generator
  | suspension
  | tuple
  | set
  | table
  | pair
  | spread
  | setComprehension
  | tableComprehension
  | clause
  | naming
  | starred
  | texts
  deriving Repr, DecidableEq

/-- The tree of an expression or of a part of one. -/
inductive Tree where
  | leaf (lexeme : Lexeme)
  | node (shape : Shape) (children : List Tree)

namespace Tree

/-- Whether a tree is a certain name or keyword. -/
def isWord (words : List String) : Tree → Bool
  | leaf lexeme => (lexeme.kind = .name || lexeme.kind = .keyword) && words.contains lexeme.text
  | node .. => false

/-- Whether a node has a certain form. -/
def isShaped (shape : Shape) : Tree → Bool
  | leaf _ => false
  | node own _ => own = shape

/-- Whether a text has expressions inside. -/
def isFormatted (text : String) : Bool :=
  let marks := text.toList.takeWhile fun c => !isQuote c
  marks.any fun c => c = 'f' || c = 'F'

/-- Whether some text of a node has expressions inside. -/
def hasFormatted (children : List Tree) : Bool :=
  children.any fun child =>
    match child with
    | leaf lexeme => isFormatted lexeme.text
    | node .. => false

/-- What a lexeme that is an expression is called. -/
def leafName (lexeme : Lexeme) : String :=
  match lexeme.kind with
  | .name => "name"
  | .keyword => lexeme.text
  | .sign => "ellipsis"
  | _ => "literal"

/-- What an expression is called. -/
def name : Tree → String
  | leaf lexeme => leafName lexeme
  | node .conditional _ => "conditional expression"
  | node .function _ => "lambda"
  | node .comparison _ => "comparison"
  | node .awaited _ => "await expression"
  | node .chain children =>
      if (children.getLast?.map (isShaped .member)).getD false then "attribute" else "function call"
  | node .generator _ => "generator expression"
  | node .suspension _ => "yield expression"
  | node .tuple _ => "tuple"
  | node .set _ => "set display"
  | node .table _ => "dict literal"
  | node .setComprehension _ => "set comprehension"
  | node .tableComprehension _ => "dict comprehension"
  | node .naming _ => "named expression"
  | node .starred _ => "starred"
  | node .texts children => if hasFormatted children then "f-string expression" else "literal"
  | node _ _ => "expression"

end Tree

end PageScript.Console.Handler
