import PageScript.Console.Handler.Grammar
import PageScript.Console.Handler.Quotation
import PageScript.Text.Line

namespace PageScript.Console.Handler

/-!
# Literals

The arguments of a handler have to be a literal: numbers, texts, and tuples, sets and
tables of literals.  Reading an expression tells why it is refused; a known mistake is
preferred to the general reason.  Evaluating only checks that the tree is that of a
literal and that its sets and tables can be built.
-/

/-- Why arguments are refused. -/
inductive ArgumentFault where
  /-- They are no expression. -/
  | unreadable (reason : String)
  /-- They are an expression, but no literal. -/
  | notLiteral
  /-- They are a literal that cannot be built. -/
  | unusable (reason : String)
  deriving Repr, DecidableEq

/-- The fault for which matching stopped, where cutting the text came to a given end. -/
def Stop.fault (ending : Ending) : Stop → ReadingFault
  | .mistake fault => fault
  | .cutOff =>
      match ending with
      | .unclosed bracket => refused ("'" ++ bracket.toString ++ "' was never closed")
      | .badContinuation => refused "unexpected character after line continuation character"
      | .indented => refused "unexpected indent"
      | _ => refused "invalid syntax"

/-- Read a text by a pattern, with a reader for the expressions inside texts. -/
def readBy (inner : InnerReader) (start : Pattern) (s : List Char) : Except ReadingFault Tree :=
  let cut := lexemes s
  match cut.2 with
  | .refused fault => .error ⟨fault.message, true⟩
  | ending =>
      let reading : Reading := ⟨grammar (literalFault? inner), cut.1.toArray⟩
      let attempt (explains : Bool) : Except Stop Match :=
        (reading.attempt (500 + 250 * cut.1.length) explains start 0).run' {}
      match attempt false with
      | .ok (.found (tree :: _) _) => .ok tree
      | .error stop => .error (stop.fault ending)
      | .ok _ =>
          match attempt true with
          | .error stop => .error (stop.fault ending)
          | .ok _ => .error (refused "invalid syntax")

/-- The reader of expressions inside texts, up to a depth. -/
def innerReader : Nat → InnerReader
  | 0, _ => none
  | depth + 1, s =>
      match readBy (innerReader depth) (.rule .starExpressions) s with
      | .error fault => some fault
      | .ok _ => none

/-- Read an expression. -/
def readExpression (s : List Char) : Except ReadingFault Tree :=
  readBy (innerReader s.length)
    (.sequence [.rule .expressions, .many (.kind .lineEnd), .kind .finish]) s

/-- What matters about the value of a literal. -/
structure Nature where
  /-- The type that keeps the value from being a key or an item of a set. -/
  unhashable : Option String := none

/-- Whether a tree is a number, and if so whether it is imaginary. -/
def isImaginary? : Tree → Option Bool
  | .leaf lexeme =>
      if lexeme.kind = .number then
        some ((lexeme.text.toList.getLast?.map fun c => c = 'j' || c = 'J').getD false)
      else
        none
  | .node .. => none

/-- Whether a tree is a number behind at most one sign, and if so whether it is imaginary. -/
def isImaginarySigned? : Tree → Option Bool
  | .node .signed [_, number] => isImaginary? number
  | tree => isImaginary? tree

/-- The nature of an expression that is no collection. -/
def simpleNature : Tree → Except ArgumentFault Nature
  | .leaf lexeme => if lexeme.kind = .name then .error .notLiteral else .ok {}
  | .node .texts children => if Tree.hasFormatted children then .error .notLiteral else .ok {}
  | .node .signed children =>
      if (isImaginarySigned? (.node .signed children)).isSome then .ok {} else .error .notLiteral
  | .node .sum [left, _, right] =>
      if isImaginarySigned? left = some false && isImaginary? right = some true then .ok {}
      else .error .notLiteral
  | .node .chain [callee, .node .call []] =>
      if callee.isWord ["set"] then .ok { unhashable := some "set" } else .error .notLiteral
  | _ => .error .notLiteral

/-- Check that a value can be a key or an item of a set. -/
def Nature.checkHashable (nature : Nature) : Except ArgumentFault Unit :=
  match nature.unhashable with
  | some typeName => .error (.unusable ("unhashable type: '" ++ typeName ++ "'"))
  | none => .ok ()

mutual

/-- The nature of the value of an expression, if it is a literal that can be built. -/
def natureOf : Tree → Except ArgumentFault Nature
  | .node .tuple children => tupleNature children
  | .node .set children => (checkItems children).map fun _ => { unhashable := some "set" }
  | .node .table children => (checkPairs children).map fun _ => { unhashable := some "dict" }
  | tree => simpleNature tree

/-- The nature of a tuple, which cannot be a key if some item cannot. -/
def tupleNature : List Tree → Except ArgumentFault Nature
  | [] => .ok {}
  | item :: rest => do
      let first ← natureOf item
      let others ← tupleNature rest
      pure { unhashable := first.unhashable.or others.unhashable }

/-- Check the items of a set one after the other. -/
def checkItems : List Tree → Except ArgumentFault Unit
  | [] => .ok ()
  | item :: rest => do
      (← natureOf item).checkHashable
      checkItems rest

/-- Check the bindings of a table one after the other. -/
def checkPairs : List Tree → Except ArgumentFault Unit
  | [] => .ok ()
  | .node .pair [key, value] :: rest => do
      let nature ← natureOf key
      let _ ← natureOf value
      nature.checkHashable
      checkPairs rest
  | _ :: _ => .error (.unusable "malformed node or string: None")

end

/-- Check that a text is a literal. -/
def checkLiteral (s : List Char) : Except ArgumentFault Unit :=
  if s.contains '\x00' then
    .error (.unusable "source code string cannot contain null bytes")
  else
    match readExpression (Text.unifyLineEnds s) with
    | .error fault => .error (.unreadable fault.reason)
    | .ok tree => (natureOf tree).map fun _ => ()

/--
The arguments of a handler: what stands in brackets behind its name, or the whole text if it
has no such form.
-/
def argumentsOf (s : List Char) : List Char :=
  let behind := s.dropWhile fun c => Text.isWordChar c || c = '.'
  if behind.isEmpty then
    ['(', ')']
  else if behind.head? == some '(' && behind.getLast? == some ')' && !behind.contains '\n' then
    behind
  else
    s

/-- Check the parameters of a handler; a fault comes with the text that was read. -/
def checkParameters (parameters : List Char) : Except (String × ArgumentFault) Unit :=
  let arguments := argumentsOf (Text.trim parameters)
  (checkLiteral arguments).mapError fun fault => (String.ofList arguments, fault)

end PageScript.Console.Handler
