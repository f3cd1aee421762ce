import Std.Data.HashMap
import PageScript.Console.Handler.Tree

namespace PageScript.Console.Handler

/-!
# Patterns of lexemes

A pattern says which lexemes may follow each other and which trees they give.  Choices
are ordered: the first alternative that matches is taken.  Rules name patterns, and what
a rule gave at a place is remembered.  Matching has two modes: the plain one, and one in
which patterns of known mistakes are tried as well, to explain why a text is refused.
-/

/-- The rules of the grammar of expressions. -/
inductive Rule where
  | expressions
  | expression
  | plainExpression
  | namedExpression
  | assignment
  | disjunction
  | conjunction
  | inversion
  | comparison
  | bitwiseOr
  | bitwiseXor
  | bitwiseAnd
  | shift
  | sum
  | term
  | factor
  | power
  | awaited
  | primary
  | tail
  | atom
  | tuple
  | group
  | generator
  | set
  | table
  | tableComprehension
  | setComprehension
  | texts
  | starNamed
  | starNamedList
  | pair
  | keyedPair
  | pairs
  | clause
  | suspension
  | starExpressions
  | starExpression
  | arguments
  | argumentList
  | keywordArguments
  | keywordOrStarred
  | keywordOrSpread
  | starredArgument
  | targets
  | target
  | plainTarget
  | targetAtom
  | targetPrimary
  | function
  | parameters
  | parameter
  | defaultedParameter
  | anyParameter
  | restParameters
  | lastParameter
  | missingComma
  | oldStatement
  | wrongNaming
  | wrongGroup
  | wrongComprehension
  | wrongTableComprehension
  | wrongPairs
  | wrongPair
  | wrongTarget
  | wrongArguments
  | wrongKeyword
  deriving Repr, DecidableEq, Hashable

/-- Whether a rule is remembered at the places where it was tried. -/
def Rule.isRemembered : Rule → Bool
  | expression => true
  | disjunction => true
  | conjunction => true
  | inversion => true
  | bitwiseOr => true
  | bitwiseXor => true
  | bitwiseAnd => true
  | shift => true
  | sum => true
  | term => true
  | factor => true
  | awaited => true
  | primary => true
  | texts => true
  | arguments => true
  | starExpression => true
  | target => true
  | plainTarget => true
  | wrongNaming => true
  | _ => false

/-- A pattern of lexemes. -/
inductive Pattern where
  /-- A lexeme of a kind. -/
  | kind (kind : LexemeKind)
  /-- A name that some word starts with. -/
  | startOf (words : List String)
  /-- A sign or keyword, of which no tree is kept. -/
  | sign (text : String)
  /-- A sign or keyword that is kept. -/
  | word (text : String)
  /-- The pattern of a rule. -/
  | rule (rule : Rule)
  /-- Patterns one after the other. -/
  | sequence (parts : List Pattern)
  /-- The first alternative that matches. -/
  | choice (alternatives : List Pattern)
  /-- A pattern or nothing. -/
  | optional (pattern : Pattern)
  /-- A pattern any number of times. -/
  | many (pattern : Pattern)
  /-- A pattern that follows but is not passed. -/
  | ahead (pattern : Pattern)
  /-- A pattern that must not follow. -/
  | without (pattern : Pattern)
  /-- From here on no other alternative of the rule is tried. -/
  | commit
  /-- A pattern whose trees become the children of a node. -/
  | shaped (shape : Shape) (pattern : Pattern)
  /-- A pattern whose trees must not have a fault. -/
  | verified (pattern : Pattern) (fault : List Tree → Option ReadingFault)
  /-- A pattern that is tried in the explaining mode only. -/
  | mistake (pattern : Pattern)
  /-- A pattern of a mistake; the reason may depend on the brackets that are open behind it. -/
  | reported (pattern : Pattern) (reason : List Tree → Nat → Option String)
  /-- A pattern that is matched without patterns of mistakes. -/
  | plainly (pattern : Pattern)

/-- The outcome of matching at a place. -/
inductive Match where
  /-- The trees of what matches, and the place behind it. -/
  | found (trees : List Tree) (next : Nat)
  /-- Nothing matches. -/
  | missing
  /-- Nothing matches, and no other alternative of the rule is tried. -/
  | stuck

/-- Why matching stops altogether. -/
inductive Stop where
  /-- The lexemes end before the text does. -/
  | cutOff
  /-- A mistake is found. -/
  | mistake (fault : ReadingFault)

/-- What rules gave at places. -/
abbrev Memory := Std.HashMap (Rule × Nat) Match

/-- Matching remembers what rules gave, and may stop. -/
abbrev Matching (α : Type) := StateT Memory (Except Stop) α

/-- What patterns are matched against: a grammar and lexemes. -/
structure Reading where
  grammar : Rule → Pattern
  lexemes : Array Lexeme

namespace Reading

/-- The lexeme at a place, which must be there. -/
def lexemeAt (reading : Reading) (place : Nat) : Matching Lexeme :=
  match reading.lexemes[place]? with
  | some lexeme => pure lexeme
  | none => throw .cutOff

/-- The number of brackets that are open before a place. -/
def levelBefore (reading : Reading) (place : Nat) : Nat :=
  ((reading.lexemes[place - 1]?).map Lexeme.level).getD 0

/-- Match one lexeme. -/
def take
    (reading : Reading)
    (place : Nat)
    (fits : Lexeme → Bool)
    (keeps : Bool) :
    Matching Match := do
  let lexeme ← reading.lexemeAt place
  if fits lexeme then
    pure (.found (if keeps then [.leaf lexeme] else []) (place + 1))
  else
    pure .missing

/-- Whether a lexeme is a sign or keyword with a text. -/
def isSign (text : String) (lexeme : Lexeme) : Bool :=
  (lexeme.kind = .sign || lexeme.kind = .keyword) && lexeme.text == text

/-- Whether a lexeme is a name that some word starts with. -/
def isStart (words : List String) (lexeme : Lexeme) : Bool :=
  lexeme.kind = .name && words.any fun word => lexeme.text.toList.isPrefixOf word.toList

/-- Match a pattern at a place, explaining mistakes or not; the fuel bounds the nesting. -/
def attempt (reading : Reading) : Nat → Bool → Pattern → Nat → Matching Match
  | 0, _, _, _ => throw (.mistake { reason := "too many nested parentheses" })
  | fuel + 1, explains, pattern, place =>
      match pattern with
      | .kind kind => reading.take place (fun lexeme => lexeme.kind = kind) true
      | .startOf words => reading.take place (isStart words) true
      | .sign text => reading.take place (isSign text) false
      | .word text => reading.take place (isSign text) true
      | .rule rule => do
          let memory ← get
          match if rule.isRemembered then memory[(rule, place)]? else none with
          | some known => pure known
          | none =>
              let outcome : Match :=
                match ← attempt reading fuel explains (reading.grammar rule) place with
                | .stuck => .missing
                | other => other
              if rule.isRemembered then
                modify fun memory => memory.insert (rule, place) outcome
              pure outcome
      | .sequence [] => pure (.found [] place)
      | .sequence (.commit :: rest) => do
          match ← attempt reading fuel explains (.sequence rest) place with
          | .missing => pure .stuck
          | other => pure other
      | .sequence (first :: rest) => do
          match ← attempt reading fuel explains first place with
          | .found trees next =>
              match ← attempt reading fuel explains (.sequence rest) next with
              | .found others last => pure (.found (trees ++ others) last)
              | other => pure other
          | other => pure other
      | .choice [] => pure .missing
      | .choice (first :: rest) => do
          match ← attempt reading fuel explains first place with
          | .missing => attempt reading fuel explains (.choice rest) place
          | other => pure other
      | .optional inner => do
          match ← attempt reading fuel explains inner place with
          | .found trees next => pure (.found trees next)
          | _ => pure (.found [] place)
      | .many inner => do
          match ← attempt reading fuel explains inner place with
          | .found trees next =>
              match ← attempt reading fuel explains (.many inner) next with
              | .found others last => pure (.found (trees ++ others) last)
              | other => pure other
          | _ => pure (.found [] place)
      | .ahead inner => do
          match ← attempt reading fuel explains inner place with
          | .found _ _ => pure (.found [] place)
          | _ => pure .missing
      | .without inner => do
          match ← attempt reading fuel explains inner place with
          | .found _ _ => pure .missing
          | _ => pure (.found [] place)
      | .commit => pure (.found [] place)
      | .shaped shape inner => do
          match ← attempt reading fuel explains inner place with
          | .found trees next => pure (.found [.node shape trees] next)
          | other => pure other
      | .verified inner fault => do
          match ← attempt reading fuel explains inner place with
          | .found trees next =>
              match fault trees with
              | some found => throw (.mistake found)
              | none => pure (.found trees next)
          | other => pure other
      | .mistake inner =>
          if explains then attempt reading fuel explains inner place else pure .missing
      | .reported inner reason => do
          match ← attempt reading fuel explains inner place with
          | .found trees next =>
              match reason trees (reading.levelBefore next) with
              | some text => throw (.mistake { reason := text })
              | none => pure .stuck
          | other => pure other
      | .plainly inner => attempt reading fuel false inner place

end Reading

end PageScript.Console.Handler
