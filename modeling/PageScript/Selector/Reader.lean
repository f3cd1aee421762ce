import PageScript.Decimal.Reading
import PageScript.Selector.Basic
import PageScript.Text.LowerCase
import PageScript.Text.Word

namespace PageScript.Selector

/-!
# Reading selectors

A selector is divided at its commas, and every group is read as compounds with
combinators between them.  A compound is delimited first, as a tag followed by
parts, and its tests are then collected from the parts from left to right.  Where
no test starts the collection moves on by one character.
-/

/-- Characters of names in selectors. -/
def isNameChar (c : Char) : Bool :=
  Text.isWordChar c || c = '-'

/-- The length of a name at the start of a text. -/
def nameLength (s : List Char) : Nat :=
  (s.takeWhile isNameChar).length

/-- The length of the parenthesised text at the start of a text, zero if there is none. -/
def parenthesesLength : List Char → Nat
  | '(' :: rest =>
      match Text.cutAt? ')' rest with
      | some (inner, _) => inner.length + 2
      | none => 0
  | _ => 0

/-- The length of the part at the start of a text, zero if there is none. -/
def partLength : List Char → Nat
  | [] => 0
  | c :: rest =>
      if c = '#' || c = '.' then
        if nameLength rest = 0 then 0 else nameLength rest + 1
      else if c = '[' then
        match Text.cutAt? ']' rest with
        | some (inner, _) => if inner.isEmpty then 0 else inner.length + 2
        | none => 0
      else if c = ':' then
        if nameLength rest = 0 then
          0
        else
          nameLength rest + 1 + parenthesesLength (rest.drop (nameLength rest))
      else
        0

/-- The length of the parts at the start of a text, with `fuel` bounding their number. -/
def partsLength : Nat → List Char → Nat
  | 0, _ => 0
  | fuel + 1, s =>
      if partLength s = 0 then 0 else partLength s + partsLength fuel (s.drop (partLength s))

/-- The length of the tag at the start of a text, zero if there is none. -/
def tagLength : List Char → Nat
  | [] => 0
  | c :: rest =>
      if c = '*' then 1
      else if Text.isLatinLetter c then nameLength rest + 1
      else 0

/-- The length of the compound at the start of a text, zero if there is none. -/
def compoundLength (s : List Char) : Nat :=
  tagLength s + partsLength s.length (s.drop (tagLength s))

/-- One test as it is written. -/
inductive WrittenTest where
  | id (name : String)
  | class (name : String)
  | attribute (name : String) (value : Option String)
  | pseudo (name : List Char) (argument : List Char)

/-- A text without the quote at its start, if there is one. -/
def skipQuote : List Char → List Char
  | c :: rest => if c = '\x22' || c = '\x27' then rest else c :: rest
  | [] => []

/-- The value of an attribute test, after its equals sign; nothing but the value may follow. -/
def writtenValue? (s : List Char) : Option (List Char) :=
  let body := skipQuote (Text.trimStart s)
  let value := body.takeWhile fun c => !(c = '\x22' || c = '\x27')
  let rest := body.dropWhile fun c => !(c = '\x22' || c = '\x27')
  if (Text.trimStart (skipQuote rest)).isEmpty then some value else none

/-- The attribute test between brackets. -/
def attributeTest? (inner : List Char) : Option WrittenTest :=
  let start := Text.trimStart inner
  let name := start.takeWhile isNameChar
  if name.isEmpty then
    none
  else
    match Text.trimStart (start.dropWhile isNameChar) with
    | [] => some (.attribute (String.ofList name) none)
    | '=' :: rest =>
        (writtenValue? rest).map fun value =>
          .attribute (String.ofList name) (some (String.ofList value))
    | _ => none

/-- The test at the start of a text, and the length of its text. -/
def writtenTest? : List Char → Option (WrittenTest × Nat)
  | [] => none
  | c :: rest =>
      let name := rest.takeWhile isNameChar
      if c = '#' then
        if name.isEmpty then none else some (.id (String.ofList name), name.length + 1)
      else if c = '.' then
        if name.isEmpty then none else some (.class (String.ofList name), name.length + 1)
      else if c = '[' then
        match Text.cutAt? ']' rest with
        | none => none
        | some (inner, _) => (attributeTest? inner).map fun test => (test, inner.length + 2)
      else if c = ':' then
        if name.isEmpty then
          none
        else
          let after := rest.drop name.length
          match after with
          | '(' :: argument =>
              match Text.cutAt? ')' argument with
              | some (inner, _) =>
                  some (.pseudo name (Text.trim inner), name.length + 1 + (inner.length + 2))
              | none => some (.pseudo name [], name.length + 1)
          | _ => some (.pseudo name [], name.length + 1)
      else
        none

/--
The tests of a text from left to right, where `skip` characters belong to a test already
found.
-/
def writtenTests : Nat → List Char → List WrittenTest
  | _, [] => []
  | skip + 1, _ :: rest => writtenTests skip rest
  | 0, c :: rest =>
      match writtenTest? (c :: rest) with
      | some (test, length) => test :: writtenTests (length - 1) rest
      | none => writtenTests 0 rest

/-- The structural tests without a position. -/
def plainPseudoClasses : List PseudoClass :=
  [.firstChild, .lastChild, .onlyChild, .empty]

/-- The position that digits write. -/
def readPosition (selector : String) (argument : List Char) : Except SelectorError Nat :=
  if argument.isEmpty || !argument.all Text.isDigitLike then
    .error (.unsupported selector)
  else
    let decimals := argument.takeWhile Text.isDecimalDigit
    if Decimal.digitLimit < decimals.length then
      .error (.tooManyDigits decimals.length)
    else if decimals.length < argument.length then
      .error (.invalidPosition (String.ofList argument))
    else
      let position := Text.digitsValue decimals
      if position < 1 then .error (.unsupported selector) else .ok position

/-- The structural test with a name and an argument. -/
def readPseudo
    (selector : String)
    (name argument : List Char) :
    Except SelectorError PseudoClass :=
  let small := String.ofList (Text.lower name)
  if small == "nth-child" then
    (readPosition selector argument).map .nthChild
  else
    match plainPseudoClasses.find? fun pseudo => pseudo.name == small with
    | some pseudo => if argument.isEmpty then .ok pseudo else .error (.unsupported selector)
    | none => .error (.unsupported selector)

/-- Add the tests of a compound in order. -/
def addTests (selector : String) (compound : Compound) :
    List WrittenTest → Except SelectorError Compound
  | [] => .ok compound
  | .id name :: rest => addTests selector { compound with id := some name } rest
  | .class name :: rest =>
      addTests selector { compound with classes := compound.classes ++ [name] } rest
  | .attribute name value :: rest =>
      addTests selector { compound with attributes := compound.attributes ++ [(name, value)] } rest
  | .pseudo name argument :: rest =>
      match readPseudo selector name argument with
      | .error error => .error error
      | .ok pseudo =>
          addTests selector { compound with pseudo := compound.pseudo ++ [pseudo] } rest

/-- The tag that a compound tests; an asterisk tests none. -/
def testedTag (written : List Char) : Option String :=
  if written.isEmpty || written == ['*'] then none else some (String.ofList (Text.lower written))

/-- The compound that a delimited text writes. -/
def readCompound (selector : String) (s : List Char) : Except SelectorError Compound :=
  addTests selector { tag := testedTag (s.take (tagLength s)) }
    (writtenTests 0 (s.drop (tagLength s)))

/-- The combinator at the start of a text, and the rest after the blanks around it. -/
def readCombinator? (s : List Char) : Option (Combinator × List Char) :=
  match Text.trimStart s with
  | '>' :: rest => some (.child, Text.trimStart rest)
  | '+' :: rest => some (.adjacent, Text.trimStart rest)
  | '~' :: rest => some (.sibling, Text.trimStart rest)
  | rest => if rest.length < s.length then some (.descendant, rest) else none

/-- Add a compound to the chain before it. -/
def extendChain : Option (Chain × Combinator) → Compound → Chain
  | none, compound => .single compound
  | some (before, combinator), compound => .step before combinator compound

/-- Read the rest of a chain, with `fuel` bounding the number of compounds. -/
def readChain
    (selector : String) :
    Nat → Option (Chain × Combinator) → List Char → Except SelectorError Chain
  | 0, _, _ => .error (.unsupported selector)
  | fuel + 1, before, s =>
      let length := compoundLength s
      if length = 0 then
        .error (.unsupported selector)
      else
        match readCompound selector (s.take length) with
        | .error error => .error error
        | .ok compound =>
            let chain := extendChain before compound
            let rest := s.drop length
            if rest.isEmpty then
              .ok chain
            else
              match readCombinator? rest with
              | none => .error (.unsupported selector)
              | some (combinator, after) =>
                  if after.isEmpty then
                    .error (.unsupported selector)
                  else
                    readChain selector fuel (some (chain, combinator)) after

/-- Read one group of a selector. -/
def readGroup (selector : String) (group : List Char) : Except SelectorError Chain :=
  let s := Text.trim group
  if s.isEmpty then .error (.unsupported selector) else readChain selector s.length none s

/-- Read groups in order. -/
def readGroups (selector : String) : List (List Char) → Except SelectorError (List Chain)
  | [] => .ok []
  | group :: rest =>
      match readGroup selector group with
      | .error error => .error error
      | .ok chain => (readGroups selector rest).map (chain :: ·)

/-- The chains that a selector writes. -/
def read (selector : String) : Except SelectorError (List Chain) :=
  readGroups selector (Text.splitAt ',' selector.toList)

end PageScript.Selector
