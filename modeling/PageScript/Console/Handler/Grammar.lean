import PageScript.Console.Handler.Pattern

namespace PageScript.Console.Handler

/-!
# The grammar of expressions

The rules of expressions, from the loosest forms to the tightest, and the patterns of
known mistakes beside the rules they belong to.  A mistake is reported where its pattern
matches; some mistakes only count inside brackets.
-/

namespace Pattern

/-- A pattern one or more times. -/
def oneOrMore (pattern : Pattern) : Pattern :=
  .sequence [pattern, .many pattern]

/-- A pattern one or more times, with commas between. -/
def commaList (pattern : Pattern) : Pattern :=
  .sequence [pattern, .many (.sequence [.sign ",", pattern])]

/-- A pattern of a mistake with a fixed reason. -/
def wrong (pattern : Pattern) (reason : String) : Pattern :=
  .reported pattern fun _ _ => some reason

/-- A pattern of a mistake in which the first tree is called by its name. -/
def misplaced (pattern : Pattern) (start ending : String) : Pattern :=
  .reported pattern fun trees _ => trees.head?.map fun tree => start ++ tree.name ++ ending

/-- A name. -/
def anyName : Pattern :=
  .kind .name

/-- One of several expressions, or several with commas between, which are a tuple. -/
def tupleOf (pattern : Pattern) : Pattern :=
  .choice
    [.shaped .tuple
      (.sequence
        [pattern, oneOrMore (.sequence [.sign ",", pattern]), .optional (.sign ",")]),
     .shaped .tuple (.sequence [pattern, .sign ","]),
     pattern]

/-- Operands of one strength with operators between; a single operand stands for itself. -/
def chain (shape : Shape) (operand : Rule) (operators : List Pattern) : Pattern :=
  .choice
    [.shaped shape
      (.sequence
        [.rule operand, oneOrMore (.sequence [.choice operators, .rule operand])]),
     .rule operand]

/-- Patterns in round brackets. -/
def bracketed (parts : List Pattern) : Pattern :=
  .sequence ([.sign "("] ++ parts ++ [.sign ")"])

/-- Patterns in braces. -/
def braced (parts : List Pattern) : Pattern :=
  .sequence ([.sign "\x7b"] ++ parts ++ [.sign "\x7d"])

/-- An expression that a name sign does not follow. -/
def unnamedExpression : Pattern :=
  .sequence [.rule .expression, .without (.sign ":=")]

/-- The clauses of a comprehension. -/
def clauses : Pattern :=
  oneOrMore (.rule .clause)

end Pattern

/-! ### Reasons of mistakes -/

/-- The words of statements of old, which were followed by an expression without brackets. -/
def oldStatements : List String :=
  ["print", "exec"]

/-- The names that may also be keywords; what starts like one is not taken for a missing comma. -/
def softKeywords : List String :=
  ["_", "case", "match"]

/-- The reason for two expressions that follow each other. -/
def missingCommaReason (trees : List Tree) (level : Nat) : Option String :=
  if (trees.head?.map (Tree.isWord oldStatements)).getD false || level = 0 then none
  else some "invalid syntax. Perhaps you forgot a comma?"

/-- The reason for an expression behind a statement of old. -/
def oldStatementReason : List Tree → Nat → Option String
  | .leaf word :: _, _ =>
      if oldStatements.contains word.text then
        some ("Missing parentheses in call to '" ++ word.text ++ "'. Did you mean " ++ word.text ++
          "(...)?")
      else
        none
  | _, _ => none

/-- The reason for a sign that gives a value to a name. -/
def equalsReason : String :=
  "invalid syntax. Maybe you meant '==' or ':=' instead of '='?"

/-- The reason for a generator among other arguments. -/
def bareGeneratorReason : String :=
  "Generator expression must be parenthesized"

/-- The reason for a generator behind other arguments, if there are others. -/
def trailingGeneratorReason (trees : List Tree) (_ : Nat) : Option String :=
  let arguments :=
    trees.filter fun tree =>
      !(tree.isShaped .keyword || tree.isShaped .keywordSpread || tree.isShaped .clause)
  if arguments.length ≤ 1 then none else some bareGeneratorReason

/-- The reason for an argument behind named arguments; `trees` are the arguments before. -/
def lateArgumentReason (trees : List Tree) (_ : Nat) : Option String :=
  if trees.any (Tree.isShaped .keywordSpread) then
    some "positional argument follows keyword argument unpacking"
  else
    some "positional argument follows keyword argument"

mutual

/-- The first part of an expression that cannot be a target of a comprehension. -/
def wrongTargetOf : Tree → Option Tree
  | .leaf lexeme => if lexeme.kind = .name then none else some (.leaf lexeme)
  | .node .starred children => wrongTargetIn children
  | .node .tuple children => wrongTargetIn children
  | .node .comparison children => wrongTargetOfComparison children
  | .node .chain children =>
      if (children.getLast?.map (Tree.isShaped .member)).getD false then none
      else some (.node .chain children)
  | other => some other

/-- The first wrong target among trees. -/
def wrongTargetIn : List Tree → Option Tree
  | [] => none
  | tree :: rest => (wrongTargetOf tree).or (wrongTargetIn rest)

/-- The wrong target of a comparison, if it asks whether something is inside. -/
def wrongTargetOfComparison : List Tree → Option Tree
  | target :: operator :: _ => if operator.isWord ["in"] then wrongTargetOf target else none
  | _ => none

end

/-- The reason for a target that cannot be one. -/
def wrongTargetReason (trees : List Tree) (_ : Nat) : Option String :=
  (wrongTargetIn trees).map fun tree => "cannot assign to " ++ tree.name

/-! ### Rules -/

open Pattern

/-- Rules of single expressions. -/
def expressionRule : Rule → Pattern
  | .expressions => tupleOf (.rule .expression)
  | .expression =>
      .choice
        [.mistake (.rule .missingComma), .mistake (.rule .oldStatement),
         .shaped .conditional
          (.sequence
            [.rule .disjunction, .sign "if", .rule .disjunction, .sign "else", .rule .expression]),
         .rule .disjunction, .rule .function]
  | .plainExpression =>
      .plainly
        (.choice
          [.shaped .conditional
            (.sequence
              [.rule .disjunction, .sign "if", .rule .disjunction, .sign "else",
               .rule .expression]),
           .rule .disjunction, .rule .function])
  | .namedExpression =>
      .choice [.rule .assignment, .mistake (.rule .wrongNaming), unnamedExpression]
  | .assignment =>
      .shaped .naming (.sequence [anyName, .sign ":=", .commit, .rule .expression])
  | .disjunction => chain .operation .conjunction [.sign "or"]
  | .conjunction => chain .operation .inversion [.sign "and"]
  | .inversion =>
      .choice
        [.shaped .operation (.sequence [.sign "not", .rule .inversion]), .rule .comparison]
  | .comparison =>
      chain .comparison .bitwiseOr
        [.word "==", .word "!=", .word "<=", .word "<", .word ">=", .word ">",
         .sequence [.word "not", .sign "in"], .word "in", .sequence [.word "is", .sign "not"],
         .word "is"]
  | .bitwiseOr => chain .operation .bitwiseXor [.sign "|"]
  | .bitwiseXor => chain .operation .bitwiseAnd [.sign "^"]
  | .bitwiseAnd => chain .operation .shift [.sign "&"]
  | .shift => chain .operation .sum [.sign "<<", .sign ">>"]
  | .sum => chain .sum .term [.word "+", .word "-"]
  | .term => chain .operation .factor [.sign "*", .sign "/", .sign "//", .sign "%", .sign "@"]
  | .factor =>
      .choice
        [.shaped .signed (.sequence [.word "+", .rule .factor]),
         .shaped .signed (.sequence [.word "-", .rule .factor]),
         .shaped .operation (.sequence [.sign "~", .rule .factor]), .rule .power]
  | .power =>
      .choice
        [.shaped .operation (.sequence [.rule .awaited, .sign "**", .rule .factor]),
         .rule .awaited]
  | .awaited =>
      .choice
        [.shaped .awaited (.sequence [.sign "await", .rule .primary]), .rule .primary]
  | .primary =>
      .choice
        [.shaped .chain (.sequence [.rule .atom, oneOrMore (.rule .tail)]), .rule .atom]
  | .tail =>
      .choice
        [.shaped .member (.sequence [.sign ".", anyName]), .shaped .call (.rule .generator),
         .shaped .call (bracketed [.optional (.rule .arguments)])]
  | .suspension =>
      .choice
        [.shaped .suspension (.sequence [.sign "yield", .sign "from", .rule .expression]),
         .shaped .suspension (.sequence [.sign "yield", .optional (.rule .starExpressions)])]
  | .starExpressions => tupleOf (.rule .starExpression)
  | .starExpression =>
      .choice [.shaped .starred (.sequence [.sign "*", .rule .bitwiseOr]), .rule .expression]
  | .function =>
      .shaped .function
        (.sequence
          [.sign "lambda", .optional (.rule .parameters), .sign ":", .rule .expression])
  | _ => .choice []

/-- Rules of expressions in brackets. -/
def bracketRule : Rule → Pattern
  | .tuple =>
      .shaped .tuple
        (bracketed
          [.optional
            (.sequence [.rule .starNamed, .sign ",", .optional (.rule .starNamedList)])])
  | .group =>
      .choice
        [bracketed [.choice [.rule .suspension, .rule .namedExpression]],
         .mistake (.rule .wrongGroup)]
  | .generator =>
      .choice
        [.shaped .generator
          (bracketed [.choice [.rule .assignment, unnamedExpression], clauses]),
         .mistake (.rule .wrongComprehension)]
  | .set => .shaped .set (braced [.rule .starNamedList])
  | .table =>
      .choice
        [.shaped .table (braced [.optional (.rule .pairs)]), braced [.rule .wrongPairs]]
  | .tableComprehension =>
      .choice
        [.shaped .tableComprehension (braced [.rule .keyedPair, clauses]),
         .mistake (.rule .wrongTableComprehension)]
  | .setComprehension =>
      .choice
        [.shaped .setComprehension (braced [.rule .namedExpression, clauses]),
         .mistake (.rule .wrongComprehension)]
  | .starNamed =>
      .choice
        [.shaped .starred (.sequence [.sign "*", .rule .bitwiseOr]), .rule .namedExpression]
  | .starNamedList => .sequence [commaList (.rule .starNamed), .optional (.sign ",")]
  | .pair =>
      .choice
        [.shaped .spread (.sequence [.sign "**", .rule .bitwiseOr]), .rule .keyedPair]
  | .keyedPair =>
      .shaped .pair (.sequence [.rule .expression, .sign ":", .rule .expression])
  | .pairs => .sequence [commaList (.rule .pair), .optional (.sign ",")]
  | _ => .choice []

/-- The conditions behind the source of a clause. -/
def conditions : Pattern :=
  .many (.sequence [.sign "if", .rule .disjunction])

/-- Rules of comprehension clauses and their targets. -/
def clauseRule : Rule → Pattern
  | .clause =>
      .shaped .clause
        (.choice
          [.sequence
            [.sign "async", .sign "for", .rule .targets, .sign "in", .commit, .rule .disjunction,
             conditions],
           .sequence
            [.sign "for", .rule .targets, .sign "in", .commit, .rule .disjunction, conditions],
           .mistake (.rule .wrongTarget)])
  | .targets =>
      .choice
        [.sequence [.rule .target, .without (.sign ",")],
         .sequence [commaList (.rule .target), .optional (.sign ",")]]
  | .target =>
      .choice
        [.sequence [.sign "*", .without (.sign "*"), .rule .target], .rule .plainTarget]
  | .plainTarget =>
      .choice
        [.sequence
          [.rule .targetPrimary, .sign ".", anyName, .without (.choice [.sign "(", .sign "."])],
         .rule .targetAtom]
  | .targetAtom =>
      .choice
        [anyName, bracketed [.rule .plainTarget],
         bracketed
          [.optional (.sequence [commaList (.rule .target), .optional (.sign ",")])]]
  | .targetPrimary =>
      let goesOn : Pattern := .ahead (.choice [.sign "(", .sign "."])
      .sequence [.rule .atom, goesOn, .many (.sequence [.rule .tail, goesOn])]
  | _ => .choice []

/-- Rules of arguments. -/
def argumentRule : Rule → Pattern
  | .arguments =>
      .choice
        [.sequence [.rule .argumentList, .optional (.sign ","), .ahead (.sign ")")],
         .mistake (.rule .wrongArguments)]
  | .argumentList =>
      let argument : Pattern :=
        .choice
          [.rule .starredArgument,
           .sequence [.choice [.rule .assignment, unnamedExpression], .without (.sign "=")]]
      .choice
        [.sequence
          [commaList argument, .optional (.sequence [.sign ",", .rule .keywordArguments])],
         .rule .keywordArguments]
  | .keywordArguments =>
      .choice
        [.sequence
          [commaList (.rule .keywordOrStarred), .sign ",", commaList (.rule .keywordOrSpread)],
         commaList (.rule .keywordOrStarred), commaList (.rule .keywordOrSpread)]
  | .keywordOrStarred =>
      .choice
        [.mistake (.rule .wrongKeyword),
         .shaped .keyword (.sequence [anyName, .sign "=", .rule .expression]),
         .rule .starredArgument]
  | .keywordOrSpread =>
      .choice
        [.mistake (.rule .wrongKeyword),
         .shaped .keyword (.sequence [anyName, .sign "=", .rule .expression]),
         .shaped .keywordSpread (.sequence [.sign "**", .rule .expression])]
  | .starredArgument => .shaped .starred (.sequence [.sign "*", .rule .expression])
  | _ => .choice []

/-! ### Parameters of functions -/

/-- The slash behind the parameters that have no names for callers. -/
def slash : Pattern :=
  .sequence [.sign "/", .choice [.sign ",", .ahead (.sign ":")]]

/-- Parameters without values, and a slash. -/
def plainUpToSlash : Pattern :=
  .sequence [oneOrMore (.rule .parameter), slash]

/-- Parameters of which the last have values, and a slash. -/
def defaultedUpToSlash : Pattern :=
  .sequence [.many (.rule .parameter), oneOrMore (.rule .defaultedParameter), slash]

/-- Mistakes in parameters. -/
def wrongParameters : Pattern :=
  let anyUpToSlash : Pattern := .choice [plainUpToSlash, defaultedUpToSlash]
  let others : Pattern := .many (.rule .anyParameter)
  .choice
    [wrong (.sequence [.sign "/", .sign ","]) "at least one argument must precede /",
     wrong (.sequence [anyUpToSlash, others, .sign "/"]) "/ may appear only once",
     wrong
      (.sequence
        [.optional plainUpToSlash, .many (.rule .parameter),
         .choice [defaultedUpToSlash, oneOrMore (.rule .defaultedParameter)], .rule .parameter])
      "non-default argument follows default argument",
     wrong
      (.sequence
        [.many (.rule .parameter), .sign "(", commaList anyName, .optional (.sign ","), .sign ")"])
      "Lambda expression parameters cannot be parenthesized",
     wrong
      (.sequence
        [.optional anyUpToSlash, others, .sign "*", .choice [.sign ",", .rule .parameter], others,
         .sign "/"])
      "/ must be ahead of *",
     wrong (.sequence [oneOrMore (.rule .anyParameter), .sign "/", .sign "*"])
      "expected comma between / and *"]

/-- Mistakes in the parameters behind a star. -/
def wrongRestParameters : Pattern :=
  let ending : Pattern := .choice [.rule .parameter, .sign ","]
  .choice
    [wrong
      (.sequence
        [.sign "*",
         .choice [.sign ":", .sequence [.sign ",", .choice [.sign ":", .sign "**"]]]])
      "named arguments must follow bare *",
     wrong (.sequence [.sign "*", anyName, .sign "="])
      "var-positional argument cannot have default value",
     wrong (.sequence [.sign "*", ending, .many (.rule .anyParameter), .sign "*", ending])
      "* argument may appear only once"]

/-- Mistakes in the parameter behind two stars. -/
def wrongLastParameter : Pattern :=
  .choice
    [wrong (.sequence [.sign "**", anyName, .sign "="])
      "var-keyword argument cannot have default value",
     wrong
      (.sequence
        [.sign "**", anyName, .sign ",", .choice [anyName, .sign "*", .sign "**", .sign "/"]])
      "arguments cannot follow var-keyword argument"]

/-- The value of a parameter. -/
def parameterValue : Pattern :=
  .choice
    [.sequence [.sign "=", .rule .expression],
     .mistake
      (wrong (.sequence [.sign "=", .ahead (.choice [.sign ")", .sign ","])])
        "expected default value expression")]

/-- Rules of the parameters of functions. -/
def parameterRule : Rule → Pattern
  | .parameters =>
      let plains : Pattern := .many (.rule .parameter)
      let defaulted : Pattern := .many (.rule .defaultedParameter)
      let rest : Pattern := .optional (.rule .restParameters)
      .choice
        [.mistake wrongParameters, .sequence [plainUpToSlash, plains, defaulted, rest],
         .sequence [defaultedUpToSlash, defaulted, rest],
         .sequence [oneOrMore (.rule .parameter), defaulted, rest],
         .sequence [oneOrMore (.rule .defaultedParameter), rest], .rule .restParameters]
  | .parameter =>
      .sequence [anyName, .choice [.sign ",", .ahead (.sign ":")]]
  | .defaultedParameter =>
      .sequence [anyName, parameterValue, .choice [.sign ",", .ahead (.sign ":")]]
  | .anyParameter =>
      .sequence [anyName, .optional parameterValue, .choice [.sign ",", .ahead (.sign ":")]]
  | .restParameters =>
      .choice
        [.mistake wrongRestParameters,
         .sequence
          [.sign "*", .rule .parameter, .many (.rule .anyParameter),
           .optional (.rule .lastParameter)],
         .sequence
          [.sign "*", .sign ",", oneOrMore (.rule .anyParameter), .optional (.rule .lastParameter)],
         .rule .lastParameter]
  | .lastParameter =>
      .choice [.mistake wrongLastParameter, .sequence [.sign "**", .rule .parameter]]
  | _ => .choice []

/-! ### Mistakes -/

/-- Rules of mistakes in single expressions and in brackets. -/
def mistakeRule : Rule → Pattern
  | .missingComma =>
      .choice
        [.reported
          (.sequence
            [.without (.choice [.sequence [anyName, .kind .text], .startOf softKeywords]),
             .rule .disjunction, .rule .plainExpression])
          missingCommaReason,
         wrong
          (.sequence
            [.rule .disjunction, .sign "if", .rule .disjunction,
             .without (.choice [.sign "else", .sign ":"])])
          "expected 'else' after 'if' expression"]
  | .oldStatement =>
      .reported (.sequence [anyName, .without (.sign "("), .rule .starExpressions])
        oldStatementReason
  | .wrongNaming =>
      let ends : Pattern := .without (.choice [.sign "=", .sign ":="])
      .choice
        [misplaced (.sequence [.rule .expression, .sign ":=", .rule .expression])
          "cannot use assignment expressions with " "",
         wrong (.sequence [anyName, .sign "=", .rule .bitwiseOr, ends]) equalsReason,
         misplaced
          (.sequence
            [.without
              (.choice
                [.rule .tuple, .rule .generator, .sign "True", .sign "None", .sign "False"]),
             .rule .bitwiseOr, .sign "=", .rule .bitwiseOr, ends])
          "cannot assign to " " here. Maybe you meant '==' instead of '='?"]
  | .wrongGroup =>
      .choice
        [wrong (bracketed [.rule .starredArgument]) "cannot use starred expression here",
         wrong (bracketed [.sign "**", .rule .expression])
          "cannot use double starred expression here"]
  | .wrongComprehension =>
      let unbracketed := "did you forget parentheses around the comprehension target?"
      .choice
        [wrong
          (.sequence [.choice [.sign "(", .sign "\x7b"], .rule .starredArgument, clauses])
          "iterable unpacking cannot be used in comprehension",
         wrong
          (.sequence
            [.sign "\x7b", .rule .starNamed, .sign ",", .rule .starNamedList, clauses])
          unbracketed,
         wrong (.sequence [.sign "\x7b", .rule .starNamed, .sign ",", clauses]) unbracketed]
  | .wrongTableComprehension =>
      wrong (braced [.sign "**", .rule .bitwiseOr, clauses])
        "dict unpacking cannot be used in dict comprehension"
  | .wrongPairs =>
      .choice
        [.sequence [commaList (.rule .pair), .sign ",", .rule .wrongPair],
         wrong (.sequence [.rule .expression, .sign ":", .sign "*", .rule .bitwiseOr])
          "cannot use a starred expression in a dictionary value",
         wrong
          (.sequence
            [.rule .expression, .sign ":", .ahead (.choice [.sign "\x7d", .sign ","])])
          "expression expected after dictionary key and ':'"]
  | .wrongPair =>
      .choice
        [wrong (.sequence [.rule .expression, .without (.sign ":")])
          "':' expected after dictionary key",
         wrong (.sequence [.rule .expression, .sign ":", .sign "*", .rule .bitwiseOr])
          "cannot use a starred expression in a dictionary value",
         wrong
          (.sequence
            [.rule .expression, .sign ":", .ahead (.choice [.sign "\x7d", .sign ","])])
          "expression expected after dictionary key and ':'"]
  | .wrongTarget =>
      .reported
        (.sequence [.optional (.sign "async"), .sign "for", .rule .starExpressions])
        wrongTargetReason
  | _ => .choice []

/-- Rules of mistakes in arguments. -/
def wrongArgumentRule : Rule → Pattern
  | .wrongArguments =>
      .choice
        [wrong (.sequence [.rule .argumentList, .sign ",", .sign "*"])
          "iterable argument unpacking follows keyword argument unpacking",
         wrong
          (.sequence
            [.rule .expression, clauses, .sign ",",
             .optional
              (.choice [.rule .argumentList, .sequence [.rule .expression, clauses]])])
          bareGeneratorReason,
         wrong (.sequence [anyName, .sign "=", .rule .expression, clauses]) equalsReason,
         .reported (.sequence [.rule .argumentList, clauses]) trailingGeneratorReason,
         wrong
          (.sequence [.rule .argumentList, .sign ",", .rule .expression, clauses])
          bareGeneratorReason,
         .sequence
          [.ahead
            (.sequence [.rule .argumentList, .sign ",", .rule .argumentList]),
           .reported (.rule .argumentList) lateArgumentReason]]
  | .wrongKeyword =>
      .choice
        [.reported
          (.sequence [.choice [.word "True", .word "False", .word "None"], .sign "="])
          (fun trees _ => trees.head?.map fun tree => "cannot assign to " ++ tree.name),
         wrong (.sequence [anyName, .sign "=", .rule .expression, clauses]) equalsReason,
         wrong
          (.sequence
            [.without (.sequence [anyName, .sign "="]), .rule .expression, .sign "="])
          "expression cannot contain assignment, perhaps you meant \"==\"?"]
  | _ => .choice []

/-- The grammar, where `fault` says what is wrong with numbers and with neighbouring texts. -/
def grammar (fault : List Tree → Option ReadingFault) : Rule → Pattern
  | .atom =>
      .choice
        [anyName, .word "True", .word "False", .word "None",
         .sequence [.ahead (.kind .text), .rule .texts], .verified (.kind .number) fault,
         .sequence
          [.ahead (.sign "("), .choice [.rule .tuple, .rule .group, .rule .generator]],
         .sequence
          [.ahead (.sign "\x7b"),
           .choice
            [.rule .table, .rule .set, .rule .tableComprehension, .rule .setComprehension]],
         .word "..."]
  | .texts => .shaped .texts (.verified (oneOrMore (.kind .text)) fault)
  | other =>
      .choice
        [expressionRule other, bracketRule other, clauseRule other, argumentRule other,
         parameterRule other, mistakeRule other, wrongArgumentRule other]

end PageScript.Console.Handler
