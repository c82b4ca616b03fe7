import ScriptFormat.Markup.Literal.Token

/-!
# The grammar of literals

Rules have productions, of which the first that fits counts. Some productions
describe common slips: they are tried only in a second reading, after a first
one without them has failed, and say what is wrong.
-/

namespace ScriptFormat.Markup.Literal

/-- What kind of expression a piece of a literal is. -/
inductive Shape where
  | attribute
  | call
  | tuple
  | set
  | dict
  | pair
  | unpacking
  | starred
  | sum
  | binary
  | signed
  | boolean
  | comparison
  | compared
  | conditional
  | lambda
  | named
  | yielded
  | awaited
  | generator
  | setComprehension
  | dictComprehension
  | texts
  | arguments
  | keyword
  deriving DecidableEq

inductive Tree where
  | leaf (token : Token)
  | node (shape : Shape) (parts : List Tree)

/-- What is made of the parts of a production. -/
inductive Outcome where
  | pass
  /-- The parts without the brackets around them. -/
  | inner
  | make (shape : Shape)
  /-- The texts in a row have to fit together. -/
  | texts
  /-- The number must not have too many digits. -/
  | number
  | fault (message : String)
  /-- The message names the kind of the first part. -/
  | faultNaming (before after : String)
  /-- The message shows the first part. -/
  | faultShowing (before : String)
  | missingComma
  | missingBrackets
  | wrongTarget
  | bareGenerator
  | argumentOrder
  deriving DecidableEq

inductive Rule where
  | start
  | expressions
  | expression
  | expressionSlip
  | statementSlip
  | yielded
  | starExpressions
  | starExpression
  | starNamedExpressions
  | starNamedExpression
  | assignment
  | namedExpression
  | namedSlip
  | disjunction
  | conjunction
  | inversion
  | comparison
  | comparisonPair
  | bitwiseOr
  | bitwiseXor
  | bitwiseAnd
  | shift
  | sum
  | term
  | factor
  | power
  | awaited
  | primary
  | primaryTail
  | atom
  | texts
  | group
  | groupSlip
  | lambda
  | lambdaParameters
  | lambdaSlip
  | lambdaParameter
  | tuple
  | set
  | dict
  | pairs
  | pairsSlip
  | pair
  | keyValue
  | pairSlip
  | clauses
  | clause
  | targetSlip
  | setComprehension
  | dictComprehension
  | dictComprehensionSlip
  | generator
  | comprehensionSlip
  | arguments
  | argumentsSlip
  | positionals
  | keywords
  | keywordOrStarred
  | keywordOrUnpacking
  | keywordSlip
  | starredExpression
  | targets
  | target
  | targetWithStar
  | starAtom
  | targetTuple
  | targetPrimary
  deriving DecidableEq, Hashable

/-- A piece of a production. -/
inductive Item where
  | kind (kind : TokenKind)
  | sign (text : String)
  /-- A name that is a keyword in some places. -/
  | softKeyword
  | rule (rule : Rule)
  | oneOf (choices : List (List Item))
  | maybe (items : List Item)
  | many (items : List Item)
  | repeated (items : List Item)
  /-- One or more, with commas between them. -/
  | listed (items : List Item)
  | ahead (items : List Item)
  | notAhead (items : List Item)
  /-- Without productions for slips. -/
  | plainly (items : List Item)
  /-- From here on no other production of the rule is tried. -/
  | commit

/-- Productions for slips are left out of the first reading. -/
structure Production where
  items : List Item
  outcome : Outcome := .pass
  slip : Bool := false

namespace Rule

def signs (texts : List String) : Item := .oneOf (texts.map fun text => [.sign text])

/-- A production that only passes on what a rule gives. -/
def only (rule : Rule) : Production := { items := [.rule rule] }

def slip (rule : Rule) : Production := { items := [.rule rule], slip := true }

def maybeComma : Item := .maybe [.sign ","]

/-- Operands with one of some operators between them, from left to right. -/
def chain (operand : Rule) (operators : List String) (shape : Shape) : List Production :=
  [⟨[.rule operand, .repeated [signs operators, .rule operand]], .make shape, false⟩, only operand]

/-- One part alone, or several with commas between them that make a tuple. -/
def commaSeparated (part : Rule) : List Production :=
  [⟨[.rule part, .repeated [.sign ",", .rule part], maybeComma], .make .tuple, false⟩,
    ⟨[.rule part, .sign ","], .make .tuple, false⟩, only part]

/-- An expression that is no name to assign to. -/
def plainExpression : Item :=
  .oneOf [[.rule assignment], [.rule expression, .notAhead [.sign ":="]]]

/-- An argument without a name. -/
def positional : Item :=
  .oneOf [[.rule starredExpression],
    [.oneOf [[.rule assignment], [.rule expression, .notAhead [.sign ":="]]],
      .notAhead [.sign "="]]]

def forgottenEquals : String :=
  "invalid syntax. Maybe you meant '==' or ':=' instead of '='?"

def bareGeneratorMessage : String := "Generator expression must be parenthesized"

def starInValue : String := "cannot use a starred expression in a dictionary value"

def noValue : String := "expression expected after dictionary key and ':'"

def bareTarget : String := "did you forget parentheses around the comprehension target?"

/-- Rules for whole expressions. -/
def wholeProductions : Rule → List Production
  | start => [⟨[.rule expressions, .many [.kind .newline], .kind .finish], .pass, false⟩]
  | expressions => commaSeparated expression
  | expression =>
      [slip expressionSlip, slip statementSlip,
        ⟨[.rule disjunction, .sign "if", .rule disjunction, .sign "else", .rule expression],
          .make .conditional, false⟩,
        only disjunction, only lambda]
  | expressionSlip =>
      [⟨[.notAhead [.oneOf [[.kind .name, .kind .text], [.softKeyword]]], .rule disjunction,
          .plainly [.oneOf
            [[.rule disjunction, .sign "if", .rule disjunction, .sign "else", .rule expression],
              [.rule disjunction], [.rule lambda]]]],
          .missingComma, false⟩,
        ⟨[.rule disjunction, .sign "if", .rule disjunction, .notAhead [signs ["else", ":"]]],
          .fault "expected 'else' after 'if' expression", false⟩]
  | statementSlip =>
      [⟨[.kind .name, .notAhead [.sign "("], .rule starExpressions], .missingBrackets, false⟩]
  | yielded =>
      [⟨[.sign "yield", .sign "from", .rule expression], .make .yielded, false⟩,
        ⟨[.sign "yield", .maybe [.rule starExpressions]], .make .yielded, false⟩]
  | starExpressions => commaSeparated starExpression
  | starExpression =>
      [⟨[.sign "*", .rule bitwiseOr], .make .starred, false⟩, only expression]
  | starNamedExpressions =>
      [⟨[.listed [.rule starNamedExpression], maybeComma], .make .tuple, false⟩]
  | starNamedExpression =>
      [⟨[.sign "*", .rule bitwiseOr], .make .starred, false⟩, only namedExpression]
  | assignment =>
      [⟨[.kind .name, .sign ":=", .commit, .rule expression], .make .named, false⟩]
  | namedExpression =>
      [only assignment, slip namedSlip,
        ⟨[.rule expression, .notAhead [.sign ":="]], .pass, false⟩]
  | namedSlip =>
      [⟨[.rule expression, .sign ":=", .rule expression],
          .faultNaming "cannot use assignment expressions with " "", false⟩,
        ⟨[.kind .name, .sign "=", .rule bitwiseOr, .notAhead [signs ["=", ":="]]],
          .fault forgottenEquals, false⟩,
        ⟨[.notAhead [.oneOf [[.rule tuple], [.rule generator],
            [signs ["True", "None", "False"]]]],
          .rule bitwiseOr, .sign "=", .rule bitwiseOr, .notAhead [signs ["=", ":="]]],
          .faultNaming "cannot assign to " " here. Maybe you meant '==' instead of '='?", false⟩]
  | disjunction => chain conjunction ["or"] .boolean
  | conjunction => chain inversion ["and"] .boolean
  | inversion =>
      [⟨[.sign "not", .rule inversion], .make .boolean, false⟩, only comparison]
  | comparison =>
      [⟨[.rule bitwiseOr, .repeated [.rule comparisonPair]], .make .comparison, false⟩,
        only bitwiseOr]
  | comparisonPair =>
      [⟨[signs ["==", "!=", "<=", "<", ">=", ">"], .rule bitwiseOr], .make .compared, false⟩,
        ⟨[.sign "not", .sign "in", .rule bitwiseOr], .make .compared, false⟩,
        ⟨[.sign "in", .rule bitwiseOr], .make .compared, false⟩,
        ⟨[.sign "is", .sign "not", .rule bitwiseOr], .make .compared, false⟩,
        ⟨[.sign "is", .rule bitwiseOr], .make .compared, false⟩]
  | bitwiseOr => chain bitwiseXor ["|"] .binary
  | bitwiseXor => chain bitwiseAnd ["^"] .binary
  | bitwiseAnd => chain shift ["&"] .binary
  | shift => chain sum ["<<", ">>"] .binary
  | sum => chain term ["+", "-"] .sum
  | term => chain factor ["*", "/", "//", "%", "@"] .binary
  | factor =>
      [⟨[signs ["+", "-"], .rule factor], .make .signed, false⟩,
        ⟨[.sign "~", .rule factor], .make .binary, false⟩, only power]
  | power =>
      [⟨[.rule awaited, .sign "**", .rule factor], .make .binary, false⟩, only awaited]
  | awaited => [⟨[.sign "await", .rule primary], .make .awaited, false⟩, only primary]
  | _ => []

/-- Rules for what expressions are built of. -/
def partProductions : Rule → List Production
  | primary =>
      [⟨[.rule atom, .repeated [.rule primaryTail]], .make .call, false⟩, only atom]
  | primaryTail =>
      [⟨[.sign ".", .kind .name], .make .attribute, false⟩,
        ⟨[.rule generator], .make .call, false⟩,
        ⟨[.sign "(", .maybe [.rule arguments], .sign ")"], .make .call, false⟩]
  | atom =>
      [⟨[.kind .name], .pass, false⟩, ⟨[signs ["True", "False", "None"]], .pass, false⟩,
        ⟨[.ahead [.kind .text], .rule texts], .pass, false⟩, ⟨[.kind .number], .number, false⟩,
        ⟨[.ahead [.sign "("], .oneOf [[.rule tuple], [.rule group], [.rule generator]]],
          .pass, false⟩,
        ⟨[.ahead [.sign "\x7b"],
          .oneOf [[.rule dict], [.rule set], [.rule dictComprehension], [.rule setComprehension]]],
          .pass, false⟩,
        ⟨[.sign "..."], .pass, false⟩]
  | texts => [⟨[.repeated [.kind .text]], .texts, false⟩]
  | group =>
      [⟨[.sign "(", .oneOf [[.rule yielded], [.rule namedExpression]], .sign ")"], .inner, false⟩,
        slip groupSlip]
  | groupSlip =>
      [⟨[.sign "(", .rule starredExpression, .sign ")"],
          .fault "cannot use starred expression here", false⟩,
        ⟨[.sign "(", .sign "**", .rule expression, .sign ")"],
          .fault "cannot use double starred expression here", false⟩]
  | lambda =>
      [⟨[.sign "lambda", .maybe [.rule lambdaParameters], .sign ":", .rule expression],
          .make .lambda, false⟩]
  | lambdaParameters =>
      [slip lambdaSlip, ⟨[.listed [.rule lambdaParameter], maybeComma], .pass, false⟩]
  | lambdaSlip =>
      [⟨[.many [.kind .name, .sign ","], .sign "(", .listed [.kind .name], maybeComma, .sign ")"],
          .fault "Lambda expression parameters cannot be parenthesized", false⟩]
  | lambdaParameter =>
      [⟨[.kind .name, .sign "=", .rule expression], .make .keyword, false⟩,
        ⟨[.maybe [signs ["*", "**"]], .kind .name], .make .keyword, false⟩,
        ⟨[signs ["*", "/"]], .make .keyword, false⟩]
  | tuple =>
      [⟨[.sign "(", .maybe [.rule starNamedExpression, .sign ",",
          .maybe [.listed [.rule starNamedExpression], maybeComma]], .sign ")"],
          .make .tuple, false⟩]
  | set =>
      [⟨[.sign "\x7b", .listed [.rule starNamedExpression], maybeComma, .sign "\x7d"],
          .make .set, false⟩]
  | dict =>
      [⟨[.sign "\x7b", .maybe [.rule pairs], .sign "\x7d"], .make .dict, false⟩,
        ⟨[.sign "\x7b", .rule pairsSlip, .sign "\x7d"], .make .dict, false⟩]
  | pairs => [⟨[.listed [.rule pair], maybeComma], .make .dict, false⟩]
  | pairsSlip =>
      [⟨[.listed [.rule pair], .sign ",", .rule pairSlip], .make .dict, false⟩,
        ⟨[.rule expression, .sign ":", .sign "*", .rule bitwiseOr], .fault starInValue, false⟩,
        ⟨[.rule expression, .sign ":", .ahead [signs ["\x7d", ","]]], .fault noValue, false⟩]
  | pair => [⟨[.sign "**", .rule bitwiseOr], .make .unpacking, false⟩, only keyValue]
  | keyValue =>
      [⟨[.rule expression, .sign ":", .rule expression], .make .pair, false⟩]
  | pairSlip =>
      [⟨[.rule expression, .notAhead [.sign ":"]], .fault "':' expected after dictionary key",
          false⟩,
        ⟨[.rule expression, .sign ":", .sign "*", .rule bitwiseOr], .fault starInValue, false⟩,
        ⟨[.rule expression, .sign ":", .ahead [signs ["\x7d", ","]]], .fault noValue, false⟩]
  | clauses => [⟨[.repeated [.rule clause]], .make .generator, false⟩]
  | clause =>
      [⟨[.sign "async", .sign "for", .rule targets, .sign "in", .commit, .rule disjunction,
          .many [.sign "if", .rule disjunction]], .make .generator, false⟩,
        ⟨[.sign "for", .rule targets, .sign "in", .commit, .rule disjunction,
          .many [.sign "if", .rule disjunction]], .make .generator, false⟩,
        slip targetSlip]
  | targetSlip =>
      [⟨[.maybe [.sign "async"], .sign "for", .rule starExpressions], .wrongTarget, false⟩]
  | setComprehension =>
      [⟨[.sign "\x7b", .rule namedExpression, .rule clauses, .sign "\x7d"],
          .make .setComprehension, false⟩,
        slip comprehensionSlip]
  | dictComprehension =>
      [⟨[.sign "\x7b", .rule keyValue, .rule clauses, .sign "\x7d"], .make .dictComprehension,
          false⟩,
        slip dictComprehensionSlip]
  | dictComprehensionSlip =>
      [⟨[.sign "\x7b", .sign "**", .rule bitwiseOr, .rule clauses, .sign "\x7d"],
          .fault "dict unpacking cannot be used in dict comprehension", false⟩]
  | generator =>
      [⟨[.sign "(", plainExpression, .rule clauses, .sign ")"], .make .generator, false⟩,
        slip comprehensionSlip]
  | comprehensionSlip =>
      [⟨[signs ["(", "\x7b"], .rule starredExpression, .rule clauses],
          .fault "iterable unpacking cannot be used in comprehension", false⟩,
        ⟨[.sign "\x7b", .rule starNamedExpression, .sign ",", .rule starNamedExpressions,
          .rule clauses], .fault bareTarget, false⟩,
        ⟨[.sign "\x7b", .rule starNamedExpression, .sign ",", .rule clauses],
          .fault bareTarget, false⟩]
  | _ => []

/-- Rules for the arguments of calls and for the names that clauses bind. -/
def bindingProductions : Rule → List Production
  | arguments =>
      [⟨[.rule positionals, maybeComma, .ahead [.sign ")"]], .pass, false⟩, slip argumentsSlip]
  | argumentsSlip =>
      [⟨[.rule positionals, .sign ",", .sign "*"],
          .fault "iterable argument unpacking follows keyword argument unpacking", false⟩,
        ⟨[.rule expression, .rule clauses, .sign ",",
          .maybe [.oneOf [[.rule positionals], [.rule expression, .rule clauses]]]],
          .fault bareGeneratorMessage, false⟩,
        ⟨[.kind .name, .sign "=", .rule expression, .rule clauses], .fault forgottenEquals, false⟩,
        ⟨[.rule positionals, .rule clauses], .bareGenerator, false⟩,
        ⟨[.rule positionals, .sign ",", .rule expression, .rule clauses],
          .fault bareGeneratorMessage, false⟩,
        ⟨[.rule positionals, .sign ",", .rule positionals], .argumentOrder, false⟩]
  | positionals =>
      [⟨[.listed [positional], .maybe [.sign ",", .rule keywords]], .make .arguments, false⟩,
        ⟨[.rule keywords], .make .arguments, false⟩]
  | keywords =>
      [⟨[.listed [.rule keywordOrStarred], .sign ",", .listed [.rule keywordOrUnpacking]],
          .make .arguments, false⟩,
        ⟨[.listed [.rule keywordOrStarred]], .make .arguments, false⟩,
        ⟨[.listed [.rule keywordOrUnpacking]], .make .arguments, false⟩]
  | keywordOrStarred =>
      [slip keywordSlip, ⟨[.kind .name, .sign "=", .rule expression], .make .keyword, false⟩,
        only starredExpression]
  | keywordOrUnpacking =>
      [slip keywordSlip, ⟨[.kind .name, .sign "=", .rule expression], .make .keyword, false⟩,
        ⟨[.sign "**", .rule expression], .make .unpacking, false⟩]
  | keywordSlip =>
      [⟨[signs ["True", "False", "None"], .sign "="], .faultShowing "cannot assign to ", false⟩,
        ⟨[.kind .name, .sign "=", .rule expression, .rule clauses], .fault forgottenEquals, false⟩,
        ⟨[.notAhead [.kind .name, .sign "="], .rule expression, .sign "="],
          .fault "expression cannot contain assignment, perhaps you meant \"==\"?", false⟩]
  | starredExpression => [⟨[.sign "*", .rule expression], .make .starred, false⟩]
  | targets =>
      [⟨[.rule target, .notAhead [.sign ","]], .pass, false⟩,
        ⟨[.rule target, .many [.sign ",", .rule target], maybeComma], .make .tuple, false⟩]
  | target =>
      [⟨[.sign "*", .notAhead [.sign "*"], .rule target], .make .starred, false⟩,
        only targetWithStar]
  | targetWithStar =>
      [⟨[.rule targetPrimary, .sign ".", .kind .name, .notAhead [signs ["(", "."]]],
          .make .attribute, false⟩,
        only starAtom]
  | starAtom =>
      [⟨[.kind .name], .pass, false⟩,
        ⟨[.sign "(", .rule targetWithStar, .sign ")"], .inner, false⟩,
        ⟨[.sign "(", .maybe [.rule targetTuple], .sign ")"], .make .tuple, false⟩]
  | targetTuple =>
      [⟨[.rule target, .repeated [.sign ",", .rule target], maybeComma], .make .tuple, false⟩,
        ⟨[.rule target, .sign ","], .make .tuple, false⟩]
  | targetPrimary =>
      [⟨[.rule atom, .ahead [signs ["(", "."]],
          .many [.rule primaryTail, .ahead [signs ["(", "."]]]], .make .call, false⟩]
  | _ => []

def productions (rule : Rule) : List Production :=
  wholeProductions rule ++ partProductions rule ++ bindingProductions rule

/-- Rules whose results are kept, once they are found, for the rest of the reading. -/
def isKept (rule : Rule) : Bool :=
  [expression, starExpression, disjunction, conjunction, inversion, bitwiseOr, bitwiseXor,
    bitwiseAnd, shift, sum, term, factor, awaited, primary, texts, arguments, target,
    targetWithStar, targetPrimary, namedSlip].contains rule

end Rule

end ScriptFormat.Markup.Literal
