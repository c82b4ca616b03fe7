import ScriptFormat.Markup.Literal.Escape
import ScriptFormat.Markup.Literal.Grammar
import ScriptFormat.Text.Numeral
import Std.Data.HashMap

/-!
# Reading literals

The rules of the grammar are followed from left to right. A reading ends with a
tree, or with a message that says what is wrong; of two faults, one in the
tokens counts before one in their order.
-/

namespace ScriptFormat.Markup.Literal

/-- How far a rule or a piece of one fits. What refuses leaves no other production to try. -/
inductive Attempt where
  | fits (parts : List Tree) (next : Nat)
  | fails
  | refuses

/-- Why a reading stops: at the end of the tokens, or for a fault in their order. -/
inductive Halt where
  | outOfTokens (message : Text)
  | misplaced (message : Text)

structure Reading where
  kept : Std.HashMap (Rule × Nat) Attempt := {}
  /-- The number of tokens asked for. -/
  reached : Nat := 0
  slips : Bool

/-- The tokens that are there, and what comes behind them. -/
structure TokenSource where
  tokens : Array Token
  ending : Ending

abbrev Reader := EStateM Halt Reading

def Ending.message : Ending → Text
  | .complete => []
  | .fault message => message
  | .stop message _ => message

/-- Asks for the token at a position. -/
def tokenAt (source : TokenSource) (position : Nat) : Reader Token := do
  match source.tokens[position]? with
  | some token =>
      modify fun reading => { reading with reached := max reading.reached (position + 1) }
      return token
  | none => throw (.outOfTokens source.ending.message)

namespace Tree

def isSign : Tree → Bool
  | .leaf token => token.kind = .sign || token.kind = .keyword
  | .node .. => false

/-- The constants that have a keyword or a sign of their own. -/
def constants : List Text := ["None", "True", "False", "..."]

/-- Signs and keywords between the parts that matter. -/
def isMark (tree : Tree) : Bool :=
  match tree with
  | .leaf token => tree.isSign && !constants.contains token.text
  | .node .. => false

def isNamed (names : List Text) : Tree → Bool
  | .leaf token => token.kind = .name && names.contains token.text
  | .node .. => false

def shown : Tree → Text
  | .leaf token => token.text
  | .node .. => []

def isShaped (shape : Shape) : Tree → Bool
  | .leaf _ => false
  | .node other _ => other = shape

/-- What an expression is called in a message. -/
def description : Tree → Text
  | .leaf token =>
      if token.kind = .name then "name"
      else if token.kind = .keyword then token.text
      else if token.kind = .sign then "ellipsis"
      else "literal"
  | .node shape parts =>
      match shape with
      | .attribute => "attribute"
      | .call => if (parts.getLast?).any (isShaped .attribute) then "attribute" else "function call"
      | .tuple => "tuple"
      | .set => "set display"
      | .dict => "dict literal"
      | .starred => "starred"
      | .comparison => "comparison"
      | .conditional => "conditional expression"
      | .lambda => "lambda"
      | .named => "named expression"
      | .yielded => "yield expression"
      | .awaited => "await expression"
      | .generator => "generator expression"
      | .setComprehension => "set comprehension"
      | .dictComprehension => "dict comprehension"
      | .texts =>
          if parts.any fun part => (textParts part.shown).filled then "f-string expression"
          else "literal"
      | _ => "expression"

mutual

/-- The first part of what a clause binds that nothing can be assigned to. -/
def wrongTarget? : Tree → Option Tree
  | .leaf token => if token.kind = .name then none else some (.leaf token)
  | .node .tuple parts => wrongTargetAmong? parts
  | .node .starred parts => wrongTargetAmong? parts
  | .node .comparison (left :: .node .compared (.leaf token :: _) :: _) =>
      if token.text = "in" then wrongTarget? left else none
  | .node .call parts =>
      if (parts.getLast?).any (isShaped .attribute) then none else some (.node .call parts)
  | tree => some tree

def wrongTargetAmong? : List Tree → Option Tree
  | [] => none
  | part :: rest =>
      match part.isMark, wrongTarget? part with
      | false, some wrong => some wrong
      | _, _ => wrongTargetAmong? rest

end

end Tree

/-- The statements that were once written without brackets. -/
def statements : List Text := ["print", "exec"]

/-- The digits of a whole decimal number, which may be too many. -/
def digitFault? (number : Text) : Option Text :=
  let digits := number.filter fun point => point != underscore
  if digits.all CodePoint.isAsciiDigit && Numeral.maxDigits < digits.length then
    some (Numeral.tooLong digits.length ++
      " - Consider hexadecimal for huge integer literals to avoid decimal conversion limits.")
  else none

def stopIf (fault : Option Text) (parts : List Tree) (next : Nat) : Reader Attempt :=
  match fault with
  | some message => throw (.misplaced message)
  | none => return .fits parts next

/-- Gives the message, or leaves the slip unmentioned. -/
def mention (holds : Bool) (message : Text) : Reader Attempt :=
  if holds then throw (.misplaced message) else return .fails

/-- Arguments of a call by position. -/
def positionalsOf (arguments : Tree) : List Tree :=
  match arguments with
  | .node _ parts => parts.filter fun part =>
      !part.isMark && !part.isShaped .keyword && !part.isShaped .unpacking &&
        !part.isShaped .arguments
  | .leaf _ => []

/-- Whether an unpacked dictionary is among the arguments of a call. -/
def hasUnpacking (arguments : Tree) : Bool :=
  match arguments with
  | .node _ parts => parts.any fun part =>
      part.isShaped .unpacking ||
        (match part with
          | .node .arguments inner => inner.any (Tree.isShaped .unpacking)
          | _ => false)
  | .leaf _ => false

/-- What comes of a production that fits. -/
def conclude (source : TokenSource) (outcome : Outcome) (parts : List Tree) (next : Nat) :
    Reader Attempt :=
  let first := parts.headD (.node .tuple [])
  match outcome with
  | .pass => return .fits parts next
  | .inner => return .fits (parts.drop 1).dropLast next
  | .make shape => return .fits [.node shape parts] next
  | .texts =>
      let texts := parts.map fun part => textParts part.shown
      let head := texts.headD ⟨false, false, false, []⟩
      stopIf (head.fault? <|> textsFault? head (texts.drop 1)) [.node .texts parts] next
  | .number => stopIf (digitFault? first.shown) parts next
  | .fault message => throw (.misplaced message)
  | .faultNaming before after => throw (.misplaced (before ++ first.description ++ after))
  | .faultShowing before => throw (.misplaced (before ++ first.shown))
  | .missingComma =>
      let open? := (source.tokens[next - 1]?).any fun token => token.depth != 0
      mention (open? && !first.isNamed statements) "invalid syntax. Perhaps you forgot a comma?"
  | .missingBrackets =>
      mention (first.isNamed statements)
        ("Missing parentheses in call to '" ++ first.shown ++ "'. Did you mean " ++ first.shown ++
          "(...)?")
  | .wrongTarget =>
      match (parts.getLast?).bind Tree.wrongTarget? with
      | some wrong => throw (.misplaced ("cannot assign to " ++ wrong.description))
      | none => return .fails
  | .bareGenerator => mention (1 < (positionalsOf first).length) Rule.bareGeneratorMessage
  | .argumentOrder =>
      throw (.misplaced (if hasUnpacking first then
        "positional argument follows keyword argument unpacking"
      else "positional argument follows keyword argument"))

def matchToken (source : TokenSource) (position : Nat) (fits : Token → Bool) : Reader Attempt := do
  let token ← tokenAt source position
  return if fits token then .fits [.leaf token] (position + 1) else .fails

def softKeywords : List Text := ["_", "case", "match"]

def Token.isSign (token : Token) (text : Text) : Bool :=
  (token.kind = .sign || token.kind = .keyword) && token.text = text

mutual

/-- Follows a rule from a position on, with at most `fuel` steps on the way down. -/
def readRule (source : TokenSource) : Nat → Rule → Nat → Reader Attempt
  | 0, _, _ => return .fails
  | fuel + 1, rule, position => do
      let kept := (← get).kept[(rule, position)]?
      match if rule.isKept then kept else none with
      | some attempt => return attempt
      | none =>
          let attempt ← readProductions source fuel rule.productions position
          if rule.isKept then
            modify fun reading =>
              { reading with kept := reading.kept.insert (rule, position) attempt }
          return attempt

def readProductions (source : TokenSource) : Nat → List Production → Nat → Reader Attempt
  | 0, _, _ => return .fails
  | _, [], _ => return .fails
  | fuel + 1, production :: rest, position => do
      if production.slip && !(← get).slips then readProductions source fuel rest position
      else match ← readItems source fuel production.items position with
        | .fits parts next => conclude source production.outcome parts next
        | .refuses => return .fails
        | .fails => readProductions source fuel rest position

def readItems (source : TokenSource) : Nat → List Item → Nat → Reader Attempt
  | 0, _, _ => return .fails
  | _, [], position => return .fits [] position
  | fuel + 1, .commit :: rest, position => do
      match ← readItems source fuel rest position with
      | .fails => return .refuses
      | attempt => return attempt
  | fuel + 1, item :: rest, position => do
      match ← readItem source fuel item position with
      | .fits parts next =>
          match ← readItems source fuel rest next with
          | .fits others last => return .fits (parts ++ others) last
          | attempt => return attempt
      | _ => return .fails

def readChoices (source : TokenSource) : Nat → List (List Item) → Nat → Reader Attempt
  | 0, _, _ => return .fails
  | _, [], _ => return .fails
  | fuel + 1, choice :: rest, position => do
      match ← readItems source fuel choice position with
      | .fits parts next => return .fits parts next
      | _ => readChoices source fuel rest position

/-- Pieces as many times in a row as they fit. -/
def readMany (source : TokenSource) : Nat → List Item → Nat → Reader Attempt
  | 0, _, _ => return .fails
  | fuel + 1, items, position => do
      match ← readItems source fuel items position with
      | .fits parts next =>
          match ← readMany source fuel items next with
          | .fits others last => return .fits (parts ++ others) last
          | attempt => return attempt
      | _ => return .fits [] position

def readItem (source : TokenSource) : Nat → Item → Nat → Reader Attempt
  | 0, _, _ => return .fails
  | fuel + 1, item, position =>
      match item with
      | .kind kind => matchToken source position fun token => token.kind = kind
      | .sign text => matchToken source position fun token => token.isSign text
      | .softKeyword =>
          matchToken source position fun token =>
            token.kind = .name && softKeywords.contains token.text
      | .rule rule => readRule source fuel rule position
      | .oneOf choices => readChoices source fuel choices position
      | .maybe items => readChoices source fuel [items, []] position
      | .many items => readMany source fuel items position
      | .repeated items => readItems source fuel (items ++ [.many items]) position
      | .listed items =>
          readItems source fuel (items ++ [.many (.sign "," :: items)]) position
      | .ahead items => do
          match ← readItems source fuel items position with
          | .fits _ _ => return .fits [] position
          | _ => return .fails
      | .notAhead items => do
          match ← readItems source fuel items position with
          | .fits _ _ => return .fails
          | _ => return .fits [] position
      | .plainly items => do
          let slips := (← get).slips
          modify fun reading => { reading with slips := false }
          let attempt ← readItems source fuel items position
          modify fun reading => { reading with slips }
          return attempt
      | .commit => return .fits [] position

end

/-- Steps enough for any sequence of tokens: rules go down a bounded way from bracket to bracket. -/
def fuelFor (source : TokenSource) : Nat := 300 * (source.tokens.size + 2)

def readOnce (source : TokenSource) (slips : Bool) : EStateM.Result Halt Reading Attempt :=
  (readRule source (fuelFor source) .start 0).run { slips }

/-- The line of the last token that was asked for. -/
def lastLine (source : TokenSource) (reached : Nat) : Nat :=
  ((source.tokens[reached - 1]?).map Token.line).getD 1

/-- The fault to report, given one in the order of the tokens. -/
def worstFault (source : TokenSource) (reached : Nat) (message : Text) : Text :=
  match source.ending with
  | .complete => message
  | .fault fault => fault
  | .stop _ none => message
  | .stop _ (some bracket) =>
      if bracket.line < lastLine source reached then Cursor.unclosed bracket else message

/-- The fault of a reading that was halted. -/
def faultOf (source : TokenSource) (reading : Reading) : Halt → Text
  | .outOfTokens message => message
  | .misplaced message => worstFault source reading.reached message

/-- Reads tokens again to find the slip that explains why they are no literal. -/
def explain (source : TokenSource) (first : Reading) : Text :=
  match readOnce source true with
  | .error halt reading => faultOf source reading halt
  | .ok _ reading =>
      if (source.tokens[first.reached - 1]?).any fun token => token.kind = .indent then
        "unexpected indent"
      else worstFault source (max first.reached reading.reached) "invalid syntax"

/-- The tree of a literal, or what is wrong with it. -/
def read (text : Text) : Except Text Tree :=
  let tokens := tokens text
  let source : TokenSource := { tokens := tokens.list.toArray, ending := tokens.ending }
  match readOnce source false with
  | .ok (.fits (tree :: _) _) _ => .ok tree
  | .ok _ reading => .error (explain source reading)
  | .error halt reading => .error (faultOf source reading halt)

end ScriptFormat.Markup.Literal
