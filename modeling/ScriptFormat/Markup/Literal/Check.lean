import ScriptFormat.Markup.Literal.Reading
import ScriptFormat.Text.CodecFault

/-!
# Literals that have a value

A literal has a value if it is built of numbers, texts, constants and the
collections of them. Sets and the keys of dictionaries have to be values that
never change.
-/

namespace ScriptFormat.Markup.Literal

/-- A literal that does not follow the grammar, or that follows it and has no value. -/
inductive LiteralFault where
  | invalid (message : Text)
  | valueless (message : Text)
  deriving DecidableEq

/-- What matters of a value: whether it may change, as values of some types do. -/
inductive Stability where
  | stable
  | changing (type : Text)
  deriving DecidableEq

namespace Tree

def isImaginary (number : Text) : Bool := (number.getLast?).any (isIn [106, 74])

def isNumber : Tree → Bool
  | .leaf token => token.kind = .number
  | .node .signed [_, .leaf token] => token.kind = .number
  | .node .. => false

/-- A real number with an imaginary one added or taken away. -/
def isComplex : List Tree → Bool
  | [left, _, .leaf token] =>
      left.isNumber && token.kind = .number && isImaginary token.text &&
        (match left with
          | .leaf real => !isImaginary real.text
          | .node _ parts => !(parts.getLast?).any fun part => isImaginary part.shown)
  | _ => false

def isEmptySet : List Tree → Bool
  | [name, .node .call [_, _]] => name.isNamed ["set"]
  | _ => false

def noValue : Text := "malformed node or string"

def requireStable : Stability → Except Text Unit
  | .stable => .ok ()
  | .changing type => .error ("unhashable type: '" ++ type ++ "'")

/-- A collection is stable if all in it is. -/
def both : Stability → Stability → Stability
  | .stable, other => other
  | first, _ => first

mutual

/-- The stability of the value of a tree, or why it has no value. -/
def value : Tree → Except Text Stability
  | .leaf token => if token.kind = .name then .error noValue else .ok .stable
  | .node .texts parts =>
      if parts.any fun part => (textParts part.shown).filled then .error noValue else .ok .stable
  | .node .signed parts =>
      if isNumber (.node .signed parts) then .ok .stable else .error noValue
  | .node .sum parts => if isComplex parts then .ok .stable else .error noValue
  | .node .tuple parts => valueOfAll false parts
  | .node .set parts => do
      let _ ← valueOfAll true parts
      return .changing "set"
  | .node .dict parts => do
      valueOfPairs parts
      return .changing "dict"
  | .node .call parts => if isEmptySet parts then .ok (.changing "set") else .error noValue
  | .node _ _ => .error noValue

/-- The values in a collection, one by one; the members of a set must be stable. -/
def valueOfAll (members : Bool) : List Tree → Except Text Stability
  | [] => .ok .stable
  | part :: rest =>
      if part.isMark then valueOfAll members rest
      else do
        let first ← value part
        if members then requireStable first
        return both first (← valueOfAll members rest)

/-- The entries of a dictionary; their keys must be stable. -/
def valueOfPairs : List Tree → Except Text Unit
  | [] => .ok ()
  | .node .pair [key, _, content] :: rest => do
      let key ← value key
      let _ ← value content
      requireStable key
      valueOfPairs rest
  | .node .unpacking _ :: _ => .error (noValue ++ ": None")
  | .node .dict parts :: rest => do
      valueOfPairs parts
      valueOfPairs rest
  | _ :: rest => valueOfPairs rest

end

end Tree

/-- Line ends of every kind are made one. -/
def joinLineEnds : Text → Text
  | 13 :: 10 :: rest => lineEnd :: joinLineEnds rest
  | 13 :: rest => lineEnd :: joinLineEnds rest
  | point :: rest => point :: joinLineEnds rest
  | [] => []

/-- Why a literal cannot be used, if it cannot. -/
def fault? (text : Text) : Option LiteralFault :=
  let text := text.dropWhile fun point => point.val == 32 || point.val == 9
  match EncodeFault.find? "utf-8" "surrogates not allowed" CodePoint.isSurrogate text with
  | some fault => some (.valueless fault.message)
  | none =>
      if text.contains 0 then some (.valueless "source code string cannot contain null bytes")
      else match read (joinLineEnds text) with
        | .error message => some (.invalid message)
        | .ok tree =>
            match tree.value with
            | .error message => some (.valueless message)
            | .ok _ => none

end ScriptFormat.Markup.Literal
