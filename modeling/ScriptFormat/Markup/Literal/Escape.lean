import ScriptFormat.Markup.Literal.Token

/-!
# Escapes in texts

A text token has letters in front that say what kind of text it is, and escapes
in it that stand for code points. An escape that breaks off makes the literal
invalid. Positions count the code points of a text; one that is not ASCII counts
as the escape for it.
-/

namespace ScriptFormat.Markup.Literal

/-- A text token in parts: bytes are ASCII, raw texts have no escapes, filled ones hold others. -/
structure TextParts where
  bytes : Bool
  raw : Bool
  filled : Bool
  body : Text

def textParts (token : Text) : TextParts :=
  let letters : Text := token.takeWhile CodePoint.isAsciiLetter
  let quoted := token.drop letters.length
  let quotes := if isLong quoted && 6 ≤ quoted.length then 3 else 1
  let letters := letters.lower
  { bytes := letters.contains 98
    raw := letters.contains 114
    filled := letters.contains 102
    body := (quoted.drop quotes).take (quoted.length - 2 * quotes) }

/-- An escape that is no code point, over some positions. -/
structure EscapeFault where
  position : Nat
  width : Nat
  reason : Text

def EscapeFault.message (fault : EscapeFault) : Text :=
  "(unicode error) 'unicodeescape' codec can't decode bytes in position " ++
    Text.ofNat fault.position ++ "-" ++ Text.ofNat (fault.position + fault.width - 1) ++ ": " ++
    fault.reason

/-- How many positions a code point takes up. -/
def positionsOf (point : CodePoint) : Nat := if point.val < 128 then 1 else 10

/-- A backslash takes up more positions in front of a code point that is not ASCII. -/
def backslashPositions (next : CodePoint) : Nat := if next.val < 128 then 1 else 6

/-- Letters of escapes with the number of hexadecimal digits that they want. -/
def hexEscapes : List (CodePoint × Nat × Text) :=
  [(120, 2, "truncated \\xXX escape"), (117, 4, "truncated \\uXXXX escape"),
    (85, 8, "truncated \\UXXXXXXXX escape")]

def hexValue (digits : Text) : Nat :=
  digits.foldl (fun value digit =>
    value * 16 + (if digit.isAsciiDigit then digit.val - 48 else digit.val % 32 + 9)) 0

/-- What is wrong with an escape, given from behind its backslash. -/
def escapeFault? (position : Nat) (text : Text) : Option EscapeFault :=
  match text with
  | [] => none
  | letter :: rest =>
      match hexEscapes.lookup letter with
      | some (wanted, reason) =>
          let digits := (rest.take wanted).takeWhile isHexDigit
          if digits.length < wanted then some ⟨position, digits.length + 2, reason⟩
          else if 0x10FFFF < hexValue digits then
            some ⟨position, wanted + 2, "illegal Unicode character"⟩
          else none
      | none =>
          if letter.val = 78 then
            let malformed : Text := "malformed \\N character escape"
            match rest with
            | 123 :: name =>
                let width := ((name.takeWhile fun point => point.val != 125).map positionsOf).foldl
                  (· + ·) 3
                if !name.contains 125 || name.head? = some 125 then
                  some ⟨position, width, malformed⟩
                else none
            | _ => some ⟨position, 2, malformed⟩
          else none

/-- The first escape of a text that is wrong. -/
def findEscapeFault? (position : Nat) : Text → Option EscapeFault
  | [] => none
  | [_] => none
  | point :: next :: rest =>
      if point = backslash then
        match escapeFault? position (next :: rest) with
        | some fault => some fault
        | none => findEscapeFault? (position + backslashPositions next + positionsOf next) rest
      else findEscapeFault? (position + positionsOf point) (next :: rest)

/-- The position of the first escape in bytes that breaks off. -/
def findByteFault? (position : Nat) : Text → Option Nat
  | [] => none
  | [_] => none
  | point :: next :: rest =>
      if point = backslash then
        if next.val = 120 && ((rest.take 2).takeWhile isHexDigit).length < 2 then some position
        else findByteFault? (position + 2) rest
      else findByteFault? (position + 1) (next :: rest)

def TextParts.fault? (parts : TextParts) : Option Text :=
  if parts.bytes then
    if parts.body.any fun point => 128 ≤ point.val then
      some "bytes can only contain ASCII literal characters"
    else if parts.raw then none
    else (findByteFault? 0 parts.body).map fun position =>
      "(value error) invalid \\x escape at position " ++ Text.ofNat position
  else if parts.raw || parts.filled then none
  else (findEscapeFault? 0 parts.body).map EscapeFault.message

/-- What is wrong with texts that stand in a row: bytes go together with bytes only. -/
def textsFault? (first : TextParts) : List TextParts → Option Text
  | [] => none
  | next :: rest =>
      match next.fault? with
      | some message => some message
      | none =>
          if next.bytes != first.bytes then some "cannot mix bytes and nonbytes literals"
          else textsFault? first rest

end ScriptFormat.Markup.Literal
