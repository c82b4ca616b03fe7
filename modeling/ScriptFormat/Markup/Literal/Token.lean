import ScriptFormat.Text.Lowercase
import ScriptFormat.Text.Name

/-!
# Tokens of literals

A literal is cut into names, numbers, texts and signs. Brackets have to match,
and line ends count only outside of them. What cannot be cut into tokens ends the
sequence of tokens with a fault.
-/

namespace ScriptFormat.Markup.Literal

inductive TokenKind where
  | name
  | keyword
  | number
  | text
  | sign
  | newline
  | indent
  | finish
  deriving DecidableEq

/-- A token with its first line and the number of brackets open behind it. -/
structure Token where
  kind : TokenKind
  text : Text
  line : Nat
  depth : Nat
  deriving DecidableEq

structure Bracket where
  point : CodePoint
  line : Nat
  deriving DecidableEq

/-- Why there are no more tokens. A stop counts only if someone asks for a token there, or if it
comes on a later line than the bracket that is open. -/
inductive Ending where
  | complete
  | fault (message : Text)
  | stop (message : Text) (unclosed : Option Bracket)
  deriving DecidableEq

structure Tokens where
  list : List Token
  ending : Ending

def keywords : List Text :=
  Text.words ("False None True and as assert async await break class continue def del elif " ++
    "else except finally for from global if import in is lambda nonlocal not or pass raise " ++
    "return try while with yield")

/-- Signs of more than one code point, the longest first. -/
def longSigns : List Text :=
  ["**=", "//=", ">>=", "<<=", "...", "**", "//", ">>", "<<", "<=", ">=", "==", "!=", "<>", "->",
    ":=", "+=", "-=", "*=", "/=", "%=", "&=", "|=", "^=", "@="]

def backslash : CodePoint := 92

def lineEnd : CodePoint := 10

def formFeed : CodePoint := 12

def isSpace (point : CodePoint) : Bool :=
  point.val == 32 || point.val == 9 || point = formFeed

/-! ## Numbers -/

def isHexDigit (point : CodePoint) : Bool :=
  point.isAsciiDigit || (97 ≤ point.val && point.val ≤ 102) || (65 ≤ point.val && point.val ≤ 70)

def isOctalDigit (point : CodePoint) : Bool := 48 ≤ point.val && point.val ≤ 55

def isBinaryDigit (point : CodePoint) : Bool := 48 ≤ point.val && point.val ≤ 49

def underscore : CodePoint := 95

/-- Passes over digits with single underscores between them; the error is what stands where a digit
has to be. -/
def skipDigits (isDigit : CodePoint → Bool) (wanted : Bool) : Text → Except Text Text
  | [] => if wanted then .error [] else .ok []
  | point :: rest =>
      if isDigit point then skipDigits isDigit false rest
      else if wanted then .error (point :: rest)
      else if point = underscore then skipDigits isDigit true rest
      else .ok (point :: rest)

def invalidNumber (kind : Text) : Text := "invalid " ++ kind ++ " literal"

/-- Words that may follow a number without a space. -/
def followers : List Text := ["and", "else", "for", "or", "not"]

/-- Beginnings that may follow a number without a space, whatever the word. -/
def followerBeginnings : List Text := ["if", "in", "is"]

def mayFollowNumber (rest : Text) : Bool :=
  followers.contains (rest.takeWhile CodePoint.mayBeInName) ||
    followerBeginnings.any rest.startsWith

/-- What may not follow a number makes it invalid. -/
def endNumber (kind rest : Text) : Except Text Text :=
  match rest with
  | point :: _ =>
      if point.val < 128 && point.mayBeInName && !mayFollowNumber rest then
        .error (invalidNumber kind)
      else .ok rest
  | [] => .ok rest

def decimalTail (rest : Text) : Except Text Text :=
  (skipDigits CodePoint.isAsciiDigit false rest).mapError fun _ => invalidNumber "decimal"

def isIn (letters : List Nat) (point : CodePoint) : Bool := letters.contains point.val

/-- The end of a number behind its fraction or its exponent. -/
def imaginaryTail (rest : Text) : Except Text Text :=
  match rest with
  | letter :: behind =>
      if isIn [106, 74] letter then endNumber "imaginary" behind else endNumber "decimal" rest
  | [] => .ok rest

/-- The exponent of a number, if there is one. -/
def exponentTail (rest : Text) : Except Text Text :=
  match rest with
  | letter :: behind =>
      if isIn [101, 69] letter then
        match behind with
        | [] => .error (invalidNumber "decimal")
        | sign :: digits =>
            if isIn [43, 45] sign then
              if (digits.head?).any CodePoint.isAsciiDigit then decimalTail digits >>= imaginaryTail
              else .error (invalidNumber "decimal")
            else if sign.isAsciiDigit then decimalTail behind >>= imaginaryTail
            else endNumber "decimal" rest
      else imaginaryTail rest
  | [] => .ok rest

/-- What follows the point of a number. -/
def fractionTail (rest : Text) : Except Text Text :=
  if (rest.head?).any CodePoint.isAsciiDigit then decimalTail rest >>= exponentTail
  else exponentTail rest

/-- What follows the first digits of a number. -/
def wholeTail (rest : Text) : Except Text Text :=
  match rest with
  | 46 :: rest => fractionTail rest
  | _ => exponentTail rest

/-- The digits behind a prefix such as that of hexadecimal numbers. -/
def prefixedTail (kind : Text) (isDigit : CodePoint → Bool) (rest : Text) : Except Text Text :=
  let wrongDigit (rest : Text) : Option Text :=
    match rest with
    | point :: _ =>
        if point.isAsciiDigit then
          some ("invalid digit '" ++ [point] ++ "' in " ++ kind ++ " literal")
        else none
    | [] => none
  let digits := if rest.head? = some underscore then rest.drop 1 else rest
  match skipDigits isDigit true digits with
  | .error rest => .error ((wrongDigit rest).getD (invalidNumber kind))
  | .ok rest =>
      match wrongDigit rest with
      | some message => .error message
      | none => endNumber kind rest

/-- Passes over zeros with single underscores between them. -/
def skipZeros : Text → Except Text Text
  | 48 :: rest => skipZeros rest
  | 95 :: 48 :: rest => skipZeros rest
  | 95 :: rest =>
      if (rest.head?).any CodePoint.isAsciiDigit then .ok rest
      else .error (invalidNumber "decimal")
  | rest => .ok rest

def leadingZeros : Text :=
  "leading zeros in decimal integer literals are not permitted; use an 0o prefix for octal integers"

/-- What follows a zero in front. Only numbers that are not whole may go on with other digits. -/
def zeroTail (rest : Text) : Except Text Text := do
  match rest with
  | letter :: behind =>
      if isIn [120, 88] letter then prefixedTail "hexadecimal" isHexDigit behind
      else if isIn [111, 79] letter then prefixedTail "octal" isOctalDigit behind
      else if isIn [98, 66] letter then prefixedTail "binary" isBinaryDigit behind
      else
        let zeros ← skipZeros rest
        let digits ←
          if (zeros.head?).any CodePoint.isAsciiDigit then decimalTail zeros else .ok zeros
        if digits.length < zeros.length && !(digits.head?).any (isIn [46, 101, 69, 106, 74]) then
          throw leadingZeros
        else wholeTail digits
  | [] => .ok rest

/-- What is left behind a number that begins with a digit or with a point. -/
def numberTail (text : Text) : Except Text Text :=
  match text with
  | 48 :: rest => zeroTail rest
  | 46 :: rest => fractionTail rest
  | text => decimalTail text >>= wholeTail

/-! ## Texts -/

/-- What is left behind the closing quotes, or else what is left where the text breaks off; `seen`
quotes stand in a row right in front. -/
def textTail (quote : CodePoint) (long : Bool) : Nat → Text → Except Text Text
  | _, [] => .error []
  | seen, point :: rest =>
      if point = lineEnd && !long then .error (point :: rest)
      else if point = quote then
        if seen = 2 || !long then .ok rest else textTail quote long (seen + 1) rest
      else if point = backslash then
        match rest with
        | [] => .error []
        | _ :: rest => textTail quote long 0 rest
      else textTail quote long 0 rest

def isQuote (point : CodePoint) : Bool := point.val == 39 || point.val == 34

/-- The letters in front of a text that starts here, if one does. -/
def textPrefix? (text : Text) : Option Text :=
  let letters : Text := text.takeWhile CodePoint.isAsciiLetter
  let known : List Text := ["", "b", "r", "u", "f", "br", "rb", "fr", "rf"]
  if known.contains letters.lower && ((text.drop letters.length).head?).any isQuote then
    some letters
  else none

/-- What is left behind a text, given at its first quote. -/
def quotedTail (text : Text) : Except Text Text :=
  match text with
  | quote :: second :: rest =>
      if second != quote then textTail quote false 0 (second :: rest)
      else if rest.head? = some quote then textTail quote true 0 (rest.drop 1)
      else .ok rest
  | _ => .error []

def isLong (text : Text) : Bool :=
  match text with
  | first :: second :: third :: _ => second = first && third = first
  | _ => false

/-! ## The sequence of tokens -/

/-- Where the cutting has come to. -/
structure Cursor where
  rest : Text
  line : Nat := 1
  brackets : List Bracket := []
  fresh : Bool := true

namespace Tokens

def push (tokens : Tokens) (token : Token) : Tokens :=
  { tokens with list := token :: tokens.list }

def broken (message : Text) : Tokens := { list := [], ending := .fault message }

end Tokens

def linesIn (text : Text) : Nat := text.countP CodePoint.isNewline

namespace Cursor

/-- The cursor behind the code points that `rest` is without. -/
def moveTo (cursor : Cursor) (rest : Text) : Cursor :=
  { cursor with
    rest
    line := cursor.line + linesIn (cursor.rest.take (cursor.rest.length - rest.length)) }

/-- What was passed over up to `rest`, as a token. -/
def token (cursor : Cursor) (kind : TokenKind) (rest : Text) : Token :=
  { kind
    text := cursor.rest.take (cursor.rest.length - rest.length)
    line := cursor.line
    depth := cursor.brackets.length }

def unclosed (bracket : Bracket) : Text := "'" ++ [bracket.point] ++ "' was never closed"

/-- The end of the literal, which may come too early. -/
def finish (cursor : Cursor) : Tokens :=
  match cursor.brackets with
  | [] => { list := [cursor.token .finish cursor.rest], ending := .complete }
  | bracket :: _ => { list := [], ending := .stop (unclosed bracket) (some bracket) }

/-- A backslash that is not at the end of a line. -/
def stray (cursor : Cursor) : Tokens :=
  { list := []
    ending := .stop "unexpected character after line continuation character"
      cursor.brackets.head? }

def brokenText (cursor : Cursor) (start left : Text) : Tokens :=
  let line := (cursor.moveTo left).line
  let kind : Text := if isLong start then "triple-quoted string" else "string"
  .broken ("unterminated " ++ kind ++ " literal (detected at line " ++ Text.ofNat line ++ ")")

def invalidPoint (point : CodePoint) : Text :=
  if point.isPrintable then
    "invalid character '" ++ [point] ++ "' (U+" ++ Text.capitalHex 4 point.val ++ ")"
  else "invalid non-printable character U+" ++ Text.capitalHex 4 point.val

/-- The first code point of a name that does not belong there. -/
def wrongInName? (name : Text) : Option CodePoint :=
  match name with
  | [] => none
  | first :: rest =>
      if first.canStartName then rest.find? fun point => !point.isInName else some first

def openings : List (CodePoint × CodePoint) := [(40, 41), (91, 93), (123, 125)]

def maxDepth : Nat := 200

/-- The brackets after one more closing bracket. -/
def closeBracket (cursor : Cursor) (point : CodePoint) : Except Text (List Bracket) :=
  match cursor.brackets with
  | [] => .error ("unmatched '" ++ [point] ++ "'")
  | bracket :: outer =>
      if openings.lookup bracket.point = some point then .ok outer
      else
        let line : Text :=
          if bracket.line = cursor.line then [] else " on line " ++ Text.ofNat bracket.line
        .error ("closing parenthesis '" ++ [point] ++ "' does not match opening parenthesis '" ++
          [bracket.point] ++ "'" ++ line)

/-- The brackets after a sign. -/
def bracketsAfter (cursor : Cursor) (point : CodePoint) : Except Text (List Bracket) :=
  if openings.any fun (opening, _) => opening = point then
    if maxDepth ≤ cursor.brackets.length then .error "too many nested parentheses"
    else .ok ({ point, line := cursor.line } :: cursor.brackets)
  else if openings.any fun (_, closing) => closing = point then cursor.closeBracket point
  else if point.isPrintable then .ok cursor.brackets
  else .error (invalidPoint point)

def signLength (text : Text) : Nat :=
  match longSigns.find? text.startsWith with
  | some sign => sign.length
  | none => 1

/-- Whether a number begins here. -/
def startsNumber (text : Text) : Bool :=
  match text with
  | 46 :: digit :: _ => digit.isAsciiDigit
  | digit :: _ => digit.isAsciiDigit
  | [] => false

/-- The token that begins at a code point which is no blank, and the cursor behind it. -/
def readToken (cursor : Cursor) (point : CodePoint) : Except Tokens (Token × Cursor) :=
  let text := cursor.rest
  match textPrefix? text with
  | some letters =>
      let start := text.drop letters.length
      match quotedTail start with
      | .ok rest => .ok (cursor.token .text rest, cursor.moveTo rest)
      | .error left => .error (cursor.brokenText start left)
  | none =>
      if startsNumber text then
        match numberTail text with
        | .ok rest => .ok (cursor.token .number rest, cursor.moveTo rest)
        | .error message => .error (.broken message)
      else if point.mayBeInName then
        let name := text.takeWhile CodePoint.mayBeInName
        let rest := text.drop name.length
        match wrongInName? name with
        | some wrong => .error (.broken (invalidPoint wrong))
        | none =>
            let kind := if keywords.contains name then TokenKind.keyword else .name
            .ok (cursor.token kind rest, cursor.moveTo rest)
      else
        let rest := text.drop (signLength text)
        match cursor.bracketsAfter point with
        | .ok brackets =>
            let cursor := { cursor with brackets }
            .ok (cursor.token .sign rest, cursor.moveTo rest)
        | .error message => .error (.broken message)

/-- Passes over the blanks in front of a line and tells whether they indent it. -/
def startLine (cursor : Cursor) : Bool × Cursor :=
  let blanks := cursor.rest.takeWhile isSpace
  let indented := !((blanks.reverse.takeWhile fun point => point != formFeed).isEmpty)
  let rest := cursor.rest.drop blanks.length
  let matters := match rest with
    | [] => false
    | point :: _ => !(point = lineEnd || point.val == 35) && cursor.brackets.isEmpty
  (indented && matters, { cursor with rest })

/-- Cuts what is left into tokens, with at most `fuel` steps. -/
def tokens : Nat → Cursor → Tokens
  | 0, cursor => cursor.finish
  | fuel + 1, cursor =>
      let (indented, started) := if cursor.fresh then cursor.startLine else (false, cursor)
      if indented then
        (tokens fuel { started with fresh := false }).push (started.token .indent started.rest)
      else match started.rest with
        | [] => started.finish
        | point :: rest =>
            if isSpace point then tokens fuel { started with rest }
            else if point.val = 35 then
              tokens fuel { started with rest := rest.dropWhile fun point => point != lineEnd }
            else if point = lineEnd then
              let next := { started with rest, line := started.line + 1, fresh := true }
              if started.fresh || !started.brackets.isEmpty then tokens fuel next
              else (tokens fuel next).push (started.token .newline rest)
            else if point = backslash then
              match rest with
              | 10 :: next :: rest =>
                  tokens fuel { started with
                    rest := next :: rest, line := started.line + 1, fresh := false }
              | _ => started.stray
            else match started.readToken point with
              | .ok (token, next) => (tokens fuel { next with fresh := false }).push token
              | .error broken => broken

end Cursor

/-- The tokens of a literal. -/
def tokens (text : Text) : Tokens := Cursor.tokens (2 * text.length + 2) { rest := text }

end ScriptFormat.Markup.Literal
