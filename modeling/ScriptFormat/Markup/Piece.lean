import ScriptFormat.Text.Basic

/-!
# Markup pieces

A markup text consists of single code points and of tags in brackets. The
backslashes right in front of a tag belong to it: an odd number of them makes it
literal. Escaping a text makes every tag in it literal.
-/

namespace ScriptFormat.Markup

def opening : CodePoint := 91

def closing : CodePoint := 93

def backslash : CodePoint := 92

inductive Piece where
  | point (point : CodePoint)
  | tag (slashes : Nat) (body : Text)
  deriving DecidableEq

/-- What a tag may begin with: a small letter or one of three signs. -/
def startsTag (point : CodePoint) : Bool :=
  (97 ≤ point.val && point.val ≤ 122) || point.val == 35 || point.val == 47 || point.val == 64

/-- The text up to the closing bracket, unless another bracket opens first. -/
def beforeClosing? : Text → Option Text
  | [] => none
  | point :: rest =>
      if point = closing then some []
      else if point = opening then none
      else (beforeClosing? rest).map (point :: ·)

/-- The body of a tag whose opening bracket was just read. -/
def body? : Text → Option Text
  | [] => none
  | first :: rest => if startsTag first then (beforeClosing? rest).map (first :: ·) else none

def backslashes (count : Nat) : Text := List.replicate count backslash

/-- Scans a text with `skip` code points of a tag to pass over and `slashes` backslashes read but
not yet given out. -/
def scanFrom : Nat → Nat → Text → List Piece
  | _, slashes, [] => (backslashes slashes).map .point
  | skip + 1, _, _ :: rest => scanFrom skip 0 rest
  | 0, slashes, point :: rest =>
      if point = backslash then scanFrom 0 (slashes + 1) rest
      else if point = opening then
        match body? rest with
        | some body => .tag slashes body :: scanFrom (body.length + 1) 0 rest
        | none => (backslashes slashes ++ [point]).map .point ++ scanFrom 0 0 rest
      else (backslashes slashes ++ [point]).map .point ++ scanFrom 0 0 rest

def scan (text : Text) : List Piece := scanFrom 0 0 text

namespace Piece

/-- The text of a piece, tags with their backslashes. -/
def text : Piece → Text
  | .point letter => [letter]
  | .tag slashes body => backslashes slashes ++ [opening] ++ body ++ [closing]

/-- Twice the backslashes and one more make any tag literal. -/
def escaped : Piece → Piece
  | .point letter => .point letter
  | .tag slashes body => .tag (2 * slashes + 1) body

end Piece

/-- A single backslash at the end is doubled, so that it escapes nothing put behind the text. -/
def guardEnd (text : Text) : Text :=
  if text.endsWith [backslash] && !text.endsWith [backslash, backslash] then text ++ [backslash]
  else text

def escape (text : Text) : Text :=
  guardEnd ((scan text).flatMap fun piece => piece.escaped.text)

end ScriptFormat.Markup
