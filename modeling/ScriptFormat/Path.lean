import ScriptFormat.Fault
import ScriptFormat.Text.Utf8

/-!
# Path names

A path name is kept without empty parts and without parts that say "here". Two
slashes in front are kept, any other number of them counts as one. Parts that
say "up" are kept as well: what they mean depends on links. A route is what the
system makes of a name that is given as it is.
-/

namespace ScriptFormat

structure Path where
  slashes : Nat
  parts : List Text
  deriving DecidableEq

/-- The names to follow from the root or from where one is; an empty one at the end stands for a
slash there, which asks for a directory. -/
structure Route where
  text : Text
  absolute : Bool
  names : List Text
  deriving DecidableEq

namespace Path

def slash : CodePoint := 47

def here : Text := "."

def up : Text := ".."

/-- The parts of a text between slashes, less those that lead nowhere. -/
def partsOf (text : Text) : List Text :=
  (Text.splitOn (· == slash) text).filter fun part => !part.isEmpty && part != here

def leading (text : Text) : Nat :=
  let count := (text.takeWhile (· == slash)).length
  if count = 2 then 2 else min count 1

def ofText (text : Text) : Path := { slashes := leading text, parts := partsOf text }

def text (path : Path) : Text :=
  if path.slashes = 0 ∧ path.parts.isEmpty then here
  else List.replicate path.slashes slash ++ Text.join [slash] path.parts

def isAbsolute (path : Path) : Bool := path.slashes != 0

/-- How a path shows in a listing of settings. -/
def described (path : Path) : Text := "PosixPath(" ++ Text.quoted path.text ++ ")"

/-- The surrogates that stand for a byte of a file name which is no UTF-8. -/
def isByteEscape (point : CodePoint) : Bool :=
  0xDC80 ≤ point.val && point.val ≤ 0xDCFF

/-- The bytes of a file name. -/
def nameBytes (name : Text) : Bytes :=
  name.flatMap fun point =>
    if isByteEscape point then [.ofNat (point.val - 0xDC00)] else Utf8.encodePoint point

def nameLength (name : Text) : Nat := (nameBytes name).length

def route (path : Path) : Route :=
  { text := path.text, absolute := path.isAbsolute, names := path.parts }

/-- Why the system is not even asked about a name: it has no bytes for it. -/
def refusal? (text : Text) : Option Fault :=
  match EncodeFault.find? "utf-8" "surrogates not allowed"
      (fun point => point.isSurrogate && !isByteEscape point) text with
  | some fault =>
      let run := (text.drop fault.position).takeWhile CodePoint.isSurrogate
      some (.unencodable { fault with width := run.length })
  | none => if text.contains 0 then some (.ofValue "embedded null byte") else none

end Path

namespace Route

def namesOf (text : Text) : List Text :=
  let names := (Text.splitOn (· == Path.slash) text).filter fun name => !name.isEmpty
  if !names.isEmpty && text.endsWith [Path.slash] then names ++ [[]] else names

def ofText (text : Text) : Route :=
  { text, absolute := text.startsWith [Path.slash], names := namesOf text }

def refusal? (route : Route) : Option Fault := Path.refusal? route.text

end Route

end ScriptFormat
