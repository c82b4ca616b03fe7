import ScriptFormat.Text.CodePage
import ScriptFormat.Text.Lowercase
import ScriptFormat.Text.Utf8

/-!
# Encodings of a text layer

The encodings that the text side of an output stream may use. Some put a byte
order mark before the first text.
-/

namespace ScriptFormat

inductive ByteOrder where
  | little
  | big
  deriving DecidableEq

/-- Without an order of its own a wide encoding is little-endian, after a mark that says so. -/
inductive Encoding where
  | utf8 (marked : Bool)
  | utf16 (order : Option ByteOrder)
  | utf32 (order : Option ByteOrder)
  | ascii
  | latin1
  | codePage (page : CodePage)

/-- The low `count` bytes of a number. -/
def ByteOrder.bytes : ByteOrder → Nat → Nat → Bytes
  | _, 0, _ => []
  | .little, count + 1, number => .ofNat number :: bytes .little count (number / 256)
  | .big, count + 1, number => bytes .big count (number / 256) ++ [.ofNat number]

def ByteOrder.suffix : ByteOrder → Text
  | .little => "-le"
  | .big => "-be"

namespace Encoding

/-- One code unit, or the two of a pair for a code point past the first plane. -/
def units (point : CodePoint) : List Nat :=
  if point.val < 0x10000 then [point.val]
  else [0xD800 + (point.val - 0x10000) / 1024, 0xDC00 + (point.val - 0x10000) % 1024]

/-- One byte for each code point below `limit`, and no bytes for any other. -/
def encodeBelow (limit : Nat) (name reason : Text) (text : Text) : Except EncodeFault Bytes :=
  match EncodeFault.find? name reason (fun point => decide (limit ≤ point.val)) text with
  | some fault => .error fault
  | none => .ok (text.map fun point => .ofNat point.val)

/-- Surrogates are refused one at a time. -/
def encodeUnits (name : Text) (split : CodePoint → List Nat) (bytes : Nat → Bytes) (text : Text) :
    Except EncodeFault Bytes :=
  match EncodeFault.find? name "surrogates not allowed" CodePoint.isSurrogate text with
  | some fault => .error { fault with width := 1 }
  | none => .ok (text.flatMap fun point => (split point).flatMap bytes)

/-- The order that the mark at the start announces is part of the name from then on. -/
def encodeWide (name : Text) (width : Nat) (split : CodePoint → List Nat) (first : Bool)
    (order : Option ByteOrder) (text : Text) : Except EncodeFault Bytes :=
  let bytes := (order.getD .little).bytes width
  if first ∧ order = none then do
    let data ← encodeUnits name split bytes text
    return bytes 0xFEFF ++ data
  else encodeUnits (name ++ (order.getD .little).suffix) split bytes text

/-- The bytes of a text, with a mark in front if it is the `first` and the encoding has one. -/
def encode (first : Bool) : Encoding → Text → Except EncodeFault Bytes
  | .utf8 marked, text => do
      let data ← Utf8.encode text
      return if marked ∧ first then Utf8.encodePoint 0xFEFF ++ data else data
  | .utf16 order, text => encodeWide "utf-16" 2 units first order text
  | .utf32 order, text => encodeWide "utf-32" 4 (fun point => [point.val]) first order text
  | .ascii, text => encodeBelow 128 "ascii" "ordinal not in range(128)" text
  | .latin1, text => encodeBelow 256 "latin-1" "ordinal not in range(256)" text
  | .codePage page, text => page.encode text

def names : List (Encoding × List Text) :=
  [(.utf8 false, ["utf-8", "utf8", "u8"]),
    (.utf8 true, ["utf-8-sig"]),
    (.utf16 none, ["utf-16", "utf16", "u16"]),
    (.utf16 (some .little), ["utf-16-le", "utf-16le"]),
    (.utf16 (some .big), ["utf-16-be", "utf-16be"]),
    (.utf32 none, ["utf-32", "utf32", "u32"]),
    (.utf32 (some .little), ["utf-32-le", "utf-32le"]),
    (.utf32 (some .big), ["utf-32-be", "utf-32be"]),
    (.ascii, ["ascii", "us-ascii", "646"]),
    (.latin1, ["latin-1", "latin1", "latin", "l1", "iso-8859-1", "iso8859-1"]),
    (.codePage .windows1252, ["cp1252", "windows-1252", "1252"]),
    (.codePage .windows1250, ["cp1250", "windows-1250", "1250"]),
    (.codePage .latin2, ["latin2", "l2", "iso-8859-2", "iso8859-2"]),
    (.codePage .latin9, ["latin9", "l9", "iso-8859-15", "iso8859-15"]),
    (.codePage .ibm437, ["cp437", "ibm437", "437"])]

/-- Letter case is free in a name, and a mark, a hyphen and a space are all the same. -/
def named? (name : Text) : Option Encoding :=
  let plain := name.lower.map fun point => if point = 95 ∨ point = 32 then 45 else point
  (names.find? fun (_, names) => names.contains plain).map (·.1)

end Encoding

end ScriptFormat
