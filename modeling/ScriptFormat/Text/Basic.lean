/-!
# Texts as lists of code points

A text may hold lone surrogates, which no `Char` is, so it is a list of code
points. String literals stand for the texts that they spell.
-/

namespace ScriptFormat

structure CodePoint where
  val : Nat
  val_lt : val < 0x110000
  deriving DecidableEq

abbrev Text := List CodePoint

abbrev Bytes := List UInt8

namespace CodePoint

/-- Numbers past the last code point start again from zero. -/
def ofNat (number : Nat) : CodePoint := ⟨number % 0x110000, Nat.mod_lt _ (by decide)⟩

instance (number : Nat) : OfNat CodePoint number := ⟨ofNat number⟩

theorem ofNat_val (point : CodePoint) : ofNat point.val = point := by
  cases point
  simp [ofNat, Nat.mod_eq_of_lt, *]

theorem toNat_lt (letter : Char) : letter.toNat < 0x110000 := by
  rcases letter.valid with low | high
  · exact Nat.lt_trans low (by decide)
  · exact high.2

def ofChar (letter : Char) : CodePoint := ⟨letter.toNat, toNat_lt letter⟩

def isSurrogate (point : CodePoint) : Bool :=
  0xD800 ≤ point.val && point.val ≤ 0xDFFF

def isNewline (point : CodePoint) : Bool := point.val == 10

def isAsciiDigit (point : CodePoint) : Bool :=
  48 ≤ point.val && point.val ≤ 57

/-- The blank code points that are not ASCII. -/
def isWideBlank (point : CodePoint) : Bool :=
  point.val == 0x85 || point.val == 0xA0 || point.val == 0x1680 ||
    (0x2000 ≤ point.val && point.val ≤ 0x200A) ||
    point.val == 0x2028 || point.val == 0x2029 || point.val == 0x202F ||
    point.val == 0x205F || point.val == 0x3000

/-- Tab, the line and page breaks, and the space. -/
def isAsciiBlank (point : CodePoint) : Bool :=
  (9 ≤ point.val && point.val ≤ 13) || point.val == 32

/-- Blank code points, the four information separators among them. -/
def isBlank (point : CodePoint) : Bool :=
  isAsciiBlank point || (0x1C ≤ point.val && point.val ≤ 0x1F) || isWideBlank point

end CodePoint

namespace Text

def ofString (string : String) : Text := string.toList.map CodePoint.ofChar

instance : Coe String Text := ⟨ofString⟩

def ofNat (number : Nat) : Text := (Nat.toDigits 10 number).map CodePoint.ofChar

def ofInt : Int → Text
  | .ofNat number => ofNat number
  | .negSucc number => "-" ++ ofNat (number + 1)

/-- Hexadecimal digits in small letters, with zeros in front up to `width`. -/
def hex (width number : Nat) : Text :=
  let digits := (Nat.toDigits 16 number).map CodePoint.ofChar
  List.replicate (width - digits.length) 48 ++ digits

def capitalHex (width number : Nat) : Text :=
  (hex width number).map fun point =>
    if 97 ≤ point.val then CodePoint.ofNat (point.val - 32) else point

def spaces (count : Nat) : Text := List.replicate count 32

def join (separator : Text) : List Text → Text
  | [] => []
  | [only] => only
  | first :: second :: rest => first ++ separator ++ join separator (second :: rest)

/-- The pieces between the picked code points, one more of them than there are picks. -/
def splitOn (picks : CodePoint → Bool) : Text → List Text
  | [] => [[]]
  | point :: rest =>
      if picks point then [] :: splitOn picks rest
      else match splitOn picks rest with
        | [] => [[point]]
        | first :: others => (point :: first) :: others

def lines (text : Text) : List Text := splitOn CodePoint.isNewline text

/-- The words between runs of blanks. -/
def words (text : Text) : List Text :=
  (splitOn CodePoint.isBlank text).filter fun word => !word.isEmpty

def trimBy (drops : CodePoint → Bool) (text : Text) : Text :=
  ((text.dropWhile drops).reverse.dropWhile drops).reverse

def trim (text : Text) : Text := trimBy CodePoint.isBlank text

def startsWith (text beginning : Text) : Bool := beginning.isPrefixOf text

def endsWith (text ending : Text) : Bool := ending.isSuffixOf text

/-- Whether `part` stands somewhere in the text without a gap. -/
def includes (part : Text) : Text → Bool
  | [] => part.isEmpty
  | point :: rest => part.isPrefixOf (point :: rest) || includes part rest

/-- Cuts at the first code point equal to `mark`, which belongs to neither side. -/
def cutAt? (mark : CodePoint) : Text → Option (Text × Text)
  | [] => none
  | point :: rest =>
      if point = mark then some ([], rest)
      else (cutAt? mark rest).map fun (before, after) => (point :: before, after)

/-- Replaces from left to right, with `skip` code points of a replaced piece still to pass over. -/
def replaceFrom (old new : Text) : Nat → Text → Text
  | _, [] => []
  | skip + 1, _ :: rest => replaceFrom old new skip rest
  | 0, point :: rest =>
      if old.isPrefixOf (point :: rest) then new ++ replaceFrom old new (old.length - 1) rest
      else point :: replaceFrom old new 0 rest

/-- An empty piece stands before every code point and at the end. -/
def replace (old new text : Text) : Text :=
  if old.isEmpty then new ++ text.flatMap fun point => point :: new
  else replaceFrom old new 0 text

/-- How an escape names a code point: two, four or eight hexadecimal digits. -/
def escapeOf (point : CodePoint) : Text :=
  if point.val ≤ 0xFF then "\\x" ++ hex 2 point.val
  else if point.val ≤ 0xFFFF then "\\u" ++ hex 4 point.val
  else "\\U" ++ hex 8 point.val

/-- What a stream that cannot hold surrogates shows in their place. -/
def surrogatesEscaped (text : Text) : Text :=
  text.flatMap fun point => if point.isSurrogate then escapeOf point else [point]

end Text

end ScriptFormat
