import ScriptFormat.Text.Digit

/-!
# Decimal numerals

An integer is written with an optional sign and decimal digits of any script,
blanks around it, and single underscores between digits.
-/

namespace ScriptFormat.Numeral

/-- The most digits that are read. -/
def maxDigits : Nat := 4300

/-- What is said of a numeral with too many digits. -/
def tooLong (digits : Nat) : Text :=
  "Exceeds the limit (" ++ Text.ofNat maxDigits ++
    " digits) for integer string conversion: value has " ++ Text.ofNat digits ++
    " digits; use sys.set_int_max_str_digits() to increase the limit"

/-- What is said of a number that has too many digits to be written. -/
def unwritable : Text :=
  "Exceeds the limit (" ++ Text.ofNat maxDigits ++
    " digits) for integer string conversion; use sys.set_int_max_str_digits() to increase the limit"

/-- A number is written with no more digits than are read. -/
def written? (number : Int) : Option Text :=
  if (Text.ofNat number.natAbs).length ≤ maxDigits then some (Text.ofInt number) else none

def isBlank (point : CodePoint) : Bool := point.isAsciiBlank || point.isWideBlank

/-- The values of the digits, or nothing if a code point is no digit or an underscore is not
between two. -/
def digits? : Text → Option (List Nat)
  | [] => none
  | [only] => only.digit?.map ([·])
  | point :: next :: rest =>
      match point.digit? with
      | none => none
      | some value =>
          (if next = 95 then digits? rest else digits? (next :: rest)).map (value :: ·)

def valueOf (digits : List Nat) : Nat :=
  digits.foldl (fun value digit => value * 10 + digit) 0

def natural? (text : Text) : Option Nat :=
  match digits? text with
  | some digits => if digits.length ≤ maxDigits then some (valueOf digits) else none
  | none => none

def integer? (text : Text) : Option Int :=
  match Text.trimBy isBlank text with
  | [] => none
  | sign :: rest =>
      if sign = 43 then (natural? rest).map Int.ofNat
      else if sign = 45 then (natural? rest).map fun value => -Int.ofNat value
      else (natural? (sign :: rest)).map Int.ofNat

end ScriptFormat.Numeral
