import ScriptFormat.Value

/-!
# Message templates

A template is a text with marks. A mark begins with a percent sign and ends with
the letter that says how a value is written there; between them stand, if at all,
the name of the value, flags, the least width and the precision. Two percent
signs stand for one. Without values a template is the message itself. The letters
are those for texts, quoted forms, whole numbers and fixed decimal places.
-/

namespace ScriptFormat.Template

structure Mark where
  name : Option Text := none
  flags : Text := []
  width : Nat := 0
  precision : Option Nat := none
  letter : CodePoint

def percent : CodePoint := 37

def isFlag (point : CodePoint) : Bool := [35, 48, 45, 32, 43].contains point.val

/-- The sizes of integers in other notations, which change nothing. -/
def isSize (point : CodePoint) : Bool := [104, 108, 76].contains point.val

def amount (digits : Text) : Nat := digits.foldl (fun value digit => value * 10 + digit.val - 48) 0

/-- The name in brackets at the start of a text, and what comes behind it. -/
def takeName (text : Text) : Option Text × Text :=
  match text with
  | 40 :: rest =>
      match Text.cutAt? 41 rest with
      | some (name, behind) => (some name, behind)
      | none => (none, text)
  | _ => (none, text)

/-- The precision at the start of a text; a point alone says that it is zero. -/
def takePrecision (text : Text) : Option Nat × Text :=
  match text with
  | 46 :: rest =>
      (some (amount (rest.takeWhile CodePoint.isAsciiDigit)),
        rest.dropWhile CodePoint.isAsciiDigit)
  | _ => (none, text)

/-- Reads a mark behind its percent sign. -/
def readMark? (text : Text) : Option (Mark × Text) :=
  let (name, rest) := takeName text
  let flags := rest.takeWhile isFlag
  let rest := rest.dropWhile isFlag
  let width := amount (rest.takeWhile CodePoint.isAsciiDigit)
  let (precision, rest) := takePrecision (rest.dropWhile CodePoint.isAsciiDigit)
  match rest.dropWhile isSize with
  | [] => none
  | letter :: rest => some ({ name, flags, width, precision, letter }, rest)

/-- Digits, with zeros in front up to a width. -/
def padZeros (width : Nat) (digits : Text) : Text :=
  List.replicate (width - digits.length) 48 ++ digits

def digitsIn (base number : Nat) : Text := (Nat.toDigits base number).map CodePoint.ofChar

def capital (text : Text) : Text :=
  text.map fun point => if 97 ≤ point.val ∧ point.val ≤ 122 then .ofNat (point.val - 32) else point

/-- A number as a letter asks for it: what stands in front of the digits, and the digits. -/
def writeNumber? (letter : Char) (number : Nat) : Option (Text × Text) :=
  if letter = 'd' ∨ letter = 'i' ∨ letter = 'u' then some ([], digitsIn 10 number)
  else if letter = 'x' then some ("0x", digitsIn 16 number)
  else if letter = 'X' then some ("0X", capital (digitsIn 16 number))
  else if letter = 'o' then some ("0o", digitsIn 8 number)
  else none

/-- A number rounded to some places, where a half goes to the even neighbour. -/
def rounded (units : Nat) (places wanted : Nat) : Nat :=
  if places ≤ wanted then units * Value.unitsInOne (wanted - places)
  else
    let unit := Value.unitsInOne (places - wanted)
    let below := units / unit
    let rest := units % unit * 2
    if unit < rest ∨ (rest = unit ∧ below % 2 = 1) then below + 1 else below

def writeFixed (units : Int) (places wanted : Nat) : Text :=
  let digits := padZeros (wanted + 1) (Text.ofNat (rounded units.natAbs places wanted))
  digits.take (digits.length - wanted) ++
    (if wanted = 0 then [] else [46] ++ digits.drop (digits.length - wanted))

namespace Mark

def has (mark : Mark) (flag : Char) : Bool := mark.flags.contains (.ofChar flag)

def isLetter (mark : Mark) (letter : Char) : Bool := mark.letter == .ofChar letter

def pad (mark : Mark) (text : Text) : Text :=
  let fill := Text.spaces (mark.width - text.length)
  if mark.has '-' then text ++ fill else fill ++ text

/-- A sign, and digits that zeros may fill up to the width. -/
def padNumber (mark : Mark) (negative : Bool) (front digits : Text) : Text :=
  let sign : Text :=
    if negative then "-" else if mark.has '+' then "+" else if mark.has ' ' then " " else []
  let front := sign ++ (if mark.has '#' then front else [])
  if mark.has '0' && !mark.has '-' then front ++ padZeros (mark.width - front.length) digits
  else mark.pad (front ++ digits)

def writeText (mark : Mark) (text : Text) : Text :=
  mark.pad (match mark.precision with
    | some most => text.take most
    | none => text)

def isFixed (mark : Mark) : Bool := mark.isLetter 'f' || mark.isLetter 'F'

/-- A value where a whole number may be asked for. -/
def writeWhole (mark : Mark) (value : Value) : Text :=
  match value.number? with
  | none => mark.writeText value.shown
  | some number =>
      if mark.isFixed then
        mark.padNumber (number < 0) [] (writeFixed number 0 (mark.precision.getD 6))
      else match writeNumber? (Char.ofNat mark.letter.val) number.natAbs with
        | some (front, digits) =>
            mark.padNumber (number < 0) front (padZeros (mark.precision.getD 0) digits)
        | none => mark.writeText value.shown

/-- A value as the letter of a mark asks for it; a value that is not of the kind is written as a
text. -/
def write (mark : Mark) (value : Value) : Text :=
  if mark.isLetter 'r' then mark.writeText value.quoted
  else if mark.isLetter 'a' then mark.writeText (Text.asciiOnly value.quoted)
  else if mark.isLetter 'c' then
    mark.pad (match value.number? with
      | some number => [.ofNat number.toNat]
      | none => value.shown)
  else match value with
    | .decimal units places =>
        if mark.isFixed then
          mark.padNumber (units < 0) [] (writeFixed units places (mark.precision.getD 6))
        else mark.writeWhole value
    | value => mark.writeWhole value

end Mark

/-- The values of a template by their order and by their names. -/
structure Supply where
  inOrder : List Value
  named : List (Text × Value) := []

/-- A single record that is not empty gives its fields by name. -/
def Supply.ofList : List Value → Supply
  | [.record fields] => { inOrder := [.record fields], named := fields.toList }
  | values => { inOrder := values }

/-- Fills the marks, with at most `fuel` of them. -/
def fillFrom : Nat → Supply → Text → Text
  | 0, _, text => text
  | fuel + 1, supply, text =>
      match text.cutAt? percent with
      | none => text
      | some (before, rest) =>
          before ++ (match readMark? rest with
            | none => [percent] ++ rest
            | some (mark, rest) =>
                if mark.letter = percent then [percent] ++ fillFrom fuel supply rest
                else match mark.name, supply.inOrder with
                  | some name, _ =>
                      (supply.named.lookup name).elim [] mark.write ++ fillFrom fuel supply rest
                  | none, value :: others =>
                      mark.write value ++ fillFrom fuel { supply with inOrder := others } rest
                  | none, [] => [percent] ++ rest)

def fill (template : Text) (values : List Value) : Text :=
  if values.isEmpty then template else fillFrom template.length (.ofList values) template

end ScriptFormat.Template
