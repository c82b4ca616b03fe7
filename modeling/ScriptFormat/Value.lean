import ScriptFormat.Text.Quoted

/-!
# Values of any kind

An engine should give back a text but may give back anything, a run may exit with
any value, and any value may fill a message template. Such a value has a type
name and a text that it shows as; inside another value it shows in quotes where
it is a text.
-/

namespace ScriptFormat

mutual

/-- A decimal is a whole number of units, of which the number of decimal places tells the size. -/
inductive Value where
  | absent
  | flag (on : Bool)
  | number (value : Int)
  | decimal (units : Int) (places : Nat)
  | text (text : Text)
  | bytes (data : Bytes)
  | list (items : Values)
  | record (fields : Fields)
  deriving DecidableEq

inductive Values where
  | nil
  | cons (first : Value) (rest : Values)
  deriving DecidableEq

inductive Fields where
  | nil
  | cons (name : Text) (value : Value) (rest : Fields)
  deriving DecidableEq

end

instance : Inhabited Value := ⟨.absent⟩

def showFlag (flag : Bool) : Text := if flag then "True" else "False"

namespace Value

def type : Value → Text
  | .absent => "NoneType"
  | .flag _ => "bool"
  | .number _ => "int"
  | .decimal .. => "float"
  | .text _ => "str"
  | .bytes _ => "bytes"
  | .list _ => "list"
  | .record _ => "dict"

/-- Digits without zeros at the end, and how many of the places are left. -/
def trimPlaces : Text → Nat → Text × Nat
  | [], places => ([], places)
  | digit :: rest, places + 1 =>
      if digit = 48 then trimPlaces rest places else (digit :: rest, places + 1)
  | digits, 0 => (digits, 0)

/-- Digits with a point behind the first of them, and the power of ten. -/
def scientific (digits : Text) (power : Int) : Text :=
  let fraction := digits.drop 1
  let size := Text.ofNat power.natAbs
  let mark : Text := if power < 0 then "e-" else "e+"
  let point : Text := if fraction.isEmpty then [] else "."
  digits.take 1 ++ point ++ fraction ++ mark ++ (if size.length = 1 then "0" ++ size else size)

/-- Digits with a point among them, and at least one digit on either side of it. -/
def positional (digits : Text) (places : Nat) : Text :=
  let padded := List.replicate (places + 1 - digits.length) 48 ++ digits
  let fraction := padded.drop (padded.length - places)
  padded.take (padded.length - places) ++ "." ++ (if fraction.isEmpty then "0" else fraction)

/-- Very small and very large decimals show their power of ten. -/
def showDecimal (units : Int) (places : Nat) : Text :=
  let (reversed, places) := trimPlaces (Text.ofNat units.natAbs).reverse places
  let digits := reversed.reverse
  let power : Int := digits.length - 1 - places
  let sign : Text := if units < 0 then "-" else []
  sign ++
    (if power < -4 ∨ 16 ≤ power then scientific (Text.trimBy (· == 48) digits) power
    else positional digits places)

def quoteByte (quote : CodePoint) (byte : UInt8) : Text :=
  let point := CodePoint.ofNat byte.toNat
  if point.val < 128 then Text.quoteInner quote point else Text.escapeOf point

def showBytes (data : Bytes) : Text :=
  let quote := Text.quoteFor (data.map fun byte => CodePoint.ofNat byte.toNat)
  "b" ++ [quote] ++ data.flatMap (quoteByte quote) ++ [quote]

mutual

/-- How a value shows inside another one. -/
def quoted : Value → Text
  | .absent => "None"
  | .flag on => showFlag on
  | .number value => Text.ofInt value
  | .decimal units places => showDecimal units places
  | .text content => content.quoted
  | .bytes data => showBytes data
  | .list items => "[" ++ Text.join ", " (quotedItems items) ++ "]"
  | .record fields => "\x7b" ++ Text.join ", " (quotedFields fields) ++ "\x7d"

def quotedItems : Values → List Text
  | .nil => []
  | .cons first rest => quoted first :: quotedItems rest

def quotedFields : Fields → List Text
  | .nil => []
  | .cons name value rest => (name.quoted ++ ": " ++ quoted value) :: quotedFields rest

end

/-- How a value shows by itself. -/
def shown : Value → Text
  | .text content => content
  | value => value.quoted

/-- How many units make one. -/
def unitsInOne : (places : Nat) → Nat
  | 0 => 1
  | places + 1 => 10 * unitsInOne places

/-- A flag counts as one or zero where a number is wanted, and a decimal loses its fraction. -/
def number? : Value → Option Int
  | .flag on => some (if on then 1 else 0)
  | .number value => some value
  | .decimal units places => some (units.tdiv (unitsInOne places))
  | _ => none

end Value

namespace Values

def ofList : List Value → Values
  | [] => .nil
  | first :: rest => .cons first (ofList rest)

def toList : Values → List Value
  | .nil => []
  | .cons first rest => first :: toList rest

theorem toList_ofList (items : List Value) : (ofList items).toList = items := by
  induction items with
  | nil => rfl
  | cons first rest ih => simp [ofList, toList, ih]

end Values

namespace Fields

def ofList : List (Text × Value) → Fields
  | [] => .nil
  | (name, value) :: rest => .cons name value (ofList rest)

def toList : Fields → List (Text × Value)
  | .nil => []
  | .cons name value rest => (name, value) :: toList rest

theorem toList_ofList (fields : List (Text × Value)) : (ofList fields).toList = fields := by
  induction fields with
  | nil => rfl
  | cons field rest ih => simp [ofList, toList, ih]

end Fields

end ScriptFormat
