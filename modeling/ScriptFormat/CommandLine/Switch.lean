import ScriptFormat.Settings
import ScriptFormat.Text.Numeral

/-!
# Switches of the command line

The switches, their spellings, and how one argument reads by itself: as a
switch, perhaps with a value attached, as an unknown switch, or as an operand. A
long spelling may be cut short as long as it fits one switch only.
-/

namespace ScriptFormat.CommandLine

inductive Switch where
  | help
  | version
  | stdout
  | check
  | useSpaces
  | indentSize
  | reorderCode
  | debug
  deriving DecidableEq

inductive Reading where
  | operand
  | known (switch : Switch) (spelling : Text) (attached : Option Text)
  | unknown
  deriving DecidableEq

def hyphen : CodePoint := 45

def equalsSign : CodePoint := 61

namespace Switch

def all : List Switch :=
  [help, version, stdout, check, useSpaces, indentSize, reorderCode, debug]

def spellings : Switch → List Text
  | .help => ["-h", "--help"]
  | .version => ["-V", "--version"]
  | .stdout => ["--stdout"]
  | .check => ["-c", "--check"]
  | .useSpaces => ["--use-spaces"]
  | .indentSize => ["--indent-size"]
  | .reorderCode => ["--reorder-code"]
  | .debug => ["--debug"]

/-- The name of the value that a switch takes. -/
def valueName? : Switch → Option Text
  | .indentSize => some "NUM"
  | _ => none

def takesValue (switch : Switch) : Bool := switch.valueName?.isSome

/-- Every spelling, in the order of the switches. -/
def spelled : List (Text × Switch) :=
  all.flatMap fun switch => switch.spellings.map fun spelling => (spelling, switch)

def named? (spelling : Text) : Option Switch := spelled.lookup spelling

/-- How messages name a switch. -/
def title (switch : Switch) : Text := Text.join "/" switch.spellings

end Switch

/-- The spelling before an equals sign, and what follows it. -/
def splitValue (argument : Text) : Text × Option Text :=
  match argument.cutAt? equalsSign with
  | some (spelling, value) => (spelling, some value)
  | none => (argument, none)

/-- The switches that a cut short spelling fits, or the one that a value is run together with. -/
def candidates (argument : Text) : List (Text × Switch × Option Text) :=
  match argument with
  | _ :: second :: rest =>
      if second = hyphen then
        let (beginning, value) := splitValue argument
        (Switch.spelled.filter fun entry => entry.1.startsWith beginning).map
          fun (spelling, switch) => (spelling, switch, value)
      else
        (Switch.spelled.filter fun entry => entry.1 == argument.take 2).map
          fun (spelling, switch) => (spelling, switch, some rest)
  | _ => []

/-- Digits, or digits around a point of which the ones in front may be missing. -/
def isNumber (text : Text) : Bool :=
  let isDigit point := (CodePoint.digit? point).isSome
  match text.cutAt? 46 with
  | none => !text.isEmpty && text.all isDigit
  | some (whole, fraction) => whole.all isDigit && !fraction.isEmpty && fraction.all isDigit

/-- A negative number may have a newline behind it. -/
def isNegativeNumber : Text → Bool
  | [] => false
  | sign :: rest =>
      sign == hyphen &&
        isNumber (if rest.getLast? = some 10 then rest.dropLast else rest)

def ambiguity (argument : Text) (spellings : List Text) : Text :=
  "ambiguous option: " ++ argument ++ " could match " ++ Text.join ", " spellings

/-- What an argument that is no spelling of a switch could be cut short from. -/
def readShortened (argument : Text) : Except Text Reading :=
  match candidates argument with
  | [(spelling, switch, value)] => .ok (.known switch spelling value)
  | [] =>
      if isNegativeNumber argument || argument.contains 32 then .ok .operand else .ok .unknown
  | several => .error (ambiguity argument (several.map (·.1)))

/-- Reads one argument in front of the separator; the error is the message on an ambiguous one. -/
def read (argument : Text) : Except Text Reading :=
  if !argument.startsWith [hyphen] then .ok .operand
  else match Switch.named? argument with
    | some switch => .ok (.known switch argument none)
    | none =>
        if argument.length = 1 then .ok .operand
        else match splitValue argument with
          | (spelling, some value) =>
              match Switch.named? spelling with
              | some switch => .ok (.known switch spelling (some value))
              | none => readShortened argument
          | (_, none) => readShortened argument

end ScriptFormat.CommandLine
