import ScriptFormat.Text.Lowercase
import ScriptFormat.Text.Numeral

/-!
# Colour names

A colour is named by a word, most of them with a number for the shade, or given
by its number in the palette or by its three components.
-/

namespace ScriptFormat.Markup

/-- Why a word is no colour. A component may also be no number, or too long a one. -/
inductive ColourFault where
  | unknown
  | emptyComponent
  | longComponent (digits : Nat)
  deriving DecidableEq

namespace ColourFault

def message : ColourFault → Text
  | .unknown => "not a valid color"
  | .emptyComponent => "invalid literal for int() with base 10: ''"
  | .longComponent digits => Numeral.tooLong digits

end ColourFault

namespace Colour

def basic : List Text :=
  ["black", "red", "green", "yellow", "blue", "magenta", "cyan", "white"]

/-- Stems of colour names without a word for the depth, with the shades that there are. -/
def plainShades : List (String × List String) :=
  [("navy_blue", [""]), ("blue", ["3", "1"]), ("dodger_blue", ["3", "2", "1"]),
    ("green", ["4", "3", "1"]), ("spring_green", ["4", "3", "2", "1"]), ("turquoise", ["4", "2"]),
    ("cyan", ["3", "2", "1"]), ("purple", ["4", "3", ""]), ("blue_violet", [""]),
    ("orange", ["4", "3", "1"]), ("slate_blue", ["3", "1"]), ("royal_blue", ["1"]),
    ("chartreuse", ["4", "3", "2", "1"]), ("steel_blue", ["", "3", "1"]),
    ("cornflower_blue", [""]), ("cadet_blue", [""]), ("sky_blue", ["3", "2", "1"]),
    ("sea_green", ["3", "2", "1"]), ("aquamarine", ["3", "1"]), ("plum", ["4", "3", "2", "1"]),
    ("yellow", ["4", "3", "2", "1"]), ("wheat", ["4", "1"]), ("red", ["3", "1"]),
    ("magenta", ["3", "2", "1"]), ("indian_red", ["", "1"]), ("hot_pink", ["3", "2", ""]),
    ("rosy_brown", [""]), ("gold", ["3", "1"]), ("navajo_white", ["3", "1"]),
    ("green_yellow", [""]), ("orchid", ["", "2", "1"]), ("pink", ["3", "1"]), ("violet", [""]),
    ("tan", [""]), ("misty_rose", ["3", "1"]), ("thistle", ["3", "1"]), ("khaki", ["3", "1"]),
    ("honeydew", ["2"]), ("orange_red", ["1"]), ("salmon", ["1"]), ("sandy_brown", [""]),
    ("cornsilk", ["1"])]

/-- Stems that say how dark, light or deep a colour is, with the shades that there are. -/
def gradedShades : List (String × List String) :=
  [("dark_blue", [""]), ("dark_green", [""]), ("deep_sky_blue", ["4", "3", "2", "1"]),
    ("dark_cyan", [""]), ("light_sea_green", [""]), ("dark_turquoise", [""]),
    ("medium_spring_green", [""]), ("dark_red", [""]), ("deep_pink", ["4", "3", "2", "1"]),
    ("medium_purple", ["4", "3", "", "2", "1"]), ("dark_sea_green", ["4", "", "3", "2", "1"]),
    ("pale_turquoise", ["4", "1"]), ("pale_green", ["3", "1"]), ("medium_turquoise", [""]),
    ("dark_slate_gray", ["2", "3", "1"]), ("dark_magenta", [""]), ("dark_violet", [""]),
    ("light_pink", ["4", "3", "1"]), ("light_slate_grey", [""]), ("light_slate_gray", [""]),
    ("light_slate_blue", [""]), ("dark_olive_green", ["3", "2", "1"]),
    ("light_sky_blue", ["3", "1"]), ("light_green", [""]), ("medium_violet_red", [""]),
    ("dark_orange", ["3", ""]), ("medium_orchid", ["3", "", "1"]), ("dark_goldenrod", [""]),
    ("light_salmon", ["3", "1"]), ("dark_khaki", [""]), ("light_steel_blue", ["3", "", "1"]),
    ("light_cyan", ["3", "1"]), ("light_goldenrod", ["3", "2", "1"]), ("light_yellow", ["3"]),
    ("light_coral", [""]), ("pale_violet_red", ["1"])]

def greyShades : List Text :=
  ["0", "37", "53", "63", "69", "84", "100", "3", "7", "11", "15", "19", "23", "27", "30", "35",
    "39", "42", "46", "50", "54", "58", "62", "66", "70", "74", "78", "82", "85", "89", "93"]

/-- What can stand in front of the shade of a grey. -/
def greyStems : List Text := ["grey", "gray"]

/-- Whether a word is a stem followed by one of its shades. -/
def isShadeOf (word stem : Text) (shades : List Text) : Bool :=
  word.startsWith stem && shades.contains (word.drop stem.length)

def isNamed (word : Text) : Bool :=
  word == "default" || basic.contains word || isShadeOf word "bright_" basic ||
    (plainShades ++ gradedShades).any (fun (stem, shades) =>
      isShadeOf word stem (shades.map Text.ofString)) ||
    greyStems.any fun stem => isShadeOf word stem greyShades

def isHexDigit (point : CodePoint) : Bool :=
  point.isAsciiDigit || (97 ≤ point.val && point.val ≤ 102)

def isHexadecimal (word : Text) : Bool :=
  word.length == 7 && word.startsWith "#" && (word.drop 1).all isHexDigit

/-- What stands between a name with its opening bracket and a closing bracket at the end. -/
def arguments? (name word : Text) : Option Text :=
  if word.startsWith name && word.endsWith ")" && name.length < word.length then
    some ((word.drop name.length).dropLast)
  else none

def isPaletteNumber (digits : Text) : Bool :=
  !digits.isEmpty && digits.length ≤ 3 && digits.all CodePoint.isAsciiDigit &&
    (Numeral.natural? digits).any (· ≤ 255)

def component (text : Text) : Except ColourFault Nat :=
  match Numeral.digits? text with
  | none => .error .emptyComponent
  | some digits =>
      if digits.length ≤ Numeral.maxDigits then .ok (Numeral.valueOf digits)
      else .error (.longComponent digits.length)

/-- Three numbers between commas; all of them are read before any is found too large. -/
def readComponents (text : Text) : Except ColourFault Unit :=
  if text.isEmpty || !text.all fun point => point.digit?.isSome || point == 44 then .error .unknown
  else match Text.splitOn (· == 44) text with
    | [red, green, blue] => do
        let components ← [red, green, blue].mapM component
        if components.all (· ≤ 255) then .ok () else .error .unknown
    | _ => .error .unknown

/-- Reads a word in small letters as a colour. -/
def read (word : Text) : Except ColourFault Unit :=
  if isNamed word || isHexadecimal word || (arguments? "color(" word).any isPaletteNumber then
    .ok ()
  else match arguments? "rgb(" word with
    | some components => readComponents components
    | none => .error .unknown

end Colour

end ScriptFormat.Markup
