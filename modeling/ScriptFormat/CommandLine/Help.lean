import ScriptFormat.CommandLine.Switch
import ScriptFormat.Text.Fill

/-!
# Usage and help texts

The texts that describe the command line, laid out for a terminal of a given
number of columns.
-/

namespace ScriptFormat.CommandLine

def program : Text := "gdfmt"

def versionNumber : Text := "0.1.0"

def versionText : Text := program ++ " " ++ versionNumber ++ "\n"

def description : Text :=
  "Format GDScript files with consistent style and indentation. " ++
    "By default, the formatter overwrites input files with the " ++
    "formatted code. Use --stdout to output to standard output instead."

def operandName : Text := "FILE"

def operandHelp : Text :=
  "Input GDScript file to format. If no file path is provided, " ++
    "the program reads from standard input and outputs to " ++
    "standard output."

namespace Switch

def helpText : Switch → Text
  | .help => "show this help message and exit"
  | .version => "show program's version number and exit"
  | .stdout =>
      "Output formatted code to stdout instead of overwriting the " ++
        "input file. This flag is ignored when reading from stdin " ++
        "(stdout is always used)."
  | .check =>
      "Check if the file is already formatted without making changes. " ++
        "Exits with code 0 if the file is already formatted and 1 if " ++
        "it's not formatted."
  | .useSpaces =>
      "Use spaces for indentation instead of tabs. The number of " ++
        "spaces is controlled by --indent-size."
  | .indentSize =>
      "Number of spaces to use for each indentation level when " ++
        "--use-spaces is enabled. Has no effect without the " ++
        "--use-spaces flag. (default: 4)"
  | .reorderCode =>
      "Reorder source-level declarations (signals, properties, " ++
        "methods, etc.) according to the official GDScript style " ++
        "guide. Applied after the main formatting pass."
  | .debug => "Print diagnostic logging to stderr."

def withValue (switch : Switch) (spelling : Text) : Text :=
  match switch.valueName? with
  | some name => spelling ++ " " ++ name
  | none => spelling

/-- A switch in the usage line: its first spelling, in brackets. -/
def usagePart (switch : Switch) : Text :=
  "[" ++ switch.withValue (switch.spellings.headD []) ++ "]"

/-- A switch in the list of switches: all its spellings. -/
def entryTitle (switch : Switch) : Text :=
  Text.join ", " (switch.spellings.map switch.withValue)

end Switch

namespace Layout

/-- The columns of a terminal that says nothing of use about itself. -/
def defaultColumns : Nat := 80

def columnsOf (claimed : Int) : Nat := if claimed ≤ 0 then defaultColumns else claimed.toNat

/-- A margin is left at the right end of the terminal. -/
def width (columns : Nat) : Int := Int.ofNat columns - 2

/-- Texts are never squeezed into fewer columns than this. -/
def minWidth : Nat := 11

def textWidth (columns margin : Nat) : Nat := max (width columns - margin).toNat minWidth

/-- Parts joined by spaces, on as many lines as they need behind an indent; `used` counts the
columns taken, less one. -/
def usageLines (limit indent : Int) : Int → List Text → List Text → List (List Text)
  | _, line, [] => if line.isEmpty then [] else [line]
  | used, line, part :: rest =>
      if limit < used + 1 + part.length ∧ !line.isEmpty then
        line :: usageLines limit indent (indent + part.length) [part] rest
      else usageLines limit indent (used + part.length + 1) (line ++ [part]) rest

def indented (indent : Nat) (line : List Text) : Text := Text.spaces indent ++ Text.join " " line

def linesOf (limit : Int) (indent : Nat) (parts : List Text) : List Text :=
  (usageLines limit indent (indent - 1) [] parts).map (indented indent)

end Layout

def usageHead : Text := "usage: "

def switchParts : List Text := Switch.all.map Switch.usagePart

def operandParts : List Text := ["[" ++ operandName ++ "]"]

/-- The switches behind the program name, then the operand on lines of its own. -/
def usageBeside (limit : Int) : Text :=
  let indent := usageHead.length + program.length + 1
  let first := Layout.usageLines limit indent (Int.ofNat usageHead.length - 1) []
    (program :: switchParts)
  let switches := match first.map (Text.join " ") with
    | [] => []
    | head :: rest => head :: rest.map (Text.spaces indent ++ ·)
  Text.join "\n" (switches ++ Layout.linesOf limit indent operandParts)

/-- The program name on a line of its own. -/
def usageBelow (limit : Int) : Text :=
  let indent := usageHead.length
  let together := Layout.linesOf limit indent (switchParts ++ operandParts)
  let lines :=
    if 1 < together.length then
      Layout.linesOf limit indent switchParts ++ Layout.linesOf limit indent operandParts
    else together
  Text.join "\n" (program :: lines)

/-- The usage text for so many columns: on one line if it fits there. -/
def usage (columns : Nat) : Text :=
  let limit := Layout.width columns
  let whole := Text.join " " (program :: switchParts ++ operandParts)
  usageHead ++
    (if Int.ofNat (usageHead.length + whole.length) ≤ limit then whole
    else if 4 * Int.ofNat (usageHead.length + program.length) ≤ 3 * limit then usageBeside limit
    else usageBelow limit) ++ "\n"

/-- Entries begin in this column. -/
def entryIndent : Nat := 2

/-- The column where the descriptions of entries begin. -/
def helpColumn (columns : Nat) : Nat :=
  let longest := ((operandName :: Switch.all.map Switch.entryTitle).map List.length).foldl max 0
  min (longest + 2 * entryIndent) (min 24 (max (Layout.width columns - 20).toNat 4))

/-- An entry with its description beside it, or below it if the title is too long. -/
def entry (columns : Nat) (title text : Text) : Text :=
  let column := helpColumn columns
  let lines := Fill.lines (Layout.textWidth columns column) text
  let below := fun (line : Text) => Text.spaces column ++ line ++ "\n"
  let room := Int.ofNat column - 2 * entryIndent
  if Int.ofNat title.length ≤ room then
    match lines with
    | [] => []
    | first :: rest =>
        Text.spaces entryIndent ++ title ++ Text.spaces (room.toNat - title.length) ++ "  " ++
          first ++ "\n" ++ rest.flatMap below
  else Text.spaces entryIndent ++ title ++ "\n" ++ lines.flatMap below

def help (columns : Nat) : Text :=
  usage columns ++ "\n" ++
    Fill.paragraph (Layout.textWidth columns 0) description ++ "\n\n" ++
    "positional arguments:\n" ++ entry columns operandName operandHelp ++ "\n" ++
    "options:\n" ++
    Switch.all.flatMap fun switch => entry columns switch.entryTitle switch.helpText

def usageError (columns : Nat) (message : Text) : Text :=
  usage columns ++ program ++ ": error: " ++ message ++ "\n"

end ScriptFormat.CommandLine
