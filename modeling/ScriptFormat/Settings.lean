import ScriptFormat.Path

/-!
# Settings of a run

What the command line asks for, the part of it that the formatting engine is
told, and the one destination of the result.
-/

namespace ScriptFormat

/-- An indent size as it was given; an option value of nothing but the separator leaves it empty. -/
inductive IndentSize where
  | count (value : Int)
  | empty
  deriving DecidableEq

structure FormatterConfig where
  indentSize : IndentSize := .count 4
  useSpaces : Bool := false
  reorderCode : Bool := false
  deriving DecidableEq

structure Invocation where
  input : Option Path
  stdout : Bool := false
  check : Bool := false
  useSpaces : Bool := false
  indentSize : IndentSize := .count 4
  reorderCode : Bool := false
  debug : Bool := false
  deriving DecidableEq

/-- Parsed arguments, of which any may be missing; an input may also be missing by choice. -/
structure Arguments where
  input : Option (Option Path)
  stdout : Option Bool
  check : Option Bool
  useSpaces : Option Bool
  indentSize : Option IndentSize
  reorderCode : Option Bool
  debug : Option Bool

inductive OutputMode where
  | check
  | overwrite
  | stdout
  deriving DecidableEq

namespace IndentSize

def text : IndentSize → Text
  | .count value => Text.ofInt value
  | .empty => "[]"

end IndentSize

namespace FormatterConfig

def fields : List Text := ["indent_size", "use_spaces", "reorder_code"]

/-- How settings show in a log line. -/
def described (config : FormatterConfig) : Text :=
  "FormatterConfig(indent_size=" ++ config.indentSize.text ++
    ", use_spaces=" ++ showFlag config.useSpaces ++
    ", reorder_code=" ++ showFlag config.reorderCode ++ ")"

end FormatterConfig

namespace Invocation

def fields : List Text :=
  ["input_path", "stdout", "check", "use_spaces", "indent_size", "reorder_code", "debug"]

def hasFile (invocation : Invocation) : Bool := invocation.input.isSome

def describedInput : Option Path → Text
  | some path => path.described
  | none => "None"

/-- How an invocation shows in a log line. -/
def described (invocation : Invocation) : Text :=
  "Invocation(input_path=" ++ describedInput invocation.input ++
    ", stdout=" ++ showFlag invocation.stdout ++
    ", check=" ++ showFlag invocation.check ++
    ", use_spaces=" ++ showFlag invocation.useSpaces ++
    ", indent_size=" ++ invocation.indentSize.text ++
    ", reorder_code=" ++ showFlag invocation.reorderCode ++
    ", debug=" ++ showFlag invocation.debug ++ ")"

/-- The settings for the engine; the indent size is passed on whether spaces are in use or not. -/
def config (invocation : Invocation) : FormatterConfig :=
  { indentSize := invocation.indentSize
    useSpaces := invocation.useSpaces
    reorderCode := invocation.reorderCode }

end Invocation

namespace Arguments

def present {α : Type} (name : Text) : Option α → Except Fault α
  | some value => .ok value
  | none => .error (.ofAttribute ("'Namespace' object has no attribute " ++ Text.quoted name))

/-- The invocation that arguments ask for; the first one missing is the fault. -/
def invocation (arguments : Arguments) : Except Fault Invocation := do
  let input ← present "input" arguments.input
  let stdout ← present "stdout" arguments.stdout
  let check ← present "check" arguments.check
  let useSpaces ← present "use_spaces" arguments.useSpaces
  let indentSize ← present "indent_size" arguments.indentSize
  let reorderCode ← present "reorder_code" arguments.reorderCode
  let debug ← present "debug" arguments.debug
  return { input, stdout, check, useSpaces, indentSize, reorderCode, debug }

/-- All arguments of an invocation. -/
def ofInvocation (invocation : Invocation) : Arguments :=
  { input := some invocation.input
    stdout := some invocation.stdout
    check := some invocation.check
    useSpaces := some invocation.useSpaces
    indentSize := some invocation.indentSize
    reorderCode := some invocation.reorderCode
    debug := some invocation.debug }

theorem invocation_ofInvocation (invocation : Invocation) :
    (ofInvocation invocation).invocation = .ok invocation := rfl

end Arguments

/-- Settings are values, so no field of theirs can be assigned, and they take no others. -/
def assignmentFault (fields : List Text) (field : Text) : Fault :=
  if fields.contains field then
    .foreign .other "FrozenInstanceError" ("cannot assign to field " ++ Text.quoted field)
  else
    .foreign .other "TypeError" "super(type, obj): obj must be an instance or subtype of type"

namespace OutputMode

/-- Checking comes before everything; a file is overwritten unless printing is asked for. -/
def select (hasFile stdout check : Bool) : OutputMode :=
  if check then .check else if hasFile && !stdout then .overwrite else .stdout

def name : OutputMode → Text
  | .check => "check"
  | .overwrite => "overwrite"
  | .stdout => "stdout"

def named? (name : Text) : Option OutputMode :=
  [check, overwrite, stdout].find? fun mode => mode.name == name

/-- A name that is no mode is a fault. -/
def ofName (name : Text) : Except Fault OutputMode :=
  match named? name with
  | some mode => .ok mode
  | none => .error (.ofValue (Text.quoted name ++ " is not a valid OutputMode"))

end OutputMode

def Invocation.mode (invocation : Invocation) : OutputMode :=
  .select invocation.hasFile invocation.stdout invocation.check

/-- Whether a formatted text is the source itself. -/
def isFormatted (source formatted : Text) : Bool := source == formatted

end ScriptFormat
