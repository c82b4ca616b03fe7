import ScriptFormat.CommandLine.Switch

/-!
# Reading the command line

Arguments are first read one by one and then taken in order. The separator makes
operands of all that follows. The first operand is the file; whatever else no
switch takes is left over and refused at the end.
-/

namespace ScriptFormat.CommandLine

/-- Why no invocation comes of a command line. -/
inductive Ending where
  | help
  | version
  | misuse (message : Text)
  deriving DecidableEq

inductive Item where
  | operand (text : Text)
  | separator
  | known (switch : Switch) (spelling : Text) (attached : Option Text)
  | unknown (text : Text)
  deriving DecidableEq

/-- What was taken so far. -/
structure Draft where
  invocation : Invocation := { input := none }
  operandTaken : Bool := false
  leftOver : List Text := []
  deriving DecidableEq

def separator : Text := "--"

def Reading.item (argument : Text) : Reading → Item
  | .operand => .operand argument
  | .known switch spelling attached => .known switch spelling attached
  | .unknown => .unknown argument

def items : List Text → Except Ending (List Item)
  | [] => .ok []
  | argument :: rest =>
      if argument = separator then .ok (.separator :: rest.map .operand)
      else match read argument with
        | .error message => .error (.misuse message)
        | .ok reading => (items rest).map (reading.item argument :: ·)

def misuseOf (switch : Switch) (message : Text) : Ending :=
  .misuse ("argument " ++ switch.title ++ ": " ++ message)

def ignoredValue (switch : Switch) (value : Text) : Ending :=
  misuseOf switch ("ignored explicit argument " ++ Text.quoted value)

/-- The size that a text asks for, or the message that refuses it. -/
def indentSize (text : Text) : Except Text Int :=
  match Numeral.integer? text with
  | none => .error ("invalid integer: " ++ Text.quoted text)
  | some size =>
      if size < 0 then .error ("must be 0 or greater, got " ++ Text.ofInt size) else .ok size

/-- Reads a size by itself. A size that is refused is written out again, which has a fault of its
own where there are too many digits. -/
def readSize (text : Text) : Except Fault Int :=
  match Numeral.integer? text with
  | none => .error (.ofArgument ("invalid integer: " ++ Text.quoted text))
  | some size =>
      if size < 0 then
        match Numeral.written? size with
        | none => .error (.ofValue Numeral.unwritable)
        | some shown => .error (.ofArgument ("must be 0 or greater, got " ++ shown))
      else .ok size

/-- A value that is the separator itself is dropped and leaves the size empty. -/
def indentOf (value : Text) : Except Ending IndentSize :=
  if value = separator then .ok .empty
  else match indentSize value with
    | .ok size => .ok (.count size)
    | .error message => .error (misuseOf .indentSize message)

namespace Draft

/-- Carries out a switch that takes no value. -/
def turnOn (draft : Draft) : Switch → Except Ending Draft
  | .help => .error .help
  | .version => .error .version
  | .stdout => .ok { draft with invocation := { draft.invocation with stdout := true } }
  | .check => .ok { draft with invocation := { draft.invocation with check := true } }
  | .useSpaces => .ok { draft with invocation := { draft.invocation with useSpaces := true } }
  | .reorderCode => .ok { draft with invocation := { draft.invocation with reorderCode := true } }
  | .debug => .ok { draft with invocation := { draft.invocation with debug := true } }
  | .indentSize => .ok draft

def setIndent (draft : Draft) (value : Text) : Except Ending Draft :=
  match indentOf value with
  | .ok size => .ok { draft with invocation := { draft.invocation with indentSize := size } }
  | .error ending => .error ending

def takeOperand (draft : Draft) (text : Text) : Draft :=
  { draft with
    invocation := { draft.invocation with input := some (Path.ofText text) }
    operandTaken := true }

def leave (draft : Draft) (text : Text) : Draft :=
  { draft with leftOver := draft.leftOver ++ [text] }

end Draft

/-- The switches in letters run together behind a first one. -/
def cluster (switch : Switch) : Text → Except Ending (List Switch)
  | [] => .error (ignoredValue switch [])
  | letter :: rest =>
      match Switch.named? [hyphen, letter] with
      | none => .error (ignoredValue switch (letter :: rest))
      | some next =>
          if rest.isEmpty then .ok [switch, next]
          else (cluster next rest).map (switch :: ·)

/-- Carries out a switch together with what is attached to it. -/
def takeAttached (draft : Draft) (switch : Switch) (spelling attached : Text) :
    Except Ending Draft :=
  if switch.takesValue then draft.setIndent attached
  else if spelling.startsWith separator then .error (ignoredValue switch attached)
  else match cluster switch attached with
    | .error ending => .error ending
    | .ok switches => switches.foldlM Draft.turnOn draft

def take : List Item → Draft → Except Ending Draft
  | [], draft => .ok draft
  | .operand text :: .separator :: rest, draft =>
      if draft.operandTaken then take rest ((draft.leave text).leave separator)
      else take rest (draft.takeOperand text)
  | .operand text :: rest, draft =>
      take rest (if draft.operandTaken then draft.leave text else draft.takeOperand text)
  | .separator :: rest, draft =>
      take rest (if draft.operandTaken then draft.leave separator else draft)
  | .unknown text :: rest, draft => take rest (draft.leave text)
  | .known switch spelling (some attached) :: rest, draft =>
      match takeAttached draft switch spelling attached with
      | .ok draft => take rest draft
      | .error ending => .error ending
  | .known .indentSize _ none :: .operand text :: rest, draft =>
      match draft.setIndent text with
      | .ok draft => take rest draft
      | .error ending => .error ending
  | .known .indentSize _ none :: _, _ =>
      .error (misuseOf .indentSize "expected one argument")
  | .known switch _ none :: rest, draft =>
      match draft.turnOn switch with
      | .ok draft => take rest draft
      | .error ending => .error ending

/-- Arguments that are left over are refused together. -/
def finish (draft : Draft) : Except Ending Invocation :=
  if draft.leftOver.isEmpty then .ok draft.invocation
  else .error (.misuse ("unrecognized arguments: " ++ Text.join " " draft.leftOver))

def parse (arguments : List Text) : Except Ending Invocation :=
  match items arguments with
  | .error ending => .error ending
  | .ok items =>
      match take items {} with
      | .error ending => .error ending
      | .ok draft => finish draft

end ScriptFormat.CommandLine
