import ScriptFormat.Console
import ScriptFormat.Engine
import ScriptFormat.Log
import ScriptFormat.Stream.Input
import ScriptFormat.Stream.Output

/-!
# The world of a run

Everything that a run reads and changes: files, streams, the log, and the record
of the calls it made. A run gives a value or is stopped by a fault, and what it
changed before stays changed.
-/

namespace ScriptFormat

structure World where
  tree : FileTree
  input : InputStream
  output : OutputStream
  /-- Where help and version go, if it is not the output. -/
  screen : Option OutputStream := none
  errors : Text := []
  log : Log := {}
  /-- The time as log lines show it. -/
  clock : Text := []
  columns : Nat := 80
  console : Console := .rendering .empty
  engineCalls : List EngineCall := []
  toolkitCalls : List ToolkitCall := []

abbrev Run := EStateM Raised World

namespace World

/-- The error stream shows surrogates as escapes. -/
def complain (world : World) (text : Text) : World :=
  { world with errors := world.errors ++ Text.surrogatesEscaped text }

/-- Only lines for the error stream belong to a run. -/
def addLine (world : World) : LogLine → World
  | ⟨.errors, text⟩ => world.complain text
  | _ => world

def addLines (world : World) (lines : List LogLine) : World := lines.foldl addLine world

def record (world : World) (record : LogRecord) : World :=
  let (log, lines) := world.log.emit world.clock record
  { world with log }.addLines lines

def configureLog (world : World) (debug : Bool) : World :=
  let (log, lines) := world.log.configure world.clock debug .errors
  { world with log }.addLines lines

end World

namespace Run

/-- Stops a run with a fault that has no cause. -/
def stop {α : Type} (fault : Fault) : Run α := throw { fault }

def log (logger : Text) (level : LogLevel) (message : Text) : Run Unit :=
  modify fun world => world.record ⟨logger, level, message⟩

def debug (logger message : Text) : Run Unit := log logger .debug message

/-- Prints a console message, unless there is none for want of valid markup. -/
def complain (message : Console → Except Fault Text) : Run Unit := do
  match message (← get).console with
  | .ok text => modify fun world => world.complain text
  | .error fault => stop fault

/-- Writes on the stream for help and version. -/
def onScreen (text : Text) : Run Unit := fun world =>
  match world.screen with
  | some screen =>
      match screen.write text with
      | .ok () screen => .ok () { world with screen := some screen }
      | .error fault screen => .error { fault } { world with screen := some screen }
  | none =>
      match world.output.write text with
      | .ok () output => .ok () { world with output }
      | .error fault output => .error { fault } { world with output }

end Run

end ScriptFormat
