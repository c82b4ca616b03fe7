import ScriptFormat.Advice
import ScriptFormat.World

/-!
# Formatting a source

One call of the engine with every failure made a typed error, exactly once. A
result that is no text is refused.
-/

namespace ScriptFormat.Formatting

def logger : Text := "gdfmt.core.format_service"

def toolkitLogger : Text := "gdfmt.infra.gdtoolkit_engine"

def toolkitMissing (fault : ImportFault) : Raised :=
  .from .environment "gdtoolkit is not installed. Install with: pip install gdtoolkit"
    (.missing fault)

def reorderRefused : Raised :=
  { fault := .typed {
      kind := .unsupportedOption
      message := "gdtoolkit does not support declaration reordering."
      hint := some "Run again without --reorder-code." } }

/-- A parser's fault is shown as it is, trimmed; any other comes with advice. -/
def toolkitFailed (fault : Fault) : Raised :=
  if fault.isParser then .from .format fault.message.trim fault
  else if fault.isOrdinary then
    { fault := .typed {
        kind := .format
        message := "Unexpected gdtoolkit error: " ++ fault.message
        hint := some (Advice.suggestUpgrade "The input may have triggered a formatter bug.") }
      cause := some fault }
  else { fault }

def describedIndent (call : ToolkitCall) : Text :=
  match call.indent with
  | some size => size.text
  | none => "None"

/-- Calls the toolkit's formatter, if the toolkit is there and no reordering is asked for. -/
def callToolkit (toolkit : Toolkit) (source : Text) (config : FormatterConfig) :
    Run Value := do
  match toolkit.importFault? with
  | some (.moduleMissing message) => throw (toolkitMissing (.moduleMissing message))
  | some (.nameMissing message) => Run.stop (.missing (.nameMissing message))
  | none =>
      if config.reorderCode then throw reorderRefused
      let call := Toolkit.callFor source config
      Run.debug toolkitLogger ("gdtoolkit format_code(max_line_length=" ++
        Text.ofNat call.lineLength ++ ", spaces_for_indent=" ++ describedIndent call ++ ")")
      modify fun world => { world with toolkitCalls := world.toolkitCalls ++ [call] }
      match toolkit.formatCode call with
      | .ok result => return result
      | .error fault => throw (toolkitFailed fault)

/-- Runs an engine as it is, and records the call. -/
def callEngine (engine : Engine) (source : Text) (config : FormatterConfig) :
    Run Value := do
  modify fun world =>
    { world with engineCalls := world.engineCalls ++ [{ source, config }] }
  match engine with
  | .toolkit toolkit => callToolkit toolkit source config
  | .custom _ format =>
      let (result, tree) := format source config (← get).tree
      modify fun world => { world with tree }
      match result with
      | .ok result => return result
      | .error fault => Run.stop fault

/-- Typed errors, interrupts and exits pass; any other fault becomes a typed error. -/
def engineFailed (raised : Raised) : Raised :=
  if raised.fault.isTyped || !raised.fault.isOrdinary then raised
  else .from .format ("Unexpected formatting engine error: " ++ raised.fault.message) raised.fault

def notText (result : Value) : Raised :=
  { fault := .typed {
      kind := .format
      message := "Formatting engine returned " ++ result.type ++ " instead of text." } }

/-- Formats a source with one call of the engine. -/
def format (engine : Engine) (source : Text) (config : FormatterConfig) : Run Text := do
  Run.debug logger ("Formatting " ++ Text.ofNat source.length ++ " characters with " ++
    config.described ++ " via " ++ engine.name)
  let result ← tryCatch (callEngine engine source config) fun raised => throw (engineFailed raised)
  match result with
  | .text formatted =>
      Run.debug logger ("Engine returned " ++ Text.ofNat formatted.length ++ " characters (" ++
        (if isFormatted source formatted then "unchanged" else "changed") ++ ")")
      return formatted
  | result => throw (notText result)

end ScriptFormat.Formatting
