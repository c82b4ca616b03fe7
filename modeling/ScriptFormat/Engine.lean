import ScriptFormat.FileTree.Edit
import ScriptFormat.Settings

/-!
# Formatting engines

An engine is any function from source and settings to a value, which should be a
text; it may fail and may change files on the way. The usual engine is a toolkit, of which the
formatter and the parser have to be imported before the formatter is called.
-/

namespace ScriptFormat

structure EngineCall where
  source : Text
  config : FormatterConfig
  deriving DecidableEq

/-- A call of the toolkit's formatter; without an indent it indents with tabs. -/
structure ToolkitCall where
  source : Text
  lineLength : Nat
  indent : Option IndentSize
  deriving DecidableEq

structure Toolkit where
  formatterImport : Option ImportFault := none
  parserImport : Option ImportFault := none
  formatCode : ToolkitCall → Except Fault Value

inductive Engine where
  | custom (name : Text)
      (format : Text → FormatterConfig → FileTree → Except Fault Value × FileTree)
  | toolkit (toolkit : Toolkit)

namespace Toolkit

def lineLength : Nat := 100

/-- The formatter is imported first. -/
def importFault? (toolkit : Toolkit) : Option ImportFault :=
  toolkit.formatterImport <|> toolkit.parserImport

/-- The indent size matters only where spaces are in use. -/
def callFor (source : Text) (config : FormatterConfig) : ToolkitCall :=
  { source, lineLength, indent := if config.useSpaces then some config.indentSize else none }

/-- A toolkit that is not there. -/
def absent : Toolkit :=
  { formatterImport := some (.moduleMissing "No module named 'gdtoolkit'")
    formatCode := fun call => .ok (.text call.source) }

end Toolkit

namespace Engine

def name : Engine → Text
  | .custom name _ => name
  | .toolkit _ => "GdtoolkitEngine"

/-- An engine that is a function of source and settings and leaves files alone. -/
def ofFunction (name : Text) (format : Text → FormatterConfig → Except Fault Value) :
    Engine :=
  .custom name fun source config tree => (format source config, tree)

end Engine

end ScriptFormat
