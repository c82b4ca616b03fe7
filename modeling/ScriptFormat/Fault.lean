import ScriptFormat.Text.CodecFault
import ScriptFormat.Value

/-!
# Faults

Everything that can stop a run: the errors that the program itself reports,
codec and system faults, missing packages, faults of other origin, an interrupt
and an early exit. Each has the name and the message that reports show.
-/

namespace ScriptFormat

inductive ErrorKind where
  | general
  | sourceRead
  | format
  | unsupportedOption
  | outputWrite
  | environment
  deriving DecidableEq

/-- An error worded for the user, with advice where there is some. -/
structure TypedError where
  kind : ErrorKind
  message : Text
  hint : Option Text := none
  deriving DecidableEq

/-- Why a name cannot be taken from a package. -/
inductive ImportFault where
  | moduleMissing (message : Text)
  | nameMissing (message : Text)
  deriving DecidableEq

/-- What handlers tell apart among faults of other origin; a signal is no ordinary fault. -/
inductive Family where
  | system
  | value
  | parser
  | signal
  | other
  deriving DecidableEq

inductive Fault where
  | typed (error : TypedError)
  | undecodable (fault : DecodeFault)
  | unencodable (fault : EncodeFault)
  | system (code : Int) (reason : Text) (files : List Text)
  | missing (fault : ImportFault)
  | foreign (family : Family) (name message : Text)
  | interrupt (message : Text)
  | exit (status : Value)
  deriving DecidableEq

/-- A fault under way, with the fault that it was raised from. -/
structure Raised where
  fault : Fault
  cause : Option Fault := none
  deriving DecidableEq

def ErrorKind.name : ErrorKind → Text
  | .general => "GdfmtError"
  | .sourceRead => "SourceReadError"
  | .format => "FormatError"
  | .unsupportedOption => "UnsupportedOptionError"
  | .outputWrite => "OutputWriteError"
  | .environment => "EnvironmentError"

/-- The kinds that a kind belongs to, itself first. -/
def ErrorKind.lineage : ErrorKind → List ErrorKind
  | .general => [.general]
  | .unsupportedOption => [.unsupportedOption, .format, .general]
  | kind => [kind, .general]

def ImportFault.name : ImportFault → Text
  | .moduleMissing _ => "ModuleNotFoundError"
  | .nameMissing _ => "ImportError"

def ImportFault.message : ImportFault → Text
  | .moduleMissing message => message
  | .nameMissing message => message

namespace Fault

/-- The name of a system fault goes by its code. -/
def systemName : Int → Text
  | 1 => "PermissionError"
  | 2 => "FileNotFoundError"
  | 3 => "ProcessLookupError"
  | 4 => "InterruptedError"
  | 10 => "ChildProcessError"
  | 11 => "BlockingIOError"
  | 13 => "PermissionError"
  | 17 => "FileExistsError"
  | 20 => "NotADirectoryError"
  | 21 => "IsADirectoryError"
  | 32 => "BrokenPipeError"
  | 103 => "ConnectionAbortedError"
  | 104 => "ConnectionResetError"
  | 108 => "BrokenPipeError"
  | 110 => "TimeoutError"
  | 111 => "ConnectionRefusedError"
  | 114 => "BlockingIOError"
  | 115 => "BlockingIOError"
  | _ => "OSError"

def name : Fault → Text
  | .typed error => error.kind.name
  | .undecodable _ => "UnicodeDecodeError"
  | .unencodable _ => "UnicodeEncodeError"
  | .system code _ _ => systemName code
  | .missing fault => fault.name
  | .foreign _ name _ => name
  | .interrupt _ => "KeyboardInterrupt"
  | .exit _ => "SystemExit"

/-- The files that a system fault is about, in one text, if there are any. -/
def shownFiles (files : List Text) : List Text :=
  if files.isEmpty then [] else [Text.join " -> " (files.map Text.quoted)]

def message : Fault → Text
  | .typed error => error.message
  | .undecodable fault => fault.message
  | .unencodable fault => fault.message
  | .system code reason files =>
      "[Errno " ++ Text.ofInt code ++ "] " ++ Text.join ": " (reason :: shownFiles files)
  | .missing fault => fault.message
  | .foreign _ _ message => message
  | .interrupt message => message
  | .exit status => status.shown

/-- Interrupts, exits and signals are no ordinary faults: at most the outermost boundary deals with
them. -/
def isOrdinary : Fault → Bool
  | .interrupt _ => false
  | .exit _ => false
  | .foreign .signal _ _ => false
  | _ => true

def isTyped : Fault → Bool
  | .typed _ => true
  | _ => false

def isSystem : Fault → Bool
  | .system .. => true
  | .foreign .system _ _ => true
  | _ => false

/-- Codec faults count as faults of a value. -/
def isValue : Fault → Bool
  | .undecodable _ => true
  | .unencodable _ => true
  | .foreign .value _ _ => true
  | _ => false

def isParser : Fault → Bool
  | .foreign .parser _ _ => true
  | _ => false

/-- The cause in short: a system fault that gives a reason is described by the reason alone. -/
def describe (fault : Fault) : Text :=
  match fault with
  | .system _ reason _ => if reason.isEmpty then fault.message else reason
  | _ => fault.message

def ofValue (message : Text) : Fault := .foreign .value "ValueError" message

def ofAttribute (message : Text) : Fault := .foreign .other "AttributeError" message

/-- A value that a switch refuses. -/
def ofArgument (message : Text) : Fault := .foreign .other "ArgumentTypeError" message

end Fault

/-- A typed error raised from another fault. -/
def Raised.from (kind : ErrorKind) (message : Text) (cause : Fault) : Raised :=
  { fault := .typed { kind, message }, cause := some cause }

end ScriptFormat
