import ScriptFormat.Source

/-!
# Delivering a result

The formatted text is compared, written back or printed, and each of these has
its exit status.
-/

namespace ScriptFormat

namespace ExitStatus

def success : Int := 0

def generalError : Int := 1

def checkFailed : Int := 1

def unexpectedError : Int := 2

/-- As shells report a process ended by an interrupt. -/
def interrupted : Int := 130

end ExitStatus

namespace Delivery

def logger : Text := "gdfmt.cli.output"

def formattedMessage : Text := "File is formatted"

def notFormattedMessage : Text := "The file is not formatted"

/-- Says whether the source was formatted already; no file is written. -/
def reportCheck (source formatted : Text) : Run Int := do
  if isFormatted source formatted then
    Source.writeStream (formattedMessage ++ "\n")
    return ExitStatus.success
  else
    Run.complain fun console => console.printDifference notFormattedMessage
    return ExitStatus.checkFailed

def writeBack (path : Path) (formatted : Text) : Run Int := do
  Source.writePath path formatted
  Run.log logger .info ("Formatted " ++ path.text)
  return ExitStatus.success

def emit (formatted : Text) : Run Int := do
  Source.writeStream formatted
  return ExitStatus.success

/-- Overwriting needs a file, which the choice of the mode sees to. -/
def noFile : Fault := .foreign .other "AssertionError" []

def dispatch (mode : OutputMode) (source formatted : Text) (path : Option Path) : Run Int := do
  Run.debug logger ("Output mode: " ++ mode.name)
  match mode with
  | .check => reportCheck source formatted
  | .overwrite =>
      match path with
      | some path => writeBack path formatted
      | none => Run.stop noFile
  | .stdout => emit formatted

end Delivery

end ScriptFormat
