import ScriptFormat.CommandLine.Help
import ScriptFormat.CommandLine.Parse
import ScriptFormat.Delivery
import ScriptFormat.Formatting

/-!
# The program

A run reads the command line, acquires the source, has it formatted and delivers
the result. The boundary around it turns every fault into a report and an exit
status.
-/

namespace ScriptFormat.Program

def logger : Text := "gdfmt.cli.app"

/-- The source is the named file or else the whole input. -/
def acquire (invocation : Invocation) : Run Text :=
  match invocation.input with
  | some path => Source.readPath path
  | none => Source.readStream

def format (engine : Engine) (invocation : Invocation) : Run Int := do
  let source ← acquire invocation
  let formatted ← Formatting.format engine source invocation.config
  Delivery.dispatch invocation.mode source formatted invocation.input

/-- Without arguments someone at a terminal is shown the help. -/
def wantsHelp (arguments : List Text) : Run Bool := do
  if arguments.isEmpty then
    match (← get).input.isInteractive with
    | .ok interactive => return interactive
    | .error fault => Run.stop fault
  else return false

/-- Shows what a command line without an invocation asks for, and exits. -/
def conclude (ending : CommandLine.Ending) : Run Int := do
  match ending with
  | .help =>
      Run.onScreen (CommandLine.help (← get).columns)
      Run.stop (.exit (.number ExitStatus.success))
  | .version =>
      Run.onScreen CommandLine.versionText
      Run.stop (.exit (.number ExitStatus.success))
  | .misuse message =>
      modify fun world => world.complain (CommandLine.usageError world.columns message)
      Run.stop (.exit (.number ExitStatus.unexpectedError))

def main (engine : Engine) (arguments : List Text) : Run Int := do
  if ← wantsHelp arguments then
    Source.writeStream (CommandLine.help (← get).columns)
    return ExitStatus.success
  else
    match CommandLine.parse arguments with
    | .error ending => conclude ending
    | .ok invocation =>
        modify fun world => world.configureLog invocation.debug
        Run.debug logger ("Parsed " ++ invocation.described)
        format engine invocation

/-- Shows an error, and its hint where there is anything in it. -/
def showError (message : Text) (hint : Option Text) : Run Unit := do
  Run.complain fun console => console.printError message
  match hint with
  | some (first :: rest) => Run.complain fun console => console.printHint (first :: rest)
  | _ => pure ()

/-- Reports what stopped a run and gives the exit status for it, unless it is a signal. -/
def report (raised : Raised) : Run Value := do
  match raised.fault with
  | .exit status => return status
  | .typed error =>
      showError error.message error.hint
      return .number ExitStatus.generalError
  | .interrupt _ =>
      Run.complain Console.printAborted
      return .number ExitStatus.interrupted
  | fault =>
      if fault.isOrdinary then
        Run.complain fun console => console.printUnexpected fault
        return .number ExitStatus.unexpectedError
      else throw raised

/-- A whole run, which ends with an exit status whatever ordinary fault stops it. -/
def cli (engine : Engine) (arguments : List Text) : Run Value :=
  tryCatch (Value.number <$> main engine arguments) report

end ScriptFormat.Program
