import ScriptFormat.Program
import ScriptFormat.Proofs.Run.Faults

/-!
# The error boundary

Whatever admitted fault or exit stops a run, the boundary ends with a status for it.
A typed error is shown on the way, and its hint behind it if there is anything in it.
-/

namespace ScriptFormat

open Run

def Fault.status : Fault → Value
  | .exit status => status
  | .typed _ => .number ExitStatus.generalError
  | .interrupt _ => .number ExitStatus.interrupted
  | _ => .number ExitStatus.unexpectedError

theorem Fault.status_unexpected {fault : Fault} (ordinary : fault.isOrdinary = true)
    (untyped : fault.isTyped = false) :
    fault.status = .number ExitStatus.unexpectedError := by
  cases fault with
  | typed => cases untyped
  | interrupt => cases ordinary
  | exit => cases ordinary
  | _ => rfl

namespace Program

/-- The error stream shows the message of an error, and its hint behind it exactly if there is
anything in it. -/
inductive Reported (error : TypedError) (before : World) : World → Prop where
  | plain {line : Text} (told : before.console.Line "Error: " error.message line)
      (nothing : error.hint = none ∨ error.hint = some []) :
      Reported error before
        { before with errors := before.errors ++ Text.surrogatesEscaped line }
  | advised {hint line advice : Text} (told : before.console.Line "Error: " error.message line)
      (hinted : error.hint = some hint) (something : hint ≠ [])
      (advised : before.console.Line "Hint: " hint advice) :
      Reported error before
        { before with
          errors := before.errors ++ Text.surrogatesEscaped line ++ Text.surrogatesEscaped advice }

/-- Where there is nothing in a hint, the message is all that is shown. -/
theorem showError_alone {message first : Text} {hint : Option Text} {world : World}
    (printed : world.console.printError message = .ok first)
    (nothing : hint = none ∨ hint = some []) :
    showError message hint world = .ok () (world.complain first) := by
  have line : Run.complain (fun console => console.printError message) world =
      .ok () (world.complain first) := complain_of_ok printed
  rcases nothing with rfl | rfl
  · exact bind_of_ok line
  · exact bind_of_ok line

theorem showError_hinted {message hint first second : Text} {world : World}
    (printed : world.console.printError message = .ok first) (apart : hint ≠ [])
    (advised : world.console.printHint hint = .ok second) :
    showError message (some hint) world = .ok () ((world.complain first).complain second) := by
  have line : Run.complain (fun console => console.printError message) world =
      .ok () (world.complain first) := complain_of_ok printed
  cases hint with
  | nil => exact absurd rfl apart
  | cons point rest => exact (bind_of_ok line).trans (complain_of_ok advised)

theorem showError_reports (error : TypedError) (world : World) :
    ∃ after, Reported error world after ∧
      showError error.message error.hint world = .ok () after := by
  obtain ⟨line, printed, told⟩ := world.console.printError_line error.message
  rcases hinted : error.hint with _ | _ | ⟨point, rest⟩
  · exact ⟨_, .plain told (.inl hinted), showError_alone printed (.inl rfl)⟩
  · exact ⟨_, .plain told (.inr hinted), showError_alone printed (.inr rfl)⟩
  · have apart : point :: rest ≠ [] := List.cons_ne_nil point rest
    obtain ⟨advice, hint, advised⟩ := world.console.printHint_line (point :: rest)
    exact ⟨_, .advised told hinted apart advised, showError_hinted printed apart hint⟩

theorem report_typed (error : TypedError) (cause : Option Fault) (world : World) :
    ∃ after, Reported error world after ∧
      report { fault := .typed error, cause } world =
        .ok (.number ExitStatus.generalError) after := by
  obtain ⟨after, reported, shows⟩ := showError_reports error world
  refine ⟨after, reported, ?_⟩
  rw [report]
  exact bind_of_ok shows

theorem report_interrupt (message : Text) (cause : Option Fault) (world : World) :
    (report { fault := .interrupt message, cause }).result world =
      .ok (.number ExitStatus.interrupted) := by
  obtain ⟨shown, printed⟩ := world.console.printAborted_shows
  have complained : Run.complain Console.printAborted world = .ok () (world.complain shown) :=
    complain_of_ok printed
  exact result_of_ok (bind_of_ok complained)

theorem report_unexpected {fault : Fault} (ordinary : fault.isOrdinary = true)
    (untyped : fault.isTyped = false) (named : Markup.opening ∉ fault.name)
    (cause : Option Fault) (world : World) :
    (report { fault, cause }).result world = .ok (.number ExitStatus.unexpectedError) := by
  obtain ⟨shown, printed⟩ := world.console.printUnexpected_shows named
  have complained : Run.complain (fun console => console.printUnexpected fault) world =
      .ok () (world.complain shown) := complain_of_ok printed
  have step : report { fault, cause } = (do
      Run.complain fun console => console.printUnexpected fault
      return .number ExitStatus.unexpectedError) := by
    cases fault with
    | typed => cases untyped
    | interrupt => cases ordinary
    | exit => cases ordinary
    | foreign =>
        change (if Fault.isOrdinary _ then _ else _) = _
        rw [if_pos ordinary]
    | _ => rfl
  rw [step]
  exact result_of_ok (bind_of_ok complained)

/-- A fault that is admitted ends with its status. -/
theorem report_admitted {raised : Raised} (admitted : raised.fault.Admitted) (world : World) :
    (report raised).result world = .ok raised.fault.status := by
  obtain ⟨fault, cause⟩ := raised
  rcases admitted.cases with ⟨error, rfl⟩ | ⟨message, rfl⟩ | ⟨ordinary, untyped⟩
  · obtain ⟨after, _, reports⟩ := report_typed error cause world
    exact result_of_ok reports
  · exact report_interrupt message cause world
  · rw [report_unexpected ordinary untyped admitted.named,
      Fault.status_unexpected ordinary untyped]

def statusOf : Except Raised Int → Value
  | .ok status => .number status
  | .error raised => raised.fault.status

variable {engine : Engine} {arguments : List Text} {world : World}

theorem cli_of_ok {status : Int} (returned : (main engine arguments).result world = .ok status) :
    cli engine arguments world = .ok (.number status) ((main engine arguments).after world) := by
  have ends : (Value.number <$> main engine arguments) world =
      .ok (.number status) ((main engine arguments).after world) := by
    change EStateM.map Value.number (main engine arguments) world = _
    rw [EStateM.map, eq_ok_of_result returned]
  exact tryCatch_of_ok ends

/-- What stops a run is reported in the world that the run has left. -/
theorem cli_of_error {raised : Raised}
    (stopped : (main engine arguments).result world = .error raised) :
    cli engine arguments world = report raised ((main engine arguments).after world) := by
  have ends : (Value.number <$> main engine arguments) world =
      .error raised ((main engine arguments).after world) := by
    change EStateM.map Value.number (main engine arguments) world = _
    rw [EStateM.map, eq_error_of_result stopped]
  exact tryCatch_of_error ends

theorem cli_of_exit {status : Value} {cause : Option Fault}
    (stopped : (main engine arguments).result world =
      .error { fault := .exit status, cause }) :
    cli engine arguments world = .ok status ((main engine arguments).after world) := by
  rw [cli_of_error stopped]
  rfl

theorem cli_of_admitted {raised : Raised}
    (stopped : (main engine arguments).result world = .error raised)
    (admitted : raised.fault.Admitted) :
    (cli engine arguments).result world = .ok raised.fault.status := by
  rw [Run.result, cli_of_error stopped]
  exact report_admitted admitted _

/-- A whole run ends with the status for what it gave. -/
theorem cli_result (reportable : ∀ raised, (main engine arguments).result world = .error raised →
      raised.fault.Admitted ∨ ∃ status, raised.fault = .exit status) :
    (cli engine arguments).result world =
      .ok (statusOf ((main engine arguments).result world)) := by
  cases ends : (main engine arguments).result world with
  | ok status => exact result_of_ok (cli_of_ok ends)
  | error raised =>
      rcases reportable raised ends with admitted | ⟨status, exits⟩
      · exact cli_of_admitted ends admitted
      · obtain ⟨fault, cause⟩ := raised
        subst exits
        exact result_of_ok (cli_of_exit ends)

/-! ## Every fault at the boundary -/

/-- What the boundary gives for a fault that is not the program's own: a status, unless no report of
it can be printed. -/
def unexpected (console : Console) (fault : Fault) : Except Raised Value :=
  match console.printUnexpected fault with
  | .ok _ => .ok (.number ExitStatus.unexpectedError)
  | .error fault => .error { fault }

/-- What the boundary gives for what stopped a run; a signal it lets pass. -/
def conclusion (console : Console) (raised : Raised) : Except Raised Value :=
  match raised.fault with
  | .exit status => .ok status
  | .typed _ => .ok (.number ExitStatus.generalError)
  | .interrupt _ => .ok (.number ExitStatus.interrupted)
  | fault =>
      if fault.isOrdinary then unexpected console fault else .error raised

theorem unexpected_yields (fault : Fault) (world : World) :
    Yields (do
        Run.complain fun console => console.printUnexpected fault
        return Value.number ExitStatus.unexpectedError) world
      (unexpected world.console fault) world := by
  unfold unexpected
  cases printed : world.console.printUnexpected fault with
  | ok shown => exact (complain_yields_ok printed).bind fun _ _ => pure_yields _ _
  | error refused => exact (complain_yields_error printed).stop

/-- The boundary changes the error stream and nothing else. -/
theorem report_yields (raised : Raised) (world : World) :
    Yields (report raised) world (conclusion world.console raised) world := by
  obtain ⟨fault, cause⟩ := raised
  cases fault with
  | exit status => exact pure_yields _ _
  | typed error =>
      obtain ⟨after, shows, reports⟩ := report_typed error cause world
      cases shows with
      | plain => exact ⟨world.log, _, reports⟩
      | advised => exact ⟨world.log, _, reports⟩
  | interrupt message =>
      obtain ⟨shown, printed⟩ := world.console.printAborted_shows
      exact (complain_yields_ok printed).bind fun _ _ => pure_yields _ _
  | foreign family name message =>
      unfold conclusion report
      dsimp only
      split
      · exact unexpected_yields _ world
      · exact throw_yields _ world
  | _ => exact unexpected_yields _ world

def concluded (console : Console) : Except Raised Int → Except Raised Value
  | .ok status => .ok (.number status)
  | .error raised => conclusion console raised

/-- A whole run leaves what the run inside the boundary leaves. -/
theorem cli_yields {after : World} {result : Except Raised Int}
    (yields : Yields (main engine arguments) world result after) :
    Yields (cli engine arguments) world (concluded after.console result) after := by
  obtain ⟨log, errors, left⟩ := yields.after_eq
  cases result with
  | ok status =>
      refine ⟨log, errors, ?_⟩
      rw [cli_of_ok yields.result_eq, left]
      rfl
  | error raised =>
      obtain ⟨log', errors', reports⟩ := report_yields raised { after with log, errors }
      refine ⟨log', errors', ?_⟩
      rw [cli_of_error yields.result_eq, left]
      exact reports

end Program

end ScriptFormat
