import ScriptFormat.Proofs.Program.Boundary
import ScriptFormat.Proofs.Program.Course
import ScriptFormat.Proofs.Run.Forgetting

/-!
# Runs in one process

A process keeps its log from run to run. Each run puts the log in order before it writes to
it, or does not write to it at all. So a run in a process goes as in a fresh one, and
without diagnostics it shows messages for the user only, whatever was logged before.
-/

namespace ScriptFormat

open Run

namespace Program

variable {debug : Bool}

theorem logger_own : Log.Own logger :=
  @Log.Own.inside logger "cli.app" (by decide) (by decide)

theorem acquire_forgets (invocation : Invocation) :
    Forgets debug (Log.IsConfigured debug) (acquire invocation) := by
  unfold acquire
  cases invocation.input with
  | some path => exact Source.readPath_forgets path
  | none => exact Source.readStream_forgets

theorem format_forgets (engine : Engine) (invocation : Invocation) :
    Forgets debug (Log.IsConfigured debug) (format engine invocation) := by
  refine (acquire_forgets invocation).bind fun source => ?_
  refine (Formatting.format_forgets engine source invocation.config).bind fun formatted => ?_
  exact Delivery.dispatch_forgets invocation.mode source formatted invocation.input

theorem wantsHelp_forgets (arguments : List Text) (kind : Log → Prop) :
    Forgets debug kind (wantsHelp arguments) := by
  unfold wantsHelp
  split
  · refine .reading (fun _ _ _ _ => rfl) fun world => ?_
    cases world.input.isInteractive with
    | ok interactive => exact .pure interactive
    | error fault => exact .throw _
  · exact .pure false

theorem onScreen_forgets (text : Text) (kind : Log → Prop) :
    Forgets debug kind (Run.onScreen text) := by
  refine .still fun world => ?_
  have writes := fun log errors calls => onScreen_with text world log errors world.console calls
  rcases onScreen_cases text world with ⟨output, screen, wrote⟩ | ⟨fault, output, screen, failed, _⟩
  · simp only [wrote] at writes
    exact ⟨.ok (), { world with output, screen }, writes⟩
  · simp only [failed] at writes
    exact ⟨.error { fault }, { world with output, screen }, writes⟩

theorem conclude_forgets (ending : CommandLine.Ending) (kind : Log → Prop) :
    Forgets debug kind (conclude ending) := by
  have exits (status : Int) : Forgets debug kind (Run.stop (.exit (.number status)) : Run Int) :=
    .throw _
  cases ending with
  | help =>
      refine .reading (fun _ _ _ _ => rfl) fun world => ?_
      exact (onScreen_forgets _ kind).bind fun _ => exits _
  | version => exact (onScreen_forgets _ kind).bind fun _ => exits _
  | misuse message =>
      exact (Forgets.remarking (fun _ _ _ _ => rfl) fun world => .usage world.columns message).bind
        fun _ => exits _

def diagnoses (arguments : List Text) : Bool :=
  match CommandLine.parse arguments with
  | .ok invocation => invocation.debug
  | .error _ => false

theorem main_forgets (engine : Engine) (arguments : List Text) :
    Forgets (diagnoses arguments) AnyLog (main engine arguments) := by
  refine (wantsHelp_forgets arguments AnyLog).bind fun wants => ?_
  cases wants with
  | true =>
      refine .reading (fun _ _ _ _ => rfl) fun world => ?_
      exact (Source.writeStream_forgets _ AnyLog).bind fun _ => .pure _
  | false =>
      unfold diagnoses
      cases CommandLine.parse arguments with
      | error ending => exact conclude_forgets ending AnyLog
      | ok invocation =>
          refine Forgets.configured ?_
          exact (Forgets.debugging logger_own _).bind fun _ => format_forgets engine invocation

/-! ## The boundary -/

theorem showError_forgets (message : Text) (hint : Option Text) (kind : Log → Prop) :
    Forgets debug kind (showError message hint) := by
  have shown : Forgets debug kind (Run.complain fun console => console.printError message) :=
    .complain fun _ _ printed => .error printed
  refine shown.bind fun _ => ?_
  split
  · exact .complain fun _ _ printed => .hint printed
  · exact .pure ()

theorem report_forgets (raised : Raised) (kind : Log → Prop) :
    Forgets debug kind (report raised) := by
  unfold report
  split
  · exact .pure _
  · exact (showError_forgets _ _ kind).bind fun _ => .pure _
  · exact (Forgets.complain fun _ _ printed => .aborted printed).bind fun _ => .pure _
  · split
    · exact (Forgets.complain fun _ _ printed => .unexpected printed).bind fun _ => .pure _
    · exact .throw _

theorem cli_forgets (engine : Engine) (arguments : List Text) :
    Forgets (diagnoses arguments) AnyLog (cli engine arguments) :=
  ((main_forgets engine arguments).map Value.number).caught fun raised =>
    report_forgets raised AnyLog

end Program

namespace Run

variable {α : Type} {debug : Bool} {run : Run α}

/-- The log before a run decides about nothing but the log behind it. -/
theorem Forgets.same (forgets : Forgets debug AnyLog run) (world : World) (log other : Log) :
    run.result { world with log } = run.result { world with log := other } ∧
      ∃ left, run.after { world with log } =
        { run.after { world with log := other } with log := left } := by
  obtain ⟨result, after, text, more, _, goes⟩ := forgets world
  obtain ⟨left, _, ends⟩ := goes log world.errors world.engineCalls trivial
  obtain ⟨last, _, finishes⟩ := goes other world.errors world.engineCalls trivial
  refine ⟨(result_of_ended ends).trans (result_of_ended finishes).symm, left, ?_⟩
  rw [after_of_ended ends, after_of_ended finishes]

theorem Forgets.remarks (forgets : Forgets debug AnyLog run) (plain : debug = false)
    (world : World) :
    ∃ text, Remarks text ∧ (run.after world).errors = world.errors ++ text := by
  obtain ⟨result, after, text, more, quiet, goes⟩ := forgets world
  obtain ⟨left, _, ends⟩ := goes world.log world.errors world.engineCalls trivial
  refine ⟨text, quiet plain, ?_⟩
  rw [after_of_ended ends]

end Run

namespace Program

/-! ## Runs in a row -/

structure Process where
  tree : FileTree
  log : Log := {}

/-- One run of a process, with streams of its own, with the boundary around it or without. -/
structure Launch where
  guarded : Bool
  engine : Engine
  arguments : List Text
  world : World
  /-- Where the handler of an earlier run writes, as this run sees it: to its own error stream, if
  the two are one, or to another. -/
  earlier : LogTarget

def boundTo (target : LogTarget) (log : Log) : Log :=
  { log with handlers := log.handlers.map fun handler => { handler with target } }

structure Episode where
  result : Except Raised Value
  after : World

namespace Launch

def run (launch : Launch) : Run Value :=
  if launch.guarded then cli launch.engine launch.arguments
  else Value.number <$> main launch.engine launch.arguments

def start (launch : Launch) (process : Process) : World :=
  { launch.world with tree := process.tree, log := boundTo launch.earlier process.log }

def episode (launch : Launch) (process : Process) : Episode where
  result := launch.run.result (launch.start process)
  after := launch.run.after (launch.start process)

end Launch

def Episode.left (episode : Episode) : Process where
  tree := episode.after.tree
  log := episode.after.log

/-- The same is given and the same is left, but for the log. -/
structure Episode.Same (episode other : Episode) : Prop where
  result : episode.result = other.result
  after : ∃ log, episode.after = { other.after with log }

/-- Without diagnostics a run adds messages for the user to its error stream and nothing else. -/
def Quiet (launch : Launch) (episode : Episode) : Prop :=
  diagnoses launch.arguments = false →
    ∃ text, Remarks text ∧ episode.after.errors = launch.world.errors ++ text

/-- Runs one after the other, all in one process and each in a fresh one on the files that the run
before it left there: each goes the same way here and there, and without diagnostics it is quiet. -/
def Independent : Process → FileTree → List Launch → Prop
  | _, _, [] => True
  | process, tree, launch :: rest =>
      (launch.episode process).Same (launch.episode { tree }) ∧
        Quiet launch (launch.episode process) ∧
        Independent (launch.episode process).left (launch.episode { tree }).after.tree rest

theorem Launch.forgets (launch : Launch) :
    Forgets (diagnoses launch.arguments) AnyLog launch.run := by
  unfold run
  split
  · exact cli_forgets launch.engine launch.arguments
  · exact (main_forgets launch.engine launch.arguments).map Value.number

/-- One run goes as in a fresh process. -/
theorem Launch.episode_same (launch : Launch) (process : Process) :
    (launch.episode process).Same (launch.episode { tree := process.tree }) := by
  obtain ⟨result, after⟩ := launch.forgets.same (launch.start process)
    (boundTo launch.earlier process.log) (boundTo launch.earlier {})
  exact ⟨result, after⟩

theorem Launch.episode_quiet (launch : Launch) (process : Process) :
    Quiet launch (launch.episode process) :=
  fun plain => launch.forgets.remarks plain (launch.start process)

/-- However many runs there were before in a process, and whatever they logged and to which stream,
each goes as in a fresh process that starts on the same files, and without diagnostics it adds
messages for the user to its error stream and nothing else. This is so where the handler of an
earlier run writes to the error stream of the run as well, so nothing goes through that handler. -/
theorem runs_are_independent (process : Process) (launches : List Launch) :
    Independent process process.tree launches := by
  -- What carries the induction is the tree, which both ways leave to the next run.
  induction launches generalizing process with
  | nil => trivial
  | cons launch rest ih =>
      have same := launch.episode_same process
      have tree : (launch.episode process).after.tree =
          (launch.episode { tree := process.tree }).after.tree := by
        obtain ⟨log, left⟩ := same.after
        rw [left]
      have later := ih (launch.episode process).left
      refine ⟨same, launch.episode_quiet process, ?_⟩
      rw [← tree]
      exact later

/-- A run with diagnostics and one without behind it, both with the same error stream. -/
theorem runs_are_independent_at_desk :
    let traced : Launch :=
      { guarded := true, engine := lineEnding, arguments := ["--debug", "b.gd"], world := desk,
        earlier := .errors }
    let plain : Launch := { traced with arguments := ["--check", "b.gd"] }
    let process : Process := { tree := desk.tree }
    Independent process desk.tree [traced, plain] ∧ diagnoses plain.arguments = false ∧
      ∃ text, Remarks text ∧
        (plain.episode (traced.episode process).left).after.errors =
          plain.world.errors ++ text := by
  intro traced plain process
  have independent := runs_are_independent process [traced, plain]
  have undiagnosed : diagnoses plain.arguments = false := by decide +kernel
  have quiet : Quiet plain (plain.episode (traced.episode process).left) := independent.2.2.2.1
  exact ⟨independent, undiagnosed, quiet undiagnosed⟩

end Program

end ScriptFormat
