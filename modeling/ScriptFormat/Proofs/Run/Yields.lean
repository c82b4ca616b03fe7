import ScriptFormat.Program
import ScriptFormat.Proofs.Stream.Taking

/-!
# What the stages of a run come to

Logging changes nothing but the log and the error stream. Up to these two, each
stage of a run gives a result and a world that are functions of what the stage
reads: the source, the answer of the engine, the delivery.
-/

namespace ScriptFormat

namespace World

theorem addLine_eq (world : World) (line : LogLine) :
    ∃ errors, world.addLine line = { world with errors } := by
  obtain ⟨target, text⟩ := line
  cases target with
  | errors => exact ⟨_, rfl⟩
  | named => exact ⟨world.errors, rfl⟩

theorem addLines_eq (world : World) (lines : List LogLine) :
    ∃ errors, world.addLines lines = { world with errors } := by
  induction lines generalizing world with
  | nil => exact ⟨world.errors, rfl⟩
  | cons line rest ih =>
      obtain ⟨errors, first⟩ := world.addLine_eq line
      obtain ⟨errors', others⟩ := ih (world.addLine line)
      refine ⟨errors', ?_⟩
      change (world.addLine line).addLines rest = _
      rw [others, first]

theorem record_eq (world : World) (record : LogRecord) :
    ∃ log errors, world.record record = { world with log, errors } := by
  obtain ⟨errors, shape⟩ := addLines_eq { world with log := (world.log.emit world.clock record).1 }
    (world.log.emit world.clock record).2
  exact ⟨_, errors, shape⟩

theorem configureLog_eq (world : World) (debug : Bool) :
    ∃ log errors, world.configureLog debug = { world with log, errors } := by
  obtain ⟨errors, shape⟩ := addLines_eq
    { world with log := (world.log.configure world.clock debug .errors).1 }
    (world.log.configure world.clock debug .errors).2
  exact ⟨_, errors, shape⟩

end World

namespace Run

variable {α β : Type}

def ended (result : Except Raised α) (world : World) : EStateM.Result Raised World α :=
  match result with
  | .ok value => .ok value world
  | .error raised => .error raised world

def result (run : Run α) (world : World) : Except Raised α :=
  match run world with
  | .ok value _ => .ok value
  | .error raised _ => .error raised

def after (run : Run α) (world : World) : World :=
  match run world with
  | .ok _ world => world
  | .error _ world => world

theorem result_of_ok {run : Run α} {world after : World} {value : α}
    (ends : run world = .ok value after) : run.result world = .ok value := by
  rw [result, ends]

theorem after_of_ok {run : Run α} {world last : World} {value : α}
    (ends : run world = .ok value last) : run.after world = last := by
  rw [Run.after, ends]

theorem eq_ok_of_result {run : Run α} {world : World} {value : α}
    (returned : run.result world = .ok value) : run world = .ok value (run.after world) := by
  unfold result at returned
  unfold Run.after
  cases ends : run world with
  | ok => rw [ends] at returned; cases returned; rfl
  | error => rw [ends] at returned; cases returned

theorem eq_error_of_result {run : Run α} {world : World} {raised : Raised}
    (stopped : run.result world = .error raised) : run world = .error raised (run.after world) := by
  unfold result at stopped
  unfold Run.after
  cases ends : run world with
  | ok => rw [ends] at stopped; cases stopped
  | error => rw [ends] at stopped; cases stopped; rfl

theorem result_of_ended {run : Run α} {world after : World} {result : Except Raised α}
    (ends : run world = ended result after) : run.result world = result := by
  cases result <;> simp [Run.result, ends, ended]

theorem after_of_ended {run : Run α} {world last : World} {result : Except Raised α}
    (ends : run world = ended result last) : run.after world = last := by
  cases result <;> simp [Run.after, ends, ended]

theorem get_bind (next : World → Run α) (world : World) :
    ((get : Run World) >>= next) world = next world world := rfl

theorem complain_of_ok {message : Console → Except Fault Text} {world : World} {shown : Text}
    (printed : message world.console = .ok shown) :
    Run.complain message world = .ok () (world.complain shown) := by
  rw [complain, get_bind, printed]
  rfl

theorem complain_of_error {message : Console → Except Fault Text} {world : World} {fault : Fault}
    (refused : message world.console = .error fault) :
    Run.complain message world = .error { fault } world := by
  rw [complain, get_bind, refused]
  rfl

/-- A run from a world gives a result and leaves a world, up to the log and the error stream. -/
def Yields (run : Run α) (world : World) (result : Except Raised α) (after : World) : Prop :=
  ∃ log errors, run world = ended result { after with log, errors }

theorem Yields.of_eq {run : Run α} {world after : World} {result : Except Raised α}
    (ends : run world = ended result after) : Yields run world result after :=
  ⟨after.log, after.errors, ends⟩

theorem Yields.result_eq {run : Run α} {world after : World} {result : Except Raised α}
    (yields : Yields run world result after) : run.result world = result := by
  obtain ⟨log, errors, ends⟩ := yields
  exact result_of_ended ends

theorem Yields.after_eq {run : Run α} {world after : World} {result : Except Raised α}
    (yields : Yields run world result after) :
    ∃ log errors, run.after world = { after with log, errors } := by
  obtain ⟨log, errors, ends⟩ := yields
  exact ⟨log, errors, after_of_ended ends⟩

/-- What follows may depend on the log, but what it yields may not. -/
theorem Yields.bind {run : Run α} {next : α → Run β} {value : α} {world middle after : World}
    {result : Except Raised β} (first : Yields run world (.ok value) middle)
    (rest : ∀ log errors, Yields (next value) { middle with log, errors } result after) :
    Yields (run >>= next) world result after := by
  obtain ⟨log, errors, done⟩ := first
  obtain ⟨log', errors', ends⟩ := rest log errors
  exact ⟨log', errors', (bind_of_ok done).trans ends⟩

theorem Yields.stop {run : Run α} {next : α → Run β} {raised : Raised} {world after : World}
    (first : Yields run world (.error raised) after) :
    Yields (run >>= next) world (.error raised) after := by
  obtain ⟨log, errors, stopped⟩ := first
  exact ⟨log, errors, bind_of_error stopped⟩

theorem Yields.reading {next : World → Run α} {world after : World} {result : Except Raised α}
    (rest : Yields (next world) world result after) : Yields (get >>= next) world result after :=
  rest

theorem Yields.changing {change : World → World} {next : PUnit → Run α} {world after : World}
    {result : Except Raised α} (rest : Yields (next ⟨⟩) (change world) result after) :
    Yields (modify change >>= next) world result after :=
  rest

theorem log_yields (logger : Text) (level : LogLevel) (message : Text) (world : World) :
    Yields (Run.log logger level message) world (.ok ()) world := by
  obtain ⟨log, errors, shape⟩ := world.record_eq ⟨logger, level, message⟩
  exact ⟨log, errors, congrArg (EStateM.Result.ok ()) shape⟩

theorem debug_yields (logger message : Text) (world : World) :
    Yields (Run.debug logger message) world (.ok ()) world :=
  log_yields logger .debug message world

theorem pure_yields (value : α) (world : World) :
    Yields (pure value) world (.ok value) world :=
  .of_eq rfl

theorem throw_yields (raised : Raised) (world : World) :
    Yields (throw raised : Run α) world (.error raised) world :=
  .of_eq rfl

theorem complain_yields_ok {message : Console → Except Fault Text} {world : World} {shown : Text}
    (printed : message world.console = .ok shown) :
    Yields (Run.complain message) world (.ok ()) world :=
  ⟨world.log, _, complain_of_ok printed⟩

theorem complain_yields_error {message : Console → Except Fault Text} {world : World}
    {fault : Fault} (refused : message world.console = .error fault) :
    Yields (Run.complain message) world (.error { fault }) world :=
  .of_eq (complain_of_error refused)

/-- A handler that raises again changes the fault and nothing else. -/
theorem Yields.caught {run : Run α} {world after : World} {result : Except Raised α}
    (yields : Yields run world result after) (again : Raised → Raised) :
    Yields (tryCatch run fun raised => throw (again raised)) world (result.mapError again)
      after := by
  obtain ⟨log, errors, ends⟩ := yields
  refine ⟨log, errors, ?_⟩
  cases result with
  | ok => exact tryCatch_of_ok ends
  | error => exact tryCatch_of_error ends

end Run

/-! ## Acquiring the source -/

open Run

/-- A fault that is told otherwise leaves what was got. -/
theorem mapError_eq_ok_iff {ε φ α : Type} {result : Except ε α} {change : ε → φ} {value : α} :
    result.mapError change = .ok value ↔ result = .ok value := by
  cases result with
  | ok got => exact ⟨fun same => by cases same; rfl, fun same => by cases same; rfl⟩
  | error fault => exact ⟨fun same => (by cases same), fun same => by cases same⟩

namespace Source

theorem readPath_yields (path : Path) (world : World) :
    Yields (readPath path) world
      ((world.tree.readText path).mapError
        (mapped isFileFault .sourceRead ("Failed to read file " ++ path.text))) world := by
  refine .reading ?_
  cases world.tree.readText path with
  | ok text => exact (debug_yields _ _ world).bind fun _ _ => pure_yields text _
  | error fault => exact throw_yields _ world

theorem readStream_yields (world : World) :
    Yields readStream world
      (world.input.readAll.1.mapError
        (mapped isStreamFault .sourceRead "Failed to read from stdin"))
      { world with input := world.input.readAll.2 } := by
  refine .reading ?_
  obtain ⟨read, input⟩ := world.input.readAll
  refine .changing ?_
  cases read with
  | ok text => exact (debug_yields _ _ _).bind fun _ _ => pure_yields text _
  | error fault => exact throw_yields _ _

theorem writePath_yields (path : Path) (text : Text) (world : World) :
    Yields (writePath path text) world
      ((world.tree.writeText path text).1.mapError
        (mapped isFileFault .outputWrite ("Failed to write to file " ++ path.text)))
      { world with tree := (world.tree.writeText path text).2 } := by
  refine .reading ?_
  obtain ⟨written, tree⟩ := world.tree.writeText path text
  refine .changing ?_
  cases written with
  | ok => exact debug_yields _ _ _
  | error fault => exact throw_yields _ _

end Source

def Invocation.acquired (invocation : Invocation) (tree : FileTree) (input : InputStream) :
    Except Raised Text × InputStream :=
  match invocation.input with
  | some path =>
      ((tree.readText path).mapError
        (Source.mapped Source.isFileFault .sourceRead ("Failed to read file " ++ path.text)), input)
  | none =>
      (input.readAll.1.mapError
        (Source.mapped Source.isStreamFault .sourceRead "Failed to read from stdin"),
        input.readAll.2)

theorem Invocation.acquired_file {invocation : Invocation} {path : Path}
    (named : invocation.input = some path) (tree : FileTree) (input : InputStream) :
    invocation.acquired tree input =
      ((tree.readText path).mapError
        (Source.mapped Source.isFileFault .sourceRead ("Failed to read file " ++ path.text)),
        input) := by
  rw [acquired, named]

theorem Invocation.acquired_input {invocation : Invocation} (nameless : invocation.input = none)
    (tree : FileTree) (input : InputStream) :
    invocation.acquired tree input =
      (input.readAll.1.mapError
        (Source.mapped Source.isStreamFault .sourceRead "Failed to read from stdin"),
        input.readAll.2) := by
  rw [acquired, nameless]

theorem Program.acquire_yields (invocation : Invocation) (world : World) :
    Yields (acquire invocation) world (invocation.acquired world.tree world.input).1
      { world with input := (invocation.acquired world.tree world.input).2 } := by
  unfold acquire
  cases named : invocation.input with
  | some path =>
      rw [invocation.acquired_file named]
      exact Source.readPath_yields path world
  | none =>
      rw [invocation.acquired_input named]
      exact Source.readStream_yields world

/-! ## The answer of an engine -/

def Toolkit.answer (toolkit : Toolkit) (source : Text) (config : FormatterConfig) :
    Except Raised Value :=
  match toolkit.importFault? with
  | some (.moduleMissing message) => .error (Formatting.toolkitMissing (.moduleMissing message))
  | some (.nameMissing message) => .error { fault := .missing (.nameMissing message) }
  | none =>
      if config.reorderCode then .error Formatting.reorderRefused
      else (toolkit.formatCode (Toolkit.callFor source config)).mapError Formatting.toolkitFailed

def Toolkit.calls (toolkit : Toolkit) (source : Text) (config : FormatterConfig) :
    List ToolkitCall :=
  match toolkit.importFault? with
  | some _ => []
  | none => if config.reorderCode then [] else [Toolkit.callFor source config]

namespace Engine

def answer (engine : Engine) (source : Text) (config : FormatterConfig) (tree : FileTree) :
    Except Raised Value × FileTree :=
  match engine with
  | .custom _ format =>
      ((format source config tree).1.mapError fun fault => { fault }, (format source config tree).2)
  | .toolkit used => (used.answer source config, tree)

def LeavesFiles (engine : Engine) : Prop :=
  ∀ source config tree, (engine.answer source config tree).2 = tree

def toolkitCalls (engine : Engine) (source : Text) (config : FormatterConfig) : List ToolkitCall :=
  match engine with
  | .custom .. => []
  | .toolkit used => used.calls source config

end Engine

def World.called (world : World) (engine : Engine) (source : Text) (config : FormatterConfig)
    (tree : FileTree) : World :=
  { world with
    tree
    engineCalls := world.engineCalls ++ [{ source, config }]
    toolkitCalls := world.toolkitCalls ++ engine.toolkitCalls source config }

namespace Formatting

def outcome : Except Raised Value → Except Raised Text
  | .ok (.text formatted) => .ok formatted
  | .ok result => .error (notText result)
  | .error raised => .error (engineFailed raised)

theorem callToolkit_yields (toolkit : Toolkit) (source : Text) (config : FormatterConfig)
    (world : World) :
    Yields (callToolkit toolkit source config) world (toolkit.answer source config)
      { world with toolkitCalls := world.toolkitCalls ++ toolkit.calls source config } := by
  unfold callToolkit Toolkit.answer Toolkit.calls
  cases toolkit.importFault? with
  | some fault =>
      rw [List.append_nil]
      cases fault with
      | moduleMissing => exact throw_yields _ world
      | nameMissing => exact throw_yields _ world
  | none =>
      cases config.reorderCode with
      | true =>
          simp only [if_true, List.append_nil]
          exact (throw_yields reorderRefused world).stop
      | false =>
          simp only [Bool.false_eq_true, if_false]
          refine (debug_yields _ _ _).bind fun log errors => ?_
          refine .changing ?_
          cases toolkit.formatCode (Toolkit.callFor source config) with
          | ok result => exact pure_yields result _
          | error fault => exact throw_yields _ _

theorem callEngine_yields (engine : Engine) (source : Text) (config : FormatterConfig)
    (world : World) :
    Yields (callEngine engine source config) world (engine.answer source config world.tree).1
      (world.called engine source config (engine.answer source config world.tree).2) := by
  refine .changing ?_
  cases engine with
  | toolkit used => exact callToolkit_yields used source config _
  | custom name format =>
      refine .reading ?_
      unfold Engine.answer World.called Engine.toolkitCalls
      rw [List.append_nil]
      simp only
      generalize format source config world.tree = answered
      obtain ⟨result, tree⟩ := answered
      refine .changing ?_
      cases result with
      | ok result => exact pure_yields result _
      | error fault => exact throw_yields _ _

theorem format_yields (engine : Engine) (source : Text) (config : FormatterConfig)
    (world : World) :
    Yields (format engine source config) world
      (outcome (engine.answer source config world.tree).1)
      (world.called engine source config (engine.answer source config world.tree).2) := by
  refine (debug_yields _ _ world).bind fun log errors => ?_
  have called := (callEngine_yields engine source config { world with log, errors }).caught
    engineFailed
  change Yields _ _ ((engine.answer source config world.tree).1.mapError engineFailed) _ at called
  cases answered : (engine.answer source config world.tree).1 with
  | error raised =>
      rw [answered] at called
      exact called.stop
  | ok result =>
      rw [answered] at called
      refine called.bind fun log errors => ?_
      cases result with
      | text formatted => exact (debug_yields _ _ _).bind fun _ _ => pure_yields formatted _
      | _ => exact throw_yields _ _

end Formatting

end ScriptFormat
