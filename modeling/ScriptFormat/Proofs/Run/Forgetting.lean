import ScriptFormat.Program
import ScriptFormat.Proofs.Log.Configured
import ScriptFormat.Proofs.Run.Yields

/-!
# Runs that do not remember

What a run gives and leaves, and what it adds to the error stream, does not depend on what
was logged before it, as long as the log is of a kind that it keeps, nor on the calls of the
engine recorded before. Without diagnostics it adds messages for the user only. Both are
shown along the program, one rule for each way in which it is put together.
-/

namespace ScriptFormat

inductive Remark : Text → Prop where
  | usage (columns : Nat) (message : Text) : Remark (CommandLine.usageError columns message)
  | difference {console : Console} {shown : Text}
      (printed : console.printDifference Delivery.notFormattedMessage = .ok shown) : Remark shown
  | error {console : Console} {message shown : Text}
      (printed : console.printError message = .ok shown) : Remark shown
  | hint {console : Console} {hint shown : Text} (printed : console.printHint hint = .ok shown) :
      Remark shown
  | aborted {console : Console} {shown : Text} (printed : console.printAborted = .ok shown) :
      Remark shown
  | unexpected {console : Console} {fault : Fault} {shown : Text}
      (printed : console.printUnexpected fault = .ok shown) : Remark shown

inductive Remarks : Text → Prop where
  | none : Remarks []
  | next {shown rest : Text} (remark : Remark shown) (others : Remarks rest) :
      Remarks (Text.surrogatesEscaped shown ++ rest)

theorem Remarks.one {shown : Text} (remark : Remark shown) :
    Remarks (Text.surrogatesEscaped shown) := by
  rw [← List.append_nil (Text.surrogatesEscaped shown)]
  exact .next remark .none

theorem Remarks.append {first second : Text} (remarks : Remarks first) (others : Remarks second) :
    Remarks (first ++ second) := by
  induction remarks with
  | none => exact others
  | next remark _ ih =>
      rw [List.append_assoc]
      exact .next remark ih

namespace Run

/-- From every log of a kind the run goes the same way and adds the same text to the error stream,
which without diagnostics consists of messages for the user. What calls of the engine were
recorded before does not matter to it either. -/
def Forgets {α : Type} (debug : Bool) (kind : Log → Prop) (run : Run α) : Prop :=
  ∀ world : World, ∃ (result : Except Raised α) (after : World) (text : Text)
    (more : List EngineCall),
    (debug = false → Remarks text) ∧
    ∀ log errors engineCalls, kind log → ∃ left, kind left ∧
      run { world with log, errors, engineCalls } =
        ended result { after with
          log := left, errors := errors ++ text, engineCalls := engineCalls ++ more }

variable {α β : Type} {debug : Bool} {kind : Log → Prop}

/-! ## Rules -/

/-- A run that looks neither at the log nor at the error stream nor at the calls. -/
theorem Forgets.still {run : Run α}
    (goes : ∀ world : World, ∃ (result : Except Raised α) (after : World), ∀ log errors engineCalls,
      run { world with log, errors, engineCalls } =
        ended result { after with log, errors, engineCalls }) :
    Forgets debug kind run := by
  intro world
  obtain ⟨result, after, ends⟩ := goes world
  refine ⟨result, after, [], [], fun _ => .none, fun log errors calls kept => ⟨log, kept, ?_⟩⟩
  rw [ends, List.append_nil, List.append_nil]

theorem Forgets.pure (value : α) : Forgets debug kind (pure value) :=
  .still fun world => ⟨.ok value, world, fun _ _ _ => rfl⟩

theorem Forgets.throw (raised : Raised) : Forgets debug kind (throw raised : Run α) :=
  .still fun world => ⟨.error raised, world, fun _ _ _ => rfl⟩

theorem Forgets.bind {run : Run α} {next : α → Run β} (first : Forgets debug kind run)
    (rest : ∀ value, Forgets debug kind (next value)) : Forgets debug kind (run >>= next) := by
  intro world
  obtain ⟨result, middle, text, more, quiet, goes⟩ := first world
  cases result with
  | error raised =>
      refine ⟨.error raised, middle, text, more, quiet, fun log errors calls kept => ?_⟩
      obtain ⟨left, keeps, ends⟩ := goes log errors calls kept
      exact ⟨left, keeps, bind_of_error ends⟩
  | ok value =>
      obtain ⟨result, after, text', more', quiet', goes'⟩ := rest value middle
      refine ⟨result, after, text ++ text', more ++ more',
        fun plain => (quiet plain).append (quiet' plain), fun log errors calls kept => ?_⟩
      obtain ⟨left, keeps, ends⟩ := goes log errors calls kept
      obtain ⟨last, stays, finishes⟩ := goes' left (errors ++ text) (calls ++ more) keeps
      refine ⟨last, stays, ?_⟩
      rw [bind_of_ok ends, finishes, List.append_assoc, List.append_assoc]

/-- What would follow is of no account. -/
theorem Forgets.refusing (raised : Raised) (next : α → Run β) :
    Forgets debug kind ((MonadExcept.throw raised : Run α) >>= next) :=
  .still fun world => ⟨.error raised, world, fun _ _ _ => rfl⟩

theorem Forgets.map {run : Run α} (change : α → β) (forgets : Forgets debug kind run) :
    Forgets debug kind (change <$> run) :=
  forgets.bind fun value => .pure (change value)

theorem Forgets.caught {run : Run α} {handle : Raised → Run α} (first : Forgets debug kind run)
    (rest : ∀ raised, Forgets debug kind (handle raised)) :
    Forgets debug kind (tryCatch run handle) := by
  intro world
  obtain ⟨result, middle, text, more, quiet, goes⟩ := first world
  cases result with
  | ok value =>
      refine ⟨.ok value, middle, text, more, quiet, fun log errors calls kept => ?_⟩
      obtain ⟨left, keeps, ends⟩ := goes log errors calls kept
      exact ⟨left, keeps, tryCatch_of_ok ends⟩
  | error raised =>
      obtain ⟨result, after, text', more', quiet', goes'⟩ := rest raised middle
      refine ⟨result, after, text ++ text', more ++ more',
        fun plain => (quiet plain).append (quiet' plain), fun log errors calls kept => ?_⟩
      obtain ⟨left, keeps, ends⟩ := goes log errors calls kept
      obtain ⟨last, stays, finishes⟩ := goes' left (errors ++ text) (calls ++ more) keeps
      refine ⟨last, stays, ?_⟩
      rw [List.append_assoc, List.append_assoc] at finishes
      exact (tryCatch_of_error ends).trans finishes

/-- What a run is decided by may be anything else in the world. -/
theorem Forgets.reading {next : World → Run α}
    (blind : ∀ (world : World) log errors engineCalls,
      next { world with log, errors, engineCalls } = next world)
    (rest : ∀ world, Forgets debug kind (next world)) : Forgets debug kind (get >>= next) := by
  intro world
  obtain ⟨result, after, text, more, quiet, goes⟩ := rest world world
  refine ⟨result, after, text, more, quiet, fun log errors calls kept => ?_⟩
  obtain ⟨left, keeps, ends⟩ := goes log errors calls kept
  refine ⟨left, keeps, ?_⟩
  rw [← ends, ← blind world log errors calls]
  rfl

theorem Forgets.changing {change : World → World}
    (blind : ∀ (world : World) log errors engineCalls,
      change { world with log, errors, engineCalls } =
        { change world with log, errors, engineCalls }) :
    Forgets debug kind (modify change) :=
  .still fun world => ⟨.ok (), change world, fun log errors calls =>
    congrArg (EStateM.Result.ok ()) (blind world log errors calls)⟩

/-- A call of the engine is recorded behind the others. -/
theorem Forgets.calling (call : EngineCall) :
    Forgets debug kind (modify fun world =>
      { world with engineCalls := world.engineCalls ++ [call] }) := by
  intro world
  refine ⟨.ok (), world, [], [call], fun _ => .none, fun log errors calls kept => ⟨log, kept, ?_⟩⟩
  rw [List.append_nil]
  rfl

/-- A message for the user, or the fault that stops it. -/
theorem Forgets.complain {message : Console → Except Fault Text}
    (remark : ∀ console shown, message console = .ok shown → Remark shown) :
    Forgets debug kind (Run.complain message) := by
  intro world
  cases printed : message world.console with
  | ok shown =>
      refine ⟨.ok (), world, Text.surrogatesEscaped shown, [],
        fun _ => .one (remark world.console shown printed),
        fun log errors calls kept => ⟨log, kept, ?_⟩⟩
      rw [List.append_nil calls]
      exact complain_of_ok printed
  | error fault =>
      refine ⟨.error { fault }, world, [], [], fun _ => .none,
        fun log errors calls kept => ⟨log, kept, ?_⟩⟩
      rw [List.append_nil, List.append_nil]
      exact complain_of_error printed

/-- A message that needs no console. -/
theorem Forgets.remarking {message : World → Text}
    (blind : ∀ (world : World) log errors engineCalls,
      message { world with log, errors, engineCalls } = message world)
    (remark : ∀ world, Remark (message world)) :
    Forgets debug kind (modify fun world => world.complain (message world)) := by
  intro world
  refine ⟨.ok (), world, Text.surrogatesEscaped (message world), [], fun _ => .one (remark world),
    fun log errors calls kept => ⟨log, kept, ?_⟩⟩
  rw [← blind world log errors calls, List.append_nil]
  rfl

/-! ## Records -/

def shownLines (lines : List LogLine) : Text :=
  lines.flatMap fun line => Text.surrogatesEscaped line.text

def lineText (debug : Bool) (time : Text) (record : LogRecord) : Text :=
  shownLines (Log.ownLines (some ⟨debug, .errors⟩) time record)

theorem lineText_quiet {record : LogRecord} (low : record.level.rank < LogLevel.warning.rank)
    (time : Text) : lineText false time record = [] := by
  rw [lineText, Log.ownLines_of_not_reaches (decide_eq_false (Int.not_le.mpr low))]
  rfl

theorem addLines_errors (world : World) {lines : List LogLine}
    (here : ∀ line ∈ lines, line.target = .errors) :
    world.addLines lines = { world with errors := world.errors ++ shownLines lines } := by
  induction lines generalizing world with
  | nil =>
      change world = { world with errors := world.errors ++ [] }
      rw [List.append_nil]
  | cons line rest ih =>
      obtain ⟨first, others⟩ := List.forall_mem_cons.mp here
      obtain ⟨target, text⟩ := line
      cases first
      change (world.complain text).addLines rest = _
      rw [ih _ others]
      change { world with errors := world.errors ++ _ ++ _ } = _
      rw [List.append_assoc]
      rfl

theorem ownLines_target {debug : Bool} {time : Text} {record : LogRecord} :
    ∀ line ∈ Log.ownLines (some ⟨debug, .errors⟩) time record, line.target = .errors := by
  intro line member
  rw [Log.ownLines] at member
  split at member
  · rw [List.mem_singleton.mp member]
  · cases member

/-- A record of the program goes to the error stream of the run, if it goes anywhere. -/
theorem record_own (world : World) {record : LogRecord} (own : Log.Own record.logger)
    (configured : world.log.IsConfigured debug) :
    ∃ left : Log, left.IsConfigured debug ∧ world.record record =
      { world with log := left, errors := world.errors ++ lineText debug world.clock record } := by
  refine ⟨(world.log.emit world.clock record).1, configured.emit world.clock record, ?_⟩
  have lines : (world.log.emit world.clock record).2 =
      Log.ownLines (some ⟨debug, .errors⟩) world.clock record :=
    (configured.know record.logger).own_lines own world.clock
  change World.addLines _ (world.log.emit world.clock record).2 = _
  rw [lines]
  exact addLines_errors _ ownLines_target

theorem Forgets.logging {logger : Text} {level : LogLevel} (own : Log.Own logger)
    (low : level.rank < LogLevel.warning.rank) (message : Text) :
    Forgets debug (Log.IsConfigured debug) (Run.log logger level message) := by
  intro world
  let record : LogRecord := ⟨logger, level, message⟩
  have mine : Log.Own record.logger := own
  refine ⟨.ok (), world, lineText debug world.clock record, [], ?_,
    fun log errors calls configured => ?_⟩
  · rintro rfl
    rw [lineText_quiet (low : record.level.rank < LogLevel.warning.rank)]
    exact .none
  · obtain ⟨left, keeps, recorded⟩ :=
      record_own { world with log, errors, engineCalls := calls } mine configured
    refine ⟨left, keeps, ?_⟩
    rw [List.append_nil]
    exact congrArg (EStateM.Result.ok ()) recorded

theorem Forgets.debugging {logger : Text} (own : Log.Own logger) (message : Text) :
    Forgets debug (Log.IsConfigured debug) (Run.debug logger message) :=
  .logging own (by decide) message

def AnyLog : Log → Prop := fun _ => True

theorem configureLog_own (world : World) (debug : Bool) :
    let setting : LogSetting := ⟨debug, .errors⟩
    ∃ left : Log, left.IsConfigured debug ∧ world.configureLog debug =
      { world with
        log := left
        errors := world.errors ++ lineText debug world.clock setting.announcement } := by
  intro setting
  have own : Log.Own setting.announcement.logger := .package
  exact record_own { world with log := world.log.configured debug .errors } own
    (world.log.configured_follows setting)

/-- Whatever was logged and configured before, a configuration puts the log in order. -/
theorem Forgets.configured {run : Run α} (rest : Forgets debug (Log.IsConfigured debug) run) :
    Forgets debug AnyLog (do
      modify fun world => world.configureLog debug
      run) := by
  intro world
  obtain ⟨result, after, text, more, quiet, goes⟩ := rest world
  let record := LogSetting.announcement ⟨debug, .errors⟩
  refine ⟨result, after, lineText debug world.clock record ++ text, more, ?_,
    fun log errors calls _ => ?_⟩
  · rintro rfl
    rw [lineText_quiet (by decide : record.level.rank < LogLevel.warning.rank)]
    exact quiet rfl
  · obtain ⟨left, keeps, recorded⟩ :=
      configureLog_own { world with log, errors, engineCalls := calls } debug
    obtain ⟨last, stays, ends⟩ :=
      goes left (errors ++ lineText debug world.clock record) calls keeps
    refine ⟨last, trivial, ?_⟩
    rw [List.append_assoc] at ends
    rw [← ends]
    exact bind_of_ok (congrArg (EStateM.Result.ok ()) recorded)

end Run

open Run

variable {debug : Bool}

namespace Source

theorem logger_own : Log.Own logger :=
  @Log.Own.inside logger "infra.source_io" (by decide) (by decide)

theorem readPath_forgets (path : Path) :
    Forgets debug (Log.IsConfigured debug) (readPath path) := by
  refine .reading (fun _ _ _ _ => rfl) fun world => ?_
  cases world.tree.readText path with
  | ok text => exact (Forgets.debugging logger_own _).bind fun _ => .pure text
  | error fault => exact .throw _

theorem readStream_forgets : Forgets debug (Log.IsConfigured debug) readStream := by
  refine .reading (fun _ _ _ _ => rfl) fun world => ?_
  obtain ⟨result, input⟩ := world.input.readAll
  refine (Forgets.changing fun _ _ _ _ => rfl).bind fun _ => ?_
  cases result with
  | ok text => exact (Forgets.debugging logger_own _).bind fun _ => .pure text
  | error fault => exact .throw _

theorem writeStream_forgets (text : Text) (kind : Log → Prop) :
    Forgets debug kind (writeStream text) := by
  refine .still fun world => ?_
  cases wrote : world.output.deliver text with
  | ok _ output =>
      refine ⟨.ok (), { world with output }, fun _ _ _ => ?_⟩
      simp only [writeStream, wrote, ended]
  | error fault output =>
      refine ⟨.error (mapped isStreamFault .outputWrite "Failed to write to stdout" fault),
        { world with output }, fun _ _ _ => ?_⟩
      simp only [writeStream, wrote, ended]

theorem writePath_forgets (path : Path) (text : Text) :
    Forgets debug (Log.IsConfigured debug) (writePath path text) := by
  refine .reading (fun _ _ _ _ => rfl) fun world => ?_
  obtain ⟨result, tree⟩ := world.tree.writeText path text
  refine (Forgets.changing fun _ _ _ _ => rfl).bind fun _ => ?_
  cases result with
  | ok => exact .debugging logger_own _
  | error fault => exact .throw _

end Source

namespace Formatting

theorem logger_own : Log.Own logger :=
  @Log.Own.inside logger "core.format_service" (by decide) (by decide)

theorem toolkitLogger_own : Log.Own toolkitLogger :=
  @Log.Own.inside toolkitLogger "infra.gdtoolkit_engine" (by decide) (by decide)

theorem callToolkit_forgets (toolkit : Toolkit) (source : Text) (config : FormatterConfig) :
    Forgets debug (Log.IsConfigured debug) (callToolkit toolkit source config) := by
  unfold callToolkit
  cases toolkit.importFault? with
  | some fault => cases fault <;> exact .throw _
  | none =>
      cases config.reorderCode with
      | true => exact .refusing reorderRefused _
      | false =>
          refine (Forgets.debugging toolkitLogger_own _).bind fun _ => ?_
          refine (Forgets.changing fun _ _ _ _ => rfl).bind fun _ => ?_
          cases toolkit.formatCode (Toolkit.callFor source config) with
          | ok result => exact .pure result
          | error fault => exact .throw _

theorem callEngine_forgets (engine : Engine) (source : Text) (config : FormatterConfig) :
    Forgets debug (Log.IsConfigured debug) (callEngine engine source config) := by
  refine (Forgets.calling _).bind fun _ => ?_
  cases engine with
  | toolkit used => exact callToolkit_forgets used source config
  | custom name format =>
      refine .reading (fun _ _ _ _ => rfl) fun world => ?_
      obtain ⟨result, tree⟩ := format source config world.tree
      refine (Forgets.changing fun _ _ _ _ => rfl).bind fun _ => ?_
      cases result with
      | ok result => exact .pure result
      | error fault => exact .throw _

theorem format_forgets (engine : Engine) (source : Text) (config : FormatterConfig) :
    Forgets debug (Log.IsConfigured debug) (format engine source config) := by
  refine (Forgets.debugging logger_own _).bind fun _ => ?_
  refine Forgets.bind ((callEngine_forgets engine source config).caught fun _ => .throw _)
    fun result => ?_
  cases result with
  | text formatted => exact (Forgets.debugging logger_own _).bind fun _ => .pure formatted
  | _ => exact .throw _

end Formatting

namespace Delivery

theorem logger_own : Log.Own logger :=
  @Log.Own.inside logger "cli.output" (by decide) (by decide)

theorem emit_forgets (formatted : Text) (kind : Log → Prop) :
    Forgets debug kind (emit formatted) :=
  (Source.writeStream_forgets formatted kind).bind fun _ => .pure _

theorem reportCheck_forgets (source formatted : Text) (kind : Log → Prop) :
    Forgets debug kind (reportCheck source formatted) := by
  unfold reportCheck
  split
  · exact (Source.writeStream_forgets _ kind).bind fun _ => .pure _
  · exact (Forgets.complain fun _ _ printed => .difference printed).bind fun _ => .pure _

theorem writeBack_forgets (path : Path) (formatted : Text) :
    Forgets debug (Log.IsConfigured debug) (writeBack path formatted) := by
  refine (Source.writePath_forgets path formatted).bind fun _ => ?_
  exact (Forgets.logging logger_own (by decide) _).bind fun _ => .pure _

theorem dispatch_forgets (mode : OutputMode) (source formatted : Text) (path : Option Path) :
    Forgets debug (Log.IsConfigured debug) (dispatch mode source formatted path) := by
  refine (Forgets.debugging logger_own _).bind fun _ => ?_
  cases mode with
  | check => exact reportCheck_forgets source formatted _
  | stdout => exact emit_forgets formatted _
  | overwrite =>
      cases path with
      | some path => exact writeBack_forgets path formatted
      | none => exact .throw _

end Delivery

end ScriptFormat
