import ScriptFormat.Proofs.Run.Forgetting

/-!
# Runs that keep together

Two worlds are beside each other if they differ in the log and in the recorded calls of the
engine at most. Two runs keep together if from such worlds they end the same and leave such
worlds. A run that does not remember keeps together with itself; where two runs log
different texts or record different calls, they keep together as well.
-/

namespace ScriptFormat

/-- Worlds that differ in the log and the calls of the engine at most, with logs of a kind. -/
structure World.Beside (kind : Log → Prop) (world other : World) : Prop where
  here : kind world.log
  there : kind other.log
  same : ∃ log engineCalls, other = { world with log, engineCalls }

namespace Run

variable {α β : Type} {debug : Bool} {kind : Log → Prop}

/-- From worlds beside each other two runs end the same, in worlds beside each other. -/
def Together (kind : Log → Prop) (run other : Run α) : Prop :=
  ∀ world start, World.Beside kind world start → ∃ result after last,
    run world = ended result after ∧ other start = ended result last ∧ World.Beside kind after last

structure Coincide (run other : Run α) (world : World) : Prop where
  result : other.result world = run.result world
  after : ∃ log engineCalls, other.after world = { run.after world with log, engineCalls }

theorem Together.coincide {run other : Run α} (together : Together AnyLog run other)
    (world : World) : Coincide run other world := by
  have beside : World.Beside AnyLog world world :=
    ⟨trivial, trivial, world.log, world.engineCalls, rfl⟩
  obtain ⟨result, after, last, ends, finishes, _, _, same⟩ := together world world beside
  refine ⟨(result_of_ended finishes).trans (result_of_ended ends).symm, ?_⟩
  rw [after_of_ended ends, after_of_ended finishes]
  exact same

theorem Forgets.together {run : Run α} (forgets : Forgets debug kind run) :
    Together kind run run := by
  rintro world _ ⟨here, there, log, calls, rfl⟩
  obtain ⟨result, after, text, more, _, goes⟩ := forgets world
  obtain ⟨left, keeps, ends⟩ := goes world.log world.errors world.engineCalls here
  obtain ⟨last, stays, finishes⟩ := goes log world.errors calls there
  exact ⟨result, _, _, ends, finishes, keeps, stays, last, calls ++ more, rfl⟩

theorem Together.pure (value : α) : Together kind (pure value) (pure value) :=
  (Forgets.pure value : Forgets false kind _).together

theorem Together.throw (raised : Raised) :
    Together kind (throw raised : Run α) (throw raised) :=
  (Forgets.throw raised : Forgets false kind _).together

theorem Together.bind {run other : Run α} {next following : α → Run β}
    (first : Together kind run other)
    (rest : ∀ value, Together kind (next value) (following value)) :
    Together kind (run >>= next) (other >>= following) := by
  intro world start beside
  obtain ⟨result, middle, left, ends, finishes, between⟩ := first world start beside
  cases result with
  | error raised =>
      exact ⟨.error raised, middle, left, bind_of_error ends, bind_of_error finishes, between⟩
  | ok value =>
      obtain ⟨result, after, last, goes, follows, behind⟩ := rest value middle left between
      exact ⟨result, after, last, (bind_of_ok ends).trans goes,
        (bind_of_ok finishes).trans follows, behind⟩

theorem Together.map {run other : Run α} (change : α → β) (together : Together kind run other) :
    Together kind (change <$> run) (change <$> other) :=
  together.bind fun value => .pure (change value)

theorem Together.caught {run other : Run α} {handle : Raised → Run α}
    (first : Together kind run other)
    (rest : ∀ raised, Together kind (handle raised) (handle raised)) :
    Together kind (tryCatch run handle) (tryCatch other handle) := by
  intro world start beside
  obtain ⟨result, middle, left, ends, finishes, between⟩ := first world start beside
  cases result with
  | ok value =>
      exact ⟨.ok value, middle, left, tryCatch_of_ok ends, tryCatch_of_ok finishes, between⟩
  | error raised =>
      obtain ⟨result, after, last, goes, follows, behind⟩ := rest raised middle left between
      exact ⟨result, after, last, (tryCatch_of_error ends).trans goes,
        (tryCatch_of_error finishes).trans follows, behind⟩

/-- Different calls may be recorded. -/
theorem Together.calling (call other : EngineCall) :
    Together kind
      (modify fun world => { world with engineCalls := world.engineCalls ++ [call] })
      (modify fun world => { world with engineCalls := world.engineCalls ++ [other] }) := by
  rintro world _ ⟨here, there, log, calls, rfl⟩
  exact ⟨.ok (), _, _, rfl, rfl, here, there, log, calls ++ [other], rfl⟩

/-- A record of the program below the level leaves no trace but in the log. -/
theorem record_low (world : World) {record : LogRecord} (own : Log.Own record.logger)
    (low : record.level.rank < LogLevel.warning.rank)
    (configured : world.log.IsConfigured false) :
    ∃ left : Log, left.IsConfigured false ∧ world.record record = { world with log := left } := by
  obtain ⟨left, keeps, recorded⟩ := record_own world own configured
  refine ⟨left, keeps, ?_⟩
  rw [recorded, lineText_quiet low, List.append_nil]

/-- Different texts may be logged where diagnostics are not asked for. -/
theorem Together.debugging {logger : Text} (own : Log.Own logger) (message other : Text) :
    Together (Log.IsConfigured false) (Run.debug logger message) (Run.debug logger other) := by
  rintro world _ ⟨here, there, log, calls, rfl⟩
  have low : LogLevel.debug.rank < LogLevel.warning.rank := by decide
  obtain ⟨left, keeps, recorded⟩ := @record_low world ⟨logger, .debug, message⟩ own low here
  obtain ⟨last, stays, again⟩ :=
    @record_low { world with log, engineCalls := calls } ⟨logger, .debug, other⟩ own low there
  exact ⟨.ok (), _, _, congrArg (EStateM.Result.ok ()) recorded,
    congrArg (EStateM.Result.ok ()) again, keeps, stays, last, calls, rfl⟩

/-- A configuration without diagnostics leaves no trace but in the log either. -/
theorem configureLog_low (world : World) :
    ∃ left : Log, left.IsConfigured false ∧
      world.configureLog false = { world with log := left } := by
  obtain ⟨left, keeps, configured⟩ := configureLog_own world false
  have low : LogLevel.debug.rank < LogLevel.warning.rank := by decide
  refine ⟨left, keeps, ?_⟩
  rw [configured, lineText_quiet low, List.append_nil]

/-- It puts both logs in order, whatever they were. -/
theorem Together.configured {run other : Run α}
    (together : Together (Log.IsConfigured false) run other) :
    Together AnyLog
      (do
        modify fun world => world.configureLog false
        run)
      (do
        modify fun world => world.configureLog false
        other) := by
  rintro world _ ⟨_, _, log, calls, rfl⟩
  obtain ⟨left, keeps, configured⟩ := configureLog_low world
  obtain ⟨last, stays, again⟩ := configureLog_low { world with log, engineCalls := calls }
  have between : World.Beside (Log.IsConfigured false) (world.configureLog false)
      (World.configureLog { world with log, engineCalls := calls } false) := by
    rw [configured, again]
    exact ⟨keeps, stays, last, calls, rfl⟩
  obtain ⟨result, after, finish, ends, finishes, _, _, same⟩ := together _ _ between
  exact ⟨result, after, finish, ends, finishes, trivial, trivial, same⟩

end Run

end ScriptFormat
