import ScriptFormat.Proofs.Program.Reading
import ScriptFormat.Proofs.Program.Acquisition

/-!
# Inputs that cannot be read

Without an operand the whole input goes to the engine, or the run ends with an error that
says why it was not read, and nothing has been called. Two inputs get past this: one that
is not there, and one that fails to say whether it is a terminal by a fault of the system.
-/

namespace ScriptFormat

namespace InputStream

variable {stream : InputStream} {fault : Fault}

structure Guarded (stream : InputStream) : Prop where
  reading : ∀ fault, stream.content = .failing fault → Source.isStreamFault fault = true
  probing : ∀ fault, stream.terminal = .fails fault → Source.isStreamFault fault = true

def absentFault : Fault := .ofAttribute "'NoneType' object has no attribute 'read'"

theorem readAll_absent (absent : stream.content = .absent) :
    stream.readAll = (.error absentFault, stream) := by
  rw [readAll, absent]
  rfl

theorem closedFault_isStreamFault (content : InputContent) :
    Source.isStreamFault (closedFault content) = true := by
  cases content <;> rfl

/-- What keeps a stream that is there from being read is for the guard of streams. -/
theorem Guarded.isStreamFault_of_readAll (guarded : stream.Guarded)
    (present : stream.content ≠ .absent) (failed : stream.readAll.1 = .error fault) :
    Source.isStreamFault fault = true := by
  unfold readAll at failed
  split at failed
  · next absent => exact absurd absent present
  · next failing =>
      cases failed
      exact guarded.reading fault failing
  · split at failed
    · cases failed
      exact closedFault_isStreamFault _
    · dsimp only at failed
      split at failed
      · cases failed
      · cases failed
        rfl
  · split at failed
    · cases failed
      exact closedFault_isStreamFault _
    · cases failed

/-- A fault of a value counts as an answer, so only a fault of the system is left. -/
theorem Guarded.isSystem_of_isInteractive (guarded : stream.Guarded)
    (failed : stream.isInteractive = .error fault) : fault.isSystem = true := by
  unfold isInteractive at failed
  split at failed
  · cases failed
  · cases failed
  · next fails =>
      split at failed
      · cases failed
      · next noValue =>
          cases failed
          have caught := guarded.probing fault fails
          rw [Source.isStreamFault, Bool.eq_false_iff.mpr noValue, Bool.or_false] at caught
          exact caught

end InputStream

theorem Fault.isOrdinary_of_isSystem {fault : Fault} (system : fault.isSystem = true) :
    fault.isOrdinary = true := by
  cases fault with
  | system => rfl
  | foreign family =>
      cases family <;> first | rfl | cases system
  | _ => cases system

namespace Program

open Run CommandLine

/-- Help is offered, or the text of an input goes to the engine, or why it does not is raised and
shown. -/
inductive DrainedOrReported (engine : Engine) (arguments : List Text) (config : FormatterConfig)
    (world : World) : Prop where
  | helped (offers : OffersHelp arguments world)
      (run : main engine arguments world =
        (do Source.writeStream (help world.columns); return ExitStatus.success : Run Int) world)
  | drained {source : Text} (contains : world.input.Contains source)
      (called : ((main engine arguments).after world).engineCalls =
        world.engineCalls ++ [⟨source, config⟩])
  | reported {cause : Fault} {error : TypedError} (failed : world.input.readAll.1 = .error cause)
      (surfaces : Source.Surfaces .sourceRead "Failed to read from stdin: " cause
        { fault := .typed error, cause := some cause })
      (raised : (main engine arguments).result world =
        .error { fault := .typed error, cause := some cause })
      (untouched : Untouched { world with input := world.input.readAll.2 }
        ((main engine arguments).after world))
      (status : (cli engine arguments).result world = .ok (.number ExitStatus.generalError))
      (shown : Reported error ((main engine arguments).after world)
        ((cli engine arguments).after world))

section Draining

variable {arguments : List Text} {invocation : Invocation} {world : World}

theorem readAll_fails (engine : Engine) (reads : Reads arguments world (.ok invocation))
    (nameless : invocation.input = none) {fault : Fault}
    (failed : world.input.readAll.1 = .error fault) :
    (main engine arguments).result world =
        .error (Source.mapped Source.isStreamFault .sourceRead "Failed to read from stdin" fault) ∧
      Untouched { world with input := world.input.readAll.2 }
        ((main engine arguments).after world) := by
  have acquired := Invocation.acquired_input nameless world.tree world.input
  rw [failed] at acquired
  have course : Course engine arguments world _ _ :=
    .unread reads (congrArg Prod.fst acquired)
  obtain ⟨log, errors, left⟩ := course.yields.after_eq
  refine ⟨course.yields.result_eq, log, errors, ?_⟩
  rw [left, World.acquired, acquired]

theorem drainedOrReported_of_reads (engine : Engine)
    (reads : Reads arguments world (.ok invocation)) (nameless : invocation.input = none)
    (guarded : world.input.Guarded) (present : world.input.content ≠ .absent) :
    DrainedOrReported engine arguments invocation.config world := by
  cases read : world.input.readAll.1 with
  | ok source =>
      have acquired : (invocation.acquired world.tree world.input).1 = .ok source := by
        rw [Invocation.acquired_input nameless, read]
        rfl
      exact .drained (InputStream.readAll_eq_ok_iff.mp read)
        (engineCalls_of_acquired engine reads acquired)
  | error cause =>
      obtain ⟨raised, untouched⟩ := readAll_fails engine reads nameless read
      have caught := guarded.isStreamFault_of_readAll present read
      have surfaces := Source.mapped_surfaces .sourceRead "Failed to read from stdin" cause
      rw [Source.mapped, if_pos caught, Raised.from] at raised surfaces
      obtain ⟨last, reported, reports⟩ := report_typed _ (some cause)
        ((main engine arguments).after world)
      have ends := (cli_of_error raised).trans reports
      refine .reported read surfaces raised untouched (result_of_ok ends) ?_
      rw [after_of_ok ends]
      exact reported

end Draining

def FailsProbe (arguments : List Text) (world : World) (fault : Fault) : Prop :=
  arguments = [] ∧ world.input.isInteractive = .error fault

theorem cli_of_failsProbe (engine : Engine) {arguments : List Text} {world : World} {fault : Fault}
    (failed : FailsProbe arguments world fault) (system : fault.isSystem = true)
    (named : Markup.opening ∉ fault.name) :
    (cli engine arguments).result world = .ok (.number ExitStatus.unexpectedError) := by
  have ordinary := Fault.isOrdinary_of_isSystem system
  have untyped : fault.isTyped = false := by
    cases fault with
    | typed => cases system
    | _ => rfl
  have stopped : (main engine arguments).result world = .error { fault } := by
    rw [Run.result, main_unprobed failed.1 failed.2]
  rw [cli_of_admitted stopped ⟨.inl ordinary, named⟩, Fault.status_unexpected ordinary untyped]

/-- A run without an operand offers help, gives the engine the whole input or reports why it cannot.
Only an input that fails to say whether it is a terminal, and one that is not there, stop it by a
fault that no error is made of. -/
theorem main_drains_or_reports (engine : Engine) {arguments : List Text} {invocation : Invocation}
    (world : World) (parsed : parse arguments = .ok invocation)
    (nameless : invocation.input = none) (guarded : world.input.Guarded) :
    ((¬ ∃ fault, FailsProbe arguments world fault) → world.input.content ≠ .absent →
      DrainedOrReported engine arguments invocation.config world) ∧
    (∀ fault, FailsProbe arguments world fault → fault.isSystem = true ∧
      main engine arguments world = .error { fault } world ∧
      (Markup.opening ∉ fault.name →
        (cli engine arguments).result world = .ok (.number ExitStatus.unexpectedError))) ∧
    (Reads arguments world (.ok invocation) → world.input.content = .absent →
      (main engine arguments).result world = .error { fault := InputStream.absentFault } ∧
        Untouched world ((main engine arguments).after world) ∧
        (cli engine arguments).result world = .ok (.number ExitStatus.unexpectedError)) := by
  refine ⟨fun probed present => ?_, fun fault failed => ?_, fun reads absent => ?_⟩
  · by_cases nothing : arguments = []
    · cases answers : world.input.isInteractive with
      | error fault => exact absurd ⟨fault, nothing, answers⟩ probed
      | ok interactive =>
          cases interactive with
          | true => exact .helped ⟨nothing, answers⟩ (main_offers nothing answers)
          | false =>
              exact drainedOrReported_of_reads engine ⟨parsed, fun _ => answers⟩ nameless guarded
                present
    · exact drainedOrReported_of_reads engine ⟨parsed, fun none => absurd none nothing⟩ nameless
        guarded present
  · have system := guarded.isSystem_of_isInteractive failed.2
    exact ⟨system, main_unprobed failed.1 failed.2, cli_of_failsProbe engine failed system⟩
  · have unread := InputStream.readAll_absent absent
    obtain ⟨raised, untouched⟩ := readAll_fails engine reads nameless (congrArg Prod.fst unread)
    rw [unread] at untouched
    exact ⟨raised, untouched, cli_of_admitted raised (Fault.ofAttribute_admitted _)⟩

/-- A closed input is no terminal, and reading it is reported. -/
theorem main_drains_or_reports_closed :
    let world := { desk with input := .ofContent (.bytes [112]) true }
    parse [] = .ok { input := none } ∧ world.input.Guarded ∧
      (¬ ∃ fault, FailsProbe [] world fault) ∧ world.input.content ≠ .absent ∧
      DrainedOrReported lineEnding [] {} world := by
  intro world
  have guarded : world.input.Guarded := by
    constructor
    · intro fault impossible
      cases impossible
    · intro fault fails
      cases fails
      rfl
  have probed : ¬ ∃ fault, FailsProbe [] world fault := by
    rintro ⟨fault, _, impossible⟩
    cases impossible
  have present : world.input.content ≠ .absent := by
    intro impossible
    cases impossible
  have parsed : parse [] = .ok { input := none } := rfl
  exact ⟨parsed, guarded, probed, present,
    (main_drains_or_reports lineEnding world parsed rfl guarded).1 probed present⟩

/-- The fault of a terminal that fails is no read error, nor is the one of reading nothing. -/
theorem main_raises_on_failing_terminal :
    let device := Fault.system 5 "Input/output error" []
    let failing := { desk with input := { content := .text "x", terminal := .fails device } }
    let absent := { desk with input := .absent }
    (failing.input.Guarded ∧ parse [] = .ok { input := none } ∧
      (main lineEnding []).result failing = .error { fault := device } ∧
      (cli lineEnding []).result failing = .ok (.number ExitStatus.unexpectedError)) ∧
    (absent.input.Guarded ∧ parse ["-c"] = .ok { input := none, check := true } ∧
      (main lineEnding ["-c"]).result absent = .error { fault := InputStream.absentFault } ∧
      (cli lineEnding ["-c"]).result absent = .ok (.number ExitStatus.unexpectedError)) := by
  intro device failing absent
  constructor
  · have guarded : failing.input.Guarded := by
      constructor
      · intro fault impossible
        cases impossible
      · intro fault fails
        cases fails
        rfl
    have fails : FailsProbe [] failing device := ⟨rfl, rfl⟩
    have raised : (main lineEnding []).result failing = .error { fault := device } := by
      rw [Run.result, main_unprobed fails.1 fails.2]
    exact ⟨guarded, rfl, raised, cli_of_failsProbe lineEnding fails rfl (by decide)⟩
  · have guarded : absent.input.Guarded := by
      constructor
      · intro fault impossible
        cases impossible
      · intro fault impossible
        cases impossible
    have parsed : parse ["-c"] = .ok { input := none, check := true } := rfl
    have reads : Reads ["-c"] absent (.ok { input := none, check := true }) :=
      ⟨parsed, fun impossible => by cases impossible⟩
    have raised : (main lineEnding ["-c"]).result absent =
        .error { fault := InputStream.absentFault } :=
      (readAll_fails lineEnding reads rfl rfl).1
    exact ⟨guarded, parsed, raised, cli_of_admitted raised (Fault.ofAttribute_admitted _)⟩

end Program

end ScriptFormat
