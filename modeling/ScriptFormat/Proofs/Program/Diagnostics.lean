import ScriptFormat.Proofs.CommandLine.Tracing
import ScriptFormat.Proofs.Program.Boundary
import ScriptFormat.Proofs.Program.Course

/-!
# Diagnostics do not interfere

A run with a command line goes the same way with the switch for diagnostics and without it,
and whether markup can be rendered or not: it gives the same, and the worlds that it leaves
differ in nothing but the log, the error stream and the console.
-/

namespace ScriptFormat

open Run

def World.Alike (world other : World) : Prop :=
  ∃ log errors console, other = { world with log, errors, console }

namespace Run

/-- Two runs, each from a world, give the same and leave worlds that differ in diagnostics only. -/
structure Agree {α : Type} (run other : Run α) (world start : World) : Prop where
  result : other.result start = run.result world
  after : (run.after world).Alike (other.after start)

variable {α : Type}

theorem Yields.agree {run other : Run α} {world start after last : World}
    {result : Except Raised α} (yields : Yields run world result after)
    (again : Yields other start result last) (alike : after.Alike last) :
    Agree run other world start := by
  obtain ⟨log, errors, left⟩ := yields.after_eq
  obtain ⟨log', errors', left'⟩ := again.after_eq
  refine ⟨again.result_eq.trans yields.result_eq.symm, ?_⟩
  rw [left, left']
  obtain ⟨_, _, console, rfl⟩ := alike
  exact ⟨log', errors', console, rfl⟩

end Run

theorem Reads.traced {arguments : List Text} {world : World}
    {parsed : Except CommandLine.Ending Invocation} (reads : Reads arguments world parsed)
    (given : arguments ≠ []) (debug : Bool) (other : World) :
    Reads (CommandLine.traced debug arguments) other
      (parsed.map (Invocation.traced debug)) where
  parsed := by rw [CommandLine.parse_traced, reads.parsed]
  proceeds nothing := by
    cases debug with
    | false => exact absurd nothing given
    | true => cases nothing

theorem Delivery.Delivers.traced {invocation : Invocation} {source formatted : Text}
    {world after : World} {result : Except Raised Int}
    (delivers : Delivers invocation source formatted world result after) (debug : Bool) (log : Log)
    (errors : Text) (console : Console) :
    Delivers (invocation.traced debug) source formatted { world with log, errors, console } result
      { after with log, errors, console } := by
  cases delivers with
  | printed prints delivered => exact .printed prints delivered
  | unprinted prints failed => exact .unprinted prints failed
  | different checks apart => exact .different checks apart
  | written overwrites named wrote => exact .written overwrites named wrote
  | unwritten overwrites named failed => exact .unwritten overwrites named failed

namespace Program

variable {engine : Engine} {arguments : List Text} {world other after : World}

/-- The same course is open to the other run. -/
theorem Course.traced {result : Except Raised Int}
    (course : Course engine arguments world result after) (given : arguments ≠ [])
    (debug : Bool) (alike : world.Alike other) :
    ∃ last, Course engine (CommandLine.traced debug arguments) other result last ∧
      after.Alike last := by
  obtain ⟨log, errors, console, rfl⟩ := alike
  refine ⟨{ after with log, errors, console }, ?_, log, errors, console, rfl⟩
  -- A command line never comes to the offer of help, so the first three courses are out.
  have again {parsed : Except CommandLine.Ending Invocation}
      (reads : Reads arguments world parsed) :
      Reads (CommandLine.traced debug arguments) { world with log, errors, console }
        (parsed.map (Invocation.traced debug)) := reads.traced given debug _
  cases course with
  | unprobed nothing => exact absurd nothing given
  | helped nothing => exact absurd nothing given
  | unhelped nothing => exact absurd nothing given
  | @shown ending text output screen reads asked wrote =>
      have writes := onScreen_with text world log errors console world.engineCalls
      rw [wrote] at writes
      exact .shown (again reads) asked writes
  | @unshown ending text fault output screen reads asked failed raises =>
      have writes := onScreen_with text world log errors console world.engineCalls
      rw [failed] at writes
      exact .unshown (again reads) asked writes raises
  | misused reads => exact .misused (again reads)
  | @unread invocation _ reads failed =>
      exact @Course.unread _ _ _ (invocation.traced debug) _ (again reads) failed
  | @unformatted invocation source _ reads acquired failed =>
      exact @Course.unformatted _ _ _ (invocation.traced debug) _ _ (again reads) acquired failed
  | @delivered invocation source formatted _ _ reads acquired answered delivers =>
      exact @Course.delivered _ _ _ (invocation.traced debug) _ _ _ _ (again reads) acquired
        answered (delivers.traced debug log errors console)

end Program

/-! ## Faults whose reports can be printed -/

/-- A fault that is reported with the name of its class has one without a bracket in it, as names
of classes are. -/
def Fault.Named (fault : Fault) : Prop :=
  fault.isOrdinary = true → Markup.opening ∉ fault.name

theorem Fault.Admitted.isNamed {fault : Fault} (admitted : fault.Admitted) : fault.Named :=
  fun _ => admitted.named

def OutputStream.Named (stream : OutputStream) : Prop :=
  ∀ scripted method fault, stream = .scripted scripted → scripted.fails method = some fault →
    fault.Named

structure World.Named (world : World) : Prop where
  input : ∀ fault, world.input.content = .failing fault → fault.Named
  output : world.output.Named
  screen : ∀ screen, world.screen = some screen → screen.Named

theorem OutputStream.Named.raises {stream : OutputStream} (named : stream.Named) {fault : Fault}
    (raises : stream.Raises fault) : fault.Named :=
  OutputStream.Raises.holds (fun _ => Fault.Admitted.isNamed) named raises

theorem World.Named.screen_raises {world : World} (named : world.Named) {fault : Fault}
    (raises : (world.screen.getD world.output).Raises fault) : fault.Named := by
  cases shown : world.screen with
  | none =>
      rw [shown] at raises
      exact named.output.raises raises
  | some screen =>
      rw [shown] at raises
      exact (named.screen screen shown).raises raises

theorem Source.mapped_named {fault : Fault} (named : fault.Named) (guarded : Fault → Bool)
    (kind : ErrorKind) (message : Text) : (mapped guarded kind message fault).fault.Named :=
  mapped_holds (fun _ => Fault.Admitted.isNamed) named guarded kind message

/-- Whatever an engine raises, an ordinary fault comes as a typed error. -/
theorem Formatting.engineFailed_named (raised : Raised) : (engineFailed raised).fault.Named := by
  rcases engineFailed_cases raised with ⟨error, typed⟩ | ⟨signal, passes⟩
  · rw [typed]
    exact (Fault.typed_admitted error).isNamed
  · rw [passes]
    intro ordinary
    rw [signal] at ordinary
    cases ordinary

theorem Formatting.outcome_named {answer : Except Raised Value} {raised : Raised}
    (failed : outcome answer = .error raised) : raised.fault.Named := by
  cases answer with
  | ok value => cases value <;> cases failed <;> exact (Fault.typed_admitted _).isNamed
  | error other =>
      cases failed
      exact engineFailed_named other

namespace Program

theorem unexpected_named {fault : Fault} (named : Markup.opening ∉ fault.name)
    (console : Console) : unexpected console fault = .ok (.number ExitStatus.unexpectedError) := by
  obtain ⟨shown, printed⟩ := console.printUnexpected_shows named
  rw [unexpected, printed]

theorem conclusion_named {raised : Raised} (named : raised.fault.Named)
    (console other : Console) : conclusion console raised = conclusion other raised := by
  obtain ⟨fault, cause⟩ := raised
  cases fault with
  | exit => rfl
  | typed => rfl
  | interrupt => rfl
  | foreign family name message =>
      unfold conclusion
      dsimp only
      split
      · next ordinary => rw [unexpected_named (named ordinary), unexpected_named (named ordinary)]
      · rfl
  | _ =>
      exact (unexpected_named (named rfl) console).trans
        (unexpected_named (named rfl) other).symm

variable {result : Except Raised Int} {after : World}

/-- A run leaves the console as it is. -/
theorem Course.console_eq (course : Course engine arguments world result after) :
    after.console = world.console := by
  cases course with
  | delivered reads acquired answered delivers => cases delivers <;> rfl
  | _ => rfl

/-- What stops a run with a command line can be reported. -/
theorem Course.named {raised : Raised}
    (course : Course engine arguments world (.error raised) after) (given : arguments ≠ [])
    (named : world.Named) : raised.fault.Named := by
  cases course with
  | unprobed nothing => exact absurd nothing given
  | unhelped nothing => exact absurd nothing given
  | shown => exact fun ordinary => nomatch ordinary
  | unshown reads asked failed raises => exact named.screen_raises raises
  | misused => exact fun ordinary => nomatch ordinary
  | unread reads failed =>
      exact Invocation.acquired_holds (fun _ => Fault.Admitted.isNamed) named.input failed
  | unformatted reads acquired failed => exact Formatting.outcome_named failed
  | delivered reads acquired answered delivers =>
      cases delivers with
      | unprinted prints failed =>
          exact Source.mapped_named (named.output.raises (OutputStream.raises_of_deliver failed))
            _ _ _
      | unwritten overwrites target failed =>
          exact Source.mapped_named (FileTree.writeText_admitted failed).isNamed _ _ _

theorem Course.concluded_eq
    (course : Course engine arguments world result after) (given : arguments ≠ [])
    (named : world.Named) (console other : Console) :
    concluded console result = concluded other result := by
  cases result with
  | ok status => rfl
  | error raised => exact conclusion_named (course.named given named) console other

/-- With diagnostics and without them, with markup and without it: a run inside the boundary gives
the same and leaves the same world, and so does a whole run, unless a report of it shows the name
of a class as markup that only one of the two consoles renders. -/
theorem diagnostics_do_not_interfere (engine : Engine) {arguments : List Text}
    (given : arguments ≠ []) (world : World) (debug : Bool) (console : Console) :
    Agree (main engine arguments) (main engine (CommandLine.traced debug arguments)) world
        { world with console } ∧
      (console = world.console ∨ world.Named →
        Agree (cli engine arguments) (cli engine (CommandLine.traced debug arguments)) world
          { world with console }) := by
  obtain ⟨result, after, course, yields⟩ := main_course engine arguments world
  have other : world.Alike { world with console } := ⟨world.log, world.errors, console, rfl⟩
  obtain ⟨last, again, alike⟩ := course.traced given debug other
  refine ⟨yields.agree again.yields alike, fun reportable => ?_⟩
  have whole := cli_yields again.yields
  have same : concluded last.console result = concluded after.console result := by
    rw [again.console_eq, course.console_eq]
    rcases reportable with rfl | named
    · rfl
    · exact course.concluded_eq given named _ _
  rw [same] at whole
  exact (cli_yields yields).agree whole alike

theorem diagnostics_do_not_interfere_at_desk :
    (["b.gd"] : List Text) ≠ [] ∧ desk.Named ∧
      Agree (main lineEnding ["b.gd"]) (main lineEnding ["--debug", "b.gd"]) desk
        { desk with console := .plain } ∧
      Agree (cli lineEnding ["b.gd"]) (cli lineEnding ["--debug", "b.gd"]) desk
        { desk with console := .plain } := by
  have given : (["b.gd"] : List Text) ≠ [] := by decide
  have named : desk.Named := {
    input := fun fault impossible => nomatch impossible
    output := fun scripted method fault impossible => nomatch impossible
    screen := fun screen impossible => nomatch impossible }
  obtain ⟨inside, whole⟩ := diagnostics_do_not_interfere lineEnding given desk true .plain
  exact ⟨given, named, inside, whole (.inr named)⟩

end Program

end ScriptFormat
