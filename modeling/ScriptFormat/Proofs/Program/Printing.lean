import ScriptFormat.Proofs.Program.ExitStatus
import ScriptFormat.Proofs.Program.Routes

/-!
# What a run prints

An open output takes the whole result, the line on a formatted file, the help or nothing.
What stands in its text layer goes out in front, and a delivery that fails has added
nothing to it. Help and version that are asked for go to the screen, reports and log
lines to the error stream.
-/

namespace ScriptFormat

open Run

/-- A delivery that fails has handed on at most what was held back before. -/
theorem OutputStream.IsOpen.settled_of_undelivered {output after : OutputStream} {text : Text}
    {fault : Fault} (opened : output.IsOpen)
    (failed : OutputStream.deliver text output = .error fault after) :
    after.settled = output.settled := by
  cases output with
  | bytes stream =>
      have still : stream.closed = false := opened
      rw [deliver_bytes still] at failed
      cases encoded : Utf8.encode text with
      | ok data =>
          rw [encoded] at failed
          cases failed
      | error refused =>
          rw [encoded] at failed
          cases failed
          simp [settled, still, ByteStream.flush]
  | text stream =>
      rw [deliver_text opened] at failed
      cases failed
  | scripted stream => cases opened

/-- What goes to a screen of its own does not go to the output. -/
theorem output_of_onScreen {world : World} {screen : OutputStream}
    (apart : world.screen = some screen) (text : Text) :
    ((Run.onScreen text).after world).output = world.output := by
  cases wrote : OutputStream.write text screen <;> simp [Run.after, Run.onScreen, apart, wrote]

namespace Program

/-- What a run that leaves a world and gives a result has added to the output. Where it has added
something, the files are as the engine left them. -/
inductive Adds (engine : Engine) (arguments : List Text) (world after : World) :
    Except Raised Int → Prop where
  | nothing {result : Except Raised Int} (same : after.output.settled = world.output.settled) :
      Adds engine arguments world after result
  | formatted {invocation : Invocation} {source formatted : Text}
      (formats : Formats engine arguments world invocation source formatted)
      (prints : invocation.mode = .stdout)
      (taken : OutputStream.Takes formatted world.output after.output)
      (files : after.tree = (engine.answer source invocation.config world.tree).2) :
      Adds engine arguments world after (.ok ExitStatus.success)
  | line {invocation : Invocation} {source : Text}
      (formats : Formats engine arguments world invocation source source)
      (checks : invocation.mode = .check)
      (taken : OutputStream.Takes (Delivery.formattedMessage ++ "\n") world.output after.output)
      (files : after.tree = (engine.answer source invocation.config world.tree).2) :
      Adds engine arguments world after (.ok ExitStatus.success)
  | help (nothing : arguments = []) (interactive : world.input.isInteractive = .ok true)
      (taken : OutputStream.Takes (CommandLine.help world.columns) world.output after.output)
      (files : after.tree = world.tree) : Adds engine arguments world after (.ok ExitStatus.success)

/-- The files are neither as they were nor as the engine leaves them: the run itself has changed
them. -/
def ChangesFiles (engine : Engine) (world after : World) : Prop :=
  after.tree ≠ world.tree ∧
    ∀ source config, after.tree ≠ (engine.answer source config world.tree).2

section Adding

variable {engine : Engine} {arguments : List Text} {world after : World} {screen : OutputStream}

/-- A delivery adds the text of its mode, or nothing. -/
theorem adds_of_delivers {invocation : Invocation} {source formatted : Text}
    {result : Except Raised Int} (opened : world.output.IsOpen)
    (formats : Formats engine arguments world invocation source formatted)
    (delivers : Delivery.Delivers invocation source formatted
      (world.formatted engine invocation source) result after) :
    Adds engine arguments world after result := by
  cases delivers with
  | printed prints delivered =>
      have taken := (OutputStream.deliver_eq_ok_iff _ _ _).mp delivered
      generalize chosen : invocation.mode = mode at prints
      cases prints with
      | checked => exact .line formats chosen taken rfl
      | emitted => exact .formatted formats chosen taken rfl
  | unprinted _ failed => exact .nothing (opened.settled_of_undelivered failed)
  | different => exact .nothing rfl
  | written => exact .nothing rfl
  | unwritten => exact .nothing rfl

theorem adds_of_course (opened : world.output.IsOpen) (apart : world.screen = some screen)
    {result : Except Raised Int} (course : Course engine arguments world result after) :
    Adds engine arguments world after result := by
  cases course with
  | unprobed => exact .nothing rfl
  | helped nothing interactive delivered =>
      exact .help nothing interactive ((OutputStream.deliver_eq_ok_iff _ _ _).mp delivered) rfl
  | unhelped _ _ failed => exact .nothing (opened.settled_of_undelivered failed)
  | @shown _ text _ _ _ _ wrote =>
      have same := output_of_onScreen apart text
      rw [after_of_ok wrote] at same
      exact .nothing (congrArg OutputStream.settled same)
  | @unshown _ text _ _ _ _ _ failed _ =>
      have same := output_of_onScreen apart text
      rw [Run.after, failed] at same
      exact .nothing (congrArg OutputStream.settled same)
  | misused => exact .nothing rfl
  | unread => exact .nothing rfl
  | unformatted => exact .nothing rfl
  | delivered reads acquired answered delivers =>
      exact adds_of_delivers opened
        ⟨reads, (acquired_eq_ok_iff reads.parsed).mp acquired, outcome_eq_ok_iff.mp answered⟩
        delivers

theorem Adds.of_error {raised : Raised} (adds : Adds engine arguments world after (.error raised)) :
    after.output.settled = world.output.settled := by
  cases adds with
  | nothing same => exact same

/-- A run that overwrites adds nothing. -/
theorem Adds.of_overwrite {result : Except Raised Int} {invocation : Invocation}
    (adds : Adds engine arguments world after result)
    (parsed : CommandLine.parse arguments = .ok invocation)
    (overwrites : invocation.mode = .overwrite) :
    after.output.settled = world.output.settled := by
  cases adds with
  | nothing same => exact same
  | formatted formats prints =>
      rw [formats.reads.parsed] at parsed
      cases parsed
      rw [overwrites] at prints
      cases prints
  | line formats checks =>
      rw [formats.reads.parsed] at parsed
      cases parsed
      rw [overwrites] at checks
      cases checks
  | help nothing =>
      subst nothing
      cases parsed
      cases overwrites

theorem Adds.of_changes {result : Except Raised Int}
    (adds : Adds engine arguments world after result) (changes : ChangesFiles engine world after) :
    after.output.settled = world.output.settled := by
  obtain ⟨changed, beside⟩ := changes
  cases adds with
  | nothing same => exact same
  | formatted _ _ _ files => exact absurd files (beside _ _)
  | line _ _ _ files => exact absurd files (beside _ _)
  | help _ _ _ files => exact absurd files changed

end Adding

/-- On an open output with a screen beside it, a run adds one of four things. One that raises,
overwrites or changes files adds nothing. -/
theorem main_adds (engine : Engine) (arguments : List Text) {world : World} {screen : OutputStream}
    (opened : world.output.IsOpen) (apart : world.screen = some screen) :
    Adds engine arguments world ((main engine arguments).after world)
        ((main engine arguments).result world) ∧
      ((∃ raised, (main engine arguments).result world = .error raised) ∨
          (∃ invocation, CommandLine.parse arguments = .ok invocation ∧
            invocation.mode = .overwrite) ∨
          ChangesFiles engine world ((main engine arguments).after world) →
        ((main engine arguments).after world).output.settled = world.output.settled) := by
  obtain ⟨result, after, course, yields⟩ := main_course engine arguments world
  obtain ⟨log, errors, left⟩ := yields.after_eq
  have adds : Adds engine arguments world ((main engine arguments).after world)
      ((main engine arguments).result world) := by
    rw [yields.result_eq, left]
    cases adds_of_course opened apart course with
    | nothing same => exact .nothing same
    | formatted formats prints taken files => exact .formatted formats prints taken files
    | line formats checks taken files => exact .line formats checks taken files
    | help nothing interactive taken files => exact .help nothing interactive taken files
  refine ⟨adds, ?_⟩
  rintro (⟨raised, stopped⟩ | ⟨invocation, parsed, overwrites⟩ | changes)
  · rw [stopped] at adds
    exact adds.of_error
  · exact adds.of_overwrite parsed overwrites
  · exact adds.of_changes changes

theorem main_adds_behind_pending :
    let world := { desk with output := .bytes { pending := [112] }, screen := some (.text {}) }
    world.output.IsOpen ∧ world.screen = some (.text {}) ∧
      Adds lineEnding ["a.gd", "--stdout"] world
        ((main lineEnding ["a.gd", "--stdout"]).after world)
        ((main lineEnding ["a.gd", "--stdout"]).result world) := by
  intro world
  have opened : world.output.IsOpen := rfl
  have apart : world.screen = some (.text {}) := rfl
  exact ⟨opened, apart, (main_adds lineEnding ["a.gd", "--stdout"] opened apart).1⟩

end Program

end ScriptFormat
