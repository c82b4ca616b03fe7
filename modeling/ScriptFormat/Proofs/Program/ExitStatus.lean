import ScriptFormat.Proofs.FileTree.Opening
import ScriptFormat.Proofs.Program.Acquisition
import ScriptFormat.Proofs.Program.Boundary

/-!
# The exit status is truthful

A whole run ends with an exit status, and each status says what happened: success
that something was shown or the result delivered, failure that a difference was found
or a typed error reported, and two others for interrupts and for all the rest.
-/

namespace ScriptFormat.Program

open Run

/-- Streams and an engine that raise ordinary faults and interrupts only. -/
structure Admits (engine : Engine) (world : World) : Prop where
  input : world.input.Admitted
  output : world.output.Admitted
  screen : ∀ screen, world.screen = some screen → screen.Admitted
  engine : engine.Admitted

theorem Admits.screen_raises {engine : Engine} {world : World} (admits : Admits engine world)
    {fault : Fault} (raises : (world.screen.getD world.output).Raises fault) : fault.Admitted := by
  cases shown : world.screen with
  | none =>
      rw [shown] at raises
      exact admits.output.raises raises
  | some screen =>
      rw [shown] at raises
      exact (admits.screen screen shown).raises raises

/-- The text layer of the screen takes a text, or that of the output where there is no screen. -/
inductive Displays (text : Text) (world after : World) : Prop where
  | screen {screen later : OutputStream} (shown : world.screen = some screen)
      (received : OutputStream.Receives text screen later) (left : after.screen = some later)
      (beside : after.output = world.output)
  | output (screenless : world.screen = none)
      (received : OutputStream.Receives text world.output after.output)
      (left : after.screen = none)

/-- The help or the version is shown, for a command line that asks for it or an empty one at a
terminal. -/
inductive Shows (arguments : List Text) (world after : World) : Prop where
  | offered (nothing : arguments = []) (interactive : world.input.isInteractive = .ok true)
      (taken : OutputStream.Takes (CommandLine.help world.columns) world.output after.output)
  | asked {ending : CommandLine.Ending} {text : Text}
      (reads : Reads arguments world (.error ending))
      (said : ending.text? world.columns = some text) (displays : Displays text world after)

structure Formats (engine : Engine) (arguments : List Text) (world : World)
    (invocation : Invocation) (source formatted : Text) : Prop where
  reads : Reads arguments world (.ok invocation)
  acquired : IsSource arguments world source
  answered : (engine.answer source invocation.config world.tree).1 = .ok (.text formatted)

/-- The output step that is asked for is completed, between a world that the engine has left and the
last one: a check finds the source as it should be and says so, a file holds the text and all else
is as it was, or the text is printed. -/
inductive Completed (invocation : Invocation) (source formatted : Text) (world after : World) :
    Prop where
  | checked (checks : invocation.check = true) (same : formatted = source)
      (taken : OutputStream.Takes "File is formatted\n" world.output after.output)
  | overwritten {path : Path} {place : Place} {content : Bytes}
      (unchecked : invocation.check = false) (unprinted : invocation.stdout = false)
      (named : invocation.input = some path) (opens : world.tree.Opens path.route place)
      (encoded : Utf8.encode formatted = .ok content)
      (rewritten : world.tree.Rewritten after.tree path.route place content)
  | printed (unchecked : invocation.check = false)
      (printing : invocation.stdout = true ∨ invocation.input = none)
      (taken : OutputStream.Takes formatted world.output after.output)

def Completes (engine : Engine) (arguments : List Text) (world after : World) : Prop :=
  ∃ invocation source formatted, Formats engine arguments world invocation source formatted ∧
    Completed invocation source formatted (world.formatted engine invocation source) after

def FindsDifference (engine : Engine) (arguments : List Text) (world : World) : Prop :=
  ∃ invocation source formatted, Formats engine arguments world invocation source formatted ∧
    invocation.check = true ∧ formatted ≠ source

def Misused (arguments : List Text) (world : World) : Prop :=
  ∃ message, Reads arguments world (.error (.misuse message))

variable {engine : Engine} {arguments : List Text} {world after : World}

/-! ## What they say is so -/

theorem Formats.acquires {invocation : Invocation} {source formatted : Text}
    (formats : Formats engine arguments world invocation source formatted) :
    (invocation.acquired world.tree world.input).1 = .ok source :=
  (acquired_eq_ok_iff formats.reads.parsed).mpr formats.acquired

theorem Displays.onScreen {text : Text} (displays : Displays text world after) :
    ∃ output screen, Run.onScreen text world = .ok () { world with output, screen } := by
  cases displays with
  | screen shown received =>
      obtain ⟨later, wrote⟩ := received.write
      exact ⟨world.output, some later, by simp [Run.onScreen, shown, wrote]⟩
  | output screenless received =>
      obtain ⟨later, wrote⟩ := received.write
      exact ⟨later, none, by simp [Run.onScreen, screenless, wrote]⟩

theorem displays_of_onScreen {text : Text} {output : OutputStream} {screen : Option OutputStream}
    (written : Run.onScreen text world = .ok () { world with output, screen }) (log : Log)
    (errors : Text) : Displays text world { world with output, screen, log, errors } := by
  cases shown : world.screen with
  | none =>
      cases wrote : OutputStream.write text world.output with
      | error => simp [Run.onScreen, shown, wrote] at written
      | ok _ later =>
          obtain ⟨rfl, rfl⟩ : later = output ∧ none = screen := by
            simpa [Run.onScreen, shown, wrote] using written
          exact .output shown (OutputStream.receives_of_write wrote) rfl
  | some before =>
      cases wrote : OutputStream.write text before with
      | error => simp [Run.onScreen, shown, wrote] at written
      | ok _ later =>
          obtain ⟨rfl, rfl⟩ : world.output = output ∧ some later = screen := by
            simpa [Run.onScreen, shown, wrote] using written
          exact .screen shown (OutputStream.receives_of_write wrote) rfl rfl

theorem Completed.delivers {invocation : Invocation} {source formatted : Text}
    (completed : Completed invocation source formatted world after) :
    ∃ last, Delivery.Delivers invocation source formatted world (.ok ExitStatus.success) last := by
  cases completed with
  | checked checks same taken =>
      subst same
      have mode := (Delivery.mode_eq_check_iff invocation).mpr checks
      exact ⟨_, .printed (Delivery.prints_of_check mode _)
        ((OutputStream.deliver_eq_ok_iff _ _ _).mpr taken)⟩
  | overwritten unchecked unprinted named opens encoded =>
      have mode := (Delivery.mode_eq_overwrite_iff invocation).mpr
        ⟨⟨_, named⟩, unprinted, unchecked⟩
      exact ⟨_, .written mode named
        (FileTree.writeText_eq_ok_iff.mpr ⟨_, _, FileTree.opens_iff.mp opens, encoded, rfl⟩)⟩
  | printed unchecked printing taken =>
      have mode := (Delivery.mode_eq_stdout_iff invocation).mpr ⟨unchecked, printing⟩
      exact ⟨_, .printed (Delivery.prints_of_stdout mode source formatted)
        ((OutputStream.deliver_eq_ok_iff _ _ _).mpr taken)⟩

theorem completed_of_prints {invocation : Invocation} {source formatted text : Text}
    (prints : Delivery.Prints source invocation.mode formatted text)
    (delivered : OutputStream.deliver text world.output = .ok () after.output) :
    Completed invocation source formatted world after := by
  have taken := (OutputStream.deliver_eq_ok_iff _ _ _).mp delivered
  generalize chosen : invocation.mode = mode at prints
  cases prints with
  | checked => exact .checked ((Delivery.mode_eq_check_iff invocation).mp chosen) rfl taken
  | emitted =>
      obtain ⟨unchecked, printing⟩ := (Delivery.mode_eq_stdout_iff invocation).mp chosen
      exact .printed unchecked printing taken

theorem completed_of_written {invocation : Invocation} {source formatted : Text} {path : Path}
    (overwrites : invocation.mode = .overwrite) (named : invocation.input = some path)
    (wrote : world.tree.writeText path formatted = (.ok (), after.tree)) :
    Completed invocation source formatted world after := by
  obtain ⟨_, unprinted, unchecked⟩ := (Delivery.mode_eq_overwrite_iff invocation).mp overwrites
  obtain ⟨place, content, writable, encoded, filled⟩ := FileTree.writeText_eq_ok_iff.mp wrote
  have opens := FileTree.opens_iff.mpr writable
  refine .overwritten unchecked unprinted named opens encoded ?_
  rw [filled]
  exact opens.rewritten content

theorem result_of_completes (completes : Completes engine arguments world after) :
    (main engine arguments).result world = .ok ExitStatus.success := by
  obtain ⟨invocation, source, formatted, formats, completed⟩ := completes
  obtain ⟨last, delivers⟩ := completed.delivers
  exact (Course.delivered formats.reads formats.acquires
    (outcome_eq_ok_iff.mpr formats.answered) delivers).yields.result_eq

theorem result_of_findsDifference (finds : FindsDifference engine arguments world) :
    (main engine arguments).result world = .ok ExitStatus.checkFailed := by
  obtain ⟨invocation, source, formatted, formats, checks, apart⟩ := finds
  have mode := (Delivery.mode_eq_check_iff invocation).mpr checks
  exact (Course.delivered formats.reads formats.acquires
    (outcome_eq_ok_iff.mpr formats.answered) (.different mode apart)).yields.result_eq

theorem result_of_shows (shows : Shows arguments world after) :
    (main engine arguments).result world = .ok ExitStatus.success ∨
      (main engine arguments).result world =
        .error { fault := .exit (.number ExitStatus.success) } := by
  cases shows with
  | offered nothing interactive taken =>
      have delivered := (OutputStream.deliver_eq_ok_iff _ _ _).mpr taken
      exact .inl (Course.helped nothing interactive delivered).yields.result_eq
  | asked reads said displays =>
      obtain ⟨output, screen, written⟩ := displays.onScreen
      exact .inr (Course.shown reads said written).yields.result_eq

theorem result_of_misused (misused : Misused arguments world) :
    (main engine arguments).result world =
      .error { fault := .exit (.number ExitStatus.unexpectedError) } := by
  obtain ⟨message, reads⟩ := misused
  exact (Course.misused reads).yields.result_eq

/-! ## There is nothing else -/

inductive Ends (engine : Engine) (arguments : List Text) (world after : World) :
    Except Raised Int → Prop where
  | offered (shows : Shows arguments world after) :
      Ends engine arguments world after (.ok ExitStatus.success)
  | shown (shows : Shows arguments world after) :
      Ends engine arguments world after (.error { fault := .exit (.number ExitStatus.success) })
  | completed (completes : Completes engine arguments world after) :
      Ends engine arguments world after (.ok ExitStatus.success)
  | differed (finds : FindsDifference engine arguments world) :
      Ends engine arguments world after (.ok ExitStatus.checkFailed)
  | misused (misused : Misused arguments world) :
      Ends engine arguments world after
        (.error { fault := .exit (.number ExitStatus.unexpectedError) })
  | stopped {raised : Raised} (admitted : raised.fault.Admitted) :
      Ends engine arguments world after (.error raised)

theorem main_ends (admits : Admits engine world) (arguments : List Text) :
    Ends engine arguments world ((main engine arguments).after world)
      ((main engine arguments).result world) := by
  obtain ⟨result, after, course, yields⟩ := main_course engine arguments world
  obtain ⟨log, errors, left⟩ := yields.after_eq
  rw [yields.result_eq, left]
  cases course with
  | unprobed nothing failed =>
      exact .stopped (InputStream.isInteractive_admitted admits.input failed)
  | helped nothing interactive delivered =>
      exact .offered (.offered nothing interactive
        ((OutputStream.deliver_eq_ok_iff _ _ _).mp delivered))
  | unhelped nothing interactive failed =>
      exact .stopped (Source.mapped_admitted
        (admits.output.raises (OutputStream.raises_of_deliver failed)) _ _ _)
  | shown reads asked wrote =>
      exact .shown (.asked reads asked (displays_of_onScreen wrote log errors))
  | unshown reads asked failed raises => exact .stopped (admits.screen_raises raises)
  | misused reads => exact .misused ⟨_, reads⟩
  | unread reads failed => exact .stopped (Invocation.acquired_admitted admits.input failed)
  | unformatted reads acquired failed =>
      exact .stopped (Formatting.outcome_admitted admits.engine failed)
  | @delivered invocation source formatted _ _ reads acquired answered delivers =>
      have formats : Formats engine arguments world invocation source formatted :=
        ⟨reads, (acquired_eq_ok_iff reads.parsed).mp acquired, outcome_eq_ok_iff.mp answered⟩
      cases delivers with
      | printed prints delivered =>
          exact .completed ⟨invocation, source, formatted, formats,
            completed_of_prints prints delivered⟩
      | unprinted prints failed =>
          exact .stopped (Source.mapped_admitted
            (admits.output.raises (OutputStream.raises_of_deliver failed)) _ _ _)
      | different checks apart =>
          exact .differed ⟨invocation, source, formatted, formats,
            (Delivery.mode_eq_check_iff invocation).mp checks, apart⟩
      | written overwrites named wrote =>
          exact .completed ⟨invocation, source, formatted, formats,
            completed_of_written overwrites named wrote⟩
      | unwritten overwrites named failed =>
          exact .stopped (Source.mapped_admitted (FileTree.writeText_admitted failed) _ _ _)

section Results

variable {result : Except Raised Int}

def Succeeded (result : Except Raised Int) : Prop :=
  result = .ok ExitStatus.success ∨ result = .error { fault := .exit (.number ExitStatus.success) }

theorem Ends.shows_or_completes (ends : Ends engine arguments world after result)
    (succeeded : Succeeded result) :
    Shows arguments world after ∨ Completes engine arguments world after := by
  cases ends with
  | offered shows => exact .inl shows
  | shown shows => exact .inl shows
  | completed completes => exact .inr completes
  | differed => simp [Succeeded, ExitStatus.success, ExitStatus.checkFailed] at succeeded
  | misused => simp [Succeeded, ExitStatus.success, ExitStatus.unexpectedError] at succeeded
  | stopped admitted =>
      rcases succeeded with ⟨⟨⟩⟩ | ⟨⟨⟩⟩
      exact absurd admitted (Fault.not_admitted_exit _)

theorem Ends.findsDifference (ends : Ends engine arguments world after result)
    (failed : result = .ok ExitStatus.checkFailed) : FindsDifference engine arguments world := by
  cases ends with
  | differed finds => exact finds
  | offered => simp [ExitStatus.success, ExitStatus.checkFailed] at failed
  | completed => simp [ExitStatus.success, ExitStatus.checkFailed] at failed
  | _ => cases failed

theorem Ends.isMisused (ends : Ends engine arguments world after result)
    (refused : result = .error { fault := .exit (.number ExitStatus.unexpectedError) }) :
    Misused arguments world := by
  cases ends with
  | misused misused => exact misused
  | shown => simp [ExitStatus.success, ExitStatus.unexpectedError] at refused
  | stopped admitted =>
      cases refused
      exact absurd admitted (Fault.not_admitted_exit _)
  | _ => cases refused

end Results

/-- The boundary leaves a world as it is where a run succeeds. -/
theorem Succeeded.after_eq (succeeded : Succeeded ((main engine arguments).result world)) :
    (cli engine arguments).after world = (main engine arguments).after world := by
  rcases succeeded with returned | exited
  · exact after_of_ok (cli_of_ok returned)
  · exact after_of_ok (cli_of_exit exited)

theorem success_iff (admits : Admits engine world) :
    Shows arguments world ((cli engine arguments).after world) ∨
        Completes engine arguments world ((cli engine arguments).after world) ↔
      Succeeded ((main engine arguments).result world) := by
  constructor
  · rintro (shows | completes)
    · exact result_of_shows shows
    · exact .inl (result_of_completes completes)
  · intro succeeded
    rw [succeeded.after_eq]
    exact (main_ends admits arguments).shows_or_completes succeeded

theorem findsDifference_iff (admits : Admits engine world) :
    FindsDifference engine arguments world ↔
      (main engine arguments).result world = .ok ExitStatus.checkFailed :=
  ⟨result_of_findsDifference, (main_ends admits arguments).findsDifference⟩

theorem misused_iff (admits : Admits engine world) :
    Misused arguments world ↔ (main engine arguments).result world =
      .error { fault := .exit (.number ExitStatus.unexpectedError) } :=
  ⟨result_of_misused, (main_ends admits arguments).isMisused⟩

theorem Ends.reportable {result : Except Raised Int}
    (ends : Ends engine arguments world after result) {raised : Raised}
    (stopped : result = .error raised) :
    raised.fault.Admitted ∨ ∃ status, raised.fault = .exit status := by
  cases ends with
  | shown => cases stopped; exact .inr ⟨_, rfl⟩
  | misused => cases stopped; exact .inr ⟨_, rfl⟩
  | stopped admitted => cases stopped; exact .inl admitted
  | _ => cases stopped

/-- Each status tells results apart from all others. -/
theorem Ends.status {result : Except Raised Int} (ends : Ends engine arguments world after result) :
    ∃ status : Int, Except.ok (statusOf result) = (.ok (.number status) : Except Raised Value) ∧
      (status = 0 ∨ status = 1 ∨ status = 130 ∨ status = 2) ∧
      (status = 0 ↔ Succeeded result) ∧
      (status = 1 ↔ result = .ok ExitStatus.checkFailed ∨
        ∃ error cause, result = .error { fault := .typed error, cause }) ∧
      (status = 130 ↔ ∃ message cause, result = .error { fault := .interrupt message, cause }) ∧
      (status = 2 ↔ result = .error { fault := .exit (.number ExitStatus.unexpectedError) } ∨
        ∃ raised, result = .error raised ∧
          raised.fault.isOrdinary = true ∧ raised.fault.isTyped = false) := by
  cases ends with
  | offered => exact ⟨0, rfl, by simp [Succeeded, ExitStatus.success, ExitStatus.checkFailed]⟩
  | completed => exact ⟨0, rfl, by simp [Succeeded, ExitStatus.success, ExitStatus.checkFailed]⟩
  | differed => exact ⟨1, rfl, by simp [Succeeded, ExitStatus.success, ExitStatus.checkFailed]⟩
  | shown =>
      exact ⟨0, rfl, by
        simp [Succeeded, ExitStatus.success, ExitStatus.unexpectedError, Fault.isOrdinary]⟩
  | misused =>
      exact ⟨2, rfl, by
        simp [Succeeded, ExitStatus.success, ExitStatus.unexpectedError, Fault.isOrdinary]⟩
  | @stopped raised admitted =>
      obtain ⟨fault, cause⟩ := raised
      rcases admitted.cases with ⟨error, rfl⟩ | ⟨message, rfl⟩ | ⟨ordinary, untyped⟩
      · exact ⟨1, rfl, by simp [Succeeded, Fault.isTyped]⟩
      · exact ⟨130, rfl, by simp [Succeeded, Fault.isOrdinary]⟩
      · have notTyped (error : TypedError) : fault ≠ .typed error := by
          intro same
          subst same
          cases untyped
        have notInterrupt (message : Text) : fault ≠ .interrupt message := by
          intro same
          subst same
          cases ordinary
        have notExit (status : Value) : fault ≠ .exit status := by
          intro same
          subst same
          cases ordinary
        exact ⟨2, congrArg Except.ok (Fault.status_unexpected ordinary untyped), by
          simp [Succeeded, notTyped, notInterrupt, notExit, ordinary, untyped]⟩

/-- A whole run ends with a status, and the status tells what happened. -/
theorem cli_status (admits : Admits engine world) (arguments : List Text) :
    (∃ status : Int, (cli engine arguments).result world = .ok (.number status) ∧
      (status = 0 ∨ status = 1 ∨ status = 130 ∨ status = 2) ∧
      (status = 0 ↔ Shows arguments world ((cli engine arguments).after world) ∨
        Completes engine arguments world ((cli engine arguments).after world)) ∧
      (status = 1 ↔ FindsDifference engine arguments world ∨
        ∃ error cause, (main engine arguments).result world =
          .error { fault := .typed error, cause }) ∧
      (status = 130 ↔ ∃ message cause, (main engine arguments).result world =
        .error { fault := .interrupt message, cause }) ∧
      (status = 2 ↔ Misused arguments world ∨
        ∃ raised, (main engine arguments).result world = .error raised ∧
          raised.fault.isOrdinary = true ∧ raised.fault.isTyped = false)) ∧
    ∀ error cause, (main engine arguments).result world =
        .error { fault := .typed error, cause } →
      Reported error ((main engine arguments).after world)
        ((cli engine arguments).after world) := by
  have ends := main_ends admits arguments
  constructor
  · rw [cli_result fun raised => ends.reportable, success_iff admits, findsDifference_iff admits,
      misused_iff admits]
    exact ends.status
  · intro error cause stopped
    obtain ⟨after, reported, reports⟩ :=
      report_typed error cause ((main engine arguments).after world)
    unfold Run.after
    rw [cli_of_error stopped, reports]
    exact reported

/-- A file behind a link is overwritten. -/
theorem cli_status_at_desk :
    Admits lineEnding desk ∧ (cli lineEnding ["b.gd"]).result desk = .ok (.number 0) ∧
      Completes lineEnding ["b.gd"] desk ((cli lineEnding ["b.gd"]).after desk) := by
  have admits : Admits lineEnding desk := by
    refine ⟨⟨?_, ?_⟩, ?_, ?_, ?_⟩
    · intro fault impossible
      cases impossible
    · intro fault impossible
      cases impossible
    · intro scripted method fault impossible
      cases impossible
    · intro screen impossible
      cases impossible
    · intro source config tree fault impossible
      cases impossible
  have ends : (cli lineEnding ["b.gd"]).result desk = .ok (.number 0) :=
    eq_ok_of_toOption (by decide +kernel)
  obtain ⟨⟨status, returned, _, success, _⟩, _⟩ := cli_status admits ["b.gd"]
  rw [ends] at returned
  cases returned
  refine ⟨admits, ends, (success.mp rfl).resolve_left ?_⟩
  intro shows
  cases shows with
  | offered nothing => cases nothing
  | asked reads => cases reads.parsed

end ScriptFormat.Program
