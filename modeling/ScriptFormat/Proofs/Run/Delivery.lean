import ScriptFormat.Proofs.Console.Reports
import ScriptFormat.Proofs.Run.Yields

/-!
# The ways a result is delivered

The ways of a delivery are written down as rules: what holds when it goes this way,
what it gives and the world it leaves, up to the log and the error stream. What a
rule says of a delivery is so, and every delivery goes by one of the rules.
-/

namespace ScriptFormat

open Run

namespace Delivery

inductive Prints (source : Text) : OutputMode → Text → Text → Prop where
  | checked : Prints source .check source (formattedMessage ++ "\n")
  | emitted (formatted : Text) : Prints source .stdout formatted formatted

theorem prints_of_check {mode : OutputMode} (checks : mode = .check) (source : Text) :
    Prints source mode source (formattedMessage ++ "\n") := by
  rw [checks]
  exact .checked

theorem prints_of_stdout {mode : OutputMode} (printing : mode = .stdout) (source formatted : Text) :
    Prints source mode formatted formatted := by
  rw [printing]
  exact .emitted formatted

inductive Delivers (invocation : Invocation) (source formatted : Text) (world : World) :
    Except Raised Int → World → Prop where
  | printed {text : Text} {output : OutputStream}
      (prints : Prints source invocation.mode formatted text)
      (delivered : OutputStream.deliver text world.output = .ok () output) :
      Delivers invocation source formatted world (.ok ExitStatus.success) { world with output }
  | unprinted {text : Text} {fault : Fault} {output : OutputStream}
      (prints : Prints source invocation.mode formatted text)
      (failed : OutputStream.deliver text world.output = .error fault output) :
      Delivers invocation source formatted world
        (.error (Source.mapped Source.isStreamFault .outputWrite "Failed to write to stdout" fault))
        { world with output }
  | different (checks : invocation.mode = .check) (apart : formatted ≠ source) :
      Delivers invocation source formatted world (.ok ExitStatus.checkFailed) world
  | written {path : Path} {tree : FileTree} (overwrites : invocation.mode = .overwrite)
      (named : invocation.input = some path)
      (wrote : world.tree.writeText path formatted = (.ok (), tree)) :
      Delivers invocation source formatted world (.ok ExitStatus.success) { world with tree }
  | unwritten {path : Path} {fault : Fault} {tree : FileTree}
      (overwrites : invocation.mode = .overwrite) (named : invocation.input = some path)
      (failed : world.tree.writeText path formatted = (.error fault, tree)) :
      Delivers invocation source formatted world
        (.error (Source.mapped Source.isFileFault .outputWrite
          ("Failed to write to file " ++ path.text) fault)) { world with tree }

theorem mode_eq_overwrite_iff (invocation : Invocation) :
    invocation.mode = .overwrite ↔
      (∃ path, invocation.input = some path) ∧ invocation.stdout = false ∧
        invocation.check = false := by
  unfold Invocation.mode OutputMode.select Invocation.hasFile
  cases invocation.input <;> cases invocation.stdout <;> cases invocation.check <;> simp

theorem mode_eq_check_iff (invocation : Invocation) :
    invocation.mode = .check ↔ invocation.check = true := by
  unfold Invocation.mode OutputMode.select Invocation.hasFile
  cases invocation.input <;> cases invocation.stdout <;> cases invocation.check <;> simp

theorem mode_eq_stdout_iff (invocation : Invocation) :
    invocation.mode = .stdout ↔
      invocation.check = false ∧ (invocation.stdout = true ∨ invocation.input = none) := by
  unfold Invocation.mode OutputMode.select Invocation.hasFile
  cases invocation.input <;> cases invocation.stdout <;> cases invocation.check <;> simp

theorem writeStream_yields_ok {text : Text} (world : World) {output : OutputStream}
    (delivered : OutputStream.deliver text world.output = .ok () output) :
    Yields (Source.writeStream text) world (.ok ()) { world with output } :=
  .of_eq (by rw [Source.writeStream, delivered]; rfl)

theorem writeStream_yields_error {text : Text} (world : World) {fault : Fault}
    {output : OutputStream}
    (failed : OutputStream.deliver text world.output = .error fault output) :
    Yields (Source.writeStream text) world
      (.error (Source.mapped Source.isStreamFault .outputWrite "Failed to write to stdout" fault))
      { world with output } :=
  .of_eq (by rw [Source.writeStream, failed]; rfl)

/-- The line about a difference can always be printed. -/
theorem complain_yields (world : World) :
    Yields (Run.complain fun console => console.printDifference notFormattedMessage) world (.ok ())
      world := by
  obtain ⟨shown, printed⟩ := world.console.printDifference_shows
  exact complain_yields_ok printed

/-- An unchanged source is reported by printing a line. -/
theorem reportCheck_same (source : Text) :
    reportCheck source source = emit (formattedMessage ++ "\n") := by
  rw [reportCheck, isFormatted, beq_self_eq_true]
  rfl

theorem dispatch_prints {source formatted text : Text} {mode : OutputMode} {path : Option Path}
    (prints : Prints source mode formatted text) :
    dispatch mode source formatted path = (do
      Run.debug logger ("Output mode: " ++ mode.name)
      emit text) := by
  cases prints with
  | checked => rw [dispatch]; simp only [reportCheck_same]
  | emitted => rfl

/-- A delivery goes as the rules say, whatever was logged before. -/
theorem Delivers.yields {invocation : Invocation} {source formatted : Text} {world after : World}
    {result : Except Raised Int}
    (delivers : Delivers invocation source formatted world result after) (log : Log)
    (errors : Text) :
    Yields (dispatch invocation.mode source formatted invocation.input)
      { world with log, errors } result after := by
  cases delivers with
  | printed prints delivered =>
      rw [dispatch_prints prints]
      refine (debug_yields _ _ _).bind fun log errors => ?_
      refine (writeStream_yields_ok { world with log, errors } delivered).bind fun log errors => ?_
      exact pure_yields _ _
  | unprinted prints failed =>
      rw [dispatch_prints prints]
      refine (debug_yields _ _ _).bind fun log errors => ?_
      exact (writeStream_yields_error { world with log, errors } failed).stop
  | different checks apart =>
      have unequal : isFormatted source formatted = false :=
        beq_eq_false_iff_ne.mpr fun same => apart same.symm
      refine (debug_yields _ _ _).bind fun log errors => ?_
      simp only [checks, reportCheck, unequal, Bool.false_eq_true, if_false]
      exact (complain_yields _).bind fun _ _ => pure_yields _ _
  | @written path _ overwrites named wrote =>
      refine (debug_yields _ _ _).bind fun log errors => ?_
      simp only [overwrites, named]
      have yields := Source.writePath_yields path formatted { world with log, errors }
      rw [wrote] at yields
      exact yields.bind fun _ _ => (log_yields _ _ _ _).bind fun _ _ => pure_yields _ _
  | @unwritten path _ _ overwrites named failed =>
      refine (debug_yields _ _ _).bind fun log errors => ?_
      simp only [overwrites, named]
      have yields := Source.writePath_yields path formatted { world with log, errors }
      rw [failed] at yields
      exact yields.stop

/-- Whatever is to be delivered, it is delivered in one of these ways or is not. -/
theorem delivers_exists (invocation : Invocation) (source formatted : Text) (world : World) :
    ∃ result after, Delivers invocation source formatted world result after := by
  have printing {text : Text} (prints : Prints source invocation.mode formatted text) :
      ∃ result after, Delivers invocation source formatted world result after := by
    cases delivered : OutputStream.deliver text world.output with
    | ok _ output => exact ⟨_, _, .printed prints delivered⟩
    | error fault output => exact ⟨_, _, .unprinted prints delivered⟩
  cases mode : invocation.mode with
  | check =>
      by_cases same : formatted = source
      · subst same
        exact printing (by rw [mode]; exact .checked)
      · exact ⟨_, _, .different mode same⟩
  | stdout => exact printing (prints_of_stdout mode source formatted)
  | overwrite =>
      obtain ⟨⟨path, named⟩, _⟩ := (mode_eq_overwrite_iff invocation).mp mode
      obtain ⟨⟨fault | written, tree⟩, wrote⟩ :
          ∃ answer, world.tree.writeText path formatted = answer := ⟨_, rfl⟩
      · exact ⟨_, _, .unwritten mode named wrote⟩
      · exact ⟨_, _, .written mode named wrote⟩

/-- A delivery calls no engine. -/
theorem Delivers.engineCalls {invocation : Invocation} {source formatted : Text}
    {world after : World} {result : Except Raised Int}
    (delivers : Delivers invocation source formatted world result after) :
    after.engineCalls = world.engineCalls := by
  cases delivers <;> rfl

end Delivery

end ScriptFormat
