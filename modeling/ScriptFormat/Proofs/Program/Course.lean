import ScriptFormat.Proofs.Run.Delivery

/-!
# The courses of a run

The ways a whole run can go, as rules again. What a rule says of a run is so, and
every run goes by one of the rules.
-/

namespace ScriptFormat

open Run

/-- The command line is read with this result, without an offer of help before. -/
structure Reads (arguments : List Text) (world : World)
    (parsed : Except CommandLine.Ending Invocation) : Prop where
  parsed : CommandLine.parse arguments = parsed
  proceeds : arguments = [] → world.input.isInteractive = .ok false

def CommandLine.Ending.text? (columns : Nat) : CommandLine.Ending → Option Text
  | .help => some (CommandLine.help columns)
  | .version => some CommandLine.versionText
  | .misuse _ => none

def World.acquired (world : World) (invocation : Invocation) : World :=
  { world with input := (invocation.acquired world.tree world.input).2 }

def World.formatted (world : World) (engine : Engine) (invocation : Invocation) (source : Text) :
    World :=
  (world.acquired invocation).called engine source invocation.config
    (engine.answer source invocation.config world.tree).2

theorem World.tree_formatted {engine : Engine} (leaves : engine.LeavesFiles) (world : World)
    (invocation : Invocation) (source : Text) :
    (world.formatted engine invocation source).tree = world.tree :=
  leaves source invocation.config world.tree

namespace Program

inductive Course (engine : Engine) (arguments : List Text) (world : World) :
    Except Raised Int → World → Prop where
  | unprobed {fault : Fault} (nothing : arguments = [])
      (failed : world.input.isInteractive = .error fault) :
      Course engine arguments world (.error { fault }) world
  | helped {output : OutputStream} (nothing : arguments = [])
      (interactive : world.input.isInteractive = .ok true)
      (delivered : OutputStream.deliver (CommandLine.help world.columns) world.output =
        .ok () output) :
      Course engine arguments world (.ok ExitStatus.success) { world with output }
  | unhelped {fault : Fault} {output : OutputStream} (nothing : arguments = [])
      (interactive : world.input.isInteractive = .ok true)
      (failed : OutputStream.deliver (CommandLine.help world.columns) world.output =
        .error fault output) :
      Course engine arguments world
        (.error (Source.mapped Source.isStreamFault .outputWrite "Failed to write to stdout" fault))
        { world with output }
  | shown {ending : CommandLine.Ending} {text : Text} {output : OutputStream}
      {screen : Option OutputStream} (reads : Reads arguments world (.error ending))
      (asked : ending.text? world.columns = some text)
      (wrote : Run.onScreen text world = .ok () { world with output, screen }) :
      Course engine arguments world (.error { fault := .exit (.number ExitStatus.success) })
        { world with output, screen }
  | unshown {ending : CommandLine.Ending} {text : Text} {fault : Fault} {output : OutputStream}
      {screen : Option OutputStream} (reads : Reads arguments world (.error ending))
      (asked : ending.text? world.columns = some text)
      (failed : Run.onScreen text world = .error { fault } { world with output, screen })
      (raises : (world.screen.getD world.output).Raises fault) :
      Course engine arguments world (.error { fault }) { world with output, screen }
  | misused {message : Text} (reads : Reads arguments world (.error (.misuse message))) :
      Course engine arguments world
        (.error { fault := .exit (.number ExitStatus.unexpectedError) }) world
  | unread {invocation : Invocation} {raised : Raised}
      (reads : Reads arguments world (.ok invocation))
      (failed : (invocation.acquired world.tree world.input).1 = .error raised) :
      Course engine arguments world (.error raised) (world.acquired invocation)
  | unformatted {invocation : Invocation} {source : Text} {raised : Raised}
      (reads : Reads arguments world (.ok invocation))
      (acquired : (invocation.acquired world.tree world.input).1 = .ok source)
      (failed : Formatting.outcome (engine.answer source invocation.config world.tree).1 =
        .error raised) :
      Course engine arguments world (.error raised) (world.formatted engine invocation source)
  | delivered {invocation : Invocation} {source formatted : Text} {result : Except Raised Int}
      {after : World} (reads : Reads arguments world (.ok invocation))
      (acquired : (invocation.acquired world.tree world.input).1 = .ok source)
      (answered : Formatting.outcome (engine.answer source invocation.config world.tree).1 =
        .ok formatted)
      (delivers : Delivery.Delivers invocation source formatted
        (world.formatted engine invocation source) result after) :
      Course engine arguments world result after

variable {engine : Engine} {arguments : List Text} {world after : World}

def unread (heading : Text) (fault : DecodeFault) : Raised :=
  .from .sourceRead (heading ++ ": " ++ fault.message) (.undecodable fault)

def unwritten (heading : Text) (fault : EncodeFault) : Raised :=
  .from .outputWrite (heading ++ ": " ++ fault.message) (.unencodable fault)

theorem outcome_eq_ok_iff {answer : Except Raised Value} {formatted : Text} :
    Formatting.outcome answer = .ok formatted ↔ answer = .ok (.text formatted) := by
  cases answer with
  | error raised => simp [Formatting.outcome]
  | ok value => cases value <;> simp [Formatting.outcome]

theorem reads_of_file {invocation : Invocation} {path : Path}
    (parsed : CommandLine.parse arguments = .ok invocation) (named : invocation.input = some path) :
    Reads arguments world (.ok invocation) := by
  refine ⟨parsed, fun nothing => ?_⟩
  subst nothing
  cases parsed
  cases named

/-- Writing on the screen changes streams only, and fails as the stream does. -/
theorem onScreen_cases (text : Text) (world : World) :
    (∃ output screen, Run.onScreen text world = .ok () { world with output, screen }) ∨
      ∃ fault output screen,
        Run.onScreen text world = .error { fault } { world with output, screen } ∧
        (world.screen.getD world.output).Raises fault := by
  cases shown : world.screen with
  | none =>
      cases wrote : OutputStream.write text world.output with
      | ok _ output => exact .inl ⟨output, none, by simp [Run.onScreen, shown, wrote]⟩
      | error fault output =>
          refine .inr ⟨fault, output, none, ?_, OutputStream.raises_of_write wrote⟩
          simp [Run.onScreen, shown, wrote]
  | some screen =>
      cases wrote : OutputStream.write text screen with
      | ok _ screen => exact .inl ⟨world.output, some screen, by simp [Run.onScreen, shown, wrote]⟩
      | error fault after =>
          refine .inr ⟨fault, world.output, some after, ?_, OutputStream.raises_of_write wrote⟩
          simp [Run.onScreen, shown, wrote]

/-- Writing on the screen looks neither at diagnostics nor at the calls of the engine. -/
theorem onScreen_with (text : Text) (world : World) (log : Log) (errors : Text)
    (console : Console) (engineCalls : List EngineCall) :
    Run.onScreen text { world with log, errors, console, engineCalls } =
      match Run.onScreen text world with
      | .ok () left => .ok () { left with log, errors, console, engineCalls }
      | .error raised left => .error raised { left with log, errors, console, engineCalls } := by
  cases shown : world.screen with
  | none =>
      cases wrote : OutputStream.write text world.output <;> simp [Run.onScreen, shown, wrote]
  | some screen =>
      cases wrote : OutputStream.write text screen <;> simp [Run.onScreen, shown, wrote]

/-! ## What the rules say is so -/

theorem wantsHelp_interactive (nothing : arguments = [])
    {interactive : Bool} (answers : world.input.isInteractive = .ok interactive) :
    wantsHelp arguments world = .ok interactive world := by
  subst nothing
  rw [wantsHelp, if_pos List.isEmpty_nil, get_bind, answers]
  rfl

theorem main_unprobed {fault : Fault} (nothing : arguments = [])
    (failed : world.input.isInteractive = .error fault) :
    main engine arguments world = .error { fault } world := by
  have stopped : wantsHelp arguments world = .error { fault } world := by
    subst nothing
    rw [wantsHelp, if_pos List.isEmpty_nil, get_bind, failed]
    rfl
  rw [main, bind_of_error stopped]

theorem main_offers (nothing : arguments = [])
    (interactive : world.input.isInteractive = .ok true) :
    main engine arguments world = (do
      Source.writeStream (CommandLine.help (← get).columns)
      return ExitStatus.success : Run Int) world := by
  rw [main, bind_of_ok (wantsHelp_interactive nothing interactive)]
  rfl

theorem wantsHelp_reads {parsed : Except CommandLine.Ending Invocation}
    (reads : Reads arguments world parsed) : wantsHelp arguments world = .ok false world := by
  cases arguments with
  | nil => exact wantsHelp_interactive rfl (reads.proceeds rfl)
  | cons => rfl

theorem main_concludes {ending : CommandLine.Ending}
    (reads : Reads arguments world (.error ending)) :
    main engine arguments world = conclude ending world := by
  rw [main, bind_of_ok (wantsHelp_reads reads), reads.parsed]
  rfl

theorem main_formats {invocation : Invocation} (reads : Reads arguments world (.ok invocation)) :
    main engine arguments world = (do
      modify fun world => world.configureLog invocation.debug
      Run.debug logger ("Parsed " ++ invocation.described)
      format engine invocation : Run Int) world := by
  rw [main, bind_of_ok (wantsHelp_reads reads), reads.parsed]
  rfl

/-- A command line that is read lets the run go on with its invocation. -/
theorem main_yields {invocation : Invocation} (reads : Reads arguments world (.ok invocation))
    {result : Except Raised Int}
    (formats : ∀ log errors, Yields (format engine invocation) { world with log, errors } result
      after) :
    Yields (main engine arguments) world result after := by
  rw [Yields, main_formats reads]
  obtain ⟨log, errors, configured⟩ := world.configureLog_eq invocation.debug
  have logged : Yields (modify fun world => world.configureLog invocation.debug) world (.ok ())
      world :=
    ⟨log, errors, congrArg (EStateM.Result.ok ()) configured⟩
  refine logged.bind fun log errors => ?_
  refine (debug_yields _ _ _).bind fun log errors => ?_
  exact formats log errors

theorem acquire_yields_ok {invocation : Invocation} {source : Text}
    (acquired : (invocation.acquired world.tree world.input).1 = .ok source)
    (log : Log) (errors : Text) :
    Yields (acquire invocation) { world with log, errors } (.ok source)
      (world.acquired invocation) := by
  have acquires := acquire_yields invocation { world with log, errors }
  rw [acquired] at acquires
  exact acquires

theorem conclude_shown {ending : CommandLine.Ending} {text : Text}
    (asked : ending.text? world.columns = some text) :
    conclude ending world = (do
      Run.onScreen text
      Run.stop (.exit (.number ExitStatus.success)) : Run Int) world := by
  cases ending with
  | help => cases asked; rfl
  | version => cases asked; rfl
  | misuse => cases asked

/-- A run goes as the rules say. -/
theorem Course.yields {result : Except Raised Int}
    (course : Course engine arguments world result after) :
    Yields (main engine arguments) world result after := by
  cases course with
  | unprobed nothing failed => exact .of_eq (main_unprobed nothing failed)
  | helped nothing interactive delivered =>
      rw [Yields, main_offers nothing interactive]
      refine Yields.reading ?_
      exact (Delivery.writeStream_yields_ok world delivered).bind fun _ _ => pure_yields _ _
  | unhelped nothing interactive failed =>
      rw [Yields, main_offers nothing interactive]
      refine Yields.reading ?_
      exact (Delivery.writeStream_yields_error world failed).stop
  | shown reads asked wrote =>
      rw [Yields, main_concludes reads, conclude_shown asked]
      exact Yields.bind (.of_eq wrote) fun log errors => throw_yields _ _
  | unshown reads asked failed _ =>
      rw [Yields, main_concludes reads, conclude_shown asked]
      exact Yields.stop (.of_eq failed)
  | misused reads =>
      rw [Yields, main_concludes reads]
      exact ⟨world.log, _, rfl⟩
  | @unread invocation _ reads failed =>
      refine main_yields reads fun log errors => ?_
      have acquires := acquire_yields invocation { world with log, errors }
      rw [failed] at acquires
      exact acquires.stop
  | @unformatted invocation source _ reads acquired failed =>
      refine main_yields reads fun log errors => ?_
      refine (acquire_yields_ok acquired log errors).bind fun log errors => ?_
      have formats := Formatting.format_yields engine source invocation.config
        { world.acquired invocation with log, errors }
      change Yields _ _ (Formatting.outcome
        (engine.answer source invocation.config world.tree).1) _ at formats
      rw [failed] at formats
      exact formats.stop
  | @delivered invocation source formatted _ _ reads acquired answered delivers =>
      refine main_yields reads fun log errors => ?_
      refine (acquire_yields_ok acquired log errors).bind fun log errors => ?_
      have formats := Formatting.format_yields engine source invocation.config
        { world.acquired invocation with log, errors }
      change Yields _ _ (Formatting.outcome
        (engine.answer source invocation.config world.tree).1) _ at formats
      rw [answered] at formats
      refine formats.bind fun log errors => ?_
      exact delivers.yields log errors

/-! ## Every run goes by a rule -/

theorem course_of_reads {parsed : Except CommandLine.Ending Invocation}
    (reads : Reads arguments world parsed) :
    ∃ result after, Course engine arguments world result after := by
  have showing {ending : CommandLine.Ending} {text : Text}
      (reads : Reads arguments world (.error ending))
      (asked : ending.text? world.columns = some text) :
      ∃ result after, Course engine arguments world result after := by
    rcases onScreen_cases text world with ⟨output, screen, wrote⟩ | ⟨fault, output, screen, failed⟩
    · exact ⟨_, _, .shown reads asked wrote⟩
    · exact ⟨_, _, .unshown reads asked failed.1 failed.2⟩
  cases parsed with
  | error ending =>
      cases ending with
      | help => exact showing reads rfl
      | version => exact showing reads rfl
      | misuse message => exact ⟨_, _, .misused reads⟩
  | ok invocation =>
      cases acquired : (invocation.acquired world.tree world.input).1 with
      | error raised => exact ⟨_, _, .unread reads acquired⟩
      | ok source =>
          cases answered : Formatting.outcome
              (engine.answer source invocation.config world.tree).1 with
          | error raised => exact ⟨_, _, .unformatted reads acquired answered⟩
          | ok formatted =>
              obtain ⟨result, after, delivers⟩ := Delivery.delivers_exists invocation source
                formatted (world.formatted engine invocation source)
              exact ⟨result, after, .delivered reads acquired answered delivers⟩

theorem course_exists (engine : Engine) (arguments : List Text) (world : World) :
    ∃ result after, Course engine arguments world result after := by
  by_cases nothing : arguments = []
  · cases answers : world.input.isInteractive with
    | error fault => exact ⟨_, _, .unprobed nothing answers⟩
    | ok interactive =>
        cases interactive with
        | false => exact course_of_reads ⟨rfl, fun _ => answers⟩
        | true =>
            cases delivered : OutputStream.deliver (CommandLine.help world.columns)
                world.output with
            | ok _ output => exact ⟨_, _, .helped nothing answers delivered⟩
            | error fault output => exact ⟨_, _, .unhelped nothing answers delivered⟩
  · exact course_of_reads ⟨rfl, fun none => absurd none nothing⟩

/-- Every run goes by a rule, and as the rule says. -/
theorem main_course (engine : Engine) (arguments : List Text) (world : World) :
    ∃ result after, Course engine arguments world result after ∧
      Yields (main engine arguments) world result after := by
  obtain ⟨result, after, course⟩ := course_exists engine arguments world
  exact ⟨result, after, course, course.yields⟩

/-- Once a source is acquired, the engine is called with it. -/
theorem engineCalls_of_acquired (engine : Engine) {invocation : Invocation}
    (reads : Reads arguments world (.ok invocation)) {source : Text}
    (acquired : (invocation.acquired world.tree world.input).1 = .ok source) :
    ((main engine arguments).after world).engineCalls =
      world.engineCalls ++ [⟨source, invocation.config⟩] := by
  cases answered : Formatting.outcome (engine.answer source invocation.config world.tree).1 with
  | error raised =>
      obtain ⟨log, errors, left⟩ := (Course.unformatted reads acquired answered).yields.after_eq
      rw [left]
      rfl
  | ok formatted =>
      obtain ⟨result, after, delivers⟩ := Delivery.delivers_exists invocation source formatted
        (world.formatted engine invocation source)
      obtain ⟨log, errors, left⟩ :=
        (Course.delivered reads acquired answered delivers).yields.after_eq
      rw [left]
      exact delivers.engineCalls

def lineEnding : Engine :=
  .ofFunction "LineEnding" fun source _ => .ok (.text (source ++ "\n"))

theorem lineEnding_leavesFiles : lineEnding.LeavesFiles := fun _ _ _ => rfl

def desk : World :=
  { tree := { start := [], entries := [(["a.gd"], .file [112]), (["b.gd"], .link "a.gd")] }
    input := .ofContent (.bytes [112]) false
    output := .bytes {} }

end Program

end ScriptFormat
