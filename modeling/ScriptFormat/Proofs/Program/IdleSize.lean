import ScriptFormat.Proofs.CommandLine.Sizes
import ScriptFormat.Proofs.Program.History
import ScriptFormat.Proofs.Run.Together

/-!
# The size of an indent without spaces

The size goes from the command line through the invocation into the settings for the
engine, and there the call of the toolkit leaves it out unless spaces are in use. So without
spaces and diagnostics a run does not depend on it.
-/

namespace ScriptFormat

open Run CommandLine

namespace Formatting

variable {config : FormatterConfig}

theorem callFor_sized (source : Text) (tabs : config.useSpaces = false) (size : IndentSize) :
    Toolkit.callFor source { config with indentSize := size } = Toolkit.callFor source config := by
  simp [Toolkit.callFor, tabs]

/-- The toolkit is called in the same way or not at all. -/
theorem callToolkit_sized (toolkit : Toolkit) (source : Text) (tabs : config.useSpaces = false)
    (size : IndentSize) :
    callToolkit toolkit source { config with indentSize := size } =
      callToolkit toolkit source config := by
  unfold callToolkit
  rw [callFor_sized source tabs size]

theorem callEngine_together (toolkit : Toolkit) (source : Text) (tabs : config.useSpaces = false)
    (size : IndentSize) :
    Together (Log.IsConfigured false) (callEngine (.toolkit toolkit) source config)
      (callEngine (.toolkit toolkit) source { config with indentSize := size }) := by
  refine (Together.calling _ _).bind fun _ => ?_
  have same := callToolkit_sized toolkit source tabs size
  change Together _ (callToolkit toolkit source config) (callToolkit toolkit source _)
  rw [same]
  exact (callToolkit_forgets toolkit source config).together

/-- What is logged about the settings is not shown, and the call is the same. -/
theorem format_together (toolkit : Toolkit) (source : Text) (tabs : config.useSpaces = false)
    (size : IndentSize) :
    Together (Log.IsConfigured false) (format (.toolkit toolkit) source config)
      (format (.toolkit toolkit) source { config with indentSize := size }) := by
  refine (Together.debugging logger_own _ _).bind fun _ => ?_
  refine Together.bind ((callEngine_together toolkit source tabs size).caught fun _ => .throw _)
    fun result => ?_
  cases result with
  | text formatted =>
      exact (Together.debugging logger_own _ _).bind fun _ => .pure formatted
  | _ => exact .throw _

end Formatting

namespace Program

variable {first second : Text} {size other : IndentSize} {arguments : List Text}

theorem format_together (toolkit : Toolkit) {invocation : Invocation}
    (tabs : invocation.useSpaces = false) (size : IndentSize) :
    Together (Log.IsConfigured false) (format (.toolkit toolkit) invocation)
      (format (.toolkit toolkit) (invocation.sized size)) := by
  refine (acquire_forgets invocation).together.bind fun source => ?_
  refine (Formatting.format_together toolkit source tabs size).bind fun formatted => ?_
  exact (Delivery.dispatch_forgets invocation.mode source formatted invocation.input).together

section Sized

variable {engine : Engine} {value : Text} {invocation : Invocation}

theorem reads_of_sized {parsed : Except Ending Invocation}
    (parses : parse (sized value arguments) = parsed) (world : World) :
    Reads (sized value arguments) world parsed :=
  ⟨parses, fun nothing => absurd nothing (List.cons_ne_nil _ _)⟩

theorem main_of_refused {ending : Ending}
    (refused : parse (sized value arguments) = .error ending) :
    main engine (sized value arguments) = conclude ending := by
  funext world
  exact main_concludes (reads_of_sized refused world)

theorem main_of_accepted (parsed : parse (sized value arguments) = .ok invocation) :
    main engine (sized value arguments) = (do
      modify fun world => world.configureLog invocation.debug
      Run.debug logger ("Parsed " ++ invocation.described)
      format engine invocation) := by
  funext world
  exact main_formats (reads_of_sized parsed world)

end Sized

/-- Both command lines are refused for the same reason, or ask for runs that keep together. -/
theorem main_together (toolkit : Toolkit) (asked : indentOf first = .ok size)
    (again : indentOf second = .ok other) (tabs : given .useSpaces arguments = false)
    (plain : given .debug arguments = false) :
    Together AnyLog (main (.toolkit toolkit) (sized first arguments))
      (main (.toolkit toolkit) (sized second arguments)) := by
  have ends := parse_alike asked again arguments
  cases parsed : parse (sized first arguments) with
  | error ending =>
      rw [parsed] at ends
      rw [main_of_refused parsed, main_of_refused ends.of_error]
      exact (conclude_forgets ending AnyLog : Forgets false _ _).together
  | ok invocation =>
      rw [parsed] at ends
      obtain ⟨_, parsed', size', rfl⟩ := ends.of_ok
      have spaces : invocation.useSpaces = given .useSpaces arguments :=
        isOn_of_parse_sized parsed (by decide +kernel : Switch.useSpaces.IsLong) (by decide)
      have debug : invocation.debug = given .debug arguments :=
        isOn_of_parse_sized parsed (by decide +kernel : Switch.debug.IsLong) (by decide)
      -- From the configuration on both logs are quiet, so what is logged of the size does not show.
      have quiet : (invocation.sized size').debug = false := debug.trans plain
      rw [main_of_accepted parsed, main_of_accepted parsed', quiet, debug, plain]
      refine Together.configured ((Together.debugging logger_own _ _).bind fun _ => ?_)
      exact format_together toolkit (spaces.trans tabs) size'

theorem cli_together (toolkit : Toolkit) (asked : indentOf first = .ok size)
    (again : indentOf second = .ok other) (tabs : given .useSpaces arguments = false)
    (plain : given .debug arguments = false) :
    Together AnyLog (cli (.toolkit toolkit) (sized first arguments))
      (cli (.toolkit toolkit) (sized second arguments)) :=
  ((main_together toolkit asked again tabs plain).map Value.number).caught fun raised =>
    (report_forgets raised AnyLog : Forgets false _ _).together

/-- Without spaces and diagnostics the size decides nothing: with any two sizes that are accepted, a
run of the program and a whole run give the same, call the toolkit alike and leave the same files,
streams and messages. -/
theorem size_is_idle (toolkit : Toolkit) (asked : indentOf first = .ok size)
    (again : indentOf second = .ok other) (tabs : given .useSpaces arguments = false)
    (plain : given .debug arguments = false) (world : World) :
    Coincide (main (.toolkit toolkit) (sized first arguments))
        (main (.toolkit toolkit) (sized second arguments)) world ∧
      Coincide (cli (.toolkit toolkit) (sized first arguments))
        (cli (.toolkit toolkit) (sized second arguments)) world :=
  ⟨(main_together toolkit asked again tabs plain).coincide world,
    (cli_together toolkit asked again tabs plain).coincide world⟩

/-- A file is overwritten in the same way with a size of two and a size of eight. -/
theorem size_is_idle_at_desk :
    let toolkit : Toolkit := { formatCode := fun call => .ok (.text (call.source ++ "\n")) }
    let arguments : List Text := ["b.gd"]
    indentOf "2" = .ok (.count 2) ∧ indentOf "8" = .ok (.count 8) ∧
      given .useSpaces arguments = false ∧ given .debug arguments = false ∧
      Coincide (cli (.toolkit toolkit) (sized "2" arguments))
        (cli (.toolkit toolkit) (sized "8" arguments)) desk := by
  intro toolkit arguments
  have asked : indentOf "2" = .ok (.count 2) := rfl
  have again : indentOf "8" = .ok (.count 8) := rfl
  have tabs : given .useSpaces arguments = false := by decide +kernel
  have plain : given .debug arguments = false := by decide +kernel
  exact ⟨asked, again, tabs, plain, (size_is_idle toolkit asked again tabs plain desk).2⟩

end Program

end ScriptFormat
