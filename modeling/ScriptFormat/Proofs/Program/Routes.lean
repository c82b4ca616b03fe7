import ScriptFormat.Proofs.CommandLine.Flags
import ScriptFormat.Proofs.Program.FileEffect

/-!
# Routes of a result

The same source can come from a file or from the input, and the same result can
overwrite the file, be printed or be compared. Up to the delivery all these routes
are one: bytes are fetched, decoded and given to the engine with the same settings.
-/

namespace ScriptFormat

open Run

/-- A byte stream that is open, has these bytes in its buffer and holds none back. -/
def OutputStream.Carries (output : OutputStream) (data : Bytes) : Prop :=
  ∃ stream : ByteStream, output = .bytes stream ∧ stream.closed = false ∧
    stream.written = data ∧ stream.pending = []

def OutputStream.IsOpen : OutputStream → Prop
  | .bytes stream => stream.closed = false
  | .text stream => stream.closed = false
  | .scripted _ => False

theorem OutputStream.Carries.isOpen {output : OutputStream} {printed : Bytes}
    (carries : output.Carries printed) : output.IsOpen := by
  obtain ⟨stream, rfl, opened, _⟩ := carries
  exact opened

/-- A stream that holds nothing back takes a text behind what it has. -/
theorem OutputStream.Carries.deliver {output : OutputStream} {printed data : Bytes} {text : Text}
    (carries : output.Carries printed) (encoded : Utf8.encode text = .ok data) :
    ∃ after, OutputStream.deliver text output = .ok () after ∧
      ∀ shown, output.Carries shown → after.Carries (shown ++ data) := by
  obtain ⟨stream, rfl, opened, _, pending⟩ := carries
  refine ⟨.bytes (stream.flush.append data), ?_, ?_⟩
  · rw [deliver_bytes opened, encoded]
  · rintro shown ⟨_, same, _, written, _⟩
    cases same
    exact ⟨_, rfl, opened, by simp [ByteStream.flush, ByteStream.append, pending, written], rfl⟩

/-- The line on a formatted file has an encoding, so an open stream takes it. -/
theorem OutputStream.IsOpen.delivers_line {output : OutputStream} (opened : output.IsOpen) :
    ∃ after, OutputStream.deliver (Delivery.formattedMessage ++ "\n") output = .ok () after := by
  cases output with
  | bytes stream =>
      rw [deliver_bytes opened]
      exact ⟨_, rfl⟩
  | text stream => exact ⟨_, deliver_text opened _⟩
  | scripted stream => cases opened

namespace Program

/-- A command line is read as an invocation for which the source is to be had from these bytes. -/
structure Fetches (arguments : List Text) (world : World) (invocation : Invocation)
    (heading : Text) (content : Bytes) : Prop where
  reads : Reads arguments world (.ok invocation)
  acquired : (invocation.acquired world.tree world.input).1 =
    (Utf8.decode content).mapError (unread heading)

section Fetching

variable {world : World} {content : Bytes}

theorem fetches_file {arguments : List Text} {invocation : Invocation} {path : Path}
    (parsed : CommandLine.parse arguments = .ok invocation) (named : invocation.input = some path)
    (held : world.tree.read path.route = .ok content) :
    Fetches arguments world invocation ("Failed to read file " ++ path.text) content where
  reads := reads_of_file parsed named
  acquired := by
    rw [Invocation.acquired_file named, FileTree.readText, held]
    cases decoded : Utf8.decode content <;> simp only [decoded] <;> rfl

theorem fetches_input {arguments : List Text} {invocation : Invocation}
    (parsed : CommandLine.parse arguments = .ok invocation) (nameless : invocation.input = none)
    (fed : world.input.content = .bytes content) (opened : world.input.closed = false)
    (noTerminal : world.input.isInteractive = .ok false) :
    Fetches arguments world invocation "Failed to read from stdin" content where
  reads := ⟨parsed, fun _ => noTerminal⟩
  acquired := by
    rw [Invocation.acquired_input nameless, InputStream.readAll, fed, opened]
    cases decoded : Utf8.decode content <;> simp only [decoded] <;> rfl

end Fetching

section Going

variable {engine : Engine} {arguments : List Text} {world : World} {invocation : Invocation}
  {heading : Text} {content : Bytes}

theorem Fetches.unread_yields (fetches : Fetches arguments world invocation heading content)
    (engine : Engine) {fault : DecodeFault} (undecoded : Utf8.decode content = .error fault) :
    Yields (main engine arguments) world (.error (unread heading fault))
      (world.acquired invocation) := by
  refine (Course.unread fetches.reads ?_).yields
  rw [fetches.acquired, undecoded]
  rfl

theorem Fetches.acquired_ok (fetches : Fetches arguments world invocation heading content)
    {source : Text} (decoded : Utf8.decode content = .ok source) :
    (invocation.acquired world.tree world.input).1 = .ok source := by
  rw [fetches.acquired, decoded]
  rfl

theorem Fetches.unformatted_yields (fetches : Fetches arguments world invocation heading content)
    {source : Text} {raised : Raised} (decoded : Utf8.decode content = .ok source)
    (failed : Formatting.outcome (engine.answer source invocation.config world.tree).1 =
      .error raised) :
    Yields (main engine arguments) world (.error raised)
      (world.formatted engine invocation source) :=
  (Course.unformatted fetches.reads (fetches.acquired_ok decoded) failed).yields

theorem Fetches.delivered_yields (fetches : Fetches arguments world invocation heading content)
    {source formatted : Text} {result : Except Raised Int} {after : World}
    (decoded : Utf8.decode content = .ok source)
    (answered : Formatting.outcome (engine.answer source invocation.config world.tree).1 =
      .ok formatted)
    (delivers : Delivery.Delivers invocation source formatted
      (world.formatted engine invocation source) result after) :
    Yields (main engine arguments) world result after :=
  (Course.delivered fetches.reads (fetches.acquired_ok decoded) answered delivers).yields

/-- Without a text to deliver a run fails. -/
theorem Fetches.fails (fetches : Fetches arguments world invocation heading content)
    (engine : Engine)
    (givesNone : ¬ ∃ source formatted, Utf8.decode content = .ok source ∧
      (engine.answer source invocation.config world.tree).1 = .ok (.text formatted)) :
    ∃ raised, (main engine arguments).result world = .error raised := by
  cases decoded : Utf8.decode content with
  | error fault => exact ⟨_, (fetches.unread_yields engine decoded).result_eq⟩
  | ok source =>
      cases answered : Formatting.outcome (engine.answer source invocation.config world.tree).1 with
      | error raised => exact ⟨raised, (fetches.unformatted_yields decoded answered).result_eq⟩
      | ok formatted =>
          exact absurd ⟨source, formatted, decoded, outcome_eq_ok_iff.mp answered⟩ givesNone

def callsFor (content : Bytes) (config : FormatterConfig) : List EngineCall :=
  match Utf8.decode content with
  | .ok source => [{ source, config }]
  | .error _ => []

/-- The engine is called for the decoded bytes and never again, wherever the result goes. -/
theorem Fetches.engineCalls (fetches : Fetches arguments world invocation heading content)
    (engine : Engine) :
    ((main engine arguments).after world).engineCalls =
      world.engineCalls ++ callsFor content invocation.config := by
  unfold callsFor
  cases decoded : Utf8.decode content with
  | error fault =>
      obtain ⟨log, errors, left⟩ := (fetches.unread_yields engine decoded).after_eq
      rw [left, List.append_nil]
      rfl
  | ok source => exact engineCalls_of_acquired engine fetches.reads (fetches.acquired_ok decoded)

/-! ## Delivery to an open stream -/

section Streams

variable {source formatted : Text}

theorem Fetches.printed_bytes (fetches : Fetches arguments world invocation heading content)
    (decoded : Utf8.decode content = .ok source)
    (answered : Formatting.outcome (engine.answer source invocation.config world.tree).1 =
      .ok formatted)
    (mode : invocation.mode = .stdout) (empty : world.output.Carries []) :
    match Utf8.encode formatted with
    | .ok data =>
        (main engine arguments).result world = .ok ExitStatus.success ∧
          ((main engine arguments).after world).output.Carries data
    | .error fault =>
        (main engine arguments).result world =
          .error (unwritten "Failed to write to stdout" fault) := by
  have prints := Delivery.prints_of_stdout mode source formatted
  cases encoded : Utf8.encode formatted with
  | ok data =>
      obtain ⟨output, delivery, appends⟩ := empty.deliver encoded
      have yields := fetches.delivered_yields decoded answered (.printed prints delivery)
      obtain ⟨log, errors, left⟩ := yields.after_eq
      refine ⟨yields.result_eq, ?_⟩
      rw [left]
      exact appends [] empty
  | error fault =>
      obtain ⟨stream, bytes, opened, _⟩ := empty
      have delivery := OutputStream.deliver_bytes opened formatted
      rw [encoded, ← bytes] at delivery
      exact (fetches.delivered_yields decoded answered (.unprinted prints delivery)).result_eq

theorem Fetches.checked (fetches : Fetches arguments world invocation heading content)
    (decoded : Utf8.decode content = .ok source)
    (answered : Formatting.outcome (engine.answer source invocation.config world.tree).1 =
      .ok formatted)
    (mode : invocation.mode = .check) (opened : world.output.IsOpen) :
    (main engine arguments).result world =
      .ok (if formatted = source then ExitStatus.success else ExitStatus.checkFailed) := by
  by_cases same : formatted = source
  · subst same
    have prints := Delivery.prints_of_check mode formatted
    obtain ⟨output, delivery⟩ := opened.delivers_line
    rw [if_pos rfl]
    exact (fetches.delivered_yields decoded answered (.printed prints delivery)).result_eq
  · rw [if_neg same]
    exact (fetches.delivered_yields decoded answered (.different mode same)).result_eq

end Streams

end Going

/-- What a run that overwrites a file comes to when the engine gives a text for it. -/
theorem overwrites_file {engine : Engine} {operand : Text} {flags : List Flag} {world : World}
    {content : Bytes} (leaves : engine.LeavesFiles)
    (plain : operand.startsWith [CommandLine.hyphen] = false)
    (accepted : ∀ flag ∈ flags, flag.Accepted)
    (held : world.tree.read (Path.ofText operand).route = .ok content)
    {source formatted : Text} (decoded : Utf8.decode content = .ok source)
    (answered : (engine.answer source (.ofFlags flags) world.tree).1 =
      .ok (.text formatted)) :
    match Utf8.encode formatted with
    | .ok data =>
        (main engine (operand :: Flag.line flags)).result world = .ok ExitStatus.success ∧
          ((main engine (operand :: Flag.line flags)).after world).tree.read
            (Path.ofText operand).route = .ok data
    | .error fault =>
        (main engine (operand :: Flag.line flags)).result world =
          .error (unwritten ("Failed to write to file " ++ (Path.ofText operand).text) fault) := by
  have overwrites : Overwrites engine (operand :: Flag.line flags) world.tree
      (.ofText operand) formatted :=
    ⟨_, CommandLine.parse_operand plain accepted, rfl, rfl, rfl, source,
      FileTree.readText_eq_ok_iff.mpr ⟨content, held, decoded⟩, answered⟩
  obtain ⟨place, old, holds, ends⟩ := overwrites_ends leaves overwrites
  cases encoded : Utf8.encode formatted with
  | ok data =>
      rw [encoded] at ends
      refine ⟨ends.1, ?_⟩
      rw [ends.2]
      exact holds.read_set data
  | error fault =>
      rw [encoded] at ends
      exact ends.1

end Program

end ScriptFormat
