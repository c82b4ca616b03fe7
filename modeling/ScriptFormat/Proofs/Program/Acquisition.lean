import ScriptFormat.Proofs.CommandLine.Requests
import ScriptFormat.Proofs.FileTree.TextFiles
import ScriptFormat.Proofs.Program.Course

/-!
# One source and one call

A run that gets as far as acquiring a source takes it from the file that is named or from
the input, and calls the engine once with it and with the settings asked for. Any other
run calls no engine. The input is left alone unless the source comes from it.
-/

namespace ScriptFormat

/-- The text that an open input holds, as it is or as the bytes of it. -/
inductive InputStream.Contains (stream : InputStream) : Text → Prop where
  | bytes {data : Bytes} {source : Text} (content : stream.content = .bytes data)
      (opened : stream.closed = false) (decoded : Utf8.decode data = .ok source) :
      stream.Contains source
  | text {source : Text} (content : stream.content = .text source)
      (opened : stream.closed = false) : stream.Contains source

theorem InputStream.readAll_eq_ok_iff {stream : InputStream} {source : Text} :
    stream.readAll.1 = .ok source ↔ stream.Contains source := by
  constructor
  · intro read
    unfold readAll at read
    split at read
    · cases read
    · cases read
    · next data content =>
        split at read
        · cases read
        · next opened =>
            dsimp only at read
            split at read
            · next decoded =>
                cases read
                exact .bytes content (Bool.eq_false_iff.mpr opened) decoded
            · cases read
    · next text content =>
        split at read
        · cases read
        · next opened => cases read; exact .text content (Bool.eq_false_iff.mpr opened)
  · intro contains
    unfold readAll
    cases contains with
    | bytes content opened decoded => simp [content, opened, decoded]
    | text content opened => simp [content, opened]

/-- A stream fails to say whether it is a terminal only by a fault that is passed on. -/
theorem InputStream.isInteractive_ok {stream : InputStream}
    (probes : ∀ fault, stream.terminal = .fails fault → fault.isValue = true) :
    ∃ interactive, stream.isInteractive = .ok interactive := by
  unfold isInteractive
  cases terminal : stream.terminal with
  | silent => exact ⟨false, rfl⟩
  | answers attached => exact ⟨attached, rfl⟩
  | fails fault => exact ⟨false, by simp [probes fault terminal]⟩

theorem Delivery.Delivers.input {invocation : Invocation} {source formatted : Text}
    {world after : World} {result : Except Raised Int}
    (delivers : Delivers invocation source formatted world result after) :
    after.input = world.input := by
  cases delivers <;> rfl

namespace Program

open Run CommandLine

/-- The source for a command line: the text of the file that its operand names, or the text of the
input if it has no operand. -/
inductive IsSource (arguments : List Text) (world : World) : Text → Prop where
  | file {operand source : Text} {content : Bytes} (named : operands arguments = [operand])
      (held : world.tree.read (Path.ofText operand).route = .ok content)
      (decoded : Utf8.decode content = .ok source) : IsSource arguments world source
  | input {source : Text} (nameless : operands arguments = [])
      (contains : world.input.Contains source) : IsSource arguments world source

def OffersHelp (arguments : List Text) (world : World) : Prop :=
  arguments = [] ∧ world.input.isInteractive = .ok true

section Sources

variable {arguments : List Text} {world : World} {invocation : Invocation}

theorem acquired_eq_ok_iff (parsed : parse arguments = .ok invocation) {source : Text} :
    (invocation.acquired world.tree world.input).1 = .ok source ↔
      IsSource arguments world source := by
  rcases input_of_parse parsed with ⟨nameless, none⟩ | ⟨operand, only, named⟩
  · rw [Invocation.acquired_input none, mapError_eq_ok_iff, InputStream.readAll_eq_ok_iff]
    constructor
    · exact .input nameless
    · intro isSource
      cases isSource with
      | file named => rw [nameless] at named; cases named
      | input _ contains => exact contains
  · rw [Invocation.acquired_file named, mapError_eq_ok_iff, FileTree.readText_eq_ok_iff]
    constructor
    · rintro ⟨content, held, decoded⟩
      exact .file only held decoded
    · intro isSource
      cases isSource with
      | file again held decoded =>
          rw [only] at again
          cases again
          exact ⟨_, held, decoded⟩
      | input nameless => rw [only] at nameless; cases nameless

/-- The input is left alone where there is an operand. -/
theorem acquired_input_eq (parsed : parse arguments = .ok invocation)
    (operand : operands arguments ≠ []) :
    (invocation.acquired world.tree world.input).2 = world.input := by
  rcases input_of_parse parsed with ⟨nameless, _⟩ | ⟨_, _, named⟩
  · exact absurd nameless operand
  · rw [Invocation.acquired_file named]

end Sources

/-! ## What a run does -/

inductive Uses (engine : Engine) (arguments : List Text) (world after : World) : Prop where
  | probed {fault : Fault} (failed : world.input.isInteractive = .error fault)
  | offered (offers : OffersHelp arguments world)
      (calls : after.engineCalls = world.engineCalls) (input : after.input = world.input)
  | ended {ending : Ending} (parsed : parse arguments = .error ending)
      (calls : after.engineCalls = world.engineCalls) (input : after.input = world.input)
  | unread {invocation : Invocation} {raised : Raised}
      (reads : Reads arguments world (.ok invocation))
      (failed : (invocation.acquired world.tree world.input).1 = .error raised)
      (calls : after.engineCalls = world.engineCalls)
      (input : after.input = (invocation.acquired world.tree world.input).2)
  | called {invocation : Invocation} {source : Text}
      (reads : Reads arguments world (.ok invocation))
      (acquired : (invocation.acquired world.tree world.input).1 = .ok source)
      (calls : after.engineCalls =
        world.engineCalls ++ [⟨source, invocation.config⟩])
      (input : after.input = (invocation.acquired world.tree world.input).2)

theorem main_uses (engine : Engine) (arguments : List Text) (world : World) :
    Uses engine arguments world ((main engine arguments).after world) := by
  obtain ⟨result, after, course, yields⟩ := main_course engine arguments world
  obtain ⟨log, errors, left⟩ := yields.after_eq
  rw [left]
  cases course with
  | unprobed _ failed => exact .probed failed
  | helped nothing interactive _ => exact .offered ⟨nothing, interactive⟩ rfl rfl
  | unhelped nothing interactive _ => exact .offered ⟨nothing, interactive⟩ rfl rfl
  | shown reads _ _ => exact .ended reads.parsed rfl rfl
  | unshown reads _ _ _ => exact .ended reads.parsed rfl rfl
  | misused reads => exact .ended reads.parsed rfl rfl
  | unread reads failed => exact .unread reads failed rfl rfl
  | unformatted reads acquired _ => exact .called reads acquired rfl rfl
  | delivered reads acquired _ delivers =>
      exact .called reads acquired delivers.engineCalls delivers.input

structure CallsOnce (arguments : List Text) (world after : World) : Prop where
  among : after.engineCalls = world.engineCalls ∨
    ∃ source config, IsSource arguments world source ∧ AsksFor arguments config ∧
      after.engineCalls = world.engineCalls ++ [⟨source, config⟩]
  ended : ∀ ending, parse arguments = .error ending →
    after.engineCalls = world.engineCalls ∧ after.input = world.input
  offered : OffersHelp arguments world →
    after.engineCalls = world.engineCalls ∧ after.input = world.input
  unread : (¬ ∃ source, IsSource arguments world source) → after.engineCalls = world.engineCalls
  called : ∀ invocation, parse arguments = .ok invocation → ¬ OffersHelp arguments world →
    ∀ source, IsSource arguments world source → ∃ config, AsksFor arguments config ∧
      after.engineCalls = world.engineCalls ++ [⟨source, config⟩]
  spared : operands arguments ≠ [] → after.input = world.input

theorem not_offersHelp_of_reads {arguments : List Text} {world : World}
    {parsed : Except Ending Invocation} (reads : Reads arguments world parsed) :
    ¬ OffersHelp arguments world := by
  rintro ⟨nothing, interactive⟩
  rw [reads.proceeds nothing] at interactive
  cases interactive

/-- A run keeps the rules, if an input that fails to say whether it is a terminal fails by a fault
of a value. -/
theorem main_callsOnce (engine : Engine) (arguments : List Text) (world : World)
    (probes : ∀ fault, world.input.terminal = .fails fault → fault.isValue = true) :
    CallsOnce arguments world ((main engine arguments).after world) := by
  cases main_uses engine arguments world with
  | probed failed =>
      obtain ⟨interactive, answers⟩ := InputStream.isInteractive_ok probes
      rw [failed] at answers
      cases answers
  | offered offers calls input =>
      exact {
        among := .inl calls
        ended := fun _ _ => ⟨calls, input⟩
        offered := fun _ => ⟨calls, input⟩
        unread := fun _ => calls
        called := fun _ _ refuses => absurd offers refuses
        spared := fun _ => input }
  | ended parsed calls input =>
      exact {
        among := .inl calls
        ended := fun _ _ => ⟨calls, input⟩
        offered := fun _ => ⟨calls, input⟩
        unread := fun _ => calls
        called := fun _ other => by rw [parsed] at other; cases other
        spared := fun _ => input }
  | unread reads failed calls input =>
      exact {
        among := .inl calls
        ended := fun _ other => by rw [reads.parsed] at other; cases other
        offered := fun offers => absurd offers (not_offersHelp_of_reads reads)
        unread := fun _ => calls
        called := fun _ _ _ source isSource => by
          rw [(acquired_eq_ok_iff reads.parsed).mpr isSource] at failed
          cases failed
        spared := fun operand => input.trans (acquired_input_eq reads.parsed operand) }
  | @called invocation source reads acquired calls input =>
      have isSource := (acquired_eq_ok_iff reads.parsed).mp acquired
      have asks := asksFor_of_parse reads.parsed
      exact {
        among := .inr ⟨source, invocation.config, isSource, asks, calls⟩
        ended := fun _ other => by rw [reads.parsed] at other; cases other
        offered := fun offers => absurd offers (not_offersHelp_of_reads reads)
        unread := fun none => absurd ⟨source, isSource⟩ none
        called := fun _ _ _ other isOther => by
          rw [(acquired_eq_ok_iff reads.parsed).mpr isOther] at acquired
          cases acquired
          exact ⟨invocation.config, asks, calls⟩
        spared := fun operand => input.trans (acquired_input_eq reads.parsed operand) }

/-- An input that is closed cannot say that it is a terminal. -/
theorem main_callsOnce_at_closed_input :
    let world := { desk with input := .ofContent (.bytes [112]) true }
    (∀ fault, world.input.terminal = .fails fault → fault.isValue = true) ∧
      IsSource ["--ind", "8", "a.gd", "--ind=2"] world "p" ∧
      ∃ config, AsksFor ["--ind", "8", "a.gd", "--ind=2"] config ∧
        ((main lineEnding ["--ind", "8", "a.gd", "--ind=2"]).after world).engineCalls =
          [{ source := "p", config }] := by
  have probes : ∀ fault, (InputStream.ofContent (.bytes [112]) true).terminal = .fails fault →
      fault.isValue = true := by
    intro fault fails
    cases fails
    rfl
  have named : operands ["--ind", "8", "a.gd", "--ind=2"] = [("a.gd" : Text)] := by
    decide +kernel
  have isSource : IsSource ["--ind", "8", "a.gd", "--ind=2"]
      { desk with input := .ofContent (.bytes [112]) true } "p" :=
    .file named rfl rfl
  have calls := main_callsOnce lineEnding ["--ind", "8", "a.gd", "--ind=2"]
    { desk with input := .ofContent (.bytes [112]) true } probes
  refine ⟨probes, isSource, calls.called _ rfl ?_ _ isSource⟩
  rintro ⟨nothing, _⟩
  cases nothing

end Program

end ScriptFormat
