import ScriptFormat.Proofs.Program.Boundary
import ScriptFormat.Proofs.Program.Routes
import ScriptFormat.Proofs.Source.StreamFaults
import ScriptFormat.Proofs.Text.Pieces

/-!
# Files that cannot be read

A file that is named is read and its text goes to the engine, or the run ends with an
error that says why it was not read, and nothing has been called or written. Only a
name with a null byte gets past this: opening it fails by a fault of a value, and the
guard of files does not catch that one.
-/

namespace ScriptFormat

namespace Path

/-- A path shows the code points of its text, up to slashes and points. -/
theorem mem_text_ofText {point : CodePoint} (notSlash : point ≠ slash) (notHere : point ∉ here)
    (text : Text) : point ∈ (ofText text).text ↔ point ∈ text := by
  have parts : (∃ part ∈ partsOf text, point ∈ part) ↔ point ∈ text := by
    rw [← Text.mem_splitOn (· == slash) (beq_eq_false_iff_ne.mpr notSlash) text]
    constructor
    · rintro ⟨part, member, within⟩
      exact ⟨part, (List.mem_filter.mp member).1, within⟩
    · rintro ⟨part, member, within⟩
      refine ⟨part, List.mem_filter.mpr ⟨member, ?_⟩, within⟩
      have apart : part ≠ here := by
        rintro rfl
        exact notHere within
      simp [apart, List.ne_nil_of_mem within]
  rw [← parts, Path.text]
  split
  · next bare =>
      have none : partsOf text = [] := List.isEmpty_iff.mp bare.2
      simp [none, notHere]
  · have front : point ∉ List.replicate (ofText text).slashes slash := by
      simp [List.mem_replicate, notSlash]
    rw [List.mem_append, Text.mem_join (by simpa using notSlash)]
    exact or_iff_right front

/-- A null byte stands in the text, and every code point of the text has a byte for a file name. -/
def HasNullByte (text : Text) : Prop :=
  0 ∈ text ∧ ∀ point ∈ text, point.isSurrogate = true → isByteEscape point = true

instance (text : Text) : Decidable (HasNullByte text) := inferInstanceAs (Decidable (_ ∧ _))

def nullByteFault : Fault := .ofValue "embedded null byte"

theorem hasNullByte_ofText (text : Text) : HasNullByte (ofText text).text ↔ HasNullByte text := by
  have zero : (0 : CodePoint) ∈ (ofText text).text ↔ 0 ∈ text :=
    mem_text_ofText (by decide) (by decide) text
  have surrogate {point : CodePoint} (refused : point.isSurrogate = true) :
      point ∈ (ofText text).text ↔ point ∈ text := by
    refine mem_text_ofText ?_ ?_ text
    · rintro rfl
      cases refused
    · intro isHere
      rw [List.mem_singleton.mp isHere] at refused
      cases refused
  rw [HasNullByte, HasNullByte, zero]
  refine and_congr_right fun _ => forall_congr' fun point => ?_
  constructor
  · intro escaped member refused
    exact escaped ((surrogate refused).mpr member) refused
  · intro escaped member refused
    exact escaped ((surrogate refused).mp member) refused

theorem escaped_iff (text : Text) :
    EncodeFault.find? "utf-8" "surrogates not allowed"
        (fun point => point.isSurrogate && !isByteEscape point) text = none ↔
      ∀ point ∈ text, point.isSurrogate = true → isByteEscape point = true := by
  rw [EncodeFault.find?_eq_none_iff]
  simp

theorem refusal?_of_hasNullByte {text : Text} (null : HasNullByte text) :
    refusal? text = some nullByteFault := by
  rw [refusal?, (escaped_iff text).mpr null.2]
  exact if_pos (List.contains_iff_mem.mpr null.1)

/-- Any other name that is refused has a code point without a byte. -/
theorem unencodable_of_refusal? {text : Text} {fault : Fault} (clear : ¬ HasNullByte text)
    (refused : refusal? text = some fault) : ∃ unfit, fault = .unencodable unfit := by
  unfold refusal? at refused
  split at refused
  · cases refused
    exact ⟨_, rfl⟩
  · next escaped =>
      split at refused
      · next zero =>
          exact absurd ⟨List.contains_iff_mem.mp zero, (escaped_iff text).mp escaped⟩ clear
      · cases refused

end Path

/-! ## Reading -/

namespace FileTree

variable {tree : FileTree} {path : Path}

theorem readText_of_hasNullByte (null : Path.HasNullByte path.text) :
    tree.readText path = .error Path.nullByteFault := by
  have refused : path.route.refusal? = some Path.nullByteFault := Path.refusal?_of_hasNullByte null
  rw [readText, read, refused]

/-- What else keeps a file from being read is for the guard of files. -/
theorem isFileFault_of_readText {fault : Fault} (clear : ¬ Path.HasNullByte path.text)
    (failed : tree.readText path = .error fault) : Source.isFileFault fault = true := by
  unfold readText at failed
  split at failed
  · next unread =>
      cases failed
      unfold read at unread
      -- Beside a refused name there are only the faults of the system.
      split at unread
      · next refused =>
          cases unread
          obtain ⟨unfit, rfl⟩ := Path.unencodable_of_refusal? clear refused
          rfl
      · split at unread
        all_goals cases unread
        all_goals rfl
  · split at failed
    all_goals cases failed
    rfl

end FileTree

namespace Program

open Run CommandLine

/-- All but the log and the error stream is as before. -/
def Untouched (world after : World) : Prop := ∃ log errors, after = { world with log, errors }

/-- Either the text of a file goes to the engine, or why it does not is raised and shown. -/
inductive ReadOrReported (engine : Engine) (arguments : List Text) (path : Path)
    (config : FormatterConfig) (world : World) : Prop where
  | read {content : Bytes} {source : Text} (held : world.tree.read path.route = .ok content)
      (decoded : Utf8.decode content = .ok source)
      (called : ((main engine arguments).after world).engineCalls =
        world.engineCalls ++ [⟨source, config⟩])
  | reported {cause : Fault} {error : TypedError}
      (failed : world.tree.readText path = .error cause)
      (surfaces : Source.Surfaces .sourceRead ("Failed to read file " ++ path.text ++ ": ") cause
        { fault := .typed error, cause := some cause })
      (raised : (main engine arguments).result world =
        .error { fault := .typed error, cause := some cause })
      (untouched : Untouched world ((main engine arguments).after world))
      (status : (cli engine arguments).result world = .ok (.number ExitStatus.generalError))
      (shown : Reported error ((main engine arguments).after world)
        ((cli engine arguments).after world))

section Reading

variable {arguments : List Text} {invocation : Invocation} {path : Path} {world : World}

theorem readText_fails (engine : Engine) (parsed : parse arguments = .ok invocation)
    (named : invocation.input = some path) {fault : Fault}
    (failed : world.tree.readText path = .error fault) :
    (main engine arguments).result world =
        .error (Source.mapped Source.isFileFault .sourceRead
          ("Failed to read file " ++ path.text) fault) ∧
      Untouched world ((main engine arguments).after world) := by
  have acquired : invocation.acquired world.tree world.input =
      (.error (Source.mapped Source.isFileFault .sourceRead
        ("Failed to read file " ++ path.text) fault), world.input) := by
    rw [Invocation.acquired_file named, failed]
    rfl
  have course : Course engine arguments world _ _ :=
    .unread (reads_of_file parsed named) (congrArg Prod.fst acquired)
  have yields := course.yields
  obtain ⟨log, errors, left⟩ := yields.after_eq
  refine ⟨yields.result_eq, log, errors, ?_⟩
  rw [left, World.acquired, acquired]

theorem readOrReported (engine : Engine) (parsed : parse arguments = .ok invocation)
    (named : invocation.input = some path) (clear : ¬ Path.HasNullByte path.text) :
    ReadOrReported engine arguments path invocation.config world := by
  cases read : world.tree.readText path with
  | ok source =>
      obtain ⟨content, held, decoded⟩ := FileTree.readText_eq_ok_iff.mp read
      have called := (fetches_file parsed named held).engineCalls engine
      rw [callsFor, decoded] at called
      exact .read held decoded called
  | error cause =>
      obtain ⟨raised, untouched⟩ := readText_fails engine parsed named read
      have guarded := FileTree.isFileFault_of_readText clear read
      rw [Source.mapped, if_pos guarded, Raised.from] at raised
      obtain ⟨last, reported, reports⟩ := report_typed _ (some cause)
        ((main engine arguments).after world)
      have ends := (cli_of_error raised).trans reports
      refine .reported read ?_ raised untouched (result_of_ok ends) ?_
      · exact Source.surfaces_of_caught _ _ (Source.caught_of_isFileFault guarded)
      · rw [after_of_ok ends]
        exact reported

end Reading

/-- A run that is given a file reads it or reports why not, and nothing else, unless there is a null
byte in the name. -/
theorem main_reads_or_reports (engine : Engine) {arguments : List Text} {invocation : Invocation}
    {operand : Text} (world : World) (parsed : parse arguments = .ok invocation)
    (named : invocation.input = some (.ofText operand)) :
    (¬ Path.HasNullByte operand →
      ReadOrReported engine arguments (.ofText operand) invocation.config world) ∧
    (Path.HasNullByte operand →
      (main engine arguments).result world = .error { fault := Path.nullByteFault } ∧
        Untouched world ((main engine arguments).after world) ∧
        (cli engine arguments).result world = .ok (.number ExitStatus.unexpectedError)) := by
  constructor
  · intro clear
    exact readOrReported engine parsed named (mt (Path.hasNullByte_ofText operand).mp clear)
  · intro null
    have failed : world.tree.readText (.ofText operand) = .error Path.nullByteFault :=
      FileTree.readText_of_hasNullByte ((Path.hasNullByte_ofText operand).mpr null)
    obtain ⟨raised, untouched⟩ := readText_fails engine parsed named failed
    have raw : (main engine arguments).result world = .error { fault := Path.nullByteFault } :=
      raised
    exact ⟨raw, untouched, cli_of_admitted raw (Fault.ofValue_admitted _)⟩

theorem main_reads_or_reports_missing :
    parse ["gone.gd"] = .ok { input := some (.ofText "gone.gd") } ∧
      ¬ Path.HasNullByte "gone.gd" ∧
      ReadOrReported lineEnding ["gone.gd"] (.ofText "gone.gd") {} desk := by
  have parsed : parse ["gone.gd"] = .ok { input := some (.ofText "gone.gd") } :=
    parse_alone (by decide +kernel)
  have clear : ¬ Path.HasNullByte "gone.gd" := by decide +kernel
  exact ⟨parsed, clear, (main_reads_or_reports lineEnding desk parsed rfl).1 clear⟩

/-- The fault on a null byte is no read error. -/
theorem main_raises_on_null_byte :
    parse ["a\x00b.gd"] = .ok { input := some (.ofText "a\x00b.gd") } ∧
      (main lineEnding ["a\x00b.gd"]).result desk =
        .error { fault := .ofValue "embedded null byte" } ∧
      (cli lineEnding ["a\x00b.gd"]).result desk = .ok (.number ExitStatus.unexpectedError) := by
  have parsed : parse ["a\x00b.gd"] = .ok { input := some (.ofText "a\x00b.gd") } :=
    parse_alone (by decide +kernel)
  have null : Path.HasNullByte (Path.ofText "a\x00b.gd").text :=
    (Path.hasNullByte_ofText _).mpr (by decide +kernel)
  have raw : (main lineEnding ["a\x00b.gd"]).result desk = .error { fault := Path.nullByteFault } :=
    (readText_fails lineEnding parsed rfl (FileTree.readText_of_hasNullByte null)).1
  exact ⟨parsed, raw, cli_of_admitted raw (Fault.ofValue_admitted _)⟩

end Program

end ScriptFormat
