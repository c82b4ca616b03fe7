import Mathlib.Logic.ExistsUnique
import ScriptFormat.Proofs.FileTree.Opening
import ScriptFormat.Proofs.Program.Reading

/-!
# How writing a file ends

Writing a file ends in exactly one of three ways. Where the path opens and the text has
an encoding, the file holds the text. Where the path is shut, nothing has changed. Where
the path opens and the text has a surrogate, the file is there and is empty.
-/

namespace ScriptFormat

namespace FileTree

variable {tree : FileTree} {path : Path} {fault : Fault}

theorem writeText_of_shut (shut : tree.Shut path.route fault) (text : Text) :
    tree.writeText path text = (.error fault, tree) := by
  rw [writeText, shut.writable]

/-- What shuts a path is for the guard of files, unless it is a null byte in the name. -/
theorem Shut.isFileFault (shut : tree.Shut path.route fault) (apart : fault ≠ Path.nullByteFault) :
    Source.isFileFault fault = true := by
  cases shut with
  | unnamed refused =>
      by_cases null : Path.HasNullByte path.text
      · have same := Path.refusal?_of_hasNullByte null
        have named : Path.refusal? path.text = some fault := refused
        rw [named] at same
        exact absurd (Option.some.inj same) apart
      · obtain ⟨unfit, rfl⟩ := Path.unencodable_of_refusal? null refused
        rfl
  | _ => rfl

end FileTree

open Run

namespace Source

/-- How the fault of a path that does not open shows. A null byte gets past the guard of files. -/
inductive Unopened (path : Path) (fault : Fault) : Raised → Prop where
  | null (same : fault = Path.nullByteFault) : Unopened path fault { fault }
  | told {error : TypedError} (apart : fault ≠ Path.nullByteFault)
      (surfaces : Surfaces .outputWrite ("Failed to write to file " ++ path.text ++ ": ") fault
        { fault := .typed error, cause := some fault }) :
      Unopened path fault { fault := .typed error, cause := some fault }

def unheld (path : Path) (fault : EncodeFault) : Raised :=
  Program.unwritten ("Failed to write to file " ++ path.text) fault

theorem writePath_result (path : Path) (text : Text) (world : World) :
    (writePath path text).result world =
      (world.tree.writeText path text).1.mapError
        (mapped isFileFault .outputWrite ("Failed to write to file " ++ path.text)) :=
  (writePath_yields path text world).result_eq

theorem writePath_tree (path : Path) (text : Text) (world : World) :
    ((writePath path text).after world).tree = (world.tree.writeText path text).2 := by
  obtain ⟨log, errors, left⟩ := (writePath_yields path text world).after_eq
  rw [left]

theorem unopened_of_shut {tree : FileTree} {path : Path} {fault : Fault}
    (shut : tree.Shut path.route fault) :
    Unopened path fault
      (mapped isFileFault .outputWrite ("Failed to write to file " ++ path.text) fault) := by
  by_cases null : fault = Path.nullByteFault
  · subst null
    exact .null rfl
  · have guarded := shut.isFileFault null
    rw [mapped, if_pos guarded]
    exact .told null (surfaces_of_caught _ _ (caught_of_isFileFault guarded))

/-! ## The three ends -/

inductive WriteEnd where
  | complete
  | unchanged
  | emptied
  deriving DecidableEq

/-- What holds of the files and the result at each end of writing a text to a path. -/
inductive WriteEnds (path : Path) (text : Text) (world : World) : WriteEnd → Prop where
  | complete {place : Place} (opens : world.tree.Opens path.route place)
      (returned : (writePath path text).result world = .ok ())
      (rewritten : world.tree.Rewritten ((writePath path text).after world).tree path.route place
        (Utf8.encodeAll text)) :
      WriteEnds path text world .complete
  | unchanged {fault : Fault} {raised : Raised} (shut : world.tree.Shut path.route fault)
      (stopped : (writePath path text).result world = .error raised)
      (unopened : Unopened path fault raised)
      (same : ((writePath path text).after world).tree = world.tree) :
      WriteEnds path text world .unchanged
  | emptied {place : Place} {fault : EncodeFault} (opens : world.tree.Opens path.route place)
      (raised : (writePath path text).result world = .error (unheld path fault))
      (rewritten : world.tree.Rewritten ((writePath path text).after world).tree path.route place
        []) :
      WriteEnds path text world .emptied

section Ends

variable {path : Path} {text : Text} {world : World} {place : Place} {ending other : WriteEnd}

theorem writeEnds_complete (opens : world.tree.Opens path.route place)
    (plain : ∀ point ∈ text, point.isSurrogate = false) : WriteEnds path text world .complete := by
  have wrote := FileTree.writeText_of_writable (FileTree.opens_iff.mp opens) text
  rw [(Utf8.encode_eq_ok_iff text _).mpr ⟨plain, rfl⟩] at wrote
  refine .complete opens ?_ ?_
  · rw [writePath_result, wrote]
    rfl
  · rw [writePath_tree, wrote]
    exact opens.rewritten (Utf8.encodeAll text)

theorem writeEnds_unchanged {fault : Fault} (shut : world.tree.Shut path.route fault)
    (text : Text) : WriteEnds path text world .unchanged := by
  have failed := FileTree.writeText_of_shut shut text
  have stopped := writePath_result path text world
  rw [failed] at stopped
  refine .unchanged shut stopped (unopened_of_shut shut) ?_
  rw [writePath_tree, failed]

theorem writeEnds_emptied (opens : world.tree.Opens path.route place)
    (surrogate : ∃ point ∈ text, point.isSurrogate = true) :
    WriteEnds path text world .emptied := by
  obtain ⟨fault, refused⟩ := (Utf8.encode_eq_error_iff text).mpr surrogate
  have failed := FileTree.writeText_of_writable (FileTree.opens_iff.mp opens) text
  rw [refused] at failed
  have raised : (writePath path text).result world = .error (unheld path fault) := by
    rw [writePath_result, failed]
    rfl
  refine .emptied opens raised ?_
  rw [writePath_tree, failed]
  exact opens.rewritten []

/-- No write ends in two ways. -/
theorem WriteEnds.unique (first : WriteEnds path text world ending)
    (second : WriteEnds path text world other) : ending = other := by
  have apart {place : Place} {fault : Fault} (opens : world.tree.Opens path.route place)
      (shut : world.tree.Shut path.route fault) : False :=
    FileTree.shut_iff.mp ⟨fault, shut⟩ ⟨place, opens⟩
  have raises {raised : Raised} (returned : (writePath path text).result world = .ok ())
      (stopped : (writePath path text).result world = .error raised) : False := by
    rw [returned] at stopped
    cases stopped
  cases first with
  | complete opens returned =>
      cases second with
      | complete => rfl
      | unchanged shut => exact (apart opens shut).elim
      | emptied _ raised => exact (raises returned raised).elim
  | unchanged shut =>
      cases second with
      | complete opens => exact (apart opens shut).elim
      | unchanged => rfl
      | emptied opens => exact (apart opens shut).elim
  | emptied opens raised =>
      cases second with
      | complete _ returned => exact (raises returned raised).elim
      | unchanged shut => exact (apart opens shut).elim
      | emptied => rfl

end Ends

/-- Writing a file ends in exactly one way: complete if the path opens and the text has no
surrogate, with the files unchanged if the path does not open, and with an empty file otherwise. -/
theorem writePath_ends (path : Path) (text : Text) (world : World) :
    (∃! ending, WriteEnds path text world ending) ∧
      (WriteEnds path text world .complete ↔
        (∃ place, world.tree.Opens path.route place) ∧
          ∀ point ∈ text, point.isSurrogate = false) ∧
      (WriteEnds path text world .unchanged ↔ ¬ ∃ place, world.tree.Opens path.route place) ∧
      (WriteEnds path text world .emptied ↔
        (∃ place, world.tree.Opens path.route place) ∧
          ∃ point ∈ text, point.isSurrogate = true) := by
  -- Whatever holds of the path and the text, one of the ends is there, and it is the only one.
  have only {ending : WriteEnd} (ends : WriteEnds path text world ending) :
      ∃! ending, WriteEnds path text world ending :=
    ⟨ending, ends, fun _ others => others.unique ends⟩
  have other {ending another : WriteEnd} (ends : WriteEnds path text world ending)
      (apart : another ≠ ending) : ¬ WriteEnds path text world another :=
    fun also => apart (also.unique ends)
  by_cases opened : ∃ place, world.tree.Opens path.route place
  · obtain ⟨place, opens⟩ := opened
    by_cases surrogate : ∃ point ∈ text, point.isSurrogate = true
    · have ends := writeEnds_emptied opens surrogate
      refine ⟨only ends, ?_, ?_, ?_⟩
      · refine iff_of_false (other ends (by decide)) ?_
        rintro ⟨_, plain⟩
        obtain ⟨point, member, refused⟩ := surrogate
        rw [plain point member] at refused
        cases refused
      · exact iff_of_false (other ends (by decide)) (not_not_intro ⟨place, opens⟩)
      · exact iff_of_true ends ⟨⟨place, opens⟩, surrogate⟩
    · have plain : ∀ point ∈ text, point.isSurrogate = false := by simpa using surrogate
      have ends := writeEnds_complete opens plain
      refine ⟨only ends, ?_, ?_, ?_⟩
      · exact iff_of_true ends ⟨⟨place, opens⟩, plain⟩
      · exact iff_of_false (other ends (by decide)) (not_not_intro ⟨place, opens⟩)
      · exact iff_of_false (other ends (by decide)) fun both => surrogate both.2
  · obtain ⟨fault, shut⟩ := FileTree.shut_iff.mpr opened
    have ends := writeEnds_unchanged shut text
    refine ⟨only ends, ?_, ?_, ?_⟩
    · exact iff_of_false (other ends (by decide)) fun both => opened both.1
    · exact iff_of_true ends opened
    · exact iff_of_false (other ends (by decide)) fun both => opened both.1

end Source

end ScriptFormat
