import ScriptFormat.Proofs.FileTree.TextFiles
import ScriptFormat.Proofs.Program.Course

/-!
# What a run does to files

A run makes no entries, removes none and changes no link. It changes at all only if
the arguments name a file to overwrite, the file could be read and the engine gave a
text for it, and then in the content of this one file only.
-/

namespace ScriptFormat.Program

open Run

/-- A file is named without a switch for another route, it can be read, and the engine gives this
text for it. -/
def Overwrites (engine : Engine) (arguments : List Text) (tree : FileTree) (path : Path)
    (formatted : Text) : Prop :=
  ∃ invocation, CommandLine.parse arguments = .ok invocation ∧
    invocation.input = some path ∧ invocation.check = false ∧ invocation.stdout = false ∧
      ∃ source, tree.readText path = .ok source ∧
        (engine.answer source invocation.config tree).1 = .ok (.text formatted)

def IsOutputWrite (result : Except Raised Int) : Prop :=
  ∃ message hint cause, result =
    .error { fault := .typed { kind := .outputWrite, message, hint }, cause }

variable {engine : Engine} {arguments : List Text} {world : World}

theorem overwrites_of_mode {invocation : Invocation} {path : Path} {source formatted : Text}
    (reads : Reads arguments world (.ok invocation))
    (acquired : (invocation.acquired world.tree world.input).1 = .ok source)
    (answered : Formatting.outcome (engine.answer source invocation.config world.tree).1 =
      .ok formatted)
    (mode : invocation.mode = .overwrite) (named : invocation.input = some path) :
    Overwrites engine arguments world.tree path formatted := by
  obtain ⟨_, unprinted, unchecked⟩ := (Delivery.mode_eq_overwrite_iff invocation).mp mode
  have read : world.tree.readText path = .ok source := by
    rw [Invocation.acquired_file named] at acquired
    cases found : world.tree.readText path with
    | ok text => rw [found] at acquired; cases acquired; rfl
    | error fault => rw [found] at acquired; cases acquired
  exact ⟨invocation, reads.parsed, named, unchecked, unprinted, source, read,
    outcome_eq_ok_iff.mp answered⟩

/-- The two ends of an overwriting run. -/
theorem overwrites_ends (leaves : engine.LeavesFiles) {path : Path} {formatted : Text}
    (overwrites : Overwrites engine arguments world.tree path formatted) :
    ∃ place old, world.tree.Holds path.route place old ∧
      match Utf8.encode formatted with
      | .ok content =>
          (main engine arguments).result world = .ok ExitStatus.success ∧
            ((main engine arguments).after world).tree = world.tree.set place (.file content)
      | .error fault =>
          (main engine arguments).result world =
              .error (unwritten ("Failed to write to file " ++ path.text) fault) ∧
            ((main engine arguments).after world).tree = world.tree.set place (.file []) := by
  obtain ⟨invocation, parsed, named, unchecked, unprinted, source, read, answered⟩ := overwrites
  have mode := (Delivery.mode_eq_overwrite_iff invocation).mpr
    ⟨⟨path, named⟩, unprinted, unchecked⟩
  have reads : Reads arguments world (.ok invocation) := reads_of_file parsed named
  have acquired : (invocation.acquired world.tree world.input).1 = .ok source := by
    rw [Invocation.acquired_file named, read]
    rfl
  have gave := outcome_eq_ok_iff.mpr answered
  obtain ⟨content, raw, _⟩ := FileTree.readText_eq_ok_iff.mp read
  obtain ⟨place, holds⟩ := FileTree.Holds.of_read raw
  have wrote := FileTree.writeText_of_writable holds.writable formatted
  have kept := world.tree_formatted leaves invocation source
  rw [← kept] at wrote
  refine ⟨place, content, holds, ?_⟩
  cases encoded : Utf8.encode formatted with
  | ok bytes =>
      rw [encoded] at wrote
      have yields := (Course.delivered reads acquired gave (.written mode named wrote)).yields
      obtain ⟨log, errors, left⟩ := yields.after_eq
      exact ⟨yields.result_eq, by rw [left, kept]⟩
  | error fault =>
      rw [encoded] at wrote
      have yields := (Course.delivered reads acquired gave (.unwritten mode named wrote)).yields
      obtain ⟨log, errors, left⟩ := yields.after_eq
      exact ⟨yields.result_eq, by rw [left, kept]⟩

/-- Any other run leaves the files alone. -/
theorem tree_of_not_overwrites (leaves : engine.LeavesFiles)
    (other : ¬ ∃ path formatted, Overwrites engine arguments world.tree path formatted) :
    ((main engine arguments).after world).tree = world.tree := by
  obtain ⟨result, after, course, yields⟩ := main_course engine arguments world
  obtain ⟨log, errors, left⟩ := yields.after_eq
  rw [left]
  have kept := world.tree_formatted leaves
  cases course with
  | unprobed => rfl
  | helped => rfl
  | unhelped => rfl
  | shown => rfl
  | unshown => rfl
  | misused => rfl
  | unread => rfl
  | unformatted => exact kept _ _
  | @delivered invocation source formatted _ _ reads acquired answered delivers =>
      cases delivers with
      | printed => exact kept _ _
      | unprinted => exact kept _ _
      | different => exact kept _ _
      | @written path _ overwrites named wrote =>
          exact absurd
            ⟨path, formatted, overwrites_of_mode reads acquired answered overwrites named⟩ other
      | @unwritten path _ _ overwrites named failed =>
          exact absurd
            ⟨path, formatted, overwrites_of_mode reads acquired answered overwrites named⟩ other

/-- What a run does to files, whatever it is asked for and wherever it stops. -/
theorem main_changes_files (leaves : engine.LeavesFiles) (arguments : List Text) (world : World) :
    world.tree.SameEntries ((main engine arguments).after world).tree ∧
      ((¬ ∃ path formatted, Overwrites engine arguments world.tree path formatted) →
        ((main engine arguments).after world).tree = world.tree) ∧
      ∀ path formatted, Overwrites engine arguments world.tree path formatted →
        ∃ place old, world.tree.resolve false path.route = .ok (.file place old) ∧
          (∀ other ≠ place, ((main engine arguments).after world).tree.node? other =
            world.tree.node? other) ∧
          ((main engine arguments).result world = .ok ExitStatus.success →
            ∃ content, Utf8.encode formatted = .ok content ∧
              ((main engine arguments).after world).tree.node? place = some (.file content)) ∧
          (IsOutputWrite ((main engine arguments).result world) ∧
              ((main engine arguments).after world).tree.node? place = some (.file []) ↔
            ∃ point ∈ formatted, point.isSurrogate = true) ∧
          ((main engine arguments).result world = .ok ExitStatus.success ∨
            IsOutputWrite ((main engine arguments).result world)) := by
  refine ⟨?_, tree_of_not_overwrites leaves, ?_⟩
  · by_cases writes : ∃ path formatted, Overwrites engine arguments world.tree path formatted
    · obtain ⟨path, formatted, overwrites⟩ := writes
      obtain ⟨place, old, holds, ends⟩ := overwrites_ends leaves overwrites
      cases encoded : Utf8.encode formatted with
      | ok content =>
          rw [encoded] at ends
          rw [ends.2]
          exact holds.sameEntries content
      | error fault =>
          rw [encoded] at ends
          rw [ends.2]
          exact holds.sameEntries []
    · rw [tree_of_not_overwrites leaves writes]
      exact .refl world.tree
  · intro path formatted overwrites
    obtain ⟨place, old, holds, ends⟩ := overwrites_ends leaves overwrites
    refine ⟨place, old, holds.resolves, ?_⟩
    have filled (content : Bytes) :
        (world.tree.set place (.file content)).node? place = some (.file content) :=
      FileTree.node?_set_eq holds.fillable _
    have others (content : Bytes) (other : Place) (apart : other ≠ place) :
        (world.tree.set place (.file content)).node? other = world.tree.node? other :=
      FileTree.node?_set_ne _ _ apart
    cases encoded : Utf8.encode formatted with
    | ok content =>
        rw [encoded] at ends
        obtain ⟨returned, left⟩ := ends
        have clean := ((Utf8.encode_eq_ok_iff formatted content).mp encoded).1
        rw [returned, left]
        refine ⟨others content, ?_, ?_, .inl rfl⟩
        · intro _
          exact ⟨content, rfl, filled content⟩
        · constructor
          · rintro ⟨⟨_, _, _, impossible⟩, _⟩
            cases impossible
          · rintro ⟨point, member, surrogate⟩
            rw [clean point member] at surrogate
            cases surrogate
    | error fault =>
        rw [encoded] at ends
        obtain ⟨raised, left⟩ := ends
        have surrogates := (Utf8.encode_eq_error_iff formatted).mp ⟨fault, encoded⟩
        have isWrite : IsOutputWrite
            (.error (unwritten ("Failed to write to file " ++ path.text) fault)) := ⟨_, _, _, rfl⟩
        rw [raised, left]
        refine ⟨others [], ?_, ?_, .inr isWrite⟩
        · intro impossible
          cases impossible
        · constructor
          · intro _
            exact surrogates
          · intro _
            exact ⟨isWrite, filled []⟩

theorem main_changes_files_behind_link :
    lineEnding.LeavesFiles ∧
      Overwrites lineEnding ["b.gd"] desk.tree (.ofText "b.gd") "p\n" ∧
      ∃ place old, desk.tree.resolve false (Path.ofText "b.gd").route = .ok (.file place old) ∧
        ∀ other ≠ place, ((main lineEnding ["b.gd"]).after desk).tree.node? other =
          desk.tree.node? other := by
  have overwrites : Overwrites lineEnding ["b.gd"] desk.tree (.ofText "b.gd") "p\n" :=
    ⟨{ input := some (.ofText "b.gd") }, rfl, rfl, rfl, rfl, "p", rfl, rfl⟩
  obtain ⟨place, old, resolved, others, _⟩ :=
    (main_changes_files lineEnding_leavesFiles ["b.gd"] desk).2.2 _ _ overwrites
  exact ⟨lineEnding_leavesFiles, overwrites, place, old, resolved, others⟩

end ScriptFormat.Program
