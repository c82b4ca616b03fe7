import ScriptFormat.Proofs.Program.Reading

/-!
# Formatting once is enough

A run that has overwritten a file leaves it settled: what is read there is a text that an
idempotent engine gives back, and writing it again changes no entry. Each later run on the
file keeps this, whatever it is asked to do with the result, and so does a series of them.
-/

namespace ScriptFormat

namespace Engine

def IsFunction (engine : Engine) : Prop :=
  ∀ source config tree other,
    (engine.answer source config tree).1 = (engine.answer source config other).1

def IsIdempotent (engine : Engine) : Prop :=
  ∀ source formatted config tree,
    (engine.answer source config tree).1 = .ok (.text formatted) →
      (engine.answer formatted config tree).1 = .ok (.text formatted)

end Engine

namespace Program

open Run CommandLine

/-- The file at a path holds a text that the engine gives back, and writing it again changes
nothing. -/
structure IsSettled (engine : Engine) (config : FormatterConfig) (path : Path) (data : Bytes)
    (tree : FileTree) : Prop where
  held : tree.read path.route = .ok data
  text : ∃ formatted, Utf8.encode formatted = .ok data ∧
    (engine.answer formatted config tree).1 = .ok (.text formatted) ∧
      tree.writeText path formatted = (.ok (), tree)

section First

variable {engine : Engine} {arguments : List Text} {invocation : Invocation} {path : Path}
  {world : World}

/-- A run that succeeds in overwriting a file has found a text in it and got one from the engine. -/
theorem overwrites_of_success (parsed : parse arguments = .ok invocation)
    (named : invocation.input = some path) (mode : invocation.mode = .overwrite)
    (success : (main engine arguments).result world = .ok ExitStatus.success) :
    ∃ source formatted, Overwrites engine arguments world.tree path formatted ∧
      (engine.answer source invocation.config world.tree).1 = .ok (.text formatted) := by
  obtain ⟨_, unprinted, unchecked⟩ := (Delivery.mode_eq_overwrite_iff invocation).mp mode
  cases read : world.tree.readText path with
  | error fault =>
      rw [(readText_fails engine parsed named read).1] at success
      cases success
  | ok source =>
      obtain ⟨content, held, decoded⟩ := FileTree.readText_eq_ok_iff.mp read
      by_cases gives : ∃ source formatted, Utf8.decode content = .ok source ∧
          (engine.answer source invocation.config world.tree).1 = .ok (.text formatted)
      · obtain ⟨other, formatted, again, answered⟩ := gives
        rw [decoded] at again
        cases again
        exact ⟨source, formatted,
          ⟨invocation, parsed, named, unchecked, unprinted, source, read, answered⟩, answered⟩
      · obtain ⟨raised, fails⟩ := (fetches_file parsed named held).fails engine gives
        rw [fails] at success
        cases success

/-- What a successful run has written is settled. -/
theorem isSettled_of_success (leaves : engine.LeavesFiles) (function : engine.IsFunction)
    (idempotent : engine.IsIdempotent) (parsed : parse arguments = .ok invocation)
    (named : invocation.input = some path) (mode : invocation.mode = .overwrite)
    (success : (main engine arguments).result world = .ok ExitStatus.success) :
    ∃ data, IsSettled engine invocation.config path data
      ((main engine arguments).after world).tree := by
  obtain ⟨source, formatted, overwrites, answered⟩ :=
    overwrites_of_success parsed named mode success
  obtain ⟨place, old, holds, ends⟩ := overwrites_ends leaves overwrites
  cases encoded : Utf8.encode formatted with
  | error fault =>
      -- The file has been emptied, but then the run has not succeeded.
      rw [encoded] at ends
      rw [ends.1] at success
      cases success
  | ok data =>
      rw [encoded] at ends
      rw [ends.2]
      refine ⟨data, holds.read_set data, formatted, encoded, ?_, ?_⟩
      · rw [function formatted invocation.config _ world.tree]
        exact idempotent source formatted invocation.config world.tree answered
      · rw [FileTree.writeText_of_writable (holds.set data).writable, encoded]
        exact congrArg (Prod.mk (Except.ok ())) (FileTree.set_set _ _ _ _)

end First

/-- A run on a settled file succeeds, leaves the files as they are and delivers what is there: it
prints the line or the content of the file, or nothing where it overwrites. -/
structure Repeats (mode : OutputMode) (data : Bytes) (world after : World)
    (result : Except Raised Int) : Prop where
  succeeds : result = .ok ExitStatus.success
  files : after.tree = world.tree
  prints : match mode with
    | .check => OutputStream.Takes (Delivery.formattedMessage ++ "\n") world.output after.output
    | .stdout => ∀ printed, world.output.Carries printed → after.output.Carries (printed ++ data)
    | .overwrite => after.output = world.output

section Again

variable {engine : Engine} {arguments : List Text} {invocation : Invocation} {path : Path}
  {world : World} {data printed : Bytes}

theorem IsSettled.repeats (settled : IsSettled engine invocation.config path data world.tree)
    (leaves : engine.LeavesFiles) (parsed : parse arguments = .ok invocation)
    (named : invocation.input = some path) (carries : world.output.Carries printed) :
    Repeats invocation.mode data world ((main engine arguments).after world)
      ((main engine arguments).result world) := by
  obtain ⟨formatted, encoded, fixed, wrote⟩ := settled.text
  have decoded := (Utf8.decode_eq_ok_iff data formatted).mpr encoded
  have fetches := fetches_file parsed named settled.held
  have kept := world.tree_formatted leaves invocation formatted
  have answered := outcome_eq_ok_iff.mpr fixed
  cases mode : invocation.mode with
  | check =>
      have prints := Delivery.prints_of_check mode formatted
      obtain ⟨output, delivered⟩ := carries.isOpen.delivers_line
      have yields := fetches.delivered_yields decoded answered (.printed prints delivered)
      obtain ⟨log, errors, left⟩ := yields.after_eq
      refine ⟨yields.result_eq, by rw [left, kept], ?_⟩
      rw [left]
      exact (OutputStream.deliver_eq_ok_iff _ _ _).mp delivered
  | stdout =>
      have prints := Delivery.prints_of_stdout mode formatted formatted
      obtain ⟨output, delivered, appends⟩ := carries.deliver encoded
      have yields := fetches.delivered_yields decoded answered (.printed prints delivered)
      obtain ⟨log, errors, left⟩ := yields.after_eq
      refine ⟨yields.result_eq, by rw [left, kept], ?_⟩
      rw [left]
      exact appends
  | overwrite =>
      rw [← kept] at wrote
      have yields := fetches.delivered_yields decoded answered (.written mode named wrote)
      obtain ⟨log, errors, left⟩ := yields.after_eq
      exact ⟨yields.result_eq, by rw [left, kept], by rw [left]; rfl⟩

end Again

/-! ## Series of runs -/

/-- A later run on a file with some settings: its command line, and the world that it finds but for
the files, with an output that holds nothing back. -/
structure Rerun (path : Path) (config : FormatterConfig) where
  arguments : List Text
  invocation : Invocation
  world : World
  printed : Bytes
  parsed : parse arguments = .ok invocation
  named : invocation.input = some path
  configured : invocation.config = config
  carries : world.output.Carries printed

structure Outcome where
  mode : OutputMode
  found : World
  result : Except Raised Int
  left : World

section Series

variable {path : Path} {config : FormatterConfig}

def Rerun.outcome (engine : Engine) (rerun : Rerun path config) (tree : FileTree) : Outcome :=
  let found := { rerun.world with tree }
  { mode := rerun.invocation.mode
    found
    result := (main engine rerun.arguments).result found
    left := (main engine rerun.arguments).after found }

def outcomes (engine : Engine) : FileTree → List (Rerun path config) → List Outcome
  | _, [] => []
  | tree, rerun :: rest =>
      rerun.outcome engine tree :: outcomes engine (rerun.outcome engine tree).left.tree rest

theorem IsSettled.outcome {engine : Engine} {data : Bytes} {tree : FileTree}
    (settled : IsSettled engine config path data tree) (leaves : engine.LeavesFiles)
    (rerun : Rerun path config) :
    let outcome := rerun.outcome engine tree
    Repeats outcome.mode data outcome.found outcome.left outcome.result := by
  have settled : IsSettled engine rerun.invocation.config path data tree := by
    rw [rerun.configured]
    exact settled
  have found : IsSettled engine rerun.invocation.config path data
      ({ rerun.world with tree } : World).tree := settled
  exact found.repeats leaves rerun.parsed rerun.named rerun.carries

/-- Every run of a series on a settled file repeats. -/
theorem IsSettled.outcomes {engine : Engine} {data : Bytes} {tree : FileTree}
    (settled : IsSettled engine config path data tree) (leaves : engine.LeavesFiles)
    (reruns : List (Rerun path config)) :
    ∀ outcome ∈ outcomes engine tree reruns, outcome.left.tree = tree ∧
      Repeats outcome.mode data outcome.found outcome.left outcome.result := by
  induction reruns with
  | nil =>
      intro outcome member
      cases member
  | cons rerun rest ih =>
      -- Each run leaves the very tree it found, so the rest of the series starts from it as well.
      have first := settled.outcome leaves rerun
      have same : (rerun.outcome engine tree).left.tree = tree := first.files
      rw [Program.outcomes, same]
      intro outcome member
      rcases List.mem_cons.mp member with rfl | later
      · exact ⟨same, first⟩
      · exact ih outcome later

end Series

section Lines

variable {operand : Text} {flags : List Flag}

def Rerun.inMode (mode : OutputMode) (plain : operand.startsWith [hyphen] = false)
    (accepted : ∀ flag ∈ flags, flag.Accepted) {world : World} {printed : Bytes}
    (carries : world.output.Carries printed) : Rerun (.ofText operand) (.ofFlags flags) :=
  let file : Invocation := { input := some (.ofText operand) }
  match mode with
  | .check =>
      { arguments := operand :: "--check" :: Flag.line flags
        invocation := .configured { file with check := true } (.ofFlags flags)
        world, printed, carries
        parsed := parse_operand_check plain accepted
        named := rfl
        configured := rfl }
  | .overwrite =>
      { arguments := operand :: Flag.line flags
        invocation := .configured file (.ofFlags flags)
        world, printed, carries
        parsed := parse_operand plain accepted
        named := rfl
        configured := rfl }
  | .stdout =>
      { arguments := operand :: "--stdout" :: Flag.line flags
        invocation := .configured { file with stdout := true } (.ofFlags flags)
        world, printed, carries
        parsed := parse_operand_stdout plain accepted
        named := rfl
        configured := rfl }

/-- After one successful run each of a series of runs on the file succeeds and leaves the files as
the first one left them. -/
theorem main_repeats {engine : Engine} (leaves : engine.LeavesFiles)
    (function : engine.IsFunction) (idempotent : engine.IsIdempotent) {world : World}
    (plain : operand.startsWith [hyphen] = false) (accepted : ∀ flag ∈ flags, flag.Accepted)
    (success : (main engine (operand :: Flag.line flags)).result world = .ok ExitStatus.success)
    (reruns : List (Rerun (.ofText operand) (.ofFlags flags))) :
    ∃ data, ((main engine (operand :: Flag.line flags)).after world).tree.read
        (Path.ofText operand).route = .ok data ∧
      ∀ outcome ∈
          outcomes engine ((main engine (operand :: Flag.line flags)).after world).tree reruns,
        outcome.left.tree = ((main engine (operand :: Flag.line flags)).after world).tree ∧
          Repeats outcome.mode data outcome.found outcome.left outcome.result := by
  obtain ⟨data, settled⟩ := isSettled_of_success leaves function idempotent
    (parse_operand plain accepted) rfl rfl success
  exact ⟨data, settled.held, settled.outcomes leaves reruns⟩

end Lines

def closingLine : Engine :=
  .ofFunction "ClosingLine" fun source _ =>
    .ok (.text (if source.getLast? = some 10 then source else source ++ [10]))

theorem closingLine_leavesFiles : closingLine.LeavesFiles := fun _ _ _ => rfl

theorem closingLine_isFunction : closingLine.IsFunction := fun _ _ _ _ => rfl

theorem closingLine_isIdempotent : closingLine.IsIdempotent := by
  intro source formatted config tree answered
  have closed : formatted.getLast? = some 10 := by
    cases answered
    by_cases ended : source.getLast? = some 10
    · rw [if_pos ended, ended]
    · rw [if_neg ended, List.getLast?_concat]
  change Except.ok (Value.text (if formatted.getLast? = some 10 then formatted else _)) = _
  rw [if_pos closed]

theorem desk_carries : desk.output.Carries [] := ⟨{}, rfl, rfl, rfl, rfl⟩

def deskReruns : List (Rerun (.ofText "b.gd") (.ofFlags [])) :=
  [.check, .stdout, .overwrite].map fun mode =>
    .inMode mode (by decide +kernel) (by simp) desk_carries

theorem main_repeats_behind_link :
    closingLine.LeavesFiles ∧ closingLine.IsFunction ∧ closingLine.IsIdempotent ∧
      (main closingLine ["b.gd"]).result desk = .ok ExitStatus.success ∧
      ∃ data, ((main closingLine ["b.gd"]).after desk).tree.read (Path.ofText "b.gd").route =
          .ok data ∧
        ∀ outcome ∈ outcomes closingLine ((main closingLine ["b.gd"]).after desk).tree deskReruns,
          outcome.left.tree = ((main closingLine ["b.gd"]).after desk).tree ∧
            Repeats outcome.mode data outcome.found outcome.left outcome.result := by
  have plain : Text.startsWith "b.gd" [hyphen] = false := rfl
  have accepted : ∀ flag ∈ ([] : List Flag), flag.Accepted := by simp
  have held : desk.tree.read (Path.ofText "b.gd").route = .ok [112] := rfl
  have decoded : Utf8.decode [112] = .ok ("p" : Text) := rfl
  have answered : (closingLine.answer "p" (.ofFlags []) desk.tree).1 =
      .ok (.text ("p\n" : Text)) := rfl
  have encoded : Utf8.encode "p\n" = .ok [112, 10] := rfl
  have ends := overwrites_file closingLine_leavesFiles plain accepted held decoded answered
  rw [encoded] at ends
  exact ⟨closingLine_leavesFiles, closingLine_isFunction, closingLine_isIdempotent, ends.1,
    main_repeats closingLine_leavesFiles closingLine_isFunction closingLine_isIdempotent plain
      accepted ends.1 deskReruns⟩

end Program

end ScriptFormat
