import ScriptFormat.Proofs.Program.Routes

/-!
# Three routes agree

The same bytes come from a file that is overwritten, from a file with the result
printed, or from the input. For an engine that is a function of source and settings
the three runs make the same call, and they succeed together with the same bytes or
fail together for the same reason.
-/

namespace ScriptFormat.Program

open Run

/-- How the runs that overwrite a file, print for it and print for the input fail together. -/
inductive SameFailure (engine : Engine) (config : FormatterConfig) (tree : FileTree)
    (content : Bytes) (path : Path) : Raised → Raised → Raised → Prop where
  | unread {fault : DecodeFault} (undecoded : Utf8.decode content = .error fault) :
      SameFailure engine config tree content path
        (unread ("Failed to read file " ++ path.text) fault)
        (unread ("Failed to read file " ++ path.text) fault)
        (unread "Failed to read from stdin" fault)
  | unformatted {source : Text} {raised : Raised} (decoded : Utf8.decode content = .ok source)
      (failed : Formatting.outcome (engine.answer source config tree).1 = .error raised) :
      SameFailure engine config tree content path raised raised raised
  | unwritten {source formatted : Text} {fault : EncodeFault}
      (decoded : Utf8.decode content = .ok source)
      (answered : (engine.answer source config tree).1 = .ok (.text formatted))
      (unencoded : Utf8.encode formatted = .error fault) :
      SameFailure engine config tree content path
        (unwritten ("Failed to write to file " ++ path.text) fault)
        (unwritten "Failed to write to stdout" fault)
        (unwritten "Failed to write to stdout" fault)

def IsIdentity (engine : Engine) : Prop :=
  ∀ source config tree, (engine.answer source config tree).1 = .ok (.text source)

/-- Three worlds with the same files, one with a file's content on its input as well, and with
nothing on the output so far. -/
structure Starts (operand : Text) (content : Bytes) (overwriting printing piping : World) :
    Prop where
  held : overwriting.tree.read (Path.ofText operand).route = .ok content
  printingTree : printing.tree = overwriting.tree
  pipingTree : piping.tree = overwriting.tree
  overwritingEmpty : overwriting.output.Carries []
  printingEmpty : printing.output.Carries []
  pipingEmpty : piping.output.Carries []
  fed : piping.input.content = .bytes content
  opened : piping.input.closed = false
  noTerminal : piping.input.isInteractive = .ok false

theorem callsFor_length (content : Bytes) (config : FormatterConfig) :
    (callsFor content config).length ≤ 1 := by
  unfold callsFor
  cases Utf8.decode content <;> simp

/-- An engine that gives sources back has their bytes written as they were. -/
theorem IsIdentity.encode {engine : Engine} (identity : IsIdentity engine) {source formatted : Text}
    {config : FormatterConfig} {tree : FileTree} {content data : Bytes}
    (decoded : Utf8.decode content = .ok source)
    (answered : (engine.answer source config tree).1 = .ok (.text formatted))
    (encoded : Utf8.encode formatted = .ok data) : data = content := by
  have same : source = formatted := by
    rw [identity] at answered
    cases answered
    rfl
  rw [← same, (Utf8.decode_eq_ok_iff content source).mp decoded] at encoded
  cases encoded
  rfl

section Agreement

variable {engine : Engine} {operand : Text} {flags : List Flag} {content : Bytes}
  {overwriting printing piping : World}

/-- Overwriting a file, printing for it and printing for the input agree. -/
theorem routes_agree (leaves : engine.LeavesFiles)
    (plain : operand.startsWith [CommandLine.hyphen] = false)
    (accepted : ∀ flag ∈ flags, flag.Accepted)
    (starts : Starts operand content overwriting printing piping) :
    (∃ calls, calls.length ≤ 1 ∧
      ((main engine (operand :: Flag.line flags)).after overwriting).engineCalls =
        overwriting.engineCalls ++ calls ∧
      ((main engine (operand :: "--stdout" :: Flag.line flags)).after printing).engineCalls =
        printing.engineCalls ++ calls ∧
      ((main engine (Flag.line flags)).after piping).engineCalls = piping.engineCalls ++ calls) ∧
    ((main engine (operand :: Flag.line flags)).result overwriting = .ok ExitStatus.success ∧
        (main engine (operand :: "--stdout" :: Flag.line flags)).result printing =
          .ok ExitStatus.success ∧
        (main engine (Flag.line flags)).result piping = .ok ExitStatus.success ∧
        (∃ data,
          ((main engine (operand :: Flag.line flags)).after overwriting).tree.read
            (Path.ofText operand).route = .ok data ∧
          ((main engine (operand :: "--stdout" :: Flag.line flags)).after printing).output.Carries
            data ∧
          ((main engine (Flag.line flags)).after piping).output.Carries data ∧
          (IsIdentity engine → data = content)) ∨
      ∃ first second third,
        (main engine (operand :: Flag.line flags)).result overwriting = .error first ∧
        (main engine (operand :: "--stdout" :: Flag.line flags)).result printing = .error second ∧
        (main engine (Flag.line flags)).result piping = .error third ∧
        SameFailure engine (.ofFlags flags) overwriting.tree content (.ofText operand)
          first second third) := by
  have overwrite := fetches_file (CommandLine.parse_operand plain accepted) rfl starts.held
  have print := fetches_file (CommandLine.parse_operand_stdout plain accepted) rfl
    (starts.printingTree ▸ starts.held)
  have pipe := fetches_input (CommandLine.parse_flags accepted) rfl starts.fed starts.opened
    starts.noTerminal
  refine ⟨⟨callsFor content (.ofFlags flags), callsFor_length _ _, overwrite.engineCalls engine,
    print.engineCalls engine, pipe.engineCalls engine⟩, ?_⟩
  cases decoded : Utf8.decode content with
  | error fault =>
      exact .inr ⟨_, _, _, (overwrite.unread_yields engine decoded).result_eq,
        (print.unread_yields engine decoded).result_eq,
        (pipe.unread_yields engine decoded).result_eq, .unread decoded⟩
  | ok source =>
      -- The three runs give the engine the same source, settings and files.
      cases answered : Formatting.outcome
          (engine.answer source (.ofFlags flags) overwriting.tree).1 with
      | error raised =>
          refine .inr ⟨_, _, _, (overwrite.unformatted_yields decoded answered).result_eq,
            (print.unformatted_yields decoded ?_).result_eq,
            (pipe.unformatted_yields decoded ?_).result_eq, .unformatted decoded answered⟩
          · rw [starts.printingTree]
            exact answered
          · rw [starts.pipingTree]
            exact answered
      | ok formatted =>
          have gave := outcome_eq_ok_iff.mp answered
          have overwritten := overwrites_file leaves plain accepted starts.held decoded gave
          have printed := print.printed_bytes decoded
            (by rw [starts.printingTree]; exact answered) rfl starts.printingEmpty
          have piped := pipe.printed_bytes decoded
            (by rw [starts.pipingTree]; exact answered) rfl starts.pipingEmpty
          cases encoded : Utf8.encode formatted with
          | ok data =>
              rw [encoded] at overwritten printed piped
              exact .inl ⟨overwritten.1, printed.1, piped.1, data, overwritten.2, printed.2,
                piped.2, fun identity => identity.encode decoded gave encoded⟩
          | error fault =>
              rw [encoded] at overwritten printed piped
              exact .inr ⟨_, _, _, overwritten, printed, piped, .unwritten decoded gave encoded⟩

end Agreement

theorem routes_agree_at_desk :
    lineEnding.LeavesFiles ∧ Starts "a.gd" [112] desk desk desk ∧
      ∃ calls, calls.length ≤ 1 ∧
        ((main lineEnding ["a.gd", "--indent-size", "2"]).after desk).engineCalls = calls ∧
        ((main lineEnding ["a.gd", "--stdout", "--indent-size", "2"]).after desk).engineCalls =
          calls ∧
        ((main lineEnding ["--indent-size", "2"]).after desk).engineCalls = calls := by
  have empty : desk.output.Carries [] := ⟨{}, rfl, rfl, rfl, rfl⟩
  have starts : Starts "a.gd" [112] desk desk desk :=
    ⟨rfl, rfl, rfl, empty, empty, empty, rfl, rfl, rfl⟩
  have accepted : ∀ flag ∈ [Flag.indentSize "2"], flag.Accepted := by
    intro flag member
    rw [List.mem_singleton.mp member]
    exact ⟨rfl, 2, rfl⟩
  exact ⟨lineEnding_leavesFiles, starts,
    (routes_agree lineEnding_leavesFiles rfl accepted starts).1⟩

end ScriptFormat.Program
