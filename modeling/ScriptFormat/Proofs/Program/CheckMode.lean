import ScriptFormat.Proofs.Program.Routes

/-!
# Checking predicts overwriting

A check finds a file formatted exactly if overwriting it would leave its bytes as
they are, and finds a difference exactly if the engine gives another text. That
holds for bytes although texts are compared: decoding and encoding are inverse.
-/

namespace ScriptFormat.Program

open Run

section Checking

variable {engine : Engine} {operand : Text} {flags : List Flag} {content : Bytes}
  {checking overwriting : World}

/-- Overwriting with another text changes the bytes of the file or fails. -/
theorem overwrites_other (leaves : engine.LeavesFiles)
    (plain : operand.startsWith [CommandLine.hyphen] = false)
    (accepted : ∀ flag ∈ flags, flag.Accepted)
    (held : overwriting.tree.read (Path.ofText operand).route = .ok content)
    {source formatted : Text} (decoded : Utf8.decode content = .ok source)
    (answered : (engine.answer source (.ofFlags flags) overwriting.tree).1 =
      .ok (.text formatted))
    (apart : formatted ≠ source) :
    (∃ data, ((main engine (operand :: Flag.line flags)).after overwriting).tree.read
        (Path.ofText operand).route = .ok data ∧ data ≠ content) ∨
      IsOutputWrite ((main engine (operand :: Flag.line flags)).result overwriting) := by
  have overwritten := overwrites_file leaves plain accepted held decoded answered
  cases encoded : Utf8.encode formatted with
  | ok data =>
      rw [encoded] at overwritten
      refine .inl ⟨data, overwritten.2, fun same => apart ?_⟩
      -- The same bytes would have been decoded to the other text.
      rw [same, ← Utf8.decode_eq_ok_iff, decoded] at encoded
      exact (Except.ok.inj encoded).symm
  | error fault =>
      rw [encoded] at overwritten
      exact .inr ⟨_, _, _, overwritten⟩

/-- The three ways of a check, and what overwriting does in each. -/
theorem check_predicts_overwrite (leaves : engine.LeavesFiles)
    (plain : operand.startsWith [CommandLine.hyphen] = false)
    (accepted : ∀ flag ∈ flags, flag.Accepted)
    (held : overwriting.tree.read (Path.ofText operand).route = .ok content)
    (same : checking.tree = overwriting.tree) (opened : checking.output.IsOpen) :
    ((main engine (operand :: "--check" :: Flag.line flags)).result checking =
          .ok ExitStatus.success ↔
        (main engine (operand :: Flag.line flags)).result overwriting = .ok ExitStatus.success ∧
          ((main engine (operand :: Flag.line flags)).after overwriting).tree.read
            (Path.ofText operand).route = .ok content) ∧
      ((main engine (operand :: "--check" :: Flag.line flags)).result checking =
          .ok ExitStatus.checkFailed ↔
        ∃ source formatted, Utf8.decode content = .ok source ∧
          (engine.answer source (.ofFlags flags) overwriting.tree).1 = .ok (.text formatted) ∧
          formatted ≠ source) ∧
      ((main engine (operand :: "--check" :: Flag.line flags)).result checking =
          .ok ExitStatus.checkFailed →
        (∃ data, ((main engine (operand :: Flag.line flags)).after overwriting).tree.read
            (Path.ofText operand).route = .ok data ∧ data ≠ content) ∨
          IsOutputWrite ((main engine (operand :: Flag.line flags)).result overwriting)) := by
  have check := fetches_file (CommandLine.parse_operand_check plain accepted) rfl (same ▸ held)
  have overwrite := fetches_file (CommandLine.parse_operand plain accepted) rfl held
  by_cases gives : ∃ source formatted, Utf8.decode content = .ok source ∧
      (engine.answer source (.ofFlags flags) overwriting.tree).1 = .ok (.text formatted)
  · obtain ⟨source, formatted, decoded, answered⟩ := gives
    have checked := check.checked decoded
      (outcome_eq_ok_iff.mpr (by rw [same]; exact answered)) rfl opened
    have differs : (∃ source formatted, Utf8.decode content = .ok source ∧
        (engine.answer source (.ofFlags flags) overwriting.tree).1 = .ok (.text formatted) ∧
        formatted ≠ source) ↔ formatted ≠ source := by
      constructor
      · rintro ⟨other, result, read, gave, apart⟩
        rw [decoded] at read
        cases read
        rw [answered] at gave
        cases gave
        exact apart
      · exact fun apart => ⟨source, formatted, decoded, answered, apart⟩
    rw [checked, differs]
    by_cases unchanged : formatted = source
    · subst unchanged
      have overwritten := overwrites_file leaves plain accepted held decoded answered
      rw [(Utf8.decode_eq_ok_iff content formatted).mp decoded] at overwritten
      simp [overwritten, ExitStatus.success, ExitStatus.checkFailed]
    · have changed := overwrites_other leaves plain accepted held decoded answered unchanged
      rw [if_neg unchanged]
      refine ⟨⟨?_, ?_⟩, ⟨fun _ => unchanged, fun _ => rfl⟩, fun _ => changed⟩
      · intro impossible
        cases impossible
      · rintro ⟨returned, kept⟩
        rcases changed with ⟨data, read, apart⟩ | ⟨_, _, _, raised⟩
        · rw [kept] at read
          exact absurd (Except.ok.inj read).symm apart
        · rw [returned] at raised
          cases raised
  · -- Without a text from the engine both runs fail.
    obtain ⟨refused, checkFails⟩ := check.fails engine (by rw [same]; exact gives)
    obtain ⟨raised, overwriteFails⟩ := overwrite.fails engine gives
    rw [checkFails, overwriteFails]
    refine ⟨by simp, ⟨by simp, ?_⟩, by simp⟩
    rintro ⟨source, formatted, decoded, answered, _⟩
    exact absurd ⟨source, formatted, decoded, answered⟩ gives

end Checking

theorem check_predicts_overwrite_at_desk :
    lineEnding.LeavesFiles ∧ desk.tree.read (Path.ofText "a.gd").route = .ok [112] ∧
      desk.output.IsOpen ∧
      ((main lineEnding ["a.gd", "--check", "--use-spaces"]).result desk =
          .ok ExitStatus.success ↔
        (main lineEnding ["a.gd", "--use-spaces"]).result desk = .ok ExitStatus.success ∧
          ((main lineEnding ["a.gd", "--use-spaces"]).after desk).tree.read
            (Path.ofText "a.gd").route = .ok [112]) := by
  have held : desk.tree.read (Path.ofText "a.gd").route = .ok [112] := rfl
  have accepted : ∀ flag ∈ [Flag.useSpaces], flag.Accepted := by
    intro flag member
    rw [List.mem_singleton.mp member]
    exact True.intro
  exact ⟨lineEnding_leavesFiles, held, rfl,
    (check_predicts_overwrite lineEnding_leavesFiles rfl accepted held rfl rfl).1⟩

end ScriptFormat.Program
