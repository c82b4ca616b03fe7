import ScriptFormat.Proofs.CommandLine.Acceptance

/-!
# Drafts side by side

Two drafts that differ only in what no step looks at are taken along a command line side by
side: both are refused for the same reason, or the drafts behind it differ in nothing else
either.
-/

namespace ScriptFormat.CommandLine

inductive Ends {α : Type} (related : α → α → Prop) : Except Ending α → Except Ending α → Prop where
  | refused (ending : Ending) : Ends related (.error ending) (.error ending)
  | taken {first second : α} (same : related first second) : Ends related (.ok first) (.ok second)

namespace Ends

variable {α β : Type} {related : α → α → Prop} {result : Except Ending α}

theorem of_error {ending : Ending} (ends : Ends related (.error ending) result) :
    result = .error ending := by
  cases ends
  rfl

theorem of_ok {first : α} (ends : Ends related (.ok first) result) :
    ∃ second, result = .ok second ∧ related first second := by
  cases ends with
  | taken same => exact ⟨_, rfl, same⟩

theorem eq_map {change : α → α} {first : Except Ending α}
    (ends : Ends (fun one other => other = change one) first result) :
    result = first.map change := by
  cases ends with
  | refused => rfl
  | taken same => rw [same]; rfl

theorem bind {next : α → Except Ending β} {after : β → β → Prop} {first : Except Ending α}
    (ends : Ends related first result)
    (rest : ∀ {one other : α}, related one other → Ends after (next one) (next other)) :
    Ends after (first.bind next) (result.bind next) := by
  cases ends with
  | refused ending => exact .refused ending
  | taken same => exact rest same

end Ends

/-- A relation of drafts that holds on along a command line, since it is about nothing that a step
looks at. -/
structure Respected (related : Draft → Draft → Prop) : Prop where
  operandTaken {draft other : Draft} :
    related draft other → other.operandTaken = draft.operandTaken
  leave {draft other : Draft} (text : Text) :
    related draft other → related (draft.leave text) (other.leave text)
  takeOperand {draft other : Draft} (text : Text) :
    related draft other → related (draft.takeOperand text) (other.takeOperand text)
  turnOn {draft other : Draft} (switch : Switch) :
    related draft other → Ends related (draft.turnOn switch) (other.turnOn switch)
  setIndent {draft other : Draft} (value : Text) :
    related draft other → Ends related (draft.setIndent value) (other.setIndent value)

structure Switched (related : Draft → Draft → Prop) : Prop where
  turnOn {draft other : Draft} (switch : Switch) :
    related draft other → Ends related (draft.turnOn switch) (other.turnOn switch)
  setIndent {draft other : Draft} (value : Text) :
    related draft other → Ends related (draft.setIndent value) (other.setIndent value)

namespace Switched

variable {related : Draft → Draft → Prop} {draft other : Draft}

theorem foldlM_turnOn (switched : Switched related) (switches : List Switch)
    (same : related draft other) :
    Ends related (switches.foldlM Draft.turnOn draft) (switches.foldlM Draft.turnOn other) := by
  induction switches generalizing draft other with
  | nil => exact .taken same
  | cons switch rest ih =>
      rw [List.foldlM_cons, List.foldlM_cons]
      exact (switched.turnOn switch same).bind ih

theorem takeAttached (switched : Switched related) (switch : Switch) (spelling attached : Text)
    (same : related draft other) :
    Ends related (takeAttached draft switch spelling attached)
      (takeAttached other switch spelling attached) := by
  unfold CommandLine.takeAttached
  split
  · exact switched.setIndent attached same
  · split
    · exact .refused _
    · cases cluster switch attached with
      | error ending => exact .refused ending
      | ok switches => exact switched.foldlM_turnOn switches same

end Switched

namespace Respected

variable {related : Draft → Draft → Prop} {draft other : Draft}

theorem switched (respected : Respected related) : Switched related where
  turnOn := respected.turnOn
  setIndent := respected.setIndent

/-- The run along the items: one case for each kind of item in front. -/
theorem take (respected : Respected related) (list : List Item) (same : related draft other) :
    Ends related (take list draft) (take list other) := by
  fun_induction CommandLine.take list draft generalizing other with
  | case1 draft => exact .taken same
  | case2 text rest draft taken ih =>
      rw [CommandLine.take, respected.operandTaken same, if_pos taken]
      exact ih (respected.leave _ (respected.leave text same))
  | case3 text rest draft vacant ih =>
      rw [CommandLine.take, respected.operandTaken same, if_neg vacant]
      exact ih (respected.takeOperand text same)
  | case4 text rest draft apart ih =>
      rw [CommandLine.take, respected.operandTaken same]
      · refine ih ?_
        split
        · exact respected.leave text same
        · exact respected.takeOperand text same
      · exact apart
  | case5 rest draft ih =>
      rw [CommandLine.take, respected.operandTaken same]
      refine ih ?_
      split
      · exact respected.leave _ same
      · exact same
  | case6 text rest draft ih => exact ih (respected.leave text same)
  | case7 switch spelling attached rest draft middle took ih =>
      obtain ⟨next, done, later⟩ :=
        (took ▸ respected.switched.takeAttached switch spelling attached same).of_ok
      rw [CommandLine.take, done]
      exact ih later
  | case8 switch spelling attached rest draft ending took =>
      have done := (took ▸ respected.switched.takeAttached switch spelling attached same).of_error
      rw [CommandLine.take, done]
      exact .refused ending
  | case9 spelling text rest draft middle set ih =>
      obtain ⟨next, done, later⟩ := (set ▸ respected.setIndent text same).of_ok
      rw [CommandLine.take, done]
      exact ih later
  | case10 spelling text rest draft ending set =>
      have done := (set ▸ respected.setIndent text same).of_error
      rw [CommandLine.take, done]
      exact .refused ending
  | case11 spelling rest draft noValue =>
      rw [CommandLine.take]
      · exact .refused _
      · exact noValue
  | case12 switch spelling rest draft valueless apart middle turned ih =>
      obtain ⟨next, done, later⟩ := (turned ▸ respected.turnOn switch same).of_ok
      rw [CommandLine.take, done]
      · exact ih later
      · exact valueless
      · exact apart
  | case13 switch spelling rest draft valueless apart ending turned =>
      have done := (turned ▸ respected.turnOn switch same).of_error
      rw [CommandLine.take, done]
      · exact .refused ending
      · exact valueless
      · exact apart

end Respected

end ScriptFormat.CommandLine
