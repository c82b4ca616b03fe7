import ScriptFormat.CommandLine.Parse
import ScriptFormat.Proofs.CommandLine.Spellings

/-!
# Accepted command lines

The command lines that are accepted, as rules: each argument is a switch, a value of one
or the only operand. A separator is dropped in front of the operand and right behind it,
and is left over, so refused, anywhere else.
-/

namespace ScriptFormat.CommandLine

/-- The command lines of which nothing is left over, and what they make of a draft. -/
inductive Accepts : List Text → Draft → Draft → Prop where
  | done (draft : Draft) : Accepts [] draft draft
  | ended {draft : Draft} (vacant : draft.operandTaken = false) : Accepts [separator] draft draft
  | separated {draft : Draft} (vacant : draft.operandTaken = false) (text : Text) :
      Accepts [separator, text] draft (draft.takeOperand text)
  | closed {argument : Text} {draft : Draft} (vacant : draft.operandTaken = false)
      (reads : read argument = .ok .operand) :
      Accepts [argument, separator] draft (draft.takeOperand argument)
  | operand {argument : Text} {rest : List Text} {draft next : Draft}
      (vacant : draft.operandTaken = false) (reads : read argument = .ok .operand)
      (behind : Accepts rest (draft.takeOperand argument) next) :
      Accepts (argument :: rest) draft next
  | turned {argument spelling : Text} {switch : Switch} {rest : List Text}
      {draft middle next : Draft} (noValue : switch ≠ .indentSize)
      (reads : read argument = .ok (.known switch spelling none))
      (turned : draft.turnOn switch = .ok middle) (behind : Accepts rest middle next) :
      Accepts (argument :: rest) draft next
  | checked {argument spelling letters : Text} {rest : List Text} {draft middle next : Draft}
      (reads : read argument = .ok (.known .check spelling (some letters)))
      (turned : draft.turnOn .check = .ok middle) (behind : Accepts rest middle next) :
      Accepts (argument :: rest) draft next
  | sized {argument spelling value : Text} {rest : List Text} {draft middle next : Draft}
      (reads : read argument = .ok (.known .indentSize spelling (some value)))
      (set : draft.setIndent value = .ok middle) (behind : Accepts rest middle next) :
      Accepts (argument :: rest) draft next
  | sizedBehind {argument spelling value : Text} {rest : List Text} {draft middle next : Draft}
      (reads : read argument = .ok (.known .indentSize spelling none))
      (plain : read value = .ok .operand)
      (set : draft.setIndent value = .ok middle) (behind : Accepts rest middle next) :
      Accepts (argument :: value :: rest) draft next

section Steps

variable {draft next : Draft} {switch : Switch}

structure Keeps (draft next : Draft) : Prop where
  leftOver : next.leftOver = draft.leftOver
  operandTaken : next.operandTaken = draft.operandTaken
  input : next.invocation.input = draft.invocation.input
  indentSize : next.invocation.indentSize = draft.invocation.indentSize

theorem keeps_of_turnOn (turned : draft.turnOn switch = .ok next) : Keeps draft next := by
  cases switch <;> cases turned <;> exact ⟨rfl, rfl, rfl, rfl⟩

theorem setIndent_eq_ok {value : Text} (set : draft.setIndent value = .ok next) :
    ∃ size, indentOf value = .ok size ∧
      next = { draft with invocation := { draft.invocation with indentSize := size } } := by
  unfold Draft.setIndent at set
  cases sized : indentOf value with
  | ok size => rw [sized] at set; cases set; exact ⟨size, rfl, rfl⟩
  | error => rw [sized] at set; cases set

/-- Of the switches with a short spelling only one goes on. -/
theorem check_of_turnOn (short : ¬ switch.IsLong) (turned : draft.turnOn switch = .ok next) :
    switch = .check := by
  cases switch with
  | check => rfl
  | help => cases turned
  | version => cases turned
  | _ => exact absurd (by decide) short

theorem turnOn_check_again (checks : draft.invocation.check = true) :
    draft.turnOn .check = .ok draft := by
  obtain ⟨invocation, taken, left⟩ := draft
  cases invocation
  cases checks
  rfl

theorem foldlM_turnOn {switches : List Switch} (short : ∀ switch ∈ switches, ¬ switch.IsLong)
    (checks : draft.invocation.check = true)
    (turned : switches.foldlM Draft.turnOn draft = .ok next) : next = draft := by
  induction switches generalizing draft with
  | nil => cases turned; rfl
  | cons switch rest ih =>
      obtain ⟨first, later⟩ := List.forall_mem_cons.mp short
      rw [List.foldlM_cons] at turned
      cases done : draft.turnOn switch with
      | error => rw [done] at turned; cases turned
      | ok middle =>
          have check := check_of_turnOn first done
          rw [check, turnOn_check_again checks] at done
          cases done
          rw [check, turnOn_check_again checks] at turned
          exact ih later checks turned

/-- Letters run together are short spellings. -/
theorem cluster_eq_ok {letters : Text} {switches : List Switch} (short : ¬ switch.IsLong)
    (clustered : cluster switch letters = .ok switches) :
    ∃ others, switches = switch :: others ∧ ∀ other ∈ others, ¬ other.IsLong := by
  induction letters generalizing switch switches with
  | nil => cases clustered
  | cons letter rest ih =>
      rw [cluster] at clustered
      split at clustered
      · cases clustered
      · next other named =>
          have brief : ¬ other.IsLong := fun long =>
            Nat.lt_irrefl 2 (long _ (Switch.mem_spellings_of_named? named))
          split at clustered
          · cases clustered
            exact ⟨[other], rfl, by simpa using brief⟩
          · cases more : cluster other rest with
            | error => rw [more] at clustered; cases clustered
            | ok found =>
                rw [more] at clustered
                cases clustered
                obtain ⟨others, shape, later⟩ := ih brief more
                exact ⟨found, rfl, by rw [shape]; exact List.forall_mem_cons.mpr ⟨brief, later⟩⟩

/-- What is attached to a switch is its value, or letters of which each asks for a check. -/
theorem takeAttached_eq_ok {spelling attached : Text} (mine : spelling ∈ switch.spellings)
    (took : takeAttached draft switch spelling attached = .ok next) :
    switch = .indentSize ∧ draft.setIndent attached = .ok next ∨
      switch = .check ∧ draft.turnOn .check = .ok next := by
  unfold takeAttached at took
  split at took
  · next takes =>
      refine .inl ⟨?_, took⟩
      cases switch <;> first | rfl | cases takes
  · split at took
    · cases took
    · next brief =>
        have short : ¬ switch.IsLong := by
          have tried : ∀ switch ∈ Switch.all, ∀ spelling ∈ switch.spellings,
              ¬ spelling.startsWith separator = true → ¬ switch.IsLong := by
            decide +kernel
          exact tried switch switch.mem_all spelling mine brief
        cases clustered : cluster switch attached with
        | error => rw [clustered] at took; cases took
        | ok switches =>
            obtain ⟨others, rfl, later⟩ := cluster_eq_ok short clustered
            rw [clustered] at took
            simp only [List.foldlM_cons] at took
            cases done : draft.turnOn switch with
            | error => rw [done] at took; cases took
            | ok middle =>
                have check := check_of_turnOn short done
                subst check
                rw [done] at took
                have checks : middle.invocation.check = true := by cases done; rfl
                rw [foldlM_turnOn later checks took]
                exact .inr ⟨rfl, done⟩

/-- What no switch touches: the file, and what is left over. -/
structure KeepsOperand (draft next : Draft) : Prop where
  leftOver : next.leftOver = draft.leftOver
  operandTaken : next.operandTaken = draft.operandTaken
  input : next.invocation.input = draft.invocation.input

theorem KeepsOperand.trans {middle : Draft} (first : KeepsOperand draft middle)
    (second : KeepsOperand middle next) : KeepsOperand draft next where
  leftOver := second.leftOver.trans first.leftOver
  operandTaken := second.operandTaken.trans first.operandTaken
  input := second.input.trans first.input

theorem keepsOperand_of_turnOn (turned : draft.turnOn switch = .ok next) :
    KeepsOperand draft next := by
  have kept := keeps_of_turnOn turned
  exact ⟨kept.leftOver, kept.operandTaken, kept.input⟩

theorem keepsOperand_of_setIndent {value : Text} (set : draft.setIndent value = .ok next) :
    KeepsOperand draft next := by
  obtain ⟨_, _, rfl⟩ := setIndent_eq_ok set
  exact ⟨rfl, rfl, rfl⟩

theorem keepsOperand_of_takeAttached {spelling attached : Text}
    (took : takeAttached draft switch spelling attached = .ok next) : KeepsOperand draft next := by
  have turning {switches : List Switch} {draft : Draft}
      (turned : switches.foldlM Draft.turnOn draft = .ok next) : KeepsOperand draft next := by
    induction switches generalizing draft with
    | nil => cases turned; exact ⟨rfl, rfl, rfl⟩
    | cons switch rest ih =>
        rw [List.foldlM_cons] at turned
        cases done : draft.turnOn switch with
        | error => rw [done] at turned; cases turned
        | ok middle =>
            rw [done] at turned
            exact (keepsOperand_of_turnOn done).trans (ih turned)
  unfold takeAttached at took
  split at took
  · exact keepsOperand_of_setIndent took
  · split at took
    · cases took
    · split at took
      · cases took
      · exact turning took

end Steps

/-! ## Items -/

theorem ne_separator_of_read {argument : Text} {reading : Reading}
    (reads : read argument = .ok reading) : argument ≠ separator := by
  intro same
  subst same
  cases reads

theorem items_of_read {argument : Text} {reading : Reading} (reads : read argument = .ok reading)
    (rest : List Text) :
    items (argument :: rest) = (items rest).map (reading.item argument :: ·) := by
  rw [items, if_neg (ne_separator_of_read reads), reads]

theorem items_eq_ok_cons {argument : Text} {rest : List Text} {list : List Item}
    (apart : argument ≠ separator) (listed : items (argument :: rest) = .ok list) :
    ∃ reading behind, read argument = .ok reading ∧ items rest = .ok behind ∧
      list = reading.item argument :: behind := by
  rw [items, if_neg apart] at listed
  cases reads : read argument with
  | error message => rw [reads] at listed; cases listed
  | ok reading =>
      rw [reads] at listed
      cases others : items rest with
      | error ending => rw [others] at listed; cases listed
      | ok behind =>
          rw [others] at listed
          cases listed
          exact ⟨reading, behind, rfl, rfl, rfl⟩

/-- A separator comes from an argument, and only operands come behind it. -/
theorem items_eq_ok_separator {arguments : List Text} {behind : List Item}
    (listed : items arguments = .ok (.separator :: behind)) :
    ∃ rest, arguments = separator :: rest ∧ behind = rest.map .operand := by
  cases arguments with
  | nil => cases listed
  | cons argument rest =>
      by_cases same : argument = separator
      · rw [items, if_pos same] at listed
        cases listed
        exact ⟨rest, by rw [same], rfl⟩
      · obtain ⟨reading, _, _, _, shape⟩ := items_eq_ok_cons same listed
        cases reading <;> cases shape

/-- An operand comes from an argument that reads as one. -/
theorem items_eq_ok_operand {arguments : List Text} {text : Text} {behind : List Item}
    (listed : items arguments = .ok (.operand text :: behind)) :
    ∃ rest, arguments = text :: rest ∧ read text = .ok .operand ∧ items rest = .ok behind := by
  cases arguments with
  | nil => cases listed
  | cons argument rest =>
      by_cases same : argument = separator
      · rw [items, if_pos same] at listed
        cases listed
      · obtain ⟨reading, _, reads, others, shape⟩ := items_eq_ok_cons same listed
        cases reading <;> cases shape
        exact ⟨rest, rfl, reads, others⟩

section Clean

variable {draft next : Draft}

/-- What is left over stays so. -/
theorem leftOver_of_take {list : List Item} (taken : take list draft = .ok next)
    (clean : next.leftOver = []) : draft.leftOver = [] := by
  fun_induction take list draft with
  | case1 draft => cases taken; exact clean
  | case2 text rest draft _ ih => simpa [Draft.leave] using ih taken
  | case3 text rest draft _ ih => exact ih taken
  | case4 text rest draft _ ih =>
      have later := ih taken
      split at later
      · simp [Draft.leave] at later
      · exact later
  | case5 rest draft ih =>
      have later := ih taken
      split at later
      · simp [Draft.leave] at later
      · exact later
  | case6 text rest draft ih => simpa [Draft.leave] using ih taken
  | case7 switch spelling attached rest draft middle took ih =>
      rw [← (keepsOperand_of_takeAttached took).leftOver, ih taken]
  | case8 => cases taken
  | case9 spelling text rest draft middle set ih =>
      obtain ⟨_, _, rfl⟩ := setIndent_eq_ok set
      exact ih taken
  | case10 => cases taken
  | case11 => cases taken
  | case12 switch spelling rest draft _ _ middle turned ih =>
      rw [← (keeps_of_turnOn turned).leftOver, ih taken]
  | case13 => cases taken

theorem not_clean {list : List Item} {text : Text} (taken : take list (draft.leave text) = .ok next)
    (clean : next.leftOver = []) : False := by
  simpa [Draft.leave] using leftOver_of_take taken clean

/-- An operand is the first, and a separator right behind it is dropped. -/
theorem take_operand_eq_ok {text : Text} {behind : List Item}
    (taken : take (.operand text :: behind) draft = .ok next) (clean : next.leftOver = []) :
    draft.operandTaken = false ∧
      (take behind (draft.takeOperand text) = .ok next ∨
        ∃ rest, behind = .separator :: rest ∧ take rest (draft.takeOperand text) = .ok next) := by
  have plainly (taken : take behind (if draft.operandTaken then draft.leave text
      else draft.takeOperand text) = .ok next) :
      draft.operandTaken = false ∧ take behind (draft.takeOperand text) = .ok next := by
    cases vacant : draft.operandTaken with
    | true =>
        rw [vacant] at taken
        exact (not_clean taken clean).elim
    | false =>
        rw [vacant] at taken
        exact ⟨rfl, taken⟩
  cases behind with
  | nil =>
      obtain ⟨vacant, later⟩ := plainly taken
      exact ⟨vacant, .inl later⟩
  | cons item rest =>
      cases item with
      | separator =>
          rw [take] at taken
          split at taken
          · exact (not_clean taken clean).elim
          · next vacant => exact ⟨Bool.eq_false_iff.mpr vacant, .inr ⟨rest, rfl, taken⟩⟩
      | _ =>
          obtain ⟨vacant, later⟩ := plainly taken
          exact ⟨vacant, .inl later⟩

/-- Behind a separator there may be the operand, if there is none yet, and nothing else. -/
theorem take_operands_eq_ok {texts : List Text} (taken : take (texts.map .operand) draft = .ok next)
    (clean : next.leftOver = []) :
    texts = [] ∧ next = draft ∨
      ∃ text, texts = [text] ∧ draft.operandTaken = false ∧ next = draft.takeOperand text := by
  cases texts with
  | nil => cases taken; exact .inl ⟨rfl, rfl⟩
  | cons text rest =>
      obtain ⟨vacant, later | ⟨_, shape, _⟩⟩ := take_operand_eq_ok taken clean
      · cases rest with
        | nil => cases later; exact .inr ⟨text, rfl, vacant, rfl⟩
        | cons second others =>
            obtain ⟨again, _⟩ := take_operand_eq_ok later clean
            cases again
      · cases rest <;> cases shape

theorem take_attached_eq_ok {switch : Switch} {spelling attached : Text} {behind : List Item}
    (taken : take (.known switch spelling (some attached) :: behind) draft = .ok next) :
    ∃ middle, takeAttached draft switch spelling attached = .ok middle ∧
      take behind middle = .ok next := by
  rw [take] at taken
  cases took : takeAttached draft switch spelling attached with
  | ok middle => rw [took] at taken; exact ⟨middle, rfl, taken⟩
  | error => rw [took] at taken; cases taken

theorem take_size_eq_ok {spelling : Text} {behind : List Item}
    (taken : take (.known .indentSize spelling none :: behind) draft = .ok next) :
    ∃ value rest middle, behind = .operand value :: rest ∧ draft.setIndent value = .ok middle ∧
      take rest middle = .ok next := by
  cases behind with
  | nil => cases taken
  | cons item rest =>
      cases item with
      | operand value =>
          rw [take] at taken
          cases set : draft.setIndent value with
          | ok middle => rw [set] at taken; exact ⟨value, rest, middle, rfl, set, taken⟩
          | error => rw [set] at taken; cases taken
      | _ => cases taken

theorem take_switch_eq_ok {switch : Switch} {spelling : Text} {behind : List Item}
    (noValue : switch ≠ .indentSize)
    (taken : take (.known switch spelling none :: behind) draft = .ok next) :
    ∃ middle, draft.turnOn switch = .ok middle ∧ take behind middle = .ok next := by
  rw [take] at taken
  · cases turned : draft.turnOn switch with
    | ok middle => rw [turned] at taken; exact ⟨middle, rfl, taken⟩
    | error => rw [turned] at taken; cases taken
  · exact fun _ _ _ same => noValue same
  · exact noValue

end Clean

/-- A command line of which nothing is left over is one by the rules. -/
theorem accepts_of_take (arguments : List Text) {list : List Item} {draft next : Draft}
    (listed : items arguments = .ok list) (taken : take list draft = .ok next)
    (clean : next.leftOver = []) : Accepts arguments draft next := by
  match arguments with
  | [] =>
      cases listed
      cases taken
      exact .done draft
  | argument :: rest =>
      by_cases ends : argument = separator
      · subst ends
        rw [items, if_pos rfl] at listed
        cases listed
        rw [take] at taken
        cases vacant : draft.operandTaken with
        | true =>
            rw [vacant] at taken
            exact (not_clean taken clean).elim
        | false =>
            rw [vacant] at taken
            rcases take_operands_eq_ok taken clean with ⟨rfl, rfl⟩ | ⟨text, rfl, _, rfl⟩
            · exact .ended vacant
            · exact .separated vacant text
      · obtain ⟨reading, behind, reads, others, rfl⟩ := items_eq_ok_cons ends listed
        cases reading with
        | unknown => exact (not_clean taken clean).elim
        | operand =>
            obtain ⟨vacant, later | ⟨dropped, rfl, later⟩⟩ := take_operand_eq_ok taken clean
            · exact .operand vacant reads (accepts_of_take rest others later clean)
            · obtain ⟨texts, rfl, rfl⟩ := items_eq_ok_separator others
              rcases take_operands_eq_ok later clean with ⟨rfl, rfl⟩ | ⟨_, _, again, _⟩
              · exact .closed vacant reads
              · cases again
        | known switch spelling attached =>
            cases attached with
            | some attached =>
                obtain ⟨middle, took, later⟩ := take_attached_eq_ok taken
                have followed := accepts_of_take rest others later clean
                rcases takeAttached_eq_ok (spells_of_read reads).1 took with
                  ⟨rfl, set⟩ | ⟨rfl, turned⟩
                · exact .sized reads set followed
                · exact .checked reads turned followed
            | none =>
                by_cases takes : switch = .indentSize
                · subst takes
                  obtain ⟨value, after, middle, rfl, set, later⟩ := take_size_eq_ok taken
                  obtain ⟨more, rfl, plain, listed⟩ := items_eq_ok_operand others
                  exact .sizedBehind reads plain set (accepts_of_take more listed later clean)
                · obtain ⟨middle, turned, later⟩ := take_switch_eq_ok takes taken
                  exact .turned takes reads turned (accepts_of_take rest others later clean)
termination_by arguments.length

theorem parse_eq_ok {arguments : List Text} {invocation : Invocation}
    (parsed : parse arguments = .ok invocation) :
    ∃ list draft, items arguments = .ok list ∧ take list {} = .ok draft ∧ draft.leftOver = [] ∧
      draft.invocation = invocation := by
  unfold parse at parsed
  cases listed : items arguments with
  | error => rw [listed] at parsed; cases parsed
  | ok list =>
      rw [listed] at parsed
      cases taken : take list {} with
      | error => simp only [taken] at parsed; cases parsed
      | ok draft =>
          simp only [taken, finish] at parsed
          split at parsed
          · next clean =>
              cases parsed
              exact ⟨list, draft, rfl, taken, List.isEmpty_iff.mp clean, rfl⟩
          · cases parsed

/-- A command line that is read as an invocation is one by the rules. -/
theorem accepts_of_parse {arguments : List Text} {invocation : Invocation}
    (parsed : parse arguments = .ok invocation) :
    ∃ draft, Accepts arguments {} draft ∧ draft.invocation = invocation := by
  obtain ⟨list, draft, listed, taken, clean, made⟩ := parse_eq_ok parsed
  exact ⟨draft, accepts_of_take arguments listed taken clean, made⟩

end ScriptFormat.CommandLine
