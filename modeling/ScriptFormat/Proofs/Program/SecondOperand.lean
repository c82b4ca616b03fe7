import ScriptFormat.Proofs.CommandLine.Operands
import ScriptFormat.Proofs.Program.Course

/-!
# A second operand

One more operand anywhere in a command line that names a file already, but not where a size
waits for its value, is the file or is left over. In both cases an operand is left over, so
the program ends on a misuse that names it and does nothing else.
-/

namespace ScriptFormat

namespace CommandLine

variable {before after : List Text} {text : Text} {list : List Item} {invocation : Invocation}

/-- The last argument is read as the size and takes its value from the next one. -/
def AwaitsValue (before : List Text) : Prop :=
  separator ∉ before ∧
    ∃ argument spelling, before.getLast? = some argument ∧
      read argument = .ok (.known .indentSize spelling none)

theorem eq_nil_of_items (listed : items before = .ok []) : before = [] := by
  cases before with
  | nil => rfl
  | cons argument rest =>
      by_cases ends : argument = separator
      · rw [items, if_pos ends] at listed
        cases listed
      · obtain ⟨_, _, _, _, shape⟩ := items_eq_ok_cons ends listed
        cases shape

/-- If the items end with a switch, the last argument is read as it, in front of any separator. -/
theorem last_of_items {switch : Switch} {spelling : Text} {attached : Option Text}
    (listed : items before = .ok list)
    (last : list.getLast? = some (.known switch spelling attached)) :
    separator ∉ before ∧
      ∃ argument, before.getLast? = some argument ∧
        read argument = .ok (.known switch spelling attached) := by
  induction before generalizing list with
  | nil =>
      cases listed
      cases last
  | cons argument rest ih =>
      by_cases ends : argument = separator
      · rw [items, if_pos ends] at listed
        cases listed
        have member := List.mem_of_getLast? last
        simp at member
      · obtain ⟨reading, behind, reads, others, rfl⟩ := items_eq_ok_cons ends listed
        rw [List.getLast?_cons] at last
        cases further : behind.getLast? with
        | none =>
            rw [further] at last
            obtain rfl := List.getLast?_eq_none_iff.mp further
            obtain rfl := eq_nil_of_items others
            have known : reading = .known switch spelling attached := by
              cases reading <;> cases last
              rfl
            refine ⟨?_, argument, rfl, known ▸ reads⟩
            simpa using Ne.symm ends
        | some item =>
            rw [further] at last
            cases last
            obtain ⟨apart, known, shown, reads⟩ := ih others further
            refine ⟨?_, known, ?_, reads⟩
            · exact List.not_mem_cons_of_ne_of_not_mem (Ne.symm ends) apart
            · rw [List.getLast?_cons, shown]
              rfl

theorem settled_of_items (settled : ¬ AwaitsValue before) (listed : items before = .ok list) :
    Settled list := by
  intro spelling waits
  obtain ⟨apart, argument, last, reads⟩ := last_of_items listed waits
  apply settled
  exact ⟨apart, argument, spelling, last, reads⟩

/-- A plain argument is one more operand among the items. -/
theorem items_inserted (plain : text.startsWith [hyphen] = false)
    (listed : items (before ++ after) = .ok list) :
    ∃ front back, list = front ++ back ∧ items before = .ok front ∧
      items (before ++ text :: after) = .ok (front ++ .operand text :: back) := by
  induction before generalizing list with
  | nil => exact ⟨[], list, rfl, rfl, items_plain plain listed⟩
  | cons argument rest ih =>
      rw [List.cons_append] at listed
      by_cases ends : argument = separator
      · subst ends
        rw [items, if_pos rfl] at listed
        cases listed
        refine ⟨.separator :: rest.map .operand, after.map .operand, ?_, rfl, ?_⟩
        · rw [List.map_append]
          rfl
        · rw [List.cons_append, items, if_pos rfl, List.map_append]
          rfl
      · obtain ⟨reading, behind, reads, others, rfl⟩ := items_eq_ok_cons ends listed
        obtain ⟨front, back, rfl, alone, more⟩ := ih others
        refine ⟨reading.item argument :: front, back, rfl, ?_, ?_⟩
        · exact items_cons ends reads alone
        · exact items_cons ends reads more

def NamesOperand (invocation : Invocation) (text : Text) (leftOver : List Text) : Prop :=
  text ∈ leftOver ∨ ∃ operand ∈ leftOver, invocation.input = some (.ofText operand)

theorem NamesOperand.ne_nil {leftOver : List Text} (names : NamesOperand invocation text leftOver) :
    leftOver.isEmpty = false := by
  cases leftOver with
  | nil => rcases names with member | ⟨_, member, _⟩ <;> cases member
  | cons => rfl

/-- With one more plain argument the command line is refused, and the refusal names an operand. -/
theorem parse_inserted (plain : text.startsWith [hyphen] = false) (settled : ¬ AwaitsValue before)
    (parsed : parse (before ++ after) = .ok invocation) (named : invocation.hasFile = true) :
    ∃ leftOver, NamesOperand invocation text leftOver ∧
      parse (before ++ text :: after) =
        .error (.misuse ("unrecognized arguments: " ++ Text.join " " leftOver)) := by
  obtain ⟨list, draft, listed, taken, _, rfl⟩ := parse_eq_ok parsed
  obtain ⟨front, back, rfl, alone, more⟩ := items_inserted plain listed
  obtain ⟨texts, passes⟩ := Passes.of_take taken
  obtain ⟨_, same, covers⟩ := passes.take {}
  obtain rfl := Except.ok.inj (taken.symm.trans same)
  obtain ⟨first, second, rfl, crowded⟩ :=
    passes.inserted text front (settled_of_items settled alone)
  obtain ⟨next, goes, covered⟩ := crowded.take {}
  have names : NamesOperand draft.invocation text next.leftOver := by
    cases first with
    | nil =>
        cases second with
        | nil =>
            rw [Invocation.hasFile, covers.input] at named
            cases named
        | cons operand rest =>
            -- The added operand is the file now, and the file before is left over.
            have left := (covered.first_offered rfl).2
            exact .inr ⟨operand, left.mem List.mem_cons_self, (covers.first_offered rfl).1⟩
    | cons operand rest =>
        have left := (covered.first_offered rfl).2
        exact .inl (left.mem (List.mem_append_right rest List.mem_cons_self))
  refine ⟨next.leftOver, names, ?_⟩
  rw [parse, more]
  simp only [goes, finish, names.ne_nil]
  rfl

end CommandLine

namespace Program

open CommandLine

/-- One more plain argument on a command line that names a file, but not the value of a size: the
program names an operand that is left over in a message on misuse and exits. That message is all
that it leaves in the world. -/
theorem main_refuses_second_operand (engine : Engine) (world : World) {before after : List Text}
    {text : Text} {invocation : Invocation} (plain : text.startsWith [hyphen] = false)
    (settled : ¬ AwaitsValue before) (parsed : parse (before ++ after) = .ok invocation)
    (named : invocation.hasFile = true) :
    ∃ leftOver, NamesOperand invocation text leftOver ∧
      main engine (before ++ text :: after) world =
        .error { fault := .exit (.number ExitStatus.unexpectedError) }
          (world.complain (usageError world.columns
            ("unrecognized arguments: " ++ Text.join " " leftOver))) := by
  obtain ⟨leftOver, names, refused⟩ := parse_inserted plain settled parsed named
  refine ⟨leftOver, names, ?_⟩
  have reads : Reads (before ++ text :: after) world
      (.error (.misuse ("unrecognized arguments: " ++ Text.join " " leftOver))) := by
    refine ⟨refused, fun nothing => ?_⟩
    simp at nothing
  rw [main_concludes reads]
  rfl

/-- A second file in front of a switch, which goes without a value. -/
theorem main_refuses_second_operand_at_desk :
    let before : List Text := ["a.gd"]
    let after : List Text := ["-c"]
    let text : Text := "b.gd"
    let invocation : Invocation := { input := some (.ofText "a.gd"), check := true }
    text.startsWith [hyphen] = false ∧ ¬ AwaitsValue before ∧
      parse (before ++ after) = .ok invocation ∧ invocation.hasFile = true ∧
      ∃ leftOver, NamesOperand invocation text leftOver ∧
        main lineEnding (before ++ text :: after) desk =
          .error { fault := .exit (.number ExitStatus.unexpectedError) }
            (desk.complain (usageError desk.columns
              ("unrecognized arguments: " ++ Text.join " " leftOver))) := by
  intro before after text invocation
  have plain : text.startsWith [hyphen] = false := by decide
  have settled : ¬ AwaitsValue before := by
    rintro ⟨_, argument, spelling, last, reads⟩
    cases last
    cases reads
  have parsed : parse (before ++ after) = .ok invocation := by rfl
  have named : invocation.hasFile = true := rfl
  exact ⟨plain, settled, parsed, named,
    main_refuses_second_operand lineEnding desk plain settled parsed named⟩

end Program

end ScriptFormat
