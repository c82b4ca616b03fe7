import ScriptFormat.Proofs.CommandLine.Drafts
import ScriptFormat.Proofs.CommandLine.Requests

/-!
# The size of an indent

Two command lines that begin with one size or another are read side by side: both are
refused for the same reason, or they ask for invocations that differ in the size at most.
-/

namespace ScriptFormat

def Invocation.sized (invocation : Invocation) (size : IndentSize) : Invocation :=
  { invocation with indentSize := size }

namespace CommandLine

def sized (value : Text) (arguments : List Text) : List Text :=
  withValue "--indent-size" (some value) :: arguments

def Draft.sized (draft : Draft) (size : IndentSize) : Draft :=
  { draft with invocation := draft.invocation.sized size }

/-- No step looks at a size, and a later one is put in its place. -/
theorem sized_respected : Respected fun draft other => ∃ size, other = draft.sized size where
  operandTaken := by
    rintro draft _ ⟨size, rfl⟩
    rfl
  leave text := by
    rintro ⟨size, rfl⟩
    exact ⟨size, rfl⟩
  takeOperand text := by
    rintro ⟨size, rfl⟩
    exact ⟨size, rfl⟩
  turnOn switch := by
    rintro ⟨size, rfl⟩
    cases switch with
    | help => exact .refused _
    | version => exact .refused _
    | _ => exact .taken ⟨size, rfl⟩
  setIndent value := by
    rintro ⟨_, rfl⟩
    unfold Draft.setIndent
    cases indentOf value with
    | ok size => exact .taken ⟨size, rfl⟩
    | error ending => exact .refused ending

theorem read_size (value : Text) : ∃ spelling,
    read (withValue "--indent-size" (some value)) =
      .ok (.known .indentSize spelling (some value)) := by
  have long : Switch.indentSize.IsLong := by decide +kernel
  have fits : Switch.indentSize.fits "--indent-size" = true := by decide +kernel
  exact (read_long_iff long).mpr ⟨_, fits, rfl⟩

variable {arguments : List Text} {value : Text} {size : IndentSize} {list : List Item}

/-- The size is taken first, and the rest from the draft that it leaves. -/
theorem parse_sized (asked : indentOf value = .ok size) (listed : items arguments = .ok list) :
    parse (sized value arguments) = (take list (Draft.sized {} size)).bind finish := by
  obtain ⟨spelling, reads⟩ := read_size value
  have set : takeAttached {} .indentSize spelling value = .ok (Draft.sized {} size) := by
    change Draft.setIndent {} value = _
    rw [Draft.setIndent, asked]
    rfl
  rw [parse, sized, items_of_read reads, listed]
  simp only [Except.map, Reading.item, take, set]
  cases take list (Draft.sized {} size) <;> rfl

theorem parse_sized_error {ending : Ending} (failed : items arguments = .error ending) :
    parse (sized value arguments) = .error ending := by
  obtain ⟨spelling, reads⟩ := read_size value
  rw [parse, sized, items_of_read reads, failed]
  rfl

theorem finish_alike {draft other : Draft} (same : other = draft.sized size) :
    Ends (fun invocation other => ∃ size, other = invocation.sized size) (finish draft)
      (finish other) := by
  cases same
  unfold finish
  change Ends _ _ (if draft.leftOver.isEmpty then _ else _)
  split
  · exact .taken ⟨size, rfl⟩
  · exact .refused _

/-- Whatever size is in front, the rest is read in the same way. -/
theorem parse_alike {first second : Text} {size other : IndentSize}
    (asked : indentOf first = .ok size) (again : indentOf second = .ok other)
    (arguments : List Text) :
    Ends (fun invocation other => ∃ size, other = invocation.sized size)
      (parse (sized first arguments)) (parse (sized second arguments)) := by
  cases listed : items arguments with
  | error ending =>
      rw [parse_sized_error listed, parse_sized_error listed]
      exact .refused ending
  | ok list =>
      rw [parse_sized asked listed, parse_sized again listed]
      have same : ∃ later, Draft.sized {} other = (Draft.sized {} size).sized later := ⟨other, rfl⟩
      exact (sized_respected.take list same).bind fun ⟨_, changed⟩ => finish_alike changed

/-- A size gives no switch. -/
theorem given_sized {switch : Switch} (long : switch.IsLong) (value : Text)
    (arguments : List Text) : given switch (sized value arguments) = given switch arguments := by
  obtain ⟨spelling, reads⟩ := read_size value
  rw [sized, given_cons (ne_separator_of_read reads), fits_of_read long reads]
  rfl

/-- What a switch without a value is in an invocation is what the arguments behind the size give. -/
theorem isOn_of_parse_sized {invocation : Invocation}
    (parsed : parse (sized value arguments) = .ok invocation) {switch : Switch}
    (long : switch.IsLong) (noValue : switch ≠ .indentSize) :
    invocation.isOn switch = given switch arguments := by
  obtain ⟨draft, accepts, rfl⟩ := accepts_of_parse parsed
  rw [accepts.isOn long noValue, given_sized long]
  cases switch <;> rfl

end CommandLine

end ScriptFormat
