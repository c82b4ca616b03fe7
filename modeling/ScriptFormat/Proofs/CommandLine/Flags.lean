import ScriptFormat.CommandLine.Parse

/-!
# Formatting flags

The flags that set how to format, and what a command line of them asks for: alone,
behind an operand, and behind an operand and a switch for the route of the result.
Flags change the settings for the engine one after the other and nothing else.
-/

namespace ScriptFormat

inductive Flag where
  | useSpaces
  | indentSize (numeral : Text)
  | reorderCode
  deriving DecidableEq

namespace Flag

def arguments : Flag → List Text
  | .useSpaces => ["--use-spaces"]
  | .indentSize numeral => ["--indent-size", numeral]
  | .reorderCode => ["--reorder-code"]

def items : Flag → List CommandLine.Item
  | .useSpaces => [.known .useSpaces "--use-spaces" none]
  | .indentSize numeral => [.known .indentSize "--indent-size" none, .operand numeral]
  | .reorderCode => [.known .reorderCode "--reorder-code" none]

/-- A size, if the flag gives one, is a size and looks like no switch. -/
def Accepted : Flag → Prop
  | .useSpaces => True
  | .indentSize numeral =>
      numeral.startsWith [CommandLine.hyphen] = false ∧
        ∃ size, CommandLine.indentSize numeral = .ok size
  | .reorderCode => True

def set (config : FormatterConfig) : Flag → FormatterConfig
  | .useSpaces => { config with useSpaces := true }
  | .indentSize numeral =>
      match CommandLine.indentSize numeral with
      | .ok size => { config with indentSize := .count size }
      | .error _ => config
  | .reorderCode => { config with reorderCode := true }

end Flag

def FormatterConfig.ofFlags (flags : List Flag) : FormatterConfig := flags.foldl Flag.set {}

def Invocation.configured (invocation : Invocation) (config : FormatterConfig) : Invocation :=
  { invocation with
    useSpaces := config.useSpaces
    indentSize := config.indentSize
    reorderCode := config.reorderCode }

def CommandLine.Draft.configure (draft : Draft) (config : FormatterConfig) : Draft :=
  { draft with invocation := draft.invocation.configured config }

def Flag.line (flags : List Flag) : List Text := flags.flatMap Flag.arguments

namespace CommandLine

section Reading

variable {argument : Text} {rest : List Text} {behind : List Item}

theorem items_cons {reading : Reading} (apart : argument ≠ separator)
    (reads : read argument = .ok reading) (others : items rest = .ok behind) :
    items (argument :: rest) = .ok (reading.item argument :: behind) := by
  rw [items, if_neg apart, reads]
  simp only [others]
  rfl

theorem ne_separator (plain : argument.startsWith [hyphen] = false) : argument ≠ separator := by
  intro same
  rw [same] at plain
  cases plain

/-- What does not start with a hyphen is an operand. -/
theorem items_plain (plain : argument.startsWith [hyphen] = false)
    (others : items rest = .ok behind) :
    items (argument :: rest) = .ok (.operand argument :: behind) := by
  have reads : read argument = .ok .operand := by
    rw [read, plain]
    rfl
  exact items_cons (ne_separator plain) reads others

end Reading

theorem items_flag {flag : Flag} {rest : List Text} {behind : List Item}
    (accepted : flag.Accepted) (others : items rest = .ok behind) :
    items (flag.arguments ++ rest) = .ok (flag.items ++ behind) := by
  cases flag with
  | useSpaces =>
      have apart : ("--use-spaces" : Text) ≠ separator := by decide
      exact items_cons apart rfl others
  | indentSize numeral =>
      have apart : ("--indent-size" : Text) ≠ separator := by decide
      exact items_cons apart rfl (items_plain accepted.1 others)
  | reorderCode =>
      have apart : ("--reorder-code" : Text) ≠ separator := by decide
      exact items_cons apart rfl others

theorem items_line {flags : List Flag} (accepted : ∀ flag ∈ flags, flag.Accepted) :
    items (Flag.line flags) = .ok (flags.flatMap Flag.items) := by
  induction flags with
  | nil => rfl
  | cons flag rest ih =>
      obtain ⟨first, later⟩ := List.forall_mem_cons.mp accepted
      exact items_flag first (ih later)

theorem take_switch {switch : Switch} {spelling : Text} {rest : List Item} {draft next : Draft}
    (noValue : switch ≠ .indentSize) (turned : draft.turnOn switch = .ok next) :
    take (.known switch spelling none :: rest) draft = take rest next := by
  rw [take, turned]
  · exact fun _ _ _ same => noValue same
  · exact noValue

theorem setIndent_accepted {numeral : Text} {size : Int} (draft : Draft)
    (plain : numeral.startsWith [hyphen] = false) (sized : indentSize numeral = .ok size) :
    draft.setIndent numeral =
      .ok { draft with invocation := { draft.invocation with indentSize := .count size } } := by
  rw [Draft.setIndent, indentOf, if_neg (ne_separator plain), sized]

/-- A flag sets its setting and leaves the rest of a draft as it is. -/
theorem take_flag {flag : Flag} (accepted : flag.Accepted) (rest : List Item) (draft : Draft) :
    take (flag.items ++ rest) draft =
      take rest (draft.configure (Flag.set draft.invocation.config flag)) := by
  cases flag with
  | useSpaces =>
      have noValue : Switch.useSpaces ≠ .indentSize := by decide
      exact take_switch noValue rfl
  | indentSize numeral =>
      obtain ⟨plain, size, sized⟩ := accepted
      have set := setIndent_accepted draft plain sized
      have configured : draft.configure (Flag.set draft.invocation.config (.indentSize numeral)) =
          { draft with invocation := { draft.invocation with indentSize := .count size } } := by
        rw [Flag.set, sized]
        rfl
      change take (.known .indentSize "--indent-size" none :: .operand numeral :: rest) draft = _
      rw [take, set, configured]
  | reorderCode =>
      have noValue : Switch.reorderCode ≠ .indentSize := by decide
      exact take_switch noValue rfl

theorem take_flags {flags : List Flag} (accepted : ∀ flag ∈ flags, flag.Accepted)
    (draft : Draft) :
    take (flags.flatMap Flag.items) draft =
      .ok (draft.configure (flags.foldl Flag.set draft.invocation.config)) := by
  induction flags generalizing draft with
  | nil => rfl
  | cons flag rest ih =>
      obtain ⟨first, later⟩ := List.forall_mem_cons.mp accepted
      rw [List.flatMap_cons, take_flag first, ih later]
      rfl

/-- The first operand is the file, if no separator comes behind it. -/
theorem take_operand {rest : List Item} {draft : Draft} (apart : rest.head? ≠ some .separator)
    (vacant : draft.operandTaken = false) (operand : Text) :
    take (.operand operand :: rest) draft = take rest (draft.takeOperand operand) := by
  cases rest with
  | nil => simp [take, vacant]
  | cons item others =>
      cases item with
      | separator => exact absurd rfl apart
      | _ => rw [take, vacant] <;> simp

theorem head?_items_ne (flags : List Flag) :
    (flags.flatMap Flag.items).head? ≠ some .separator := by
  cases flags with
  | nil => simp
  | cons flag rest => cases flag <;> simp [Flag.items]

/-! ## Command lines -/

section Lines

variable {flags : List Flag} {operand : Text}

theorem parse_flags (accepted : ∀ flag ∈ flags, flag.Accepted) :
    parse (Flag.line flags) =
      .ok (Invocation.configured { input := none } (.ofFlags flags)) := by
  rw [parse, items_line accepted]
  simp only [take_flags accepted]
  rfl

theorem parse_operand (plain : operand.startsWith [hyphen] = false)
    (accepted : ∀ flag ∈ flags, flag.Accepted) :
    parse (operand :: Flag.line flags) =
      .ok (Invocation.configured { input := some (.ofText operand) } (.ofFlags flags)) := by
  rw [parse, items_plain plain (items_line accepted)]
  have vacant : ({} : Draft).operandTaken = false := rfl
  simp only [take_operand (head?_items_ne flags) vacant, take_flags accepted]
  rfl

theorem parse_alone (plain : operand.startsWith [hyphen] = false) :
    parse [operand] = .ok { input := some (.ofText operand) } := by
  have accepted : ∀ flag ∈ ([] : List Flag), flag.Accepted := by simp
  exact parse_operand plain accepted

/-- A switch without a value between the operand and the flags. -/
theorem parse_operand_switch (switch : Switch) (spelling : Text) {next : Draft}
    (plain : operand.startsWith [hyphen] = false) (accepted : ∀ flag ∈ flags, flag.Accepted)
    (apart : spelling ≠ separator) (reads : read spelling = .ok (.known switch spelling none))
    (noValue : switch ≠ .indentSize)
    (turned : (Draft.takeOperand {} operand).turnOn switch = .ok next) :
    parse (operand :: spelling :: Flag.line flags) =
      finish (next.configure (flags.foldl Flag.set next.invocation.config)) := by
  have behind : (Item.known switch spelling none :: flags.flatMap Flag.items).head? ≠
      some .separator := by
    simp
  rw [parse, items_plain plain (items_cons apart reads (items_line accepted))]
  have vacant : ({} : Draft).operandTaken = false := rfl
  simp only [take_operand behind vacant, Reading.item, take_switch noValue turned,
    take_flags accepted]

theorem parse_operand_stdout (plain : operand.startsWith [hyphen] = false)
    (accepted : ∀ flag ∈ flags, flag.Accepted) :
    parse (operand :: "--stdout" :: Flag.line flags) =
      .ok (Invocation.configured { input := some (.ofText operand), stdout := true }
        (.ofFlags flags)) :=
  parse_operand_switch .stdout "--stdout" plain accepted (by decide) rfl (by decide) rfl

theorem parse_operand_check (plain : operand.startsWith [hyphen] = false)
    (accepted : ∀ flag ∈ flags, flag.Accepted) :
    parse (operand :: "--check" :: Flag.line flags) =
      .ok (Invocation.configured { input := some (.ofText operand), check := true }
        (.ofFlags flags)) :=
  parse_operand_switch .check "--check" plain accepted (by decide) rfl (by decide) rfl

end Lines

end CommandLine

end ScriptFormat
