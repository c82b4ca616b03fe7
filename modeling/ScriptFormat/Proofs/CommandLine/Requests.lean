import ScriptFormat.Proofs.CommandLine.Acceptance

/-!
# What a command line asks for

The switches that a command line gives, the values it gives for them and its operands,
each by what stands in it. An accepted command line is read as an invocation for just
that: the last size, the switches given in front of the separator, the one operand.
-/

namespace ScriptFormat

namespace CommandLine

def front (arguments : List Text) : List Text := arguments.takeWhile (· != separator)

def given (switch : Switch) (arguments : List Text) : Bool := (front arguments).any switch.fits

/-- The value that an argument gives for a switch: the next argument, or what is behind an equals
sign. -/
def Switch.valueAt (switch : Switch) (argument : Text) (rest : List Text) : List Text :=
  if switch.fits argument then rest.take 1
  else match splitValue argument with
    | (beginning, some value) => if switch.fits beginning then [value] else []
    | (_, none) => []

def valuesFrom (switch : Switch) : List Text → List Text
  | [] => []
  | argument :: rest => switch.valueAt argument rest ++ valuesFrom switch rest

def values (switch : Switch) (arguments : List Text) : List Text :=
  valuesFrom switch (front arguments)

/-- The operands, where the first argument may be a value. -/
def operandsFrom : Bool → List Text → List Text
  | _, [] => []
  | true, _ :: rest => operandsFrom false rest
  | false, argument :: rest =>
      if argument = separator then rest
      else match read argument with
        | .ok .operand => argument :: operandsFrom false rest
        | _ => operandsFrom (Switch.indentSize.fits argument) rest

def operands (arguments : List Text) : List Text := operandsFrom false arguments

section Arguments

variable {switch : Switch} {argument : Text} {rest : List Text} {reading : Reading}

theorem front_cons (apart : argument ≠ separator) :
    front (argument :: rest) = argument :: front rest := by
  simp [front, apart]

theorem given_cons (apart : argument ≠ separator) :
    given switch (argument :: rest) = (switch.fits argument || given switch rest) := by
  rw [given, front_cons apart]
  rfl

theorem values_cons (apart : argument ≠ separator) :
    values switch (argument :: rest) =
      switch.valueAt argument (front rest) ++ values switch rest := by
  rw [values, front_cons apart]
  rfl

/-- An argument fits a switch exactly if it reads as the switch without a value. -/
theorem fits_iff_of_read (long : switch.IsLong) (reads : read argument = .ok reading) :
    switch.fits argument = true ↔ ∃ spelling, reading = .known switch spelling none := by
  have ways : (∃ spelling, read argument = .ok (.known switch spelling none)) ↔
      ∃ beginning, switch.fits beginning = true ∧ argument = beginning := read_long_iff long
  rw [reads] at ways
  simpa using ways.symm

def Reading.isBare (switch : Switch) : Reading → Bool
  | .known other _ none => decide (other = switch)
  | _ => false

theorem fits_of_read (long : switch.IsLong) (reads : read argument = .ok reading) :
    switch.fits argument = reading.isBare switch := by
  rw [Bool.eq_iff_iff, fits_iff_of_read long reads]
  cases reading with
  | known other spelling value => cases value <;> simp [Reading.isBare]
  | _ => simp [Reading.isBare]

theorem valueAt_of_none (long : switch.IsLong) {spelling : Text}
    (reads : read argument = .ok (.known switch spelling none)) :
    switch.valueAt argument rest = rest.take 1 :=
  if_pos ((fits_iff_of_read long reads).mpr ⟨spelling, rfl⟩)

theorem valueAt_of_some (long : switch.IsLong) {spelling value : Text}
    (reads : read argument = .ok (.known switch spelling (some value))) :
    switch.valueAt argument rest = [value] := by
  have unfit : ¬ switch.fits argument = true := by
    rw [fits_iff_of_read long reads]
    rintro ⟨_, shape⟩
    cases shape
  obtain ⟨beginning, fits, shape⟩ := (read_long_iff long).mp ⟨spelling, reads⟩
  obtain ⟨_, _, fitting⟩ := Switch.Fits.of_fits fits
  rw [Switch.valueAt, if_neg unfit, shape, splitValue_withValue fitting.plain]
  exact if_pos fits

theorem valueAt_of_other (long : switch.IsLong) (reads : read argument = .ok reading)
    (other : ∀ spelling value, reading ≠ .known switch spelling value) :
    switch.valueAt argument rest = [] := by
  have unfit : ¬ switch.fits argument = true := by
    rw [fits_iff_of_read long reads]
    rintro ⟨spelling, shape⟩
    exact other spelling none shape
  rw [Switch.valueAt, if_neg unfit]
  split
  · next beginning value split =>
      refine if_neg fun fits => ?_
      obtain ⟨spelling, same⟩ := (read_long_iff long).mpr ⟨beginning, fits, eq_withValue split⟩
      rw [reads] at same
      exact other spelling _ (Except.ok.inj same)
  · rfl

end Arguments

end CommandLine

def Invocation.isOn (invocation : Invocation) : CommandLine.Switch → Bool
  | .stdout => invocation.stdout
  | .check => invocation.check
  | .useSpaces => invocation.useSpaces
  | .reorderCode => invocation.reorderCode
  | .debug => invocation.debug
  | _ => false

namespace CommandLine

/-! ## Accepted command lines -/

section Accepted

variable {arguments : List Text} {draft next : Draft}

theorem isOn_of_turnOn {switch other : Switch} (noValue : switch ≠ .indentSize)
    (turned : draft.turnOn other = .ok next) :
    next.invocation.isOn switch = (draft.invocation.isOn switch || decide (other = switch)) := by
  cases other <;> cases turned <;> cases switch <;> simp [Invocation.isOn] at noValue ⊢

theorem isOn_of_setIndent {switch : Switch} {value : Text}
    (set : draft.setIndent value = .ok next) :
    next.invocation.isOn switch = draft.invocation.isOn switch := by
  obtain ⟨_, _, rfl⟩ := setIndent_eq_ok set
  cases switch <;> rfl

theorem given_ended (switch : Switch) (rest : List Text) :
    given switch (separator :: rest) = false := rfl

theorem Accepts.isOn (accepts : Accepts arguments draft next) {switch : Switch}
    (long : switch.IsLong) (noValue : switch ≠ .indentSize) :
    next.invocation.isOn switch = (draft.invocation.isOn switch || given switch arguments) := by
  have bare {argument : Text} {rest : List Text} {reading : Reading}
      (reads : read argument = .ok reading) :
      given switch (argument :: rest) = (reading.isBare switch || given switch rest) := by
    rw [given_cons (ne_separator_of_read reads), fits_of_read long reads]
  have taken (draft : Draft) (text : Text) :
      (draft.takeOperand text).invocation.isOn switch = draft.invocation.isOn switch := by
    cases switch <;> rfl
  induction accepts with
  | done => simp [given, front]
  | ended => simp [given_ended]
  | separated => simp [given_ended, taken]
  | closed _ reads => simp [bare reads, given_ended, taken, Reading.isBare]
  | operand _ reads _ ih => simp [bare reads, ih, taken, Reading.isBare]
  | turned _ reads turned _ ih =>
      rw [bare reads, ih, isOn_of_turnOn noValue turned, Bool.or_assoc]
      rfl
  | checked reads turned _ ih =>
      have apart : Switch.check ≠ switch := by
        rintro rfl
        exact absurd long (by decide +kernel)
      simp [bare reads, ih, isOn_of_turnOn noValue turned, Reading.isBare, apart]
  | sized reads set _ ih => simp [bare reads, ih, isOn_of_setIndent set, Reading.isBare]
  | sizedBehind reads plain set _ ih =>
      simp [bare reads, bare plain, ih, isOn_of_setIndent set, Reading.isBare, noValue.symm]

/-- The last value is the size, if there is one. -/
theorem Accepts.size (accepts : Accepts arguments draft next) :
    values .indentSize arguments = [] ∧
        next.invocation.indentSize = draft.invocation.indentSize ∨
      ∃ value, (values .indentSize arguments).getLast? = some value ∧
        indentOf value = .ok next.invocation.indentSize := by
  have long : Switch.indentSize.IsLong := by decide +kernel
  have other {argument : Text} {rest : List Text} {reading : Reading}
      (reads : read argument = .ok reading)
      (apart : ∀ spelling value, reading ≠ .known .indentSize spelling value) :
      values .indentSize (argument :: rest) = values .indentSize rest := by
    rw [values_cons (ne_separator_of_read reads), valueAt_of_other long reads apart]
    rfl
  have behind {value : Text} {later : List Text} {draft middle next : Draft}
      (set : draft.setIndent value = .ok middle)
      (ih : later = [] ∧ next.invocation.indentSize = middle.invocation.indentSize ∨
        ∃ last, later.getLast? = some last ∧ indentOf last = .ok next.invocation.indentSize) :
      ∃ last, (value :: later).getLast? = some last ∧
        indentOf last = .ok next.invocation.indentSize := by
    obtain ⟨size, sized, rfl⟩ := setIndent_eq_ok set
    rcases ih with ⟨rfl, same⟩ | ⟨last, final, asked⟩
    · exact ⟨value, rfl, by rw [sized, same]⟩
    · exact ⟨last, by rw [List.getLast?_cons, final]; rfl, asked⟩
  induction accepts with
  | done => exact .inl ⟨rfl, rfl⟩
  | ended => exact .inl ⟨rfl, rfl⟩
  | separated => exact .inl ⟨rfl, rfl⟩
  | closed _ reads =>
      rw [other reads (by simp)]
      exact .inl ⟨rfl, rfl⟩
  | operand _ reads _ ih =>
      rw [other reads (by simp)]
      exact ih
  | turned noValue reads turned _ ih =>
      rw [other reads (by simp [noValue]), ← (keeps_of_turnOn turned).indentSize]
      exact ih
  | checked reads turned _ ih =>
      rw [other reads (by simp), ← (keeps_of_turnOn turned).indentSize]
      exact ih
  | sized reads set _ ih =>
      rw [values_cons (ne_separator_of_read reads), valueAt_of_some long reads]
      exact .inr (behind set ih)
  | sizedBehind reads plain set _ ih =>
      rw [values_cons (ne_separator_of_read reads), valueAt_of_none long reads,
        front_cons (ne_separator_of_read plain), other plain (by simp)]
      exact .inr (behind set ih)

/-- The operand is the file. -/
theorem Accepts.input (accepts : Accepts arguments draft next) :
    operands arguments = [] ∧ next.invocation.input = draft.invocation.input ∨
      ∃ text, operands arguments = [text] ∧ draft.operandTaken = false ∧
        next.invocation.input = some (.ofText text) := by
  have long : Switch.indentSize.IsLong := by decide +kernel
  have plain {argument : Text} {rest : List Text} (reads : read argument = .ok .operand) :
      operands (argument :: rest) = argument :: operands rest := by
    rw [operands, operandsFrom, if_neg (ne_separator_of_read reads), reads]
    rfl
  have other {argument : Text} {rest : List Text} {switch : Switch} {spelling : Text}
      {value : Option Text} (reads : read argument = .ok (.known switch spelling value)) :
      operands (argument :: rest) =
        operandsFrom (Reading.isBare .indentSize (.known switch spelling value)) rest := by
    rw [operands, operandsFrom, if_neg (ne_separator_of_read reads), fits_of_read long reads, reads]
  induction accepts with
  | done => exact .inl ⟨rfl, rfl⟩
  | ended => exact .inl ⟨rfl, rfl⟩
  | separated vacant text => exact .inr ⟨text, rfl, vacant, rfl⟩
  | @closed argument _ vacant reads =>
      rw [plain reads]
      exact .inr ⟨argument, rfl, vacant, rfl⟩
  | @operand argument _ _ _ vacant reads _ ih =>
      rw [plain reads]
      rcases ih with ⟨none, same⟩ | ⟨_, _, again, _⟩
      · exact .inr ⟨argument, by rw [none], vacant, by rw [same]; rfl⟩
      · cases again
  | turned noValue reads turned _ ih =>
      have kept := keeps_of_turnOn turned
      rw [other reads, ← kept.input, ← kept.operandTaken]
      simpa [operands, Reading.isBare, noValue] using ih
  | checked reads turned _ ih =>
      have kept := keeps_of_turnOn turned
      rw [other reads, ← kept.input, ← kept.operandTaken]
      exact ih
  | sized reads set _ ih =>
      obtain ⟨_, _, rfl⟩ := setIndent_eq_ok set
      rw [other reads]
      exact ih
  | sizedBehind reads plain set _ ih =>
      obtain ⟨_, _, rfl⟩ := setIndent_eq_ok set
      rw [other reads]
      exact ih

end Accepted

structure AsksFor (arguments : List Text) (config : FormatterConfig) : Prop where
  indentSize : match (values .indentSize arguments).getLast? with
    | some value => indentOf value = .ok config.indentSize
    | none => config.indentSize = .count 4
  useSpaces : config.useSpaces = given .useSpaces arguments
  reorderCode : config.reorderCode = given .reorderCode arguments

section Parsed

variable {arguments : List Text} {invocation : Invocation}

/-- Nothing but the formatting switches decides the settings. -/
theorem asksFor_of_parse (parsed : parse arguments = .ok invocation) :
    AsksFor arguments invocation.config := by
  obtain ⟨draft, accepts, rfl⟩ := accepts_of_parse parsed
  have spaces := accepts.isOn (by decide +kernel : Switch.useSpaces.IsLong) (by decide)
  have reorder := accepts.isOn (by decide +kernel : Switch.reorderCode.IsLong) (by decide)
  refine ⟨?_, spaces, reorder⟩
  rcases accepts.size with ⟨none, same⟩ | ⟨value, last, sized⟩
  · rw [none]
    exact same
  · rw [last]
    exact sized

/-- There is no more than one operand, and it is the file. -/
theorem input_of_parse (parsed : parse arguments = .ok invocation) :
    operands arguments = [] ∧ invocation.input = none ∨
      ∃ operand, operands arguments = [operand] ∧ invocation.input = some (.ofText operand) := by
  obtain ⟨draft, accepts, rfl⟩ := accepts_of_parse parsed
  rcases accepts.input with nothing | ⟨operand, only, _, named⟩
  · exact .inl nothing
  · exact .inr ⟨operand, only, named⟩

end Parsed

/-- The later size counts, and an empty operand is an operand. -/
example :
    values .indentSize ["--indent-size=8", "", "--ind", "2", "--"] = (["8", "2"] : List Text) ∧
      operands ["--indent-size=8", "", "--ind", "2", "--"] = [[]] := by decide +kernel

end CommandLine

end ScriptFormat
