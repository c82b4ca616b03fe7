import ScriptFormat.Proofs.CommandLine.Flags
import ScriptFormat.Proofs.CommandLine.Requests

/-!
# Arrangements of a command line

Settings may come in any order and as often as one likes: switches, their long spellings
perhaps cut short, and sizes behind their switch or attached to it. One operand may stand
between any two of them, or behind a separator at the end. Each such command line is
accepted, with the settings that occur in it and the size that comes last.
-/

namespace ScriptFormat

namespace CommandLine

def Switch.flags : List Switch := [.stdout, .check, .useSpaces, .reorderCode, .debug]

/-- A spelling of a switch, or a long one cut short behind a letter. -/
def Switch.Spells (switch : Switch) (spelling : Text) : Prop :=
  spelling ∈ switch.spellings ∨ switch.fits spelling = true

structure Size where
  text : Text
  count : Int
  accepted : indentSize text = .ok count

inductive Setting where
  | on (switch : Switch) (spelling : Text) (flag : switch ∈ Switch.flags)
      (spells : switch.Spells spelling)
  | sizeBehind (spelling : Text) (size : Size) (fits : Switch.indentSize.fits spelling = true)
      (plain : size.text.startsWith [hyphen] = false)
  | sizeAttached (spelling : Text) (size : Size) (fits : Switch.indentSize.fits spelling = true)

namespace Setting

def arguments : Setting → List Text
  | .on _ spelling _ _ => [spelling]
  | .sizeBehind spelling size _ _ => [spelling, size.text]
  | .sizeAttached spelling size _ => [withValue spelling (some size.text)]

def turnsOn (switch : Switch) : Setting → Bool
  | .on other _ _ _ => other == switch
  | .sizeBehind _ _ _ _ => false
  | .sizeAttached _ _ _ => false

def size? : Setting → Option Int
  | .on _ _ _ _ => none
  | .sizeBehind _ size _ _ => some size.count
  | .sizeAttached _ size _ => some size.count

end Setting

def line (settings : List Setting) : List Text := settings.flatMap Setting.arguments

def lastSize? (settings : List Setting) : Option Int := (settings.filterMap Setting.size?).getLast?

/-- The command lines in which settings come in this order, with the operand if there is one. -/
inductive Arranged : List Setting → Option Text → List Text → Prop where
  | bare (settings : List Setting) : Arranged settings none (line settings)
  | amid (front behind : List Setting) {operand : Text}
      (plain : operand.startsWith [hyphen] = false) :
      Arranged (front ++ behind) (some operand) (line front ++ operand :: line behind)
  | closed (settings : List Setting) (operand : Text) :
      Arranged settings (some operand) (line settings ++ [separator, operand])

end CommandLine

open CommandLine

/-- An invocation with settings on top: each switch is on if it was or some setting turns it on, and
the last size counts. -/
def Invocation.having (invocation : Invocation) (settings : List Setting) : Invocation :=
  { invocation with
    stdout := invocation.stdout || settings.any (Setting.turnsOn .stdout)
    check := invocation.check || settings.any (Setting.turnsOn .check)
    useSpaces := invocation.useSpaces || settings.any (Setting.turnsOn .useSpaces)
    indentSize := (lastSize? settings).elim invocation.indentSize .count
    reorderCode := invocation.reorderCode || settings.any (Setting.turnsOn .reorderCode)
    debug := invocation.debug || settings.any (Setting.turnsOn .debug) }

theorem Invocation.having_nil (invocation : Invocation) : invocation.having [] = invocation := by
  simp [having, lastSize?]

theorem Invocation.having_append (invocation : Invocation) (front behind : List Setting) :
    invocation.having (front ++ behind) = (invocation.having front).having behind := by
  have last : lastSize? (front ++ behind) = (lastSize? behind).or (lastSize? front) := by
    simp [lastSize?, List.getLast?_append]
  simp only [having, List.any_append, Bool.or_assoc, last]
  cases lastSize? behind <;> rfl

/-- The order of settings decides about nothing but the size. -/
theorem Invocation.having_perm (invocation : Invocation) {settings other : List Setting}
    (perm : other.Perm settings) :
    invocation.having other =
      { invocation.having settings with
        indentSize := (lastSize? other).elim invocation.indentSize .count } := by
  simp only [having, perm.any_eq]

namespace CommandLine

def Draft.having (draft : Draft) (settings : List Setting) : Draft :=
  { draft with invocation := draft.invocation.having settings }

theorem read_spells {switch : Switch} {spelling : Text} (spells : switch.Spells spelling) :
    ∃ name, read spelling = .ok (.known switch name none) := by
  rcases spells with whole | fits
  · have tried : ∀ switch ∈ Switch.all, ∀ spelling ∈ switch.spellings,
        spelling.startsWith [hyphen] = true ∧ Switch.named? spelling = some switch := by
      decide +kernel
    obtain ⟨dashed, named⟩ := tried switch switch.mem_all spelling whole
    refine ⟨spelling, ?_⟩
    rw [read, dashed, named]
    rfl
  · obtain ⟨name, _, fitting⟩ := Switch.Fits.of_fits fits
    exact ⟨name, read_withValue fitting none⟩

theorem turnOn_flag (draft : Draft) {switch : Switch} {spelling : Text}
    (flag : switch ∈ Switch.flags) (spells : switch.Spells spelling) :
    draft.turnOn switch = .ok (draft.having [.on switch spelling flag spells]) := by
  cases switch with
  | help => exact absurd flag (by decide)
  | version => exact absurd flag (by decide)
  | indentSize => exact absurd flag (by decide)
  | _ => simp [Draft.turnOn, Draft.having, Invocation.having, lastSize?, Setting.turnsOn,
      Setting.size?]

theorem setIndent_size (draft : Draft) (setting : Setting) {size : Size}
    (sized : setting.size? = some size.count) :
    draft.setIndent size.text = .ok (draft.having [setting]) := by
  have apart : size.text ≠ separator := by
    intro same
    have accepted := size.accepted
    rw [same] at accepted
    cases accepted
  rw [Draft.setIndent, indentOf, if_neg apart, size.accepted]
  cases setting with
  | on => cases sized
  | sizeBehind => simp [Draft.having, Invocation.having, lastSize?, Setting.turnsOn, sized]
  | sizeAttached => simp [Draft.having, Invocation.having, lastSize?, Setting.turnsOn, sized]

/-- What settings are read as, and that taking it sets them. -/
structure Stands (settings : List Setting) (list : List Item) : Prop where
  read : ∀ {rest behind}, items rest = .ok behind →
    items (line settings ++ rest) = .ok (list ++ behind)
  taken : ∀ behind draft, take (list ++ behind) draft = take behind (draft.having settings)
  opens : list.head? ≠ some .separator

theorem stands_setting (setting : Setting) : ∃ list, Stands [setting] list := by
  cases setting with
  | on switch spelling flag spells =>
      obtain ⟨name, reads⟩ := read_spells spells
      have noValue : switch ≠ .indentSize := by
        rintro rfl
        exact absurd flag (by decide)
      refine ⟨[.known switch name none], ?_, ?_, by simp⟩
      · intro rest behind others
        exact items_cons (ne_separator_of_read reads) reads others
      · intro behind draft
        exact take_switch noValue (turnOn_flag draft flag spells)
  | sizeBehind spelling size fits plain =>
      obtain ⟨name, reads⟩ := read_spells (.inr fits)
      refine ⟨[.known .indentSize name none, .operand size.text], ?_, ?_, by simp⟩
      · intro rest behind others
        exact items_cons (ne_separator_of_read reads) reads (items_plain plain others)
      · intro behind draft
        change take (.known .indentSize name none :: .operand size.text :: behind) draft = _
        rw [take, setIndent_size draft (.sizeBehind spelling size fits plain) rfl]
  | sizeAttached spelling size fits =>
      obtain ⟨name, _, fitting⟩ := Switch.Fits.of_fits fits
      have reads := read_withValue fitting (some size.text)
      refine ⟨[.known .indentSize name (some size.text)], ?_, ?_, by simp⟩
      · intro rest behind others
        exact items_cons (ne_separator_of_read reads) reads others
      · intro behind draft
        change take (.known .indentSize name (some size.text) :: behind) draft = _
        have takes : Switch.indentSize.takesValue = true := rfl
        rw [take, takeAttached, if_pos takes,
          setIndent_size draft (.sizeAttached spelling size fits) rfl]

theorem stands (settings : List Setting) : ∃ list, Stands settings list := by
  induction settings with
  | nil =>
      refine ⟨[], fun others => others, ?_, by simp⟩
      intro behind draft
      rw [Draft.having, Invocation.having_nil]
      rfl
  | cons setting rest ih =>
      obtain ⟨first, one⟩ := stands_setting setting
      obtain ⟨later, others⟩ := ih
      refine ⟨first ++ later, ?_, ?_, ?_⟩
      · intro arguments behind listed
        have read := one.read (others.read listed)
        simpa [line, List.append_assoc] using read
      · intro behind draft
        rw [List.append_assoc, one.taken, others.taken]
        simp [Draft.having, ← Invocation.having_append]
      · rw [List.head?_append]
        cases opened : first.head? with
        | none =>
            rw [Option.none_or]
            exact others.opens
        | some item =>
            rw [Option.some_or, ← opened]
            exact one.opens

/-! ## Whole command lines -/

variable {settings : List Setting} {operand : Option Text} {arguments : List Text}

/-- A command line in which settings are arranged gives them, and the operand as the file. -/
theorem parse_arranged (arranged : Arranged settings operand arguments) :
    parse arguments =
      .ok (Invocation.having { input := operand.map Path.ofText } settings) := by
  cases arranged with
  | bare =>
      obtain ⟨list, standing⟩ := stands settings
      have listed := standing.read (rfl : items [] = .ok [])
      have taken := standing.taken [] {}
      rw [List.append_nil] at listed taken
      rw [parse, listed]
      simp only [List.append_nil, taken]
      rfl
  -- What stands behind the operand opens with no separator, which would be dropped there.
  | @amid front behind operand plain =>
      obtain ⟨first, before⟩ := stands front
      obtain ⟨later, others⟩ := stands behind
      have last := others.read (rfl : items [] = .ok [])
      rw [List.append_nil, List.append_nil] at last
      have vacant : (Draft.having {} front).operandTaken = false := rfl
      have taken := others.taken [] ((Draft.having {} front).takeOperand operand)
      rw [List.append_nil] at taken
      rw [parse, before.read (items_plain plain last)]
      simp only [before.taken, take_operand others.opens vacant, taken]
      rw [Invocation.having_append]
      rfl
  | closed settings operand =>
      obtain ⟨list, standing⟩ := stands settings
      have last : items [separator, operand] = .ok [.separator, .operand operand] := rfl
      rw [parse, standing.read last]
      simp only [standing.taken]
      rfl

theorem isOn_having (input : Option Path) (settings : List Setting) {switch : Switch}
    (flag : switch ∈ Switch.flags) :
    (Invocation.having { input } settings).isOn switch =
      settings.any (Setting.turnsOn switch) := by
  cases switch with
  | help => exact absurd flag (by decide)
  | version => exact absurd flag (by decide)
  | indentSize => exact absurd flag (by decide)
  | _ => exact Bool.false_or _

theorem indentSize_having (input : Option Path) (settings : List Setting) :
    (Invocation.having { input } settings).indentSize =
      .count ((lastSize? settings).getD 4) := by
  change (lastSize? settings).elim (.count 4) IndentSize.count = _
  cases lastSize? settings <;> rfl

/-- However settings are arranged and spelled, each switch is on exactly if it is turned on
somewhere, the last size counts, and the operand is the file. In another order the same settings
give the same, but for the size that comes last. -/
theorem arrangement_is_free (arranged : Arranged settings operand arguments) :
    ∃ invocation, parse arguments = .ok invocation ∧
      (∀ switch ∈ Switch.flags,
        (invocation.isOn switch = true ↔
          ∃ setting ∈ settings, setting.turnsOn switch = true)) ∧
      invocation.indentSize = .count ((lastSize? settings).getD 4) ∧
      invocation.input = operand.map Path.ofText ∧
      ∀ {other : List Setting} {rearranged : List Text}, other.Perm settings →
        Arranged other operand rearranged →
        parse rearranged =
          .ok { invocation with indentSize := .count ((lastSize? other).getD 4) } := by
  refine ⟨_, parse_arranged arranged, ?_, indentSize_having _ settings, rfl, ?_⟩
  · intro switch flag
    rw [isOn_having _ settings flag, List.any_eq_true]
  · intro other rearranged perm again
    rw [parse_arranged again, ← indentSize_having (operand.map Path.ofText) other,
      Invocation.having_perm _ perm]

/-- A switch in short, one cut short, and two sizes around an operand, and then rearranged behind a
separator's operand. -/
theorem arrangement_is_free_around_operand :
    ∃ invocation,
      parse ["-c", "--ind", "2", "a.gd", "--use", "--indent-size= 8"] = .ok invocation ∧
        invocation.indentSize = .count 8 ∧
        parse ["--indent-size= 8", "--use", "--ind", "2", "-c", "--", "a.gd"] =
          .ok { invocation with indentSize := .count 2 } := by
  let short : Setting := .on .check "-c" (by decide) (.inl (by decide))
  let brief : Setting := .on .useSpaces "--use" (by decide) (.inr (by decide +kernel))
  let two : Size := ⟨"2", 2, rfl⟩
  let eight : Size := ⟨" 8", 8, rfl⟩
  let behind : Setting := .sizeBehind "--ind" two (by decide +kernel) (by decide)
  let attached : Setting := .sizeAttached "--indent-size" eight (by decide +kernel)
  have plain : Text.startsWith "a.gd" [hyphen] = false := by decide
  obtain ⟨invocation, parsed, _, size, _, rearranged⟩ :=
    arrangement_is_free (.amid [short, behind] [brief, attached] plain)
  have perm : [attached, brief, behind, short].Perm ([short, behind] ++ [brief, attached]) :=
    List.reverse_perm ([short, behind] ++ [brief, attached])
  exact ⟨invocation, parsed, size,
    rearranged perm (.closed [attached, brief, behind, short] "a.gd")⟩

end CommandLine

end ScriptFormat
