import ScriptFormat.Proofs.Program.Acquisition
import ScriptFormat.Proofs.Text.Numerals

/-!
# The size as it is written

A size is the number that its text spells, and every other text is refused with a message. A run
hands on the size that the command line spells last, or four where there is none. Only a value
that is the separator is dropped, and then there is no number to hand on.
-/

namespace ScriptFormat

namespace CommandLine

open Numeral

structure SizeIsRead (text : Text) : Prop where
  settled : (∃ size : Int, 0 ≤ size ∧ readSize text = .ok size) ∨
    ∃ message, readSize text = .error (.ofArgument message)
  accepted : ∀ {sign : Sign} {digits : List Nat}, Spells text sign digits →
    digits.length ≤ 4300 → (sign = .minus → number digits = 0) →
      readSize text = .ok (number digits)
  negative : ∀ {digits : List Nat}, Spells text .minus digits → digits.length ≤ 4300 →
    number digits ≠ 0 → readSize text = .error
      (.ofArgument ("must be 0 or greater, got -" ++ Text.ofNat (number digits)))
  tooLong : ∀ {sign : Sign} {digits : List Nat}, Spells text sign digits →
    4300 < digits.length →
      readSize text = .error (.ofArgument ("invalid integer: " ++ Text.quoted text))
  malformed : Malformed text →
    readSize text = .error (.ofArgument ("invalid integer: " ++ Text.quoted text))
  unspelled : (¬ ∃ sign digits, Spells text sign digits) →
    readSize text = .error (.ofArgument ("invalid integer: " ++ Text.quoted text))

section Reading

variable {text : Text} {size : Int} {sign : Sign} {digits : List Nat}

theorem readSize_of_none (unread : integer? text = none) :
    readSize text = .error (.ofArgument ("invalid integer: " ++ Text.quoted text)) := by
  rw [readSize, unread]

/-- A number that is refused can always be written out. -/
theorem readSize_of_some (read : integer? text = some size) :
    readSize text = if size < 0 then
      .error (.ofArgument ("must be 0 or greater, got " ++ Text.ofInt size)) else .ok size := by
  rw [readSize, read]
  simp only [written?_of_integer? read]

/-- A size is read in a command line as it is by itself. -/
theorem readSize_eq (text : Text) : readSize text = (indentSize text).mapError .ofArgument := by
  unfold indentSize
  cases read : integer? text with
  | none => exact readSize_of_none read
  | some size =>
      rw [readSize_of_some read]
      dsimp only
      split <;> rfl

theorem apply_eq_natural (sign : Sign) {natural : Nat} (unsigned : sign = .minus → natural = 0) :
    sign.apply natural = natural := by
  unfold Sign.apply
  split
  · next minus =>
      rw [unsigned minus]
      rfl
  · rfl

/-- The sizes that are accepted are the numbers that are spelled without a sign that changes
them. -/
theorem indentSize_eq_ok_iff : indentSize text = .ok size ↔
    ∃ sign digits, Spells text sign digits ∧ digits.length ≤ maxDigits ∧
      (sign = .minus → number digits = 0) ∧ size = number digits := by
  unfold indentSize
  constructor
  · intro accepted
    cases read : integer? text with
    | none => rw [read] at accepted; cases accepted
    | some integer =>
        rw [read] at accepted
        dsimp only at accepted
        split at accepted
        · cases accepted
        · next natural =>
            cases accepted
            obtain ⟨sign, digits, spells, room, rfl⟩ := integer?_eq_some_iff.mp read
            have unsigned : sign = .minus → number digits = 0 := by
              rintro rfl
              change ¬ -(number digits : Int) < 0 at natural
              omega
            exact ⟨sign, digits, spells, room, unsigned, apply_eq_natural sign unsigned⟩
  · rintro ⟨sign, digits, spells, room, unsigned, rfl⟩
    have read := integer?_eq_some_iff.mpr ⟨sign, digits, spells, room, rfl⟩
    rw [apply_eq_natural sign unsigned] at read
    rw [read]
    exact if_neg (Int.not_lt.mpr (Int.natCast_nonneg _))

theorem ofInt_neg {natural : Nat} (positive : natural ≠ 0) :
    Text.ofInt (-natural) = "-" ++ Text.ofNat natural := by
  obtain ⟨less, rfl⟩ := Nat.exists_eq_succ_of_ne_zero positive
  rfl

theorem sizeIsRead (text : Text) : SizeIsRead text where
  settled := by
    cases read : integer? text with
    | none => exact .inr ⟨_, readSize_of_none read⟩
    | some size =>
        rw [readSize_of_some read]
        split
        · exact .inr ⟨_, rfl⟩
        · next natural => exact .inl ⟨size, Int.not_lt.mp natural, rfl⟩
  accepted := by
    intro sign digits spells room unsigned
    rw [readSize_eq, indentSize_eq_ok_iff.mpr ⟨sign, digits, spells, room, unsigned, rfl⟩]
    rfl
  negative := by
    intro digits spells room positive
    have read := integer?_eq_some_iff.mpr ⟨.minus, digits, spells, room, rfl⟩
    have below : Sign.minus.apply (number digits) < 0 := by
      change -(number digits : Int) < 0
      omega
    have sentence : ("must be 0 or greater, got -" : Text) =
        "must be 0 or greater, got " ++ "-" := by
      decide +kernel
    rw [readSize_of_some read, if_pos below, sentence, List.append_assoc, ← ofInt_neg positive]
    rfl
  tooLong := by
    intro sign digits spells long
    exact readSize_of_none ((integer?_of_spells spells).trans (if_neg (Nat.not_le.mpr long)))
  malformed := by
    intro malformed
    refine readSize_of_none (integer?_of_not_spells ?_)
    rintro ⟨sign, digits, spells⟩
    exact not_spells_of_malformed malformed spells
  unspelled unspelled := readSize_of_none (integer?_of_not_spells unspelled)

end Reading

/-- The size that is handed on for a command line: what its last value spells, or four without one.
A separator is no value. -/
inductive HandsOn (arguments : List Text) : IndentSize → Prop where
  | unset (unset : values .indentSize arguments = []) : HandsOn arguments (.count 4)
  | spelled {value : Text} {sign : Sign} {digits : List Nat}
      (last : (values .indentSize arguments).getLast? = some value)
      (spells : Spells value sign digits) (room : digits.length ≤ 4300)
      (natural : sign = .minus → number digits = 0) :
      HandsOn arguments (.count (number digits))
  | dropped (last : (values .indentSize arguments).getLast? = some separator) :
      HandsOn arguments .empty

theorem handsOn_of_asksFor {arguments : List Text} {config : FormatterConfig}
    (asks : AsksFor arguments config) : HandsOn arguments config.indentSize := by
  have asked := asks.indentSize
  cases last : (values .indentSize arguments).getLast? with
  | none =>
      rw [last] at asked
      rw [asked]
      exact .unset (List.getLast?_eq_none_iff.mp last)
  | some value =>
      rw [last] at asked
      dsimp only at asked
      generalize config.indentSize = given at asked
      unfold indentOf at asked
      split at asked
      · next same =>
          cases asked
          exact .dropped (same ▸ last)
      · cases accepted : indentSize value with
        | error message => rw [accepted] at asked; cases asked
        | ok size =>
            rw [accepted] at asked
            cases asked
            obtain ⟨sign, digits, spells, room, natural, rfl⟩ := indentSize_eq_ok_iff.mp accepted
            exact .spelled last spells room natural

end CommandLine

namespace Program

open CommandLine Numeral

/-- Whatever a run calls the engine with, the settings are those asked for. -/
theorem main_calls (engine : Engine) (arguments : List Text) (world : World) :
    ∃ calls, ((main engine arguments).after world).engineCalls = world.engineCalls ++ calls ∧
      ∀ call ∈ calls, AsksFor arguments call.config := by
  obtain ⟨result, after, course, yields⟩ := main_course engine arguments world
  obtain ⟨log, errors, left⟩ := yields.after_eq
  have uncalled (same : after.engineCalls = world.engineCalls) :
      ∃ calls, after.engineCalls = world.engineCalls ++ calls ∧
        ∀ call ∈ calls, AsksFor arguments call.config :=
    ⟨[], by rw [same, List.append_nil], fun _ member => nomatch member⟩
  have called {invocation : Invocation} {source : Text}
      (reads : Reads arguments world (.ok invocation))
      (calls : after.engineCalls = world.engineCalls ++ [⟨source, invocation.config⟩]) :
      ∃ calls, after.engineCalls = world.engineCalls ++ calls ∧
        ∀ call ∈ calls, AsksFor arguments call.config :=
    ⟨_, calls, List.forall_mem_singleton.mpr (asksFor_of_parse reads.parsed)⟩
  rw [left]
  cases course with
  | unprobed => exact uncalled rfl
  | helped => exact uncalled rfl
  | unhelped => exact uncalled rfl
  | shown => exact uncalled rfl
  | unshown => exact uncalled rfl
  | misused => exact uncalled rfl
  | unread => exact uncalled rfl
  | unformatted reads => exact called reads rfl
  | delivered reads _ _ delivers => exact called reads delivers.engineCalls

/-- Sizes are read as the numbers that they spell or refused, a number as it is written among them,
and every call of the engine is handed the size that the command line spells last. -/
theorem sizes_are_as_written (engine : Engine) (arguments : List Text) (world : World) :
    (∀ text, SizeIsRead text) ∧
      (∀ natural : Nat, (Text.ofNat natural).length ≤ 4300 →
        readSize (Text.ofNat natural) = .ok natural) ∧
      ∃ calls, ((main engine arguments).after world).engineCalls = world.engineCalls ++ calls ∧
        ∀ call ∈ calls, HandsOn arguments call.config.indentSize := by
  refine ⟨sizeIsRead, ?_, ?_⟩
  · intro natural short
    obtain ⟨digits, spells, same, length⟩ := spells_ofNat natural
    rw [← length] at short
    have read := (sizeIsRead _).accepted spells short (fun minus => nomatch minus)
    rwa [same] at read
  · obtain ⟨calls, made, asked⟩ := main_calls engine arguments world
    exact ⟨calls, made, fun call member => handsOn_of_asksFor (asked call member)⟩

/-- A later size between blanks, behind a sign and with an underscore, and texts that are
refused. -/
theorem sizes_are_as_written_at_desk :
    Spells "\t+0_8\n" .plus [0, 8] ∧ Spells "-12" .minus [1, 2] ∧ Malformed "1__2" ∧
      readSize "\t+0_8\n" = .ok 8 ∧
      readSize "-12" = .error (.ofArgument ("must be 0 or greater, got -" ++ "12")) ∧
      readSize "1__2" = .error (.ofArgument ("invalid integer: " ++ "'1__2'")) ∧
      HandsOn ["--ind", "2", "a.gd", "--indent-size=\t+0_8\n"] (.count 8) := by
  have figures : ∀ value < 10, (CodePoint.ofNat (48 + value)).digit? = some value := by
    decide +kernel
  have tab : ∀ point ∈ ("\t" : Text), isBlank point = true := by decide +kernel
  have newline : ∀ point ∈ ("\n" : Text), isBlank point = true := by decide +kernel
  have eight : Digits "0_8" [0, 8] :=
    .parted (figures 0 (by decide)) (.last (figures 8 (by decide)))
  have twelve : Digits "12" [1, 2] :=
    .next (figures 1 (by decide)) (.last (figures 2 (by decide)))
  have plus : Spells "\t+0_8\n" .plus [0, 8] := .surrounded .plus tab eight newline
  have nothing : ∀ point ∈ ([] : Text), isBlank point = true := List.forall_mem_nil _
  have minus : Spells "-12" .minus [1, 2] := .surrounded .minus nothing twelve nothing
  have doubled : Malformed "1__2" := .doubled "1" "2"
  obtain ⟨reads, _, calls, made, handed⟩ := sizes_are_as_written lineEnding
    ["--ind", "2", "a.gd", "--indent-size=\t+0_8\n"] desk
  have called : ((main lineEnding ["--ind", "2", "a.gd", "--indent-size=\t+0_8\n"]).after
      desk).engineCalls = [⟨"p", { indentSize := .count 8 }⟩] := by
    decide +kernel
  have only : calls = [⟨"p", { indentSize := .count 8 }⟩] := (called.symm.trans made).symm
  rw [only] at handed
  refine ⟨plus, minus, doubled, ?_, ?_, ?_, handed _ List.mem_cons_self⟩
  · exact (reads _).accepted plus (by decide) (fun other => nomatch other)
  · exact (reads _).negative minus (by decide) (by decide)
  · exact (reads _).malformed doubled

/-- The separator is refused as a size, but behind an equals sign it is dropped, and the engine is
handed no number. -/
theorem main_hands_on_no_size :
    readSize "--" = .error (.ofArgument ("invalid integer: " ++ "'--'")) ∧
      ∃ call, ((main lineEnding ["--indent-size=--"]).after desk).engineCalls = [call] ∧
        ∀ count, call.config.indentSize ≠ .count count := by
  refine ⟨rfl, ⟨"p", { indentSize := .empty }⟩, ?_, fun _ same => nomatch same⟩
  decide +kernel

end Program

end ScriptFormat
