import ScriptFormat.CommandLine.Switch

/-!
# Spellings of switches

Long spellings differ in their first letter, so one that is cut short behind it fits
one switch only. An argument reads as a switch that has long spellings only exactly if it
spells it so, whole or cut short, with the value behind an equals sign if there is one.
-/

namespace ScriptFormat

namespace Text

variable {mark : CodePoint} {text before after : Text}

theorem cutAt?_eq_none (absent : mark ∉ text) : cutAt? mark text = none := by
  induction text with
  | nil => rfl
  | cons point rest ih =>
      obtain ⟨apart, later⟩ := not_or.mp (mt List.mem_cons.mpr absent)
      rw [cutAt?, if_neg (Ne.symm apart), ih later]
      rfl

theorem cutAt?_append (absent : mark ∉ before) :
    cutAt? mark (before ++ mark :: after) = some (before, after) := by
  induction before with
  | nil => simp [cutAt?]
  | cons point rest ih =>
      obtain ⟨apart, later⟩ := not_or.mp (mt List.mem_cons.mpr absent)
      rw [List.cons_append, cutAt?, if_neg (Ne.symm apart), ih later]
      rfl

theorem eq_of_cutAt? (cut : cutAt? mark text = some (before, after)) :
    text = before ++ mark :: after := by
  induction text generalizing before with
  | nil => cases cut
  | cons point rest ih =>
      by_cases same : point = mark
      · rw [cutAt?, if_pos same] at cut
        cases cut
        rw [same]
        rfl
      · rw [cutAt?, if_neg same] at cut
        obtain ⟨⟨front, back⟩, found, shape⟩ := Option.map_eq_some_iff.mp cut
        cases shape
        rw [ih found]
        rfl

end Text

namespace CommandLine

def withValue (spelling : Text) : Option Text → Text
  | none => spelling
  | some value => spelling ++ equalsSign :: value

theorem splitValue_withValue {spelling : Text} (plain : equalsSign ∉ spelling)
    (value : Option Text) : splitValue (withValue spelling value) = (spelling, value) := by
  cases value with
  | none => rw [withValue, splitValue, Text.cutAt?_eq_none plain]
  | some value => rw [withValue, splitValue, Text.cutAt?_append plain]

theorem eq_withValue {argument beginning : Text} {value : Option Text}
    (split : splitValue argument = (beginning, value)) : argument = withValue beginning value := by
  unfold splitValue at split
  cases cut : Text.cutAt? equalsSign argument with
  | none => rw [cut] at split; cases split; rfl
  | some parts => rw [cut] at split; cases split; exact Text.eq_of_cutAt? cut

namespace Switch

/-- A long spelling, whole or cut short behind a letter. -/
def fits (switch : Switch) (argument : Text) : Bool :=
  decide (2 < argument.length) && switch.spellings.any fun spelling => spelling.startsWith argument

def IsLong (switch : Switch) : Prop := ∀ spelling ∈ switch.spellings, 2 < spelling.length

instance (switch : Switch) : Decidable switch.IsLong :=
  inferInstanceAs (Decidable (∀ spelling ∈ switch.spellings, 2 < spelling.length))

theorem mem_all (switch : Switch) : switch ∈ all := by cases switch <;> decide

theorem mem_spelled_iff {spelling : Text} {switch : Switch} :
    (spelling, switch) ∈ spelled ↔ spelling ∈ switch.spellings := by
  constructor
  · intro member
    obtain ⟨other, _, entry⟩ := List.mem_flatMap.mp member
    obtain ⟨_, mine, same⟩ := List.mem_map.mp entry
    cases same
    exact mine
  · intro mine
    exact List.mem_flatMap.mpr ⟨switch, mem_all switch, List.mem_map.mpr ⟨spelling, mine, rfl⟩⟩

theorem mem_spellings_of_named? {spelling : Text} {switch : Switch}
    (named : named? spelling = some switch) : spelling ∈ switch.spellings := by
  have found (entries : List (Text × Switch)) (looked : entries.lookup spelling = some switch) :
      (spelling, switch) ∈ entries := by
    induction entries with
    | nil => cases looked
    | cons entry rest ih =>
        obtain ⟨key, value⟩ := entry
        by_cases same : spelling = key
        · simp only [List.lookup_cons, same, beq_self_eq_true, Option.some.injEq] at looked
          simp [same, looked]
        · have apart : (spelling == key) = false := beq_eq_false_iff_ne.mpr same
          simp only [List.lookup_cons, apart] at looked
          exact List.mem_cons_of_mem _ (ih looked)
  exact mem_spelled_iff.mp (found spelled named)

theorem equalsSign_notMem {spelling : Text} {switch : Switch}
    (mine : spelling ∈ switch.spellings) : equalsSign ∉ spelling := by
  have plain : ∀ switch ∈ all, ∀ spelling ∈ switch.spellings, equalsSign ∉ spelling := by
    decide +kernel
  exact plain switch (mem_all switch) spelling mine

theorem fits_iff {switch : Switch} {argument : Text} :
    switch.fits argument = true ↔
      2 < argument.length ∧ ∃ spelling ∈ switch.spellings, argument <+: spelling := by
  simp [fits, Text.startsWith]

structure Fits (switch : Switch) (argument spelling : Text) : Prop where
  dashes : [hyphen, hyphen] <+: argument
  plain : equalsSign ∉ argument
  only : spelled.filter (fun entry => entry.1.startsWith argument) = [(spelling, switch)]
  named : named? argument = none ∨ argument = spelling ∧ named? argument = some switch

/-- There are few spellings cut short, so they are tried out one by one. -/
theorem Fits.of_fits {switch : Switch} {argument : Text} (fits : switch.fits argument = true) :
    ∃ spelling ∈ switch.spellings, switch.Fits argument spelling := by
  have tried : ∀ switch ∈ all, ∀ spelling ∈ switch.spellings,
      ∀ count ∈ List.range (spelling.length + 1), 2 < count →
        [hyphen, hyphen] <+: spelling.take count ∧ equalsSign ∉ spelling.take count ∧
          spelled.filter (fun entry => entry.1.startsWith (spelling.take count)) =
            [(spelling, switch)] ∧
          (named? (spelling.take count) = none ∨
            spelling.take count = spelling ∧ named? (spelling.take count) = some switch) := by
    decide +kernel
  obtain ⟨long, spelling, mine, shortened⟩ := fits_iff.mp fits
  have within : argument.length ∈ List.range (spelling.length + 1) :=
    List.mem_range.mpr (Nat.lt_succ_of_le shortened.length_le)
  obtain ⟨dashes, plain, only, named⟩ :=
    tried switch (mem_all switch) spelling mine _ within long
  rw [← List.prefix_iff_eq_take.mp shortened] at dashes plain only named
  exact ⟨spelling, mine, dashes, plain, only, named⟩

end Switch

/-! ## Reading spellings -/

theorem candidates_withValue {switch : Switch} {beginning spelling : Text}
    (fits : switch.Fits beginning spelling) (value : Option Text) :
    candidates (withValue beginning value) = [(spelling, switch, value)] := by
  have split := splitValue_withValue fits.plain value
  obtain ⟨letters, rfl⟩ := fits.dashes
  have shape : ∃ rest,
      withValue ([hyphen, hyphen] ++ letters) value = hyphen :: hyphen :: rest := by
    cases value <;> exact ⟨_, rfl⟩
  obtain ⟨rest, shape⟩ := shape
  rw [shape] at split ⊢
  rw [candidates, if_pos rfl, split]
  simp only [fits.only]
  rfl

theorem readShortened_withValue {switch : Switch} {beginning spelling : Text}
    (fits : switch.Fits beginning spelling) (value : Option Text) :
    readShortened (withValue beginning value) = .ok (.known switch spelling value) := by
  rw [readShortened, candidates_withValue fits]

theorem read_withValue {switch : Switch} {beginning spelling : Text}
    (fits : switch.Fits beginning spelling) (value : Option Text) :
    read (withValue beginning value) = .ok (.known switch spelling value) := by
  have shortened := readShortened_withValue fits value
  have split := splitValue_withValue fits.plain value
  have dashed : (withValue beginning value).startsWith [hyphen] = true ∧
      (withValue beginning value).length ≠ 1 := by
    obtain ⟨letters, rfl⟩ := fits.dashes
    cases value <;> simp [withValue, Text.startsWith]
  rw [read, dashed.1]
  simp only [Bool.not_true, Bool.false_eq_true, if_false, if_neg dashed.2, split]
  cases value with
  | none =>
      rcases fits.named with nothing | ⟨same, named⟩
      · simp only [withValue, nothing]
        exact shortened
      · simp only [withValue, named]
        rw [same]
  | some value =>
      have unnamed : Switch.named? (withValue beginning (some value)) = none := by
        cases named : Switch.named? (withValue beginning (some value)) with
        | none => rfl
        | some other =>
            have plain := Switch.equalsSign_notMem (Switch.mem_spellings_of_named? named)
            simp [withValue] at plain
      simp only [unnamed]
      rcases fits.named with nothing | ⟨same, named⟩
      · simp only [nothing]
        exact shortened
      · simp only [named]
        rw [same]

/-- Only a short spelling can be told by two letters. -/
theorem Switch.short_of_only {switch : Switch} {beginning spelling : Text}
    (mine : spelling ∈ switch.spellings) (started : beginning <+: spelling)
    (few : beginning.length ≤ 2)
    (only : Switch.spelled.filter (fun entry => entry.1.startsWith beginning) =
      [(spelling, switch)]) : spelling.length = 2 := by
  have tried : ∀ switch ∈ all, ∀ spelling ∈ switch.spellings, ∀ count ∈ List.range 3,
      spelled.filter (fun entry => entry.1.startsWith (spelling.take count)) =
        [(spelling, switch)] → spelling.length = 2 := by
    decide +kernel
  rw [List.prefix_iff_eq_take.mp started] at only
  exact tried switch (mem_all switch) spelling mine _
    (List.mem_range.mpr (Nat.lt_succ_of_le few)) only

theorem spells_of_candidates {argument spelling : Text} {switch : Switch} {value : Option Text}
    (only : candidates argument = [(spelling, switch, value)]) :
    spelling ∈ switch.spellings ∧
      (spelling.length = 2 ∨ ∃ beginning, argument = withValue beginning value ∧
        (beginning = spelling ∨ switch.fits beginning = true)) := by
  unfold candidates at only
  split at only
  · next first second rest =>
      split at only
      · cases split : splitValue (first :: second :: rest) with
        | mk beginning attached =>
            rw [split] at only
            obtain ⟨⟨found, owner⟩, filtered, shape⟩ := List.map_eq_singleton_iff.mp only
            cases shape
            have member := List.mem_filter.mp (filtered ▸ List.mem_singleton.mpr rfl)
            have mine := Switch.mem_spelled_iff.mp member.1
            have started : beginning <+: spelling := by
              simpa [Text.startsWith] using member.2
            refine ⟨mine, ?_⟩
            by_cases few : beginning.length ≤ 2
            · exact .inl (Switch.short_of_only mine started few filtered)
            · exact .inr ⟨beginning, eq_withValue split,
                .inr (Switch.fits_iff.mpr ⟨Nat.not_le.mp few, spelling, mine, started⟩)⟩
      · obtain ⟨⟨found, owner⟩, filtered, shape⟩ := List.map_eq_singleton_iff.mp only
        cases shape
        have member := List.mem_filter.mp (filtered ▸ List.mem_singleton.mpr rfl)
        have taken : spelling = [first, second] := by simpa using member.2
        exact ⟨Switch.mem_spelled_iff.mp member.1, .inl (by rw [taken]; rfl)⟩
  · cases only

/-- An argument that reads as a switch spells it, or is a short spelling with more behind it. -/
theorem spells_of_read {argument spelling : Text} {switch : Switch} {value : Option Text}
    (reads : read argument = .ok (.known switch spelling value)) :
    spelling ∈ switch.spellings ∧
      (spelling.length = 2 ∨ ∃ beginning, argument = withValue beginning value ∧
        (beginning = spelling ∨ switch.fits beginning = true)) := by
  have ofShortened (shortened : readShortened argument = .ok (.known switch spelling value)) :
      spelling ∈ switch.spellings ∧
        (spelling.length = 2 ∨ ∃ beginning, argument = withValue beginning value ∧
          (beginning = spelling ∨ switch.fits beginning = true)) := by
    unfold readShortened at shortened
    split at shortened
    · next only => cases shortened; exact spells_of_candidates only
    · split at shortened <;> cases shortened
    · cases shortened
  unfold read at reads
  split at reads
  · cases reads
  · split at reads
    · next named =>
        cases reads
        exact ⟨Switch.mem_spellings_of_named? named, .inr ⟨argument, rfl, .inl rfl⟩⟩
    · split at reads
      · cases reads
      · split at reads
        · next split =>
            split at reads
            · next named =>
                cases reads
                exact ⟨Switch.mem_spellings_of_named? named,
                  .inr ⟨_, eq_withValue split, .inl rfl⟩⟩
            · exact ofShortened reads
        · exact ofShortened reads

theorem Switch.fits_of_long {switch : Switch} (long : switch.IsLong) {spelling : Text}
    (mine : spelling ∈ switch.spellings) : switch.fits spelling = true :=
  fits_iff.mpr ⟨long spelling mine, spelling, mine, List.prefix_rfl⟩

/-- The ways to give a switch that has long spellings only. -/
theorem read_long_iff {switch : Switch} (long : switch.IsLong) {argument : Text}
    {value : Option Text} :
    (∃ spelling, read argument = .ok (.known switch spelling value)) ↔
      ∃ beginning, switch.fits beginning = true ∧ argument = withValue beginning value := by
  constructor
  · rintro ⟨spelling, reads⟩
    obtain ⟨mine, short | ⟨beginning, shape, same | fits⟩⟩ := spells_of_read reads
    · exact absurd (long spelling mine) (by rw [short]; decide)
    · exact ⟨beginning, same ▸ Switch.fits_of_long long mine, shape⟩
    · exact ⟨beginning, fits, shape⟩
  · rintro ⟨beginning, fits, rfl⟩
    obtain ⟨spelling, _, fitting⟩ := Switch.Fits.of_fits fits
    exact ⟨spelling, read_withValue fitting value⟩

end CommandLine

end ScriptFormat
