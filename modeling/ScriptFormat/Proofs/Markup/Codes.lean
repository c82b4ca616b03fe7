import ScriptFormat.Markup.Emoji

/-!
# Emoji codes in a text

A text of which no code names an emoji stays as it is. One that has such a code loses the
two colons of it, and no emoji gives a colon back.
-/

namespace ScriptFormat.Markup

/-- The codes of a text from left to right, none of which begins inside another, with `skip` code
points of a code to pass over. -/
def codesFrom : Nat → Text → List Text
  | _, [] => []
  | skip + 1, _ :: rest => codesFrom skip rest
  | 0, point :: rest =>
      if point = colon then
        match codeName? rest with
        | some code => code :: codesFrom (code.length + 1) rest
        | none => codesFrom 0 rest
      else codesFrom 0 rest

def codes (text : Text) : List Text := codesFrom 0 text

variable {emojis : EmojiTable}

theorem eq_of_codeName? {rest code : Text} (found : codeName? rest = some code) :
    ∃ behind, rest = code ++ colon :: behind := by
  induction rest generalizing code with
  | nil => cases found
  | cons point rest ih =>
      rw [codeName?] at found
      split at found
      · next ends =>
          cases found
          exact ⟨rest, by rw [ends]; rfl⟩
      · split at found
        · cases found
        · obtain ⟨inner, later, rfl⟩ := Option.map_eq_some_iff.mp found
          obtain ⟨behind, shape⟩ := ih later
          exact ⟨behind, by rw [shape]; rfl⟩

/-- A code stands between its two colons. -/
theorem colon_code {rest code : Text} (found : codeName? rest = some code) :
    colon :: rest = ([colon] ++ code ++ [colon]) ++ rest.drop (code.length + 1) := by
  obtain ⟨behind, rfl⟩ := eq_of_codeName? found
  simp

theorem isPicture_of_emoji? {code emoji : Text} (named : emoji? emojis code = some emoji) :
    ∀ point ∈ emoji, isPicture point = true := by
  have variant (name : Text) : ∀ point ∈ (splitVariant name).2, isPicture point = true := by
    intro point member
    unfold splitVariant at member
    split at member
    · next ending shown found =>
        have known : ∀ entry ∈ variants, isPicture entry.2 = true := by decide
        rw [List.mem_singleton.mp member]
        exact known _ (List.mem_of_find?_eq_some found)
    · cases member
  obtain ⟨picture, found, shape⟩ : ∃ picture,
      emojis.entries.lookup (splitVariant code).1.lower = some picture ∧
        picture ++ (splitVariant code).2 = emoji := Option.map_eq_some_iff.mp named
  obtain ⟨front, behind, entries, _⟩ := List.lookup_eq_some_iff.mp found
  have entry : ((splitVariant code).1.lower, picture) ∈ emojis.entries := by simp [entries]
  intro point member
  rw [← shape, List.mem_append] at member
  rcases member with inside | behind
  · exact emojis.pictures _ entry point inside
  · exact variant code point behind

theorem count_colon_picture {picture : Text}
    (pictured : ∀ point ∈ picture, isPicture point = true) :
    picture.count colon = 0 := by
  rw [List.count_eq_zero]
  intro member
  exact absurd (pictured colon member) (by decide)

/-- Codes that name no emoji stay. -/
theorem replaceCodesFrom_eq {skip : Nat} {text : Text}
    (unnamed : ∀ code ∈ codesFrom skip text, emoji? emojis code = none) :
    replaceCodesFrom emojis skip text = text.drop skip := by
  fun_induction replaceCodesFrom emojis skip text with
  | case1 => simp
  | case2 skip point rest ih => exact ih unnamed
  | case3 rest code found ih =>
      rw [codesFrom, if_pos rfl, found] at unnamed
      obtain ⟨first, others⟩ := List.forall_mem_cons.mp unnamed
      rw [first, ih others, Option.getD_none]
      exact (colon_code found).symm
  | case4 rest found ih =>
      rw [codesFrom, if_pos rfl, found] at unnamed
      exact congrArg (colon :: ·) (ih unnamed)
  | case5 point rest apart ih =>
      rw [codesFrom, if_neg apart] at unnamed
      exact congrArg (point :: ·) (ih unnamed)

def namedCodesFrom (emojis : EmojiTable) (skip : Nat) (text : Text) : List Text :=
  (codesFrom skip text).filter fun code => (emoji? emojis code).isSome

/-- A code that names an emoji costs a colon at least. -/
theorem count_replaceCodesFrom_le (emojis : EmojiTable) (skip : Nat) (text : Text) :
    (replaceCodesFrom emojis skip text).count colon + (namedCodesFrom emojis skip text).length ≤
      (text.drop skip).count colon := by
  unfold namedCodesFrom
  fun_induction replaceCodesFrom emojis skip text with
  | case1 => simp [codesFrom]
  | case2 skip point rest ih => exact ih
  | case3 rest code found ih =>
      rw [codesFrom, if_pos rfl, found, List.drop_zero, colon_code found, List.count_append,
        List.count_append, List.filter_cons]
      cases named : emoji? emojis code with
      | none =>
          rw [Nat.add_assoc]
          exact Nat.add_le_add_left ih _
      | some emoji =>
          have none : emoji.count colon = 0 := count_colon_picture (isPicture_of_emoji? named)
          have two : 2 ≤ ([colon] ++ code ++ [colon]).count colon := by simp
          simp only [Option.getD_some, none, Option.isSome_some, if_true, List.length_cons]
          omega
  | case4 rest found ih =>
      rw [codesFrom, if_pos rfl, found, List.drop_zero, List.count_cons_self, List.count_cons_self]
      rw [List.drop_zero] at ih
      dsimp only
      omega
  | case5 point rest apart ih =>
      rw [codesFrom, if_neg apart, List.drop_zero, List.count_cons_of_ne apart,
        List.count_cons_of_ne apart]
      exact ih

theorem mem_replaceCodesFrom {skip : Nat} {text : Text} {point : CodePoint}
    (member : point ∈ replaceCodesFrom emojis skip text) :
    point ∈ text ∨ isPicture point = true := by
  fun_induction replaceCodesFrom emojis skip text with
  | case1 => cases member
  | case2 skip first rest ih => exact (ih member).imp_left (List.mem_cons_of_mem _)
  | case3 rest code found ih =>
      rcases List.mem_append.mp member with shown | behind
      · cases named : emoji? emojis code with
        | none =>
            rw [named] at shown
            rw [colon_code found]
            exact .inl (List.mem_append_left _ shown)
        | some emoji =>
            rw [named] at shown
            exact .inr (isPicture_of_emoji? named point shown)
      · exact (ih behind).imp_left (List.mem_cons_of_mem _)
  | case4 rest found ih =>
      rcases List.mem_cons.mp member with rfl | behind
      · exact .inl List.mem_cons_self
      · exact (ih behind).imp_left (List.mem_cons_of_mem _)
  | case5 first rest apart ih =>
      rcases List.mem_cons.mp member with rfl | behind
      · exact .inl List.mem_cons_self
      · exact (ih behind).imp_left (List.mem_cons_of_mem _)

def IsCodeless (emojis : EmojiTable) (text : Text) : Prop :=
  ∀ code ∈ codes text, emoji? emojis code = none

theorem IsCodeless.replaceCodes_eq {text : Text} (codeless : IsCodeless emojis text) :
    replaceCodes emojis text = text := replaceCodesFrom_eq codeless

theorem count_replaceCodes_le (emojis : EmojiTable) (text : Text) :
    (replaceCodes emojis text).count colon ≤ text.count colon :=
  Nat.le_of_add_right_le (count_replaceCodesFrom_le emojis 0 text)

theorem isCodeless_of_count {text : Text}
    (kept : (replaceCodes emojis text).count colon = text.count colon) :
    IsCodeless emojis text := by
  have lost := count_replaceCodesFrom_le emojis 0 text
  change (replaceCodes emojis text).count colon + _ ≤ text.count colon at lost
  have none : namedCodesFrom emojis 0 text = [] := List.length_eq_zero_iff.mp (by omega)
  intro code member
  have unnamed := List.filter_eq_nil_iff.mp none code member
  rwa [Option.not_isSome_iff_eq_none] at unnamed

/-- Without a colon there is no code. -/
theorem isCodeless_of_notMem {text : Text} (clear : colon ∉ text) : IsCodeless emojis text := by
  have none : text.count colon = 0 := List.count_eq_zero.mpr clear
  have fewer := count_replaceCodes_le emojis text
  exact isCodeless_of_count (by omega)

end ScriptFormat.Markup
