import ScriptFormat.Text.Basic

/-!
# Where a text stands in another

A part stands at each position behind which the text goes on with it. Around a mark that is not
in the part, it stands on one side or on the other, and never across.
-/

namespace ScriptFormat.Text

theorem includes_iff {part text : Text} : includes part text = true ↔ part <:+: text := by
  induction text with
  | nil => rw [includes, List.isEmpty_iff, List.infix_nil]
  | cons point rest ih =>
      rw [includes, Bool.or_eq_true, List.isPrefixOf_iff_prefix, ih, List.infix_cons_iff]

/-- Behind so many code points the text goes on with the part. -/
def StandsAt (part text : Text) (position : Nat) : Prop := part <+: text.drop position

section Positions

variable {part text before after : Text} {mark : CodePoint} {position : Nat}

theorem StandsAt.infix_of (stands : StandsAt part text position) : part <:+: text :=
  (List.IsPrefix.isInfix stands).trans (List.drop_suffix position text).isInfix

/-- A text has room for itself only at its beginning. -/
theorem standsAt_self (nonempty : part ≠ []) : StandsAt part part position ↔ position = 0 := by
  constructor
  · intro stands
    have room : part.length ≤ (part.drop position).length := List.IsPrefix.length_le stands
    have length := List.length_pos_iff.mpr nonempty
    rw [List.length_drop] at room
    omega
  · rintro rfl
    exact List.prefix_rfl

/-- A part that reached a mark would have it inside. -/
theorem prefix_append_mark (clear : mark ∉ part) :
    part <+: before ++ mark :: after ↔ part <+: before := by
  constructor
  · intro begins
    rcases Nat.le_total part.length before.length with fits | reaches
    · exact List.prefix_of_prefix_length_le begins (List.prefix_append _ _) fits
    · obtain ⟨rest, rfl⟩ := List.prefix_of_prefix_length_le (List.prefix_append _ _) begins reaches
      rw [List.prefix_append_right_inj, List.prefix_cons_iff] at begins
      rcases begins with rfl | ⟨_, rfl, _⟩
      · exact ⟨[], by rw [List.append_nil, List.append_nil]⟩
      · exact absurd (List.mem_append_right _ List.mem_cons_self) clear
  · intro begins
    exact begins.trans (List.prefix_append _ _)

theorem standsAt_append_mark (clear : mark ∉ part) (nonempty : part ≠ []) :
    StandsAt part (before ++ mark :: after) position ↔
      StandsAt part before position ∨
        ∃ later, position = before.length + 1 + later ∧ StandsAt part after later := by
  unfold StandsAt
  rcases Nat.lt_or_ge before.length position with past | within
  · obtain ⟨later, rfl⟩ := Nat.exists_eq_add_of_lt past
    have shape : before.length + later + 1 = before.length + (later + 1) := Nat.add_assoc ..
    rw [shape, List.drop_append, List.drop_eq_nil_of_le (Nat.le_add_right ..), List.prefix_nil,
      or_iff_right nonempty, Nat.add_sub_cancel_left, List.nil_append, List.drop_succ_cons]
    constructor
    · intro begins
      exact ⟨later, by omega, begins⟩
    · rintro ⟨other, same, begins⟩
      obtain rfl : later = other := by omega
      exact begins
  · rw [List.drop_append_of_le_length within, prefix_append_mark clear, or_iff_left]
    rintro ⟨later, rfl, _⟩
    omega

end Positions

end ScriptFormat.Text
