import ScriptFormat.Proofs.Text.Pieces
import ScriptFormat.Text.Tabs

/-!
# Texts with tabs filled

A text without tabs is left as it is by filling tabs, and there are none in what comes of it.
-/

namespace ScriptFormat.Text

variable {text : Text} {point : CodePoint}

theorem mem_fillParts {column : Nat} {parts : List Text}
    (member : point ∈ fillParts column parts) : point = 32 ∨ ∃ part ∈ parts, point ∈ part := by
  fun_induction fillParts column parts with
  | case1 => cases member
  | case2 column last => exact .inr ⟨last, List.mem_singleton.mpr rfl, member⟩
  | case3 column part next rest reached missing ih =>
      rcases List.mem_append.mp member with front | behind
      · rcases List.mem_append.mp front with inside | filled
        · exact .inr ⟨part, List.mem_cons_self, inside⟩
        · exact .inl (List.eq_of_mem_replicate filled)
      · rcases ih behind with filled | ⟨part, later, inside⟩
        · exact .inl filled
        · exact .inr ⟨part, List.mem_cons_of_mem _ later, inside⟩

/-- No tab is left. -/
theorem tab_notMem_expandTabs (text : Text) : tab ∉ expandTabs text := by
  intro member
  obtain ⟨_, filled, inside⟩ := (mem_join (by decide) _).mp member
  obtain ⟨line, _, rfl⟩ := List.mem_map.mp filled
  rcases mem_fillParts inside with blank | ⟨part, piece, there⟩
  · exact absurd blank (by decide)
  · exact absurd (not_picked piece tab there) (by decide)

theorem expandTabs_of_notMem (clear : tab ∉ text) : expandTabs text = text := by
  have same : ∀ line ∈ lines text, fillParts 0 (splitOn (· == tab) line) = line := by
    intro line piece
    have none : ∀ point ∈ line, (point == tab) = false := by
      intro point member
      rw [beq_eq_false_iff_ne]
      rintro rfl
      exact clear (mem_of_mem_splitOn piece member)
    rw [splitOn_of_clear none]
    rfl
  rw [expandTabs, List.map_congr_left same, List.map_id', join_lines]

end ScriptFormat.Text
