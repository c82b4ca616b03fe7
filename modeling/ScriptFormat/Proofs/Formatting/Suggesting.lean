import Mathlib.Logic.Function.Iterate
import ScriptFormat.Advice
import ScriptFormat.Proofs.Text.Occurrences

/-!
# Advice is given once

A hint stays as it is, and the advice is put behind it unless it is in there already. The marker
of the advice then stands behind the hint and nowhere else, whatever the hint ends with.
-/

namespace ScriptFormat.Advice

open Text

theorem suggestUpgrade_advised {hint : Text} (advised : marker <:+: hint) :
    suggestUpgrade hint = hint :=
  if_pos (includes_iff.mpr advised)

theorem suggestUpgrade_fresh {hint : Text} (fresh : ¬ marker <:+: hint) :
    suggestUpgrade hint = hint ++ 10 :: (marker ++ 10 :: command) := by
  rw [suggestUpgrade, if_neg (mt includes_iff.mp fresh)]
  change hint ++ [10] ++ (marker ++ [10] ++ command) = _
  simp only [List.append_assoc, List.singleton_append]

theorem marker_infix_suggestUpgrade (hint : Text) : marker <:+: suggestUpgrade hint := by
  by_cases advised : marker <:+: hint
  · rw [suggestUpgrade_advised advised]
    exact advised
  · rw [suggestUpgrade_fresh advised]
    exact ⟨hint ++ [10], 10 :: command, by simp⟩

theorem prefix_suggestUpgrade (hint : Text) : hint <+: suggestUpgrade hint := by
  by_cases advised : marker <:+: hint
  · exact ⟨[], by rw [suggestUpgrade_advised advised, List.append_nil]⟩
  · rw [suggestUpgrade_fresh advised]
    exact List.prefix_append _ _

/-- The lines of the advice are apart, and the marker is in the first one only. -/
theorem standsAt_suggestUpgrade {hint : Text} (fresh : ¬ marker <:+: hint) (position : Nat) :
    StandsAt marker (suggestUpgrade hint) position ↔ position = hint.length + 1 := by
  have clear : 10 ∉ marker := by decide +kernel
  have nonempty : marker ≠ [] := by decide +kernel
  have apart : ¬ marker <:+: command := by
    rw [← includes_iff]
    decide +kernel
  have first (later : Nat) : StandsAt marker (marker ++ 10 :: command) later ↔ later = 0 := by
    rw [standsAt_append_mark clear nonempty, standsAt_self nonempty, or_iff_left]
    rintro ⟨_, _, stands⟩
    exact apart stands.infix_of
  rw [suggestUpgrade_fresh fresh, standsAt_append_mark clear nonempty,
    or_iff_right (mt StandsAt.infix_of fresh)]
  simp only [first, exists_eq_right, Nat.add_zero]

/-- Advice is put behind a hint exactly if it is not in there already, and any number of times is
as once. Where it is put there, its marker stands at that one position. -/
theorem suggestUpgrade_once (hint : Text) :
    hint <+: suggestUpgrade hint ∧
      marker <:+: suggestUpgrade hint ∧
      (∀ times ≥ 1, suggestUpgrade^[times] hint = suggestUpgrade hint) ∧
      (suggestUpgrade hint = hint ↔ marker <:+: hint) ∧
      (¬ marker <:+: hint →
        ∀ position, StandsAt marker (suggestUpgrade hint) position ↔
          position = hint.length + 1) := by
  have advised := marker_infix_suggestUpgrade hint
  refine ⟨prefix_suggestUpgrade hint, advised, ?_, ?_, standsAt_suggestUpgrade⟩
  · rintro (_ | times) positive
    · cases positive
    · rw [Function.iterate_succ_apply]
      exact Function.iterate_fixed (suggestUpgrade_advised advised) times
  · constructor
    · intro same
      rw [← same]
      exact advised
    · exact suggestUpgrade_advised

/-- A hint that breaks off within the marker is followed by the whole of it. -/
theorem suggestUpgrade_once_behind_fragment :
    suggestUpgrade^[3] "Also try updating gdtoolkit" =
        suggestUpgrade "Also try updating gdtoolkit" ∧
      ¬ marker <:+: "Also try updating gdtoolkit" ∧
      ∀ position, StandsAt marker (suggestUpgrade "Also try updating gdtoolkit") position ↔
        position = 28 := by
  have fresh : ¬ marker <:+: "Also try updating gdtoolkit" := by
    rw [← includes_iff]
    decide +kernel
  obtain ⟨_, _, repeated, _, positions⟩ := suggestUpgrade_once "Also try updating gdtoolkit"
  exact ⟨repeated 3 (by decide), fresh, positions fresh⟩

end ScriptFormat.Advice
