import ScriptFormat.Markup.Render
import ScriptFormat.Proofs.Markup.Codes

/-!
# What a stretch of text shows

Three things can happen to a stretch of text without tags: a backslash in front of an opening
bracket is lost, a code is replaced by its emoji, and a control character is dropped. Where
none of them happens the stretch shows as it is.
-/

namespace ScriptFormat.Markup

/-- A text, what is left of it without the backslashes that escape brackets, and their number. -/
inductive Unescapes : Text → Text → Nat → Prop where
  | done : Unescapes [] [] 0
  | escape {rest shown : Text} {escapes : Nat} (behind : Unescapes rest shown escapes) :
      Unescapes (backslash :: opening :: rest) (opening :: shown) (escapes + 1)
  | point {point : CodePoint} {rest shown : Text} {escapes : Nat}
      (apart : ¬bracketEscape <+: point :: rest) (behind : Unescapes rest shown escapes) :
      Unescapes (point :: rest) (point :: shown) escapes

def unescaped (text : Text) : Text := Text.replace bracketEscape [opening] text

theorem unescaped_escape (rest : Text) :
    unescaped (backslash :: opening :: rest) = opening :: unescaped rest := rfl

theorem unescaped_point {point : CodePoint} {rest : Text}
    (apart : ¬bracketEscape <+: point :: rest) :
    unescaped (point :: rest) = point :: unescaped rest := by
  have other : bracketEscape.isPrefixOf (point :: rest) = false := by
    rwa [Bool.eq_false_iff, ne_eq, List.isPrefixOf_iff_prefix]
  change Text.replaceFrom bracketEscape [opening] 0 (point :: rest) = _
  rw [Text.replaceFrom, other]
  rfl

theorem unescapes (text : Text) : ∃ escapes, Unescapes text (unescaped text) escapes := by
  match text with
  | [] => exact ⟨0, .done⟩
  | point :: rest =>
      by_cases escape : bracketEscape <+: point :: rest
      · obtain ⟨behind, shape⟩ := escape
        cases shape
        obtain ⟨escapes, later⟩ := unescapes behind
        exact ⟨escapes + 1, .escape later⟩
      · obtain ⟨escapes, later⟩ := unescapes rest
        rw [unescaped_point escape]
        exact ⟨escapes, .point escape later⟩
termination_by text.length

namespace Unescapes

variable {text shown : Text} {escapes : Nat}

theorem eq_unescaped (taken : Unescapes text shown escapes) : shown = unescaped text := by
  induction taken with
  | done => rfl
  | escape _ ih => rw [ih, unescaped_escape]
  | point apart _ ih => rw [ih, unescaped_point apart]

/-- Each escape costs one backslash. -/
theorem count_backslash (taken : Unescapes text shown escapes) :
    shown.count backslash + escapes = text.count backslash := by
  induction taken with
  | done => rfl
  | escape _ ih =>
      rw [List.count_cons_self, List.count_cons_of_ne (by decide),
        List.count_cons_of_ne (by decide), ← ih, Nat.add_assoc]
  | point apart _ ih =>
      rw [List.count_cons, List.count_cons, ← ih, Nat.add_right_comm]

theorem count_colon (taken : Unescapes text shown escapes) :
    shown.count colon = text.count colon := by
  induction taken with
  | done => rfl
  | escape _ ih =>
      rw [List.count_cons_of_ne (by decide), List.count_cons_of_ne (by decide),
        List.count_cons_of_ne (by decide), ih]
  | point apart _ ih => rw [List.count_cons, List.count_cons, ih]

theorem subset (taken : Unescapes text shown escapes) : shown ⊆ text := by
  induction taken with
  | done => exact List.Subset.refl _
  | escape _ ih => exact List.subset_cons_of_subset _ (List.cons_subset_cons _ ih)
  | point _ _ ih => exact List.cons_subset_cons _ ih

theorem eq_of_zero (taken : Unescapes text shown escapes) (none : escapes = 0) : shown = text := by
  induction taken with
  | done => rfl
  | escape => cases none
  | point _ _ ih => rw [ih none]

theorem zero_iff (taken : Unescapes text shown escapes) :
    escapes = 0 ↔ ¬bracketEscape <:+: text := by
  induction taken with
  | done => simp [bracketEscape]
  | @escape rest _ _ _ _ =>
      have inside : bracketEscape <:+: backslash :: opening :: rest :=
        List.IsPrefix.isInfix ⟨rest, rfl⟩
      simp [inside]
  | point apart _ ih => rw [ih, List.infix_cons_iff, not_or, and_iff_right apart]

/-- A backslash at the end escapes nothing. -/
theorem concat (taken : Unescapes text shown escapes) :
    Unescapes (text ++ [backslash]) (shown ++ [backslash]) escapes := by
  induction taken with
  | done => exact .point (by decide) .done
  | escape _ ih => exact .escape ih
  | @point point rest _ _ apart _ ih =>
      refine .point (fun escape => apart ?_) ih
      obtain ⟨behind, shape⟩ := escape
      obtain ⟨first, later⟩ := List.cons.inj shape
      cases rest with
      | nil => exact absurd (List.cons.inj later).1 (by decide)
      | cons second others =>
          obtain ⟨next, _⟩ := List.cons.inj later
          exact ⟨others, by rw [← first, ← next]; rfl⟩

end Unescapes

theorem unescaped_subset (text : Text) : unescaped text ⊆ text := by
  obtain ⟨_, taken⟩ := unescapes text
  exact taken.subset

theorem count_colon_unescaped (text : Text) : (unescaped text).count colon = text.count colon := by
  obtain ⟨_, taken⟩ := unescapes text
  exact taken.count_colon

theorem count_backslash_unescaped_le (text : Text) :
    (unescaped text).count backslash ≤ text.count backslash := by
  obtain ⟨_, taken⟩ := unescapes text
  exact Nat.le_of_add_right_le (Nat.le_of_eq taken.count_backslash)

theorem unescaped_eq {text : Text} (clear : ¬bracketEscape <:+: text) : unescaped text = text := by
  obtain ⟨_, taken⟩ := unescapes text
  exact taken.eq_of_zero (taken.zero_iff.mpr clear)

theorem not_escapes_of_count {text : Text}
    (kept : (unescaped text).count backslash = text.count backslash) :
    ¬bracketEscape <:+: text := by
  obtain ⟨_, taken⟩ := unescapes text
  have count := taken.count_backslash
  exact taken.zero_iff.mp (by omega)

theorem unescaped_concat (text : Text) :
    unescaped (text ++ [backslash]) = unescaped text ++ [backslash] := by
  obtain ⟨_, taken⟩ := unescapes text
  exact taken.concat.eq_unescaped.symm

variable {emojis : EmojiTable} {text : Text} {point : CodePoint}

theorem showPlain_eq (emojis : EmojiTable) (text : Text) :
    showPlain emojis text =
      (replaceCodes emojis (unescaped text)).filter fun point => !isDropped point := rfl

theorem isDropped_of_mem_showPlain (member : point ∈ showPlain emojis text) :
    isDropped point = false := by
  rw [showPlain_eq, List.mem_filter] at member
  simpa using member.2

theorem mem_showPlain (member : point ∈ showPlain emojis text) :
    point ∈ text ∨ isPicture point = true := by
  rw [showPlain_eq, List.mem_filter] at member
  exact (mem_replaceCodesFrom member.1).imp_left fun inside => unescaped_subset text inside

theorem count_colon_showPlain (emojis : EmojiTable) (text : Text) :
    (showPlain emojis text).count colon = (replaceCodes emojis (unescaped text)).count colon := by
  rw [showPlain_eq, List.count_filter (by decide)]

/-- No stretch shows more colons than it has. -/
theorem count_colon_showPlain_le (emojis : EmojiTable) (text : Text) :
    (showPlain emojis text).count colon ≤ text.count colon := by
  rw [count_colon_showPlain, ← count_colon_unescaped text]
  exact count_replaceCodes_le emojis _

/-- With all its colons a stretch shows all its codes. -/
theorem isCodeless_of_count_showPlain
    (kept : (showPlain emojis text).count colon = text.count colon) :
    IsCodeless emojis (unescaped text) := by
  rw [count_colon_showPlain, ← count_colon_unescaped text] at kept
  exact isCodeless_of_count kept

theorem showPlain_of_codeless (codeless : IsCodeless emojis (unescaped text))
    (kept : ∀ point ∈ text, isDropped point = false) :
    showPlain emojis text = unescaped text := by
  rw [showPlain_eq, codeless.replaceCodes_eq, List.filter_eq_self]
  intro point member
  rw [kept point (unescaped_subset text member)]
  rfl

/-- Without a colon it does not matter which emojis there are. -/
theorem showPlain_of_notMem (emojis other : EmojiTable) (clear : colon ∉ text) :
    showPlain emojis text = showPlain other text := by
  have none : colon ∉ unescaped text := fun member => clear (unescaped_subset text member)
  rw [showPlain_eq, showPlain_eq, (isCodeless_of_notMem none).replaceCodes_eq,
    (isCodeless_of_notMem none).replaceCodes_eq]

end ScriptFormat.Markup
