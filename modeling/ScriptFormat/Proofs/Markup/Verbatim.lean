import ScriptFormat.Proofs.Markup.Rendering
import ScriptFormat.Proofs.Text.Tabs

/-!
# Texts that show as they are

A text that was escaped is shown stretch by stretch, where a stretch ends at each bracket of
a tag. It shows as it is exactly if nothing in it is filled, dropped, replaced or taken for an
escape, and it does not end in a backslash alone.
-/

namespace ScriptFormat.Markup

def stretches (text : Text) : List Text := stretchesFrom [] ((scan text).map Piece.escaped)

def shownIn (emojis : EmojiTable) (text : Text) : Text :=
  (stretchesFrom [] (scan (escape text))).flatMap (showPlain emojis)

/-- A text with no tab, no control character that is dropped, no code of an emoji and no escaped
bracket in a stretch, and with no backslash alone at its end. -/
structure Verbatim (emojis : EmojiTable) (text : Text) : Prop where
  noTab : Text.tab ∉ text
  noControl : ∀ point ∈ text, isDropped point = false
  noCode : ∀ stretch ∈ stretches text, IsCodeless emojis stretch
  noEscape : ∀ stretch ∈ stretches text, ¬bracketEscape <:+: stretch
  noEnd : ¬EndsInOne text

variable {emojis : EmojiTable} {text : Text}

theorem flatten_stretchesFrom (plain : Text) (pieces : List Piece) :
    (stretchesFrom plain (pieces.map Piece.escaped)).flatten =
      plain ++ pieces.flatMap Piece.text := by
  induction pieces generalizing plain with
  | nil => simp [stretchesFrom]
  | cons piece rest ih =>
      cases piece with
      | point point =>
          rw [List.map_cons, Piece.escaped, stretchesFrom, ih, List.append_assoc]
          rfl
      | tag slashes body =>
          have half : (2 * slashes + 1) / 2 = slashes := by omega
          rw [List.map_cons, Piece.escaped, stretchesFrom, half]
          simp [ih, Piece.text]

/-- The stretches are the text cut up. -/
theorem flatten_stretches (text : Text) : (stretches text).flatten = text := by
  rw [stretches, flatten_stretchesFrom, flatMap_text_scan, List.nil_append]

/-- Single code points at the end belong to the last stretch. -/
theorem stretchesFrom_append (plain : Text) (pieces : List Piece) : ∃ front last, ∀ points : Text,
    stretchesFrom plain (pieces ++ points.map .point) = front ++ [last ++ points] := by
  induction pieces generalizing plain with
  | nil =>
      refine ⟨[], plain, fun points => ?_⟩
      rw [List.nil_append, List.nil_append]
      induction points generalizing plain with
      | nil => rw [List.append_nil]; rfl
      | cons point rest ih =>
          rw [List.map_cons, stretchesFrom, ih, List.append_assoc]
          rfl
  | cons piece rest ih =>
      cases piece with
      | point point => exact ih (plain ++ [point])
      | tag slashes body =>
          obtain ⟨front, last, shape⟩ := ih []
          exact ⟨_ :: _ :: _ :: front, last, fun points => by
            rw [List.cons_append, stretchesFrom, shape]; rfl⟩

theorem showPlain_blank (emojis : EmojiTable) (text : Text) :
    showPlain emojis (32 :: text) = 32 :: showPlain emojis text := rfl

/-- A space in front shows in front. -/
theorem flatMap_stretchesFrom_blank (emojis : EmojiTable) (plain : Text) (pieces : List Piece) :
    (stretchesFrom (32 :: plain) pieces).flatMap (showPlain emojis) =
      32 :: (stretchesFrom plain pieces).flatMap (showPlain emojis) := by
  induction pieces generalizing plain with
  | nil => simp [stretchesFrom, showPlain_blank]
  | cons piece rest ih =>
      cases piece with
      | point point => exact ih (plain ++ [point])
      | tag slashes body => simp [stretchesFrom, showPlain_blank]

/-- If no part gains a code point and the whole loses none, then no part loses any. -/
theorem count_eq_of_flatMap {change : Text → Text} {point : CodePoint} {parts : List Text}
    (fewer : ∀ part, (change part).count point ≤ part.count point)
    (kept : (parts.flatMap change).count point = parts.flatten.count point) :
    ∀ part ∈ parts, (change part).count point = part.count point := by
  have less (list : List Text) : (list.flatMap change).count point ≤ list.flatten.count point := by
    induction list with
    | nil => exact Nat.le_refl _
    | cons part rest ih =>
        rw [List.flatMap_cons, List.flatten_cons, List.count_append, List.count_append]
        exact Nat.add_le_add (fewer part) ih
  induction parts with
  | nil => exact fun _ member => nomatch member
  | cons part rest ih =>
      rw [List.flatMap_cons, List.flatten_cons, List.count_append, List.count_append] at kept
      have first := fewer part
      have others := less rest
      exact List.forall_mem_cons.mpr ⟨by omega, ih (by omega)⟩

theorem flatMap_eq_flatten {change : Text → Text} {parts : List Text}
    (kept : ∀ part ∈ parts, change part = part) : parts.flatMap change = parts.flatten := by
  rw [List.flatMap_def, List.map_congr_left kept, List.map_id']

theorem Verbatim.shownIn_eq (verbatim : Verbatim emojis text) : shownIn emojis text = text := by
  have kept : ∀ stretch ∈ stretches text, showPlain emojis stretch = stretch := by
    intro stretch member
    have same : unescaped stretch = stretch := unescaped_eq (verbatim.noEscape stretch member)
    have codeless : IsCodeless emojis (unescaped stretch) := by
      rw [same]
      exact verbatim.noCode stretch member
    have shows : ∀ point ∈ stretch, isDropped point = false := by
      intro point inside
      have there := List.mem_flatten_of_mem member inside
      rw [flatten_stretches] at there
      exact verbatim.noControl point there
    rw [showPlain_of_codeless codeless shows, same]
  rw [shownIn, scan_escape_of_not verbatim.noEnd]
  exact (flatMap_eq_flatten kept).trans (flatten_stretches text)

/-! ## What shows as it is -/

section Kept

variable {parts : List Text}

/-- What shows has neither lost a colon nor a control character, so no stretch of it is more than
unescaped. -/
theorem codeless_of_kept (colons : (parts.flatMap (showPlain emojis)).count colon =
      parts.flatten.count colon) :
    ∀ part ∈ parts, IsCodeless emojis (unescaped part) := by
  intro part member
  exact isCodeless_of_count_showPlain
    (count_eq_of_flatMap (count_colon_showPlain_le emojis) colons part member)

theorem flatMap_unescaped (codeless : ∀ part ∈ parts, IsCodeless emojis (unescaped part))
    (kept : ∀ point ∈ parts.flatten, isDropped point = false) :
    parts.flatMap (showPlain emojis) = parts.flatMap unescaped := by
  rw [List.flatMap_def, List.flatMap_def]
  refine congrArg List.flatten (List.map_congr_left fun part member => ?_)
  exact showPlain_of_codeless (codeless part member) fun point inside =>
    kept point (List.mem_flatten_of_mem member inside)

end Kept

/-- The stretches of an escaped text are the text, with a backslash more where it ends in one. -/
theorem flatten_escaped (text : Text) : ∃ guard, (guard = [] ∨ guard = [backslash]) ∧
    (stretchesFrom [] (scan (escape text))).flatten = text ++ guard := by
  by_cases ends : EndsInOne text
  · obtain ⟨front, last, cut⟩ := stretchesFrom_append [] ((scan text).map Piece.escaped)
    have whole := flatten_stretches text
    have own := cut []
    have more := cut [backslash]
    rw [List.map_nil, List.append_nil, List.append_nil] at own
    rw [stretches, own, List.flatten_append, List.flatten_singleton] at whole
    rw [List.map_singleton] at more
    refine ⟨[backslash], .inr rfl, ?_⟩
    rw [scan_escape_of_endsInOne ends, more, List.flatten_append, List.flatten_singleton,
      ← List.append_assoc, whole]
  · refine ⟨[], .inl rfl, ?_⟩
    rw [scan_escape_of_not ends, List.append_nil]
    exact flatten_stretches text

theorem mem_flatten_escaped {point : CodePoint}
    (member : point ∈ (stretchesFrom [] (scan (escape text))).flatten) :
    point ∈ text ∨ point = backslash := by
  obtain ⟨guard, guards, whole⟩ := flatten_escaped text
  rw [whole, List.mem_append] at member
  refine member.imp_right fun guarding => ?_
  rcases guards with rfl | rfl
  · cases guarding
  · exact List.mem_singleton.mp guarding

theorem count_colon_escaped (text : Text) :
    (stretchesFrom [] (scan (escape text))).flatten.count colon = text.count colon := by
  obtain ⟨guard, guards, whole⟩ := flatten_escaped text
  rw [whole, List.count_append]
  rcases guards with rfl | rfl <;> rfl

/-- A backslash alone at the end shows twice. -/
theorem unescaped_ne_of_endsInOne (ends : EndsInOne text) :
    (stretchesFrom [] (scan (escape text))).flatMap unescaped ≠ text := by
  intro shown
  obtain ⟨before, shape, apart⟩ := ends
  have pieces : scan text = scan before ++ [.point backslash] := by
    rw [shape]
    exact scanFrom_concat_backslash 0 0 before (Nat.zero_le _)
  obtain ⟨front, last, cut⟩ := stretchesFrom_append [] ((scan before).map Piece.escaped)
  have guarded : scan (escape text) =
      (scan before).map Piece.escaped ++ [backslash, backslash].map .point := by
    rw [scan_escape_of_endsInOne ⟨before, shape, apart⟩, pieces, List.map_append, List.append_assoc]
    rfl
  have twice : last ++ [backslash, backslash] = last ++ [backslash] ++ [backslash] := by
    rw [List.append_assoc]
    rfl
  rw [guarded, cut, List.flatMap_append, List.flatMap_singleton, twice, unescaped_concat,
    unescaped_concat, ← List.append_assoc, ← List.append_assoc, shape] at shown
  refine apart ?_
  rw [← List.append_cancel_right shown, List.getLast?_concat]

theorem isDropped_of_mem_shownIn {point : CodePoint} (member : point ∈ shownIn emojis text) :
    isDropped point = false := by
  obtain ⟨stretch, _, there⟩ := List.mem_flatMap.mp member
  exact isDropped_of_mem_showPlain there

theorem tab_notMem_shownIn (noTab : Text.tab ∉ text) : Text.tab ∉ shownIn emojis text := by
  intro member
  obtain ⟨stretch, there, shows⟩ := List.mem_flatMap.mp member
  rcases mem_showPlain shows with inside | picture
  · rcases mem_flatten_escaped (List.mem_flatten_of_mem there inside) with within | slash
    · exact noTab within
    · exact absurd slash (by decide)
  · exact absurd picture (by decide)

/-- What shows as it is was only unescaped, and the backslashes tell that it was not even that. -/
theorem verbatim_of_shownIn (noTab : Text.tab ∉ text) (shown : shownIn emojis text = text) :
    Verbatim emojis text := by
  have noControl : ∀ point ∈ text, isDropped point = false := fun point member =>
    isDropped_of_mem_shownIn (shown.symm ▸ member)
  have kept : ∀ point ∈ (stretchesFrom [] (scan (escape text))).flatten,
      isDropped point = false := by
    intro point member
    rcases mem_flatten_escaped member with there | rfl
    · exact noControl point there
    · rfl
  -- An emoji would cost the colons of its code, and an escape its backslash: as the whole has kept
  -- both counts, no stretch has lost anything.
  have colons : (shownIn emojis text).count colon =
      (stretchesFrom [] (scan (escape text))).flatten.count colon := by
    rw [shown, count_colon_escaped]
  have codeless := codeless_of_kept colons
  have bare : (stretchesFrom [] (scan (escape text))).flatMap unescaped = text := by
    rw [← flatMap_unescaped codeless kept]
    exact shown
  have noEnd : ¬EndsInOne text := fun ends => unescaped_ne_of_endsInOne ends bare
  rw [scan_escape_of_not noEnd] at bare codeless
  change (stretches text).flatMap unescaped = text at bare
  have slashes : ((stretches text).flatMap unescaped).count backslash =
      (stretches text).flatten.count backslash := by
    rw [bare, flatten_stretches]
  have noEscape : ∀ stretch ∈ stretches text, ¬bracketEscape <:+: stretch := fun stretch member =>
    not_escapes_of_count (count_eq_of_flatMap count_backslash_unescaped_le slashes stretch member)
  refine ⟨noTab, noControl, fun stretch member => ?_, noEscape, noEnd⟩
  have same := codeless stretch member
  rwa [unescaped_eq (noEscape stretch member)] at same

/-- Behind a label without tabs a text shows as it is exactly if it is verbatim. -/
theorem verbatim_iff (emojis : EmojiTable) {label : Text} (clear : Text.tab ∉ label)
    (text : Text) :
    Text.expandTabs (label ++ shownIn emojis text) = label ++ text ↔ Verbatim emojis text := by
  constructor
  · intro shown
    have none : Text.tab ∉ label ++ text := shown ▸ Text.tab_notMem_expandTabs _
    have noTab : Text.tab ∉ text := fun member => none (List.mem_append_right _ member)
    have filled : Text.tab ∉ label ++ shownIn emojis text := fun member =>
      (List.mem_append.mp member).elim clear (tab_notMem_shownIn noTab)
    rw [Text.expandTabs_of_notMem filled] at shown
    exact verbatim_of_shownIn noTab (List.append_cancel_left shown)
  · intro verbatim
    rw [verbatim.shownIn_eq]
    exact Text.expandTabs_of_notMem fun member =>
      (List.mem_append.mp member).elim clear verbatim.noTab

end ScriptFormat.Markup
