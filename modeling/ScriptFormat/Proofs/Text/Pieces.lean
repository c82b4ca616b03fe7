import ScriptFormat.Text.Basic

/-!
# Texts cut up and put together

The pieces of a text have the code points of the text but for the picked ones, and the lines
of a text joined again are the text. A trimmed text is what is left between dropped ends.
-/

namespace ScriptFormat.Text

theorem mem_splitOn (picks : CodePoint → Bool) {point : CodePoint} (kept : picks point = false)
    (text : Text) : (∃ piece ∈ splitOn picks text, point ∈ piece) ↔ point ∈ text := by
  induction text with
  | nil => simp [splitOn]
  | cons first rest ih =>
      rw [splitOn]
      split
      · next picked =>
          have apart : point ≠ first := by
            rintro rfl
            rw [kept] at picked
            cases picked
          simp [ih, apart]
      · cases pieces : splitOn picks rest with
        | nil =>
            rw [pieces] at ih
            simp [← ih]
        | cons piece others =>
            rw [pieces] at ih
            simp [← ih, or_assoc]

theorem mem_join {separator : Text} {point : CodePoint} (apart : point ∉ separator)
    (pieces : List Text) : point ∈ join separator pieces ↔ ∃ piece ∈ pieces, point ∈ piece := by
  induction pieces using join.induct with
  | case1 => simp [join]
  | case2 only => simp [join]
  | case3 first second rest ih => simp [join, ih, apart]

theorem splitOn_ne_nil (picks : CodePoint → Bool) (text : Text) : splitOn picks text ≠ [] := by
  cases text with
  | nil => exact List.cons_ne_nil _ _
  | cons first rest =>
      rw [splitOn]
      split
      · exact List.cons_ne_nil _ _
      · split <;> exact List.cons_ne_nil _ _

section Pieces

variable {picks : CodePoint → Bool} {text part : Text}

theorem splitOn_of_clear (clear : ∀ point ∈ text, picks point = false) :
    splitOn picks text = [text] := by
  induction text with
  | nil => rfl
  | cons first rest ih =>
      obtain ⟨apart, later⟩ := List.forall_mem_cons.mp clear
      rw [splitOn, apart, ih later]
      rfl

/-- What is picked is in no piece. -/
theorem not_picked (piece : part ∈ splitOn picks text) : ∀ point ∈ part, picks point = false := by
  induction text generalizing part with
  | nil =>
      rw [List.mem_singleton.mp piece]
      exact fun _ member => nomatch member
  | cons first rest ih =>
      rw [splitOn] at piece
      split at piece
      · rcases List.mem_cons.mp piece with rfl | later
        · exact fun _ member => nomatch member
        · exact ih later
      · next kept =>
          split at piece
          · next none => exact absurd none (splitOn_ne_nil picks rest)
          · next front others shape =>
              rw [shape] at ih
              rcases List.mem_cons.mp piece with rfl | later
              · exact List.forall_mem_cons.mpr ⟨Bool.eq_false_iff.mpr kept, ih List.mem_cons_self⟩
              · exact ih (List.mem_cons_of_mem _ later)

theorem mem_of_mem_splitOn (piece : part ∈ splitOn picks text) {point : CodePoint}
    (member : point ∈ part) : point ∈ text :=
  (mem_splitOn picks (not_picked piece point member) text).mp ⟨part, piece, member⟩

end Pieces

theorem join_cons (separator first : Text) {rest : List Text} (more : rest ≠ []) :
    join separator (first :: rest) = first ++ separator ++ join separator rest := by
  cases rest with
  | nil => exact absurd rfl more
  | cons => rfl

theorem join_lines (text : Text) : join [10] (lines text) = text := by
  unfold lines
  induction text with
  | nil => rfl
  | cons first rest ih =>
      rw [splitOn]
      split
      · next ends =>
          have newline : first = 10 := by
            rw [← CodePoint.ofNat_val first, eq_of_beq ends]
            rfl
          rw [join_cons _ _ (splitOn_ne_nil _ rest), ih, newline]
          rfl
      · split
        · next none => exact absurd none (splitOn_ne_nil _ rest)
        · next front others shape =>
            rw [shape] at ih
            rw [← ih]
            cases others <;> rfl

section Marks

variable {mark : CodePoint} {front behind left right : Text}

/-- A mark that is not in front is behind. -/
theorem split_behind (clear : mark ∉ front) (shape : front ++ behind = left ++ mark :: right) :
    ∃ middle, left = front ++ middle ∧ behind = middle ++ mark :: right := by
  rcases List.append_eq_append_iff.mp shape with found | ⟨extra, rfl, same⟩
  · exact found
  · cases extra with
    | nil => exact ⟨[], by simp, same.symm⟩
    | cons first rest =>
        obtain ⟨rfl, _⟩ := List.cons.inj same
        exact absurd (List.mem_append_right _ List.mem_cons_self) clear

/-- A mark that is not behind is in front. -/
theorem split_front (clear : mark ∉ behind) (shape : front ++ behind = left ++ mark :: right) :
    ∃ middle, right = middle ++ behind ∧ front = left ++ mark :: middle := by
  rcases List.append_eq_append_iff.mp shape with ⟨extra, _, rfl⟩ | ⟨extra, rfl, same⟩
  · exact absurd (List.mem_append_right _ List.mem_cons_self) clear
  · cases extra with
    | nil =>
        rw [← List.nil_append behind, ← same] at clear
        exact absurd List.mem_cons_self clear
    | cons first rest =>
        obtain ⟨rfl, later⟩ := List.cons.inj same
        exact ⟨rest, later, rfl⟩

end Marks

section Trimming

variable {drops : CodePoint → Bool} {front body behind : Text}

theorem dropWhile_append_kept (dropped : ∀ point ∈ front, drops point = true)
    (kept : ∀ point ∈ body.head?, drops point = false) :
    (front ++ body).dropWhile drops = body := by
  rw [List.dropWhile_append_of_pos dropped]
  cases body with
  | nil => rfl
  | cons first rest =>
      exact List.dropWhile_cons_of_neg (Bool.eq_false_iff.mp (kept first rfl))

/-- Trimming finds a text again that ends on either side with what is kept. -/
theorem trimBy_surrounded (before : ∀ point ∈ front, drops point = true)
    (first : ∀ point ∈ body.head?, drops point = false)
    (last : ∀ point ∈ body.getLast?, drops point = false)
    (after : ∀ point ∈ behind, drops point = true) (nonempty : body ≠ []) :
    trimBy drops (front ++ body ++ behind) = body := by
  have started : ∀ point ∈ (body ++ behind).head?, drops point = false := by
    obtain ⟨point, rest, rfl⟩ := List.exists_cons_of_ne_nil nonempty
    exact first
  have ended : ∀ point ∈ body.reverse.head?, drops point = false := by
    rwa [List.head?_reverse]
  have reversed : ∀ point ∈ behind.reverse, drops point = true := by
    intro point member
    exact after point (List.mem_reverse.mp member)
  rw [trimBy, List.append_assoc, dropWhile_append_kept before started, List.reverse_append,
    dropWhile_append_kept reversed ended, List.reverse_reverse]

theorem exists_trimBy (drops : CodePoint → Bool) (text : Text) :
    ∃ front behind, text = front ++ trimBy drops text ++ behind ∧
      (∀ point ∈ front, drops point = true) ∧ ∀ point ∈ behind, drops point = true := by
  refine ⟨text.takeWhile drops,
    ((text.dropWhile drops).reverse.takeWhile drops).reverse, ?_, ?_, ?_⟩
  · rw [trimBy, List.append_assoc, ← List.reverse_append, List.takeWhile_append_dropWhile,
      List.reverse_reverse, List.takeWhile_append_dropWhile]
  · exact List.all_eq_true.mp List.all_takeWhile
  · intro point member
    exact List.all_eq_true.mp List.all_takeWhile point (List.mem_reverse.mp member)

/-- A text up to what is dropped at either end of it. -/
structure Trimmed (drops : CodePoint → Bool) (text kept : Text) : Prop where
  around : ∃ front behind, text = front ++ kept ++ behind ∧
    (∀ point ∈ front, drops point = true) ∧ ∀ point ∈ behind, drops point = true
  first : ∀ point ∈ kept.head?, drops point = false
  last : ∀ point ∈ kept.getLast?, drops point = false

theorem head?_dropWhile (drops : CodePoint → Bool) (text : Text) :
    ∀ point ∈ (text.dropWhile drops).head?, drops point = false := by
  intro point first
  have kept := List.head?_dropWhile_not drops text
  rw [Option.mem_def.mp first] at kept
  exact kept

theorem trimBy_trimmed (drops : CodePoint → Bool) (text : Text) :
    Trimmed drops text (trimBy drops text) where
  around := exists_trimBy drops text
  first := by
    intro point first
    obtain ⟨dropped, whole⟩ := (text.dropWhile drops).reverse.dropWhile_suffix drops
    have whole : text.dropWhile drops = trimBy drops text ++ dropped.reverse := by
      rw [trimBy, ← List.reverse_append, whole, List.reverse_reverse]
    have front := head?_dropWhile drops text
    rw [whole, List.head?_append, Option.mem_def.mp first] at front
    exact front point rfl
  last := by
    intro point last
    rw [trimBy, List.getLast?_reverse] at last
    exact head?_dropWhile drops _ point last

end Trimming

end ScriptFormat.Text
