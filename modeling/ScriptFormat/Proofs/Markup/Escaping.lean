import ScriptFormat.Markup.Piece

/-!
# Escaped texts

Scanning an escaped text gives the pieces of the text itself, each tag with twice
its backslashes and one more. The escape neither makes a tag where there was none
nor breaks one up, so every tag of an escaped text is literal.
-/

namespace ScriptFormat.Markup

theorem beforeClosing?_eq_some_iff (text before : Text) :
    beforeClosing? text = some before ↔
      (∃ behind, text = before ++ closing :: behind) ∧
        ∀ point ∈ before, point ≠ closing ∧ point ≠ opening := by
  induction text generalizing before with
  | nil => simp [beforeClosing?]
  | cons point rest ih =>
      by_cases closes : point = closing
      · simp only [beforeClosing?, if_pos closes, Option.some.injEq]
        constructor
        · intro same
          subst same
          exact ⟨⟨rest, by rw [closes]; rfl⟩, by simp⟩
        · rintro ⟨⟨behind, shape⟩, clear⟩
          cases before with
          | nil => rfl
          | cons first others =>
              have same : point = first := (List.cons.inj shape).1
              exact absurd (same ▸ closes) (clear first List.mem_cons_self).1
      by_cases opens : point = opening
      · simp only [beforeClosing?, if_neg closes, if_pos opens, reduceCtorEq, false_iff]
        rintro ⟨⟨behind, shape⟩, clear⟩
        cases before with
        | nil => exact closes (List.cons.inj shape).1
        | cons first others =>
            have same : point = first := (List.cons.inj shape).1
            exact absurd (same ▸ opens) (clear first List.mem_cons_self).2
      · simp only [beforeClosing?, if_neg closes, if_neg opens, Option.map_eq_some_iff]
        constructor
        · rintro ⟨inner, found, same⟩
          obtain ⟨⟨behind, shape⟩, clear⟩ := (ih inner).mp found
          subst same
          exact ⟨⟨behind, by rw [shape]; rfl⟩, List.forall_mem_cons.mpr ⟨⟨closes, opens⟩, clear⟩⟩
        · rintro ⟨⟨behind, shape⟩, clear⟩
          cases before with
          | nil => exact absurd (List.cons.inj shape).1 closes
          | cons first others =>
              obtain ⟨same, others_eq⟩ := List.cons.inj shape
              exact ⟨others, (ih others).mpr ⟨⟨behind, others_eq⟩,
                (List.forall_mem_cons.mp clear).2⟩, by rw [same]⟩

/-- A body of a tag may stand in front of any text. -/
theorem body?_append {body rest : Text} (found : body? rest = some body) (behind : Text) :
    body? (body ++ closing :: behind) = some body := by
  cases rest with
  | nil => cases found
  | cons first others =>
      by_cases starts : startsTag first = true
      · simp only [body?, if_pos starts, Option.map_eq_some_iff] at found
        obtain ⟨inner, before, same⟩ := found
        subst same
        obtain ⟨_, clear⟩ := (beforeClosing?_eq_some_iff others inner).mp before
        have again : beforeClosing? (inner ++ closing :: behind) = some inner :=
          (beforeClosing?_eq_some_iff _ inner).mpr ⟨⟨behind, rfl⟩, clear⟩
        simp only [List.cons_append, body?, if_pos starts, again, Option.map_some]
      · simp only [body?, if_neg starts, reduceCtorEq] at found

/-- The tag read from behind its opening bracket, and what follows it. -/
theorem eq_of_body? {body rest : Text} (found : body? rest = some body) :
    ∃ behind, rest = body ++ closing :: behind := by
  cases rest with
  | nil => cases found
  | cons first others =>
      by_cases starts : startsTag first = true
      · simp only [body?, if_pos starts, Option.map_eq_some_iff] at found
        obtain ⟨inner, before, same⟩ := found
        subst same
        obtain ⟨⟨behind, shape⟩, _⟩ := (beforeClosing?_eq_some_iff others inner).mp before
        exact ⟨behind, by rw [shape]; rfl⟩
      · simp only [body?, if_neg starts, reduceCtorEq] at found

theorem scanFrom_backslashes (slashes count : Nat) (rest : Text) :
    scanFrom 0 slashes (backslashes count ++ rest) = scanFrom 0 (slashes + count) rest := by
  induction count generalizing slashes with
  | zero => rfl
  | succ count ih =>
      have step : scanFrom 0 slashes (backslashes (count + 1) ++ rest) =
          scanFrom 0 (slashes + 1) (backslashes count ++ rest) := by
        rw [backslashes, List.replicate_succ, List.cons_append, scanFrom, if_pos rfl]
        rfl
      rw [step, ih, Nat.add_right_comm, Nat.add_assoc]

theorem scanFrom_skip (skip : Nat) (front rest : Text) (passed : front.length = skip) :
    scanFrom skip 0 (front ++ rest) = scanFrom 0 0 rest := by
  subst passed
  induction front with
  | nil => rfl
  | cons point front ih => exact ih

theorem scanFrom_tag {slashes : Nat} {body rest : Text} (found : body? rest = some body) :
    scanFrom 0 slashes (opening :: rest) =
      .tag slashes body :: scanFrom (body.length + 1) 0 rest := by
  rw [scanFrom, if_neg (by decide), if_pos rfl, found]

theorem scanFrom_opening {slashes : Nat} {rest : Text} (found : body? rest = none) :
    scanFrom 0 slashes (opening :: rest) =
      (backslashes slashes ++ [opening]).map .point ++ scanFrom 0 0 rest := by
  rw [scanFrom, if_neg (by decide), if_pos rfl, found]

theorem scanFrom_point {slashes : Nat} {point : CodePoint} {rest : Text}
    (notBackslash : point ≠ backslash) (notOpening : point ≠ opening) :
    scanFrom 0 slashes (point :: rest) =
      (backslashes slashes ++ [point]).map .point ++ scanFrom 0 0 rest := by
  rw [scanFrom, if_neg notBackslash, if_neg notOpening]

/-- Text without an opening bracket has no tags, and ends a run of backslashes. -/
theorem scanFrom_clear {front : Text} (clear : opening ∉ front) (last : CodePoint)
    (notBackslash : last ≠ backslash) (notOpening : last ≠ opening) (slashes : Nat) (rest : Text) :
    scanFrom 0 slashes (front ++ last :: rest) =
      (backslashes slashes ++ front ++ [last]).map .point ++ scan rest := by
  induction front generalizing slashes with
  | nil =>
      rw [List.nil_append, scanFrom_point notBackslash notOpening, List.append_nil]
      rfl
  | cons first others ih =>
      have apart : first ≠ opening := fun same => clear (same ▸ List.mem_cons_self)
      have behind : opening ∉ others := fun inside => clear (List.mem_cons_of_mem first inside)
      by_cases slash : first = backslash
      · subst slash
        have shifted : scanFrom 0 slashes (backslash :: others ++ last :: rest) =
            scanFrom 0 (slashes + 1) (others ++ last :: rest) :=
          scanFrom_backslashes slashes 1 _
        rw [shifted, ih behind, backslashes, List.replicate_succ', backslashes, List.append_assoc,
          List.append_assoc, List.append_assoc]
        rfl
      · rw [List.cons_append, scanFrom_point slash apart, ih behind]
        simp [backslashes]

/-! ## Scanning what was escaped -/

def escapedText (pieces : List Piece) : Text := pieces.flatMap fun piece => piece.escaped.text

theorem escapedText_points (text : Text) (pieces : List Piece) :
    escapedText (text.map .point ++ pieces) = text ++ escapedText pieces := by
  induction text with
  | nil => rfl
  | cons point rest ih => exact congrArg (point :: ·) ih

theorem escapedText_tag (slashes : Nat) (body : Text) (pieces : List Piece) :
    escapedText (.tag slashes body :: pieces) =
      backslashes (2 * slashes + 1) ++ opening :: (body ++ closing :: escapedText pieces) := by
  simp [escapedText, Piece.escaped, Piece.text]

theorem map_escaped_points (text : Text) :
    (text.map Piece.point).map Piece.escaped = text.map Piece.point := by
  rw [List.map_map]
  rfl

theorem beforeClosing?_backslashes (count : Nat) (text : Text) :
    (beforeClosing? (backslashes count ++ text)).isSome = (beforeClosing? text).isSome := by
  induction count with
  | zero => rfl
  | succ count ih =>
      rw [backslashes, List.replicate_succ, List.cons_append, beforeClosing?, if_neg (by decide),
        if_neg (by decide), Option.isSome_map]
      exact ih

/-- Escaping moves no bracket out of the way of another. -/
theorem beforeClosing?_escaped (slashes : Nat) (text : Text) :
    (beforeClosing? (escapedText (scanFrom 0 slashes text))).isSome =
      (beforeClosing? text).isSome := by
  induction text generalizing slashes with
  | nil =>
      rw [scanFrom, ← List.append_nil (List.map _ _), escapedText_points]
      exact beforeClosing?_backslashes slashes []
  | cons point rest ih =>
      by_cases slash : point = backslash
      · rw [scanFrom, if_pos slash, ih, beforeClosing?, slash, if_neg (by decide),
          if_neg (by decide), Option.isSome_map]
      by_cases opens : point = opening
      · have stops (behind : Text) : beforeClosing? (opening :: behind) = none := by
          rw [beforeClosing?, if_neg (by decide), if_pos rfl]
        subst opens
        cases found : body? rest with
        | some body =>
            rw [scanFrom_tag found, escapedText_tag, beforeClosing?_backslashes, stops, stops]
        | none =>
            rw [scanFrom_opening found, escapedText_points, List.append_assoc,
              beforeClosing?_backslashes]
            exact congrArg Option.isSome ((stops _).trans (stops _).symm)
      · rw [scanFrom_point slash opens, escapedText_points, List.append_assoc,
          beforeClosing?_backslashes, List.singleton_append]
        by_cases closes : point = closing
        · simp only [beforeClosing?, if_pos closes]
        · simp only [beforeClosing?, if_neg closes, if_neg opens, Option.isSome_map]
          exact ih 0

theorem escapedText_backslash (slashes : Nat) (text : Text) :
    ∃ behind, escapedText (scanFrom 0 (slashes + 1) text) = backslash :: behind := by
  have front (count : Nat) (behind : Text) :
      ∃ more, backslashes (count + 1) ++ behind = backslash :: more :=
    ⟨backslashes count ++ behind, rfl⟩
  induction text generalizing slashes with
  | nil =>
      rw [scanFrom, ← List.append_nil (List.map _ _), escapedText_points]
      exact front slashes _
  | cons point rest ih =>
      by_cases slash : point = backslash
      · rw [scanFrom, if_pos slash]
        exact ih (slashes + 1)
      by_cases opens : point = opening
      · subst opens
        cases found : body? rest with
        | some body =>
            rw [scanFrom_tag found, escapedText_tag]
            exact front _ _
        | none =>
            rw [scanFrom_opening found, escapedText_points, List.append_assoc]
            exact front slashes _
      · rw [scanFrom_point slash opens, escapedText_points, List.append_assoc]
        exact front slashes _

/-- Where no tag was, escaping makes none. -/
theorem body?_escaped {rest : Text} (untagged : body? rest = none) :
    body? (escapedText (scanFrom 0 0 rest)) = none := by
  have refused (first : CodePoint) (behind : Text) (starts : startsTag first = false) :
      body? (first :: behind) = none := by
    rw [body?, starts]
    rfl
  cases rest with
  | nil => rfl
  | cons first others =>
      by_cases slash : first = backslash
      · subst slash
        have shifted : scanFrom 0 0 (backslash :: others) = scanFrom 0 1 others :=
          scanFrom_backslashes 0 1 others
        obtain ⟨behind, shape⟩ := escapedText_backslash 0 others
        rw [shifted, shape]
        exact refused backslash behind (by decide)
      by_cases opens : first = opening
      · subst opens
        cases found : body? others with
        | some body =>
            rw [scanFrom_tag found, escapedText_tag]
            exact refused backslash _ (by decide)
        | none =>
            rw [scanFrom_opening found, escapedText_points]
            exact refused opening _ (by decide)
      · rw [scanFrom_point slash opens, escapedText_points]
        cases starts : startsTag first with
        | false => exact refused first _ starts
        | true =>
            rw [body?, if_pos starts, Option.map_eq_none_iff] at untagged
            have kept := beforeClosing?_escaped 0 others
            rw [untagged, Option.isSome_none, Option.isSome_eq_false_iff,
              Option.isNone_iff_eq_none] at kept
            change body? (first :: escapedText (scanFrom 0 0 others)) = none
            rw [body?, if_pos starts, kept]
            rfl

theorem scan_escapedText (skip slashes : Nat) (text : Text) :
    scan (escapedText (scanFrom skip slashes text)) =
      (scanFrom skip slashes text).map Piece.escaped := by
  have points {front : Text} {behind : List Piece}
      (ends : scan (front ++ escapedText behind) =
        front.map Piece.point ++ scan (escapedText behind))
      (ih : scan (escapedText behind) = behind.map Piece.escaped) :
      scan (escapedText (front.map Piece.point ++ behind)) =
        (front.map Piece.point ++ behind).map Piece.escaped := by
    rw [escapedText_points, ends, ih, List.map_append, map_escaped_points]
  fun_induction scanFrom skip slashes text with
  | case1 skip slashes =>
      rw [map_escaped_points, ← List.append_nil (List.map _ _), escapedText_points]
      exact (scanFrom_backslashes 0 slashes []).trans (by rw [Nat.zero_add, scanFrom]; simp)
  | case2 slashes skip point rest ih => exact ih
  | case3 slashes rest ih => exact ih
  | case4 slashes rest body found notBackslash ih =>
      rw [escapedText_tag, scan, scanFrom_backslashes, Nat.zero_add,
        scanFrom_tag (body?_append found _), List.map_cons, ← ih, scan,
        ← scanFrom_skip (body.length + 1) (body ++ [closing]) _ (by simp), List.append_assoc]
      rfl
  | case5 slashes rest untagged notBackslash ih =>
      refine points ?_ ih
      rw [scan, List.append_assoc, scanFrom_backslashes, Nat.zero_add]
      exact scanFrom_opening (body?_escaped untagged)
  | case6 slashes point rest notBackslash notOpening ih =>
      refine points ?_ ih
      rw [scan, List.append_assoc, scanFrom_backslashes, Nat.zero_add]
      exact scanFrom_point notBackslash notOpening

theorem body?_concat_backslash (rest : Text) : body? (rest ++ [backslash]) = body? rest := by
  have before (text : Text) : beforeClosing? (text ++ [backslash]) = beforeClosing? text := by
    induction text with
    | nil => rfl
    | cons point rest ih => simp only [List.cons_append, beforeClosing?, ih]
  cases rest with
  | nil => rfl
  | cons first others => simp only [List.cons_append, body?, before]

theorem scanFrom_concat_backslash (skip slashes : Nat) (text : Text) (inside : skip ≤ text.length) :
    scanFrom skip slashes (text ++ [backslash]) =
      scanFrom skip slashes text ++ [.point backslash] := by
  fun_induction scanFrom skip slashes text with
  | case1 skip slashes =>
      have none_left : skip = 0 := Nat.le_zero.mp inside
      subst none_left
      have more := scanFrom_backslashes slashes 1 []
      rw [List.append_nil] at more
      refine more.trans ?_
      rw [scanFrom, backslashes, List.replicate_succ', List.map_append]
      rfl
  | case2 slashes skip point rest ih => exact ih (Nat.le_of_succ_le_succ inside)
  | case3 slashes rest ih =>
      rw [List.cons_append, scanFrom, if_pos rfl, ih (Nat.zero_le _)]
  | case4 slashes rest body found notBackslash ih =>
      obtain ⟨behind, shape⟩ := eq_of_body? found
      have inside : body.length + 1 ≤ rest.length := by simp [shape]
      rw [List.cons_append, scanFrom_tag ((body?_concat_backslash rest).trans found), ih inside]
      rfl
  | case5 slashes rest untagged notBackslash ih =>
      rw [List.cons_append, scanFrom_opening ((body?_concat_backslash rest).trans untagged),
        ih (Nat.zero_le _), List.append_assoc]
  | case6 slashes point rest notBackslash notOpening ih =>
      rw [List.cons_append, scanFrom_point notBackslash notOpening, ih (Nat.zero_le _),
        List.append_assoc]

/-! ## The text of the pieces -/

theorem flatMap_text_points (text : Text) : (text.map Piece.point).flatMap Piece.text = text := by
  induction text with
  | nil => rfl
  | cons point rest ih => exact congrArg (point :: ·) ih

/-- A scan loses nothing. -/
theorem flatMap_text_scanFrom {skip slashes : Nat} {text : Text}
    (settled : skip = 0 ∨ slashes = 0) :
    (scanFrom skip slashes text).flatMap Piece.text = backslashes slashes ++ text.drop skip := by
  fun_induction scanFrom skip slashes text with
  | case1 skip slashes => rw [flatMap_text_points, List.drop_nil, List.append_nil]
  | case2 skip slashes point rest ih =>
      have none : slashes = 0 := settled.resolve_left (Nat.succ_ne_zero skip)
      rw [ih (.inr rfl), none]
      rfl
  | case3 slashes rest ih =>
      rw [ih (.inl rfl), backslashes, List.replicate_succ', List.append_assoc]
      rfl
  | case4 slashes rest body found notBackslash ih =>
      obtain ⟨behind, rfl⟩ := eq_of_body? found
      rw [List.flatMap_cons, ih (.inr rfl), Piece.text]
      simp [backslashes]
  | case5 slashes rest untagged notBackslash ih =>
      rw [List.flatMap_append, flatMap_text_points, ih (.inl rfl), List.append_assoc]
      rfl
  | case6 slashes point rest notBackslash notOpening ih =>
      rw [List.flatMap_append, flatMap_text_points, ih (.inl rfl), List.append_assoc]
      rfl

theorem flatMap_text_scan (text : Text) : (scan text).flatMap Piece.text = text :=
  flatMap_text_scanFrom (.inl rfl)

theorem Piece.getLast?_escaped (piece : Piece) :
    piece.escaped.text.getLast? = piece.text.getLast? := by
  cases piece with
  | point => rfl
  | tag slashes body => rw [escaped, text, text, List.getLast?_concat, List.getLast?_concat]

/-- A text that is escaped ends as before. -/
theorem getLast?_escapedText (text : Text) :
    (escapedText (scan text)).getLast? = text.getLast? := by
  have pieces (list : List Piece) :
      (escapedText list).getLast? = (list.flatMap Piece.text).getLast? := by
    induction list with
    | nil => rfl
    | cons piece rest ih =>
        change (piece.escaped.text ++ escapedText rest).getLast? = _
        rw [List.flatMap_cons, List.getLast?_append, List.getLast?_append, ih,
          piece.getLast?_escaped]
  rw [pieces, flatMap_text_scan]

/-- There is a backslash at the end, and none in front of it. -/
def EndsInOne (text : Text) : Prop :=
  ∃ front, text = front ++ [backslash] ∧ front.getLast? ≠ some backslash

theorem endsWith_backslash_iff (text : Text) :
    text.endsWith [backslash] = true ↔ text.getLast? = some backslash := by
  rw [Text.endsWith, List.isSuffixOf_iff_suffix, List.getLast?_eq_some_iff]
  exact exists_congr fun front => eq_comm

theorem endsWith_backslashes_iff (front : Text) :
    Text.endsWith (front ++ [backslash]) [backslash, backslash] = true ↔
      front.getLast? = some backslash := by
  rw [Text.endsWith, List.isSuffixOf_iff_suffix, List.getLast?_eq_some_iff]
  constructor
  · rintro ⟨before, shape⟩
    have split : (before ++ [backslash]) ++ [backslash] = front ++ [backslash] := by
      rw [List.append_assoc]
      exact shape
    exact ⟨before, (List.append_cancel_right split).symm⟩
  · rintro ⟨before, rfl⟩
    exact ⟨before, by rw [List.append_assoc]; rfl⟩

theorem guardEnd_of_endsInOne {text : Text} (ends : EndsInOne text) :
    guardEnd text = text ++ [backslash] := by
  obtain ⟨front, rfl, apart⟩ := ends
  have one : Text.endsWith (front ++ [backslash]) [backslash] = true :=
    (endsWith_backslash_iff _).mpr List.getLast?_concat
  have only : Text.endsWith (front ++ [backslash]) [backslash, backslash] = false :=
    Bool.eq_false_iff.mpr fun two => apart ((endsWith_backslashes_iff front).mp two)
  rw [guardEnd, one, only]
  rfl

theorem guardEnd_of_not {text : Text} (ends : ¬EndsInOne text) : guardEnd text = text := by
  unfold guardEnd
  split
  · next guarded =>
      obtain ⟨one, only⟩ := (Bool.and_eq_true _ _).mp guarded
      obtain ⟨front, rfl⟩ := List.getLast?_eq_some_iff.mp ((endsWith_backslash_iff text).mp one)
      refine absurd ⟨front, rfl, fun two => ?_⟩ ends
      rw [(endsWith_backslashes_iff front).mpr two] at only
      cases only
  · rfl

/-- Escaping leaves a backslash alone at the end, or takes it from there. -/
theorem endsInOne_escapedText (text : Text) :
    EndsInOne (escapedText (scan text)) ↔ EndsInOne text := by
  have concat (front : Text) : escapedText (scan (front ++ [backslash])) =
      escapedText (scan front) ++ [backslash] := by
    have shape : scan (front ++ [backslash]) = scan front ++ [.point backslash] :=
      scanFrom_concat_backslash 0 0 front (Nat.zero_le _)
    rw [shape, escapedText, List.flatMap_append]
    rfl
  constructor
  · rintro ⟨front, shape, apart⟩
    have last : text.getLast? = some backslash := by
      rw [← getLast?_escapedText, shape, List.getLast?_concat]
    obtain ⟨before, rfl⟩ := List.getLast?_eq_some_iff.mp last
    rw [concat] at shape
    rw [← List.append_cancel_right shape, getLast?_escapedText] at apart
    exact ⟨before, rfl, apart⟩
  · rintro ⟨front, rfl, apart⟩
    exact ⟨_, concat front, by rwa [getLast?_escapedText]⟩

/-- Single code points, and tags that show as they are. -/
def Piece.IsLiteral : Piece → Prop
  | .point _ => True
  | .tag slashes _ => slashes % 2 = 1

theorem Piece.escaped_isLiteral (piece : Piece) : piece.escaped.IsLiteral := by
  cases piece with
  | point => exact True.intro
  | tag slashes body =>
      change (2 * slashes + 1) % 2 = 1
      omega

theorem scan_escape_of_not {text : Text} (ends : ¬EndsInOne text) :
    scan (escape text) = (scan text).map Piece.escaped := by
  change scan (guardEnd (escapedText (scan text))) = _
  rw [guardEnd_of_not (mt (endsInOne_escapedText text).mp ends)]
  exact scan_escapedText 0 0 text

theorem scan_escape_of_endsInOne {text : Text} (ends : EndsInOne text) :
    scan (escape text) = (scan text).map Piece.escaped ++ [.point backslash] := by
  change scan (guardEnd (escapedText (scan text))) = _
  rw [guardEnd_of_endsInOne ((endsInOne_escapedText text).mpr ends), scan,
    scanFrom_concat_backslash 0 0 _ (Nat.zero_le _)]
  exact congrArg (· ++ [Piece.point backslash]) (scan_escapedText 0 0 text)

/-- An escaped text has the pieces of the text, all of them literal, and perhaps a backslash
more. -/
theorem scan_escape (text : Text) :
    ∃ guard, (guard = [] ∨ guard = [.point backslash]) ∧
      scan (escape text) = (scan text).map Piece.escaped ++ guard := by
  by_cases ends : EndsInOne text
  · exact ⟨_, .inr rfl, scan_escape_of_endsInOne ends⟩
  · exact ⟨[], .inl rfl, by rw [scan_escape_of_not ends, List.append_nil]⟩

theorem scan_escape_isLiteral (text : Text) : ∀ piece ∈ scan (escape text), piece.IsLiteral := by
  obtain ⟨guard, guards, pieces⟩ := scan_escape text
  intro piece member
  rw [pieces, List.mem_append] at member
  rcases member with escaped | guarding
  · obtain ⟨source, _, same⟩ := List.mem_map.mp escaped
    rw [← same]
    exact source.escaped_isLiteral
  · rcases guards with none | one
    · rw [none] at guarding
      cases guarding
    · rw [one, List.mem_singleton] at guarding
      rw [guarding]
      exact True.intro

end ScriptFormat.Markup
