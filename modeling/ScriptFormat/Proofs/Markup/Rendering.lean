import Mathlib.Data.Nat.Init
import ScriptFormat.Markup.Render
import ScriptFormat.Proofs.Markup.Escaping
import ScriptFormat.Proofs.Markup.Showing

/-!
# Rendering a heading and literal text

A heading is a title between two tags of one style. Whatever literal text stands
behind it, the markup renders, and shows the title and the text.
-/

namespace ScriptFormat.Markup

def Segment.shown (emojis : EmojiTable) : Segment → Text
  | .plain text => showPlain emojis text
  | .tag _ _ => []

def Segment.IsPlain : Segment → Prop
  | .plain _ => True
  | .tag _ _ => False

theorem plainUnless_isPlain (text : Text) : ∀ segment ∈ plainUnless text, segment.IsPlain := by
  intro segment member
  unfold plainUnless at member
  split at member
  · cases member
  · rw [List.mem_singleton.mp member]
    exact True.intro

theorem tagSegments_isPlain (position : Nat) {slashes : Nat} (body : Text)
    (odd : slashes % 2 = 1) : ∀ segment ∈ tagSegments position slashes body, segment.IsPlain := by
  intro segment member
  rw [tagSegments, if_pos odd, List.mem_append, List.mem_singleton] at member
  rcases member with slashed | literal
  · exact plainUnless_isPlain _ segment slashed
  · rw [literal]
    exact True.intro

/-- Literal pieces make no tags. -/
theorem segmentsFrom_isPlain {pieces : List Piece} (literal : ∀ piece ∈ pieces, piece.IsLiteral)
    (position : Nat) (plain : Text) :
    ∀ segment ∈ segmentsFrom position plain pieces, segment.IsPlain := by
  induction pieces generalizing position plain with
  | nil => exact plainUnless_isPlain plain
  | cons piece rest ih =>
      obtain ⟨first, others⟩ := List.forall_mem_cons.mp literal
      cases piece with
      | point point => exact ih others (position + 1) (plain ++ [point])
      | tag slashes body =>
          intro segment member
          rw [segmentsFrom, List.mem_append, List.mem_append] at member
          rcases member with (before | tagged) | behind
          · exact plainUnless_isPlain plain segment before
          · exact tagSegments_isPlain position body first segment tagged
          · exact ih others _ _ segment behind

theorem segmentsFrom_points (position : Nat) (plain text : Text) (pieces : List Piece) :
    segmentsFrom position plain (text.map .point ++ pieces) =
      segmentsFrom (position + text.length) (plain ++ text) pieces := by
  induction text generalizing position plain with
  | nil => simp
  | cons point rest ih =>
      rw [List.map_cons, List.cons_append, segmentsFrom, ih, List.append_assoc,
        List.singleton_append, List.length_cons, Nat.add_right_comm, Nat.add_assoc]

theorem renderSegments_plain {emojis : EmojiTable} {segments : List Segment}
    (plain : ∀ segment ∈ segments, segment.IsPlain) (length : Nat) :
    renderSegments emojis length [] segments =
      .ok { text := segments.flatMap (Segment.shown emojis), spans := [] } := by
  induction segments generalizing length with
  | nil => rfl
  | cons segment rest ih =>
      obtain ⟨first, others⟩ := List.forall_mem_cons.mp plain
      cases segment with
      | tag => cases first
      | plain text =>
          rw [renderSegments, ih others]
          rfl

def Segment.text : Segment → Text
  | .plain text => text
  | .tag _ _ => []

theorem renderSegments_of_clear (emojis other : EmojiTable) {segments : List Segment}
    (clear : ∀ segment ∈ segments, colon ∉ segment.text) (length : Nat) (tags : List OpenTag) :
    renderSegments emojis length tags segments = renderSegments other length tags segments := by
  induction segments generalizing length tags with
  | nil => rfl
  | cons segment rest ih =>
      obtain ⟨first, others⟩ := List.forall_mem_cons.mp clear
      cases segment with
      | plain text =>
          have same : showPlain emojis text = showPlain other text :=
            showPlain_of_notMem emojis other first
          simp only [renderSegments, same, ih others]
      | tag position body => simp only [renderSegments, ih others]

/-- Markup without a colon renders in the same way whichever emojis there are. -/
theorem render_of_clear (emojis other : EmojiTable) {markup : Text}
    (clear : ∀ segment ∈ segments markup, colon ∉ segment.text) :
    render emojis [markup] = render other [markup] := by
  simp only [render, List.mapM_cons, List.mapM_nil, renderSegments_of_clear emojis other clear]

/-- The stretches in which literal pieces are shown: the text between tags, half of the backslashes
in front of a tag, and the tag itself. -/
def stretchesFrom : Text → List Piece → List Text
  | plain, [] => [plain]
  | plain, .point point :: rest => stretchesFrom (plain ++ [point]) rest
  | plain, .tag slashes body :: rest =>
      plain :: backslashes (slashes / 2) :: ([opening] ++ body ++ [closing]) ::
        stretchesFrom [] rest

theorem flatMap_plainUnless (emojis : EmojiTable) (text : Text) :
    (plainUnless text).flatMap (Segment.shown emojis) = showPlain emojis text := by
  cases text with
  | nil => rfl
  | cons point rest => exact List.flatMap_singleton ..

/-- Wherever they start, literal pieces are shown stretch by stretch. -/
theorem flatMap_segmentsFrom (emojis : EmojiTable) {pieces : List Piece}
    (literal : ∀ piece ∈ pieces, piece.IsLiteral) (position : Nat) (plain : Text) :
    (segmentsFrom position plain pieces).flatMap (Segment.shown emojis) =
      (stretchesFrom plain pieces).flatMap (showPlain emojis) := by
  induction pieces generalizing position plain with
  | nil =>
      rw [segmentsFrom, flatMap_plainUnless, stretchesFrom, List.flatMap_singleton]
  | cons piece rest ih =>
      obtain ⟨first, others⟩ := List.forall_mem_cons.mp literal
      cases piece with
      | point point => exact ih others (position + 1) (plain ++ [point])
      | tag slashes body =>
          have odd : slashes % 2 = 1 := first
          rw [segmentsFrom, tagSegments, if_pos odd, stretchesFrom]
          simp only [List.flatMap_append, List.flatMap_cons, flatMap_plainUnless, ih others,
            List.append_assoc]
          rfl

/-! ## Headings -/

/-- A style whose name is its own one form, and no closing tag, handler or unreadable style. -/
structure IsStyle (style : Text) : Prop where
  whole : splitBody style = (style, none)
  closes : splitBody (slash :: style) = (slash :: style, none)
  opens : ∃ first rest, style = first :: rest ∧ first ≠ slash
  trimmed : style.trim = style
  normal : normalized style = .ok style
  noHandler : style.startsWith "@" = false
  readable : (Style.read style).isOk = true

section Heading

variable {style : Text} {emojis : EmojiTable}

theorem applyTag_opening (styled : IsStyle style) (position length : Nat) (tags : List OpenTag) :
    applyTag position length style tags =
      .ok ({ name := style, parameters := none, start := length } :: tags, []) := by
  obtain ⟨first, rest, shape, notSlash⟩ := styled.opens
  simp only [applyTag, styled.whole]
  split
  · exact absurd (List.cons.inj shape).1.symm notSlash
  · rw [styled.normal]
    rfl

theorem close_style (styled : IsStyle style) (position start : Nat) (body : Text)
    (tags : List OpenTag) :
    close position body style ({ name := style, parameters := none, start } :: tags) =
      .ok ({ name := style, parameters := none, start }, tags) := by
  obtain ⟨first, rest, shape, _⟩ := styled.opens
  have named : style.trim.isEmpty = false := by
    rw [styled.trimmed, shape]
    rfl
  rw [close, named, styled.trimmed, styled.normal]
  simp [bind, Except.bind, pure, Except.pure]

theorem applyTag_closing (styled : IsStyle style) (position length start : Nat)
    (tags : List OpenTag) :
    applyTag position length (slash :: style)
        ({ name := style, parameters := none, start } :: tags) =
      .ok (tags, [{ start, stop := length, style }]) := by
  have ends : OpenTag.closedAt { name := style, parameters := none, start } length =
      .ok [{ start, stop := length, style }] := by
    rw [OpenTag.closedAt, OpenTag.isHandler, styled.noHandler]
    rfl
  rw [applyTag, styled.closes]
  change (do
    let closed ← close position (slash :: style) style _
    return (closed.2, ← closed.1.closedAt length)) = _
  rw [close_style styled]
  change (do return (tags, ← OpenTag.closedAt _ length)) = _
  rw [ends]
  rfl

def headed (style title : Text) (pieces : List Piece) : List Piece :=
  .tag 0 style :: (title.map .point ++ .tag 0 (slash :: style) :: pieces)

/-- Only the two tags of the heading are tags. -/
theorem segments_headed {markup title : Text} {pieces : List Piece} (titled : title ≠ [])
    (scanned : scan markup = headed style title pieces) :
    let closed := style.length + 2 + title.length
    segments markup = .tag 0 style :: .plain title :: .tag closed (slash :: style) ::
      segmentsFrom (closed + style.length + 3) [] pieces := by
  have shown : plainUnless title = [.plain title] := by
    rw [plainUnless, List.isEmpty_eq_false_iff.mpr titled]
    rfl
  rw [segments, scanned, headed, segmentsFrom, segmentsFrom_points, segmentsFrom, List.nil_append,
    shown]
  simp only [List.length_cons, Nat.zero_add, Nat.add_zero]
  rfl

theorem renderSegments_headed (styled : IsStyle style) (title : Text) (position : Nat)
    {plain : List Segment} (untagged : ∀ segment ∈ plain, segment.IsPlain) :
    renderSegments emojis 0 []
        (.tag 0 style :: .plain title :: .tag position (slash :: style) :: plain) =
      .ok { text := showPlain emojis title ++ plain.flatMap (Segment.shown emojis)
            spans := [{ start := 0, stop := (showPlain emojis title).length, style }] } := by
  rw [renderSegments, applyTag_opening styled]
  simp only [bind, Except.bind, renderSegments]
  rw [applyTag_closing styled]
  simp only [renderSegments_plain untagged]
  simp [pure, Except.pure]

theorem joined_text (rendering : Rendering) :
    (Rendering.joined 0 [rendering]).text = rendering.text := by
  simp [Rendering.joined]

theorem styleFault?_joined (rendering : Rendering)
    (readable : ∀ span ∈ rendering.spans, (Style.read span.style).isOk = true) :
    (Rendering.joined 0 [rendering]).styleFault? = none := by
  rw [Rendering.styleFault?, List.findSome?_eq_none_iff]
  intro span member
  have source : ∃ original ∈ rendering.spans, span.style = original.style := by
    simp only [Rendering.joined, List.append_nil, List.mem_map, Rendering.sorted,
      List.mem_mergeSort, List.mem_reverse] at member
    obtain ⟨original, inside, same⟩ := member
    exact ⟨original, inside, by rw [← same]⟩
  obtain ⟨original, inside, same⟩ := source
  have read := readable original inside
  rw [same]
  cases found : Style.read original.style with
  | ok => rfl
  | error fault =>
      rw [found] at read
      cases read

/-- A heading with literal text behind it always renders, and shows the title and the text. -/
theorem render_headed (styled : IsStyle style) {markup title : Text} {pieces : List Piece}
    (titled : title ≠ []) (scanned : scan markup = headed style title pieces)
    (literal : ∀ piece ∈ pieces, piece.IsLiteral) :
    render emojis [markup] = .ok (showPlain emojis title ++
      (stretchesFrom [] pieces).flatMap (showPlain emojis)) := by
  let closed := style.length + 2 + title.length
  have found := segments_headed titled scanned
  have rendered := @renderSegments_headed style emojis styled title closed _
    (segmentsFrom_isPlain literal (closed + style.length + 3) [])
  rw [flatMap_segmentsFrom emojis literal] at rendered
  have clean := styleFault?_joined
    { text := showPlain emojis title ++ (stretchesFrom [] pieces).flatMap (showPlain emojis)
      spans := [{ start := 0, stop := (showPlain emojis title).length, style }] }
    (by simpa using styled.readable)
  rw [render, List.mapM_cons, List.mapM_nil, found, rendered]
  simp only [bind, Except.bind, pure, Except.pure, clean, joined_text]

end Heading

end ScriptFormat.Markup
