import ScriptFormat.Proofs.CommandLine.Drafts
import ScriptFormat.Proofs.CommandLine.Flags

/-!
# Operands along a command line

Which of the items that are taken are operands, and what becomes of them: a size takes the
one behind it, the first of the others is the file, and all the rest are left over. Whether
items are refused does not depend on the operands among them, so one more of them is only
left over.
-/

namespace ScriptFormat.CommandLine

variable {draft middle next : Draft} {list front back rest : List Item} {texts : List Text}

namespace Draft

/-- The first operand is the file, and a later one is left over. -/
def offer (draft : Draft) (text : Text) : Draft :=
  if draft.operandTaken then draft.leave text else draft.takeOperand text

theorem offer_vacant (vacant : draft.operandTaken = false) (text : Text) :
    draft.offer text = draft.takeOperand text := by
  rw [offer, vacant]
  rfl

theorem offer_occupied (occupied : draft.operandTaken = true) (text : Text) :
    draft.offer text = draft.leave text := by
  rw [offer, if_pos occupied]

theorem leftOver_foldl_offer (texts : List Text) (occupied : draft.operandTaken = true) :
    (texts.foldl offer draft).leftOver = draft.leftOver ++ texts := by
  induction texts generalizing draft with
  | nil => exact (List.append_nil _).symm
  | cons text rest ih =>
      rw [List.foldl_cons, offer_occupied occupied]
      have later : (draft.leave text).operandTaken = true := occupied
      rw [ih later, Draft.leave, List.append_assoc]
      rfl

theorem input_foldl_offer (texts : List Text) (occupied : draft.operandTaken = true) :
    (texts.foldl offer draft).invocation.input = draft.invocation.input := by
  induction texts generalizing draft with
  | nil => rfl
  | cons text rest ih =>
      rw [List.foldl_cons, offer_occupied occupied]
      exact ih occupied

end Draft

/-- The file is the same, and all that is left over of the one is left over of the other. -/
structure Covers (draft next : Draft) : Prop where
  operandTaken : next.operandTaken = draft.operandTaken
  input : next.invocation.input = draft.invocation.input
  leftOver : draft.leftOver.Sublist next.leftOver

namespace Covers

theorem refl (draft : Draft) : Covers draft draft := ⟨rfl, rfl, .refl _⟩

theorem trans (first : Covers draft middle) (second : Covers middle next) : Covers draft next where
  operandTaken := second.operandTaken.trans first.operandTaken
  input := second.input.trans first.input
  leftOver := first.leftOver.trans second.leftOver

theorem leave (draft : Draft) (text : Text) : Covers draft (draft.leave text) :=
  ⟨rfl, rfl, List.sublist_append_left _ _⟩

theorem of_keeps (kept : KeepsOperand draft next) : Covers draft next :=
  ⟨kept.operandTaken, kept.input, kept.leftOver ▸ .refl _⟩

theorem offer (covers : Covers draft next) (text : Text) :
    Covers (draft.offer text) (next.offer text) := by
  cases taken : draft.operandTaken with
  | false =>
      rw [Draft.offer_vacant taken, Draft.offer_vacant (covers.operandTaken.trans taken)]
      exact ⟨rfl, rfl, covers.leftOver⟩
  | true =>
      rw [Draft.offer_occupied taken, Draft.offer_occupied (covers.operandTaken.trans taken)]
      exact ⟨covers.operandTaken, covers.input, covers.leftOver.append_right [text]⟩

theorem foldl_offer (covers : Covers draft next) (texts : List Text) :
    Covers (texts.foldl Draft.offer draft) (texts.foldl Draft.offer next) := by
  induction texts generalizing draft next with
  | nil => exact covers
  | cons text rest ih => exact ih (covers.offer text)

/-- What is left over on the way stays so behind. -/
theorem onward (covers : Covers draft middle)
    (behind : ∃ next, take rest middle = .ok next ∧ Covers (texts.foldl Draft.offer middle) next) :
    ∃ next, take rest middle = .ok next ∧ Covers (texts.foldl Draft.offer draft) next := by
  obtain ⟨next, goes, later⟩ := behind
  exact ⟨next, goes, (covers.foldl_offer texts).trans later⟩

/-- Of the operands offered the first is the file, and all the rest are left over. -/
theorem first_offered (vacant : draft.operandTaken = false) {first : Text} {rest : List Text}
    (covers : Covers ((first :: rest).foldl Draft.offer draft) next) :
    next.invocation.input = some (.ofText first) ∧ rest.Sublist next.leftOver := by
  rw [List.foldl_cons, Draft.offer_vacant vacant] at covers
  have occupied : (draft.takeOperand first).operandTaken = true := rfl
  constructor
  · exact covers.input.trans (Draft.input_foldl_offer rest occupied)
  · have later := covers.leftOver
    rw [Draft.leftOver_foldl_offer rest occupied] at later
    exact (List.sublist_append_right _ _).trans later

end Covers

/-! ## Items that pass -/

/-- Items of which none is refused at its place, with the operands among them that are no sizes. -/
inductive Passes : List Item → List Text → Prop where
  | done : Passes [] []
  | closed {rest : List Item} {texts : List Text} (text : Text) (behind : Passes rest texts) :
      Passes (.operand text :: .separator :: rest) (text :: texts)
  | operand {rest : List Item} {texts : List Text} (text : Text)
      (apart : ∀ others, rest ≠ .separator :: others) (behind : Passes rest texts) :
      Passes (.operand text :: rest) (text :: texts)
  | separator {rest : List Item} {texts : List Text} (behind : Passes rest texts) :
      Passes (.separator :: rest) texts
  | unknown {rest : List Item} {texts : List Text} (text : Text) (behind : Passes rest texts) :
      Passes (.unknown text :: rest) texts
  | attached {switch : Switch} {spelling attached : Text} {rest : List Item} {texts : List Text}
      (goes : ∀ draft, ∃ next, takeAttached draft switch spelling attached = .ok next)
      (behind : Passes rest texts) :
      Passes (.known switch spelling (some attached) :: rest) texts
  | sized {spelling value : Text} {rest : List Item} {texts : List Text}
      (goes : ∀ draft : Draft, ∃ next, draft.setIndent value = .ok next)
      (behind : Passes rest texts) :
      Passes (.known .indentSize spelling none :: .operand value :: rest) texts
  | turned {switch : Switch} {spelling : Text} {rest : List Item} {texts : List Text}
      (noValue : switch ≠ .indentSize)
      (goes : ∀ draft : Draft, ∃ next, draft.turnOn switch = .ok next)
      (behind : Passes rest texts) :
      Passes (.known switch spelling none :: rest) texts

/-- Whether a switch is refused does not depend on what was taken before. -/
theorem any_switched : Switched fun _ _ => True where
  turnOn switch _ := by
    cases switch with
    | help => exact .refused _
    | version => exact .refused _
    | _ => exact .taken trivial
  setIndent {draft other} value _ := by
    unfold Draft.setIndent
    cases indentOf value with
    | ok size => exact .taken trivial
    | error ending => exact .refused ending

theorem Ends.goes {related : Draft → Draft → Prop} {step : Draft → Except Ending Draft}
    (alike : ∀ other, Ends related (step draft) (step other)) (done : step draft = .ok next)
    (other : Draft) : ∃ next, step other = .ok next := by
  have same := alike other
  rw [done] at same
  obtain ⟨next, goes, _⟩ := same.of_ok
  exact ⟨next, goes⟩

namespace Passes

theorem cons_operand (text : Text) (passes : Passes list texts) :
    Passes (.operand text :: list) (text :: texts) := by
  cases list with
  | nil => exact .operand text (by simp) passes
  | cons item rest =>
      cases item with
      | separator =>
          cases passes with
          | separator behind => exact .closed text behind
      | _ => exact .operand text (by simp) passes

/-- What is taken passes. -/
theorem of_take (taken : take list draft = .ok next) : ∃ texts, Passes list texts := by
  fun_induction take list draft with
  | case1 => exact ⟨[], .done⟩
  | case2 text rest draft _ ih =>
      obtain ⟨texts, behind⟩ := ih taken
      exact ⟨text :: texts, .closed text behind⟩
  | case3 text rest draft _ ih =>
      obtain ⟨texts, behind⟩ := ih taken
      exact ⟨text :: texts, .closed text behind⟩
  | case4 text rest draft _ ih =>
      obtain ⟨texts, behind⟩ := ih taken
      exact ⟨text :: texts, behind.cons_operand text⟩
  | case5 rest draft ih =>
      obtain ⟨texts, behind⟩ := ih taken
      exact ⟨texts, .separator behind⟩
  | case6 text rest draft ih =>
      obtain ⟨texts, behind⟩ := ih taken
      exact ⟨texts, .unknown text behind⟩
  | case7 switch spelling attached rest draft middle took ih =>
      obtain ⟨texts, behind⟩ := ih taken
      refine ⟨texts, .attached ?_ behind⟩
      exact Ends.goes (fun _ => any_switched.takeAttached switch spelling attached trivial) took
  | case8 => cases taken
  | case9 spelling value rest draft middle set ih =>
      obtain ⟨texts, behind⟩ := ih taken
      refine ⟨texts, .sized ?_ behind⟩
      exact Ends.goes (fun _ => any_switched.setIndent value trivial) set
  | case10 => cases taken
  | case11 => cases taken
  | case12 switch spelling rest draft _ noValue middle turned ih =>
      obtain ⟨texts, behind⟩ := ih taken
      refine ⟨texts, .turned noValue ?_ behind⟩
      exact Ends.goes (fun _ => any_switched.turnOn switch trivial) turned
  | case13 => cases taken

/-- Items that pass are taken from any draft, and the operands among them are offered to it one
after the other. -/
theorem take (passes : Passes list texts) (draft : Draft) :
    ∃ next, take list draft = .ok next ∧ Covers (texts.foldl Draft.offer draft) next := by
  induction passes generalizing draft with
  | done => exact ⟨draft, rfl, .refl draft⟩
  | closed text _ ih =>
      rw [CommandLine.take, List.foldl_cons]
      cases taken : draft.operandTaken with
      | false =>
          rw [Draft.offer_vacant taken]
          exact ih (draft.takeOperand text)
      | true =>
          rw [Draft.offer_occupied taken]
          exact (Covers.leave _ _).onward (ih _)
  | operand text apart _ ih =>
      rw [CommandLine.take]
      · exact ih (draft.offer text)
      · exact fun others same => apart others same
  | separator _ ih =>
      rw [CommandLine.take]
      cases draft.operandTaken with
      | false => exact ih draft
      | true => exact (Covers.leave _ _).onward (ih _)
  | unknown text _ ih =>
      rw [CommandLine.take]
      exact (Covers.leave _ _).onward (ih _)
  | attached goes _ ih =>
      obtain ⟨middle, took⟩ := goes draft
      rw [CommandLine.take, took]
      exact (Covers.of_keeps (keepsOperand_of_takeAttached took)).onward (ih middle)
  | sized goes _ ih =>
      obtain ⟨middle, set⟩ := goes draft
      rw [CommandLine.take, set]
      exact (Covers.of_keeps (keepsOperand_of_setIndent set)).onward (ih middle)
  | turned noValue goes _ ih =>
      obtain ⟨middle, turned⟩ := goes draft
      rw [take_switch noValue turned]
      exact (Covers.of_keeps (keepsOperand_of_turnOn turned)).onward (ih middle)

end Passes

/-- No size waits for its value at the end of the items. -/
def Settled (front : List Item) : Prop :=
  ∀ spelling, front.getLast? ≠ some (.known .indentSize spelling none)

theorem Settled.tail {item : Item} (settled : Settled (item :: front)) : Settled front := by
  intro spelling waits
  apply settled spelling
  rw [List.getLast?_cons, waits]
  rfl

/-- One more operand passes behind settled items. -/
theorem Passes.inserted (text : Text) (front : List Item) {texts : List Text}
    (passes : Passes (front ++ back) texts) (settled : Settled front) :
    ∃ first second, texts = first ++ second ∧
      Passes (front ++ .operand text :: back) (first ++ text :: second) := by
  match front with
  | [] => exact ⟨[], texts, rfl, passes.cons_operand text⟩
  | item :: front =>
      have later := settled.tail
      rw [List.cons_append] at passes
      generalize whole : front ++ back = list at passes
      cases passes with
      | @closed rest texts operand behind =>
          cases front with
          | nil =>
              cases whole
              exact ⟨[operand], texts, rfl, (closed text behind).cons_operand operand⟩
          | cons _ front =>
              cases whole
              obtain ⟨first, second, rfl, passes⟩ := inserted text front behind later.tail
              exact ⟨operand :: first, second, rfl, .closed operand passes⟩
      | @operand _ texts operand _ behind =>
          subst whole
          obtain ⟨first, second, rfl, passes⟩ := inserted text front behind later
          exact ⟨operand :: first, second, rfl, passes.cons_operand operand⟩
      | separator behind =>
          subst whole
          obtain ⟨first, second, rfl, passes⟩ := inserted text front behind later
          exact ⟨first, second, rfl, .separator passes⟩
      | unknown other behind =>
          subst whole
          obtain ⟨first, second, rfl, passes⟩ := inserted text front behind later
          exact ⟨first, second, rfl, .unknown other passes⟩
      | attached goes behind =>
          subst whole
          obtain ⟨first, second, rfl, passes⟩ := inserted text front behind later
          exact ⟨first, second, rfl, .attached goes passes⟩
      | @sized spelling _ _ _ goes behind =>
          cases front with
          | nil => exact absurd rfl (settled spelling)
          | cons _ front =>
              cases whole
              obtain ⟨first, second, rfl, passes⟩ := inserted text front behind later.tail
              exact ⟨first, second, rfl, .sized goes passes⟩
      | turned noValue goes behind =>
          subst whole
          obtain ⟨first, second, rfl, passes⟩ := inserted text front behind later
          exact ⟨first, second, rfl, .turned noValue goes passes⟩
termination_by front.length

end ScriptFormat.CommandLine
