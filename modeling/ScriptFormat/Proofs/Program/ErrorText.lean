import ScriptFormat.Proofs.Program.Boundary
import ScriptFormat.Proofs.Program.Course

/-!
# The text of an error

Without markup an error and its hint are shown as they are. With markup they are shown as
they are exactly if both are verbatim texts: escaping keeps tags from acting, but not emoji
codes, nor what the renderer makes of tabs, control characters and some backslashes.
-/

namespace ScriptFormat

open Markup Run

namespace Console

/-- What a console shows of a text behind a label: without markup the text as it is, and with
markup so exactly for the verbatim texts. -/
structure Shows (console : Console) (label text shown : Text) : Prop where
  plain : console = .plain → shown = label ++ text ++ "\n"
  rendering : ∀ emojis, console = .rendering emojis →
    (shown = label ++ text ++ "\n" ↔ Verbatim emojis text)

theorem shows_plain (label text : Text) :
    Console.plain.Shows label text (label ++ text ++ "\n") where
  plain _ := rfl
  rendering _ impossible := nomatch impossible

theorem shows_rendering (emojis : EmojiTable) {label : Text} (clear : Text.tab ∉ label)
    (text : Text) : (Console.rendering emojis).Shows label text
      (Text.expandTabs (label ++ shownIn emojis text) ++ "\n") where
  plain impossible := nomatch impossible
  rendering := by
    rintro _ ⟨⟩
    rw [List.append_left_inj]
    exact verbatim_iff emojis clear text

theorem Line.shows {console : Console} {label text line : Text} (clear : Text.tab ∉ label)
    (told : console.Line label text line) : console.Shows label text line := by
  cases told with
  | plain => exact shows_plain label text
  | rendering emojis => exact shows_rendering emojis clear text

theorem printError_text (console : Console) (message : Text) :
    ∃ shown, console.printError message = .ok shown ∧ console.Shows "Error: " message shown :=
  (console.printError_line message).imp fun _ => And.imp_right (Line.shows (by decide))

theorem printHint_text (console : Console) (hint : Text) :
    ∃ shown, console.printHint hint = .ok shown ∧ console.Shows "Hint: " hint shown :=
  (console.printHint_line hint).imp fun _ => And.imp_right (Line.shows (by decide))

end Console

theorem World.complain_nil (world : World) : world.complain [] = world := by
  change { world with errors := world.errors ++ [] } = world
  rw [List.append_nil]

namespace Program

/-- An error is always shown, with one line for the message and, if there is anything in the hint,
one for the hint. Without markup both are shown as they are, and with markup exactly where they are
verbatim texts. -/
theorem showError_text (message : Text) (hint : Option Text) (world : World) :
    ∃ first second : Text, showError message hint world =
        .ok () ((world.complain first).complain second) ∧
      world.console.Shows "Error: " message first ∧
      (hint = none ∨ hint = some [] → second = []) ∧
      ∀ text, hint = some text → text ≠ [] → world.console.Shows "Hint: " text second := by
  obtain ⟨first, printed, shows⟩ := world.console.printError_text message
  by_cases nothing : hint = none ∨ hint = some []
  · refine ⟨first, [], ?_, shows, fun _ => rfl, ?_⟩
    · rw [World.complain_nil]
      exact showError_alone printed nothing
    · rintro text rfl apart
      rcases nothing with none | empty
      · cases none
      · exact absurd (Option.some.inj empty) apart
  · obtain ⟨text, rfl⟩ := Option.ne_none_iff_exists'.mp fun none => nothing (.inl none)
    have apart : text ≠ [] := fun empty => nothing (.inr (congrArg some empty))
    obtain ⟨second, advised, hints⟩ := world.console.printHint_text text
    refine ⟨first, second, showError_hinted printed apart advised, shows, ?_, ?_⟩
    · exact fun empty => absurd empty nothing
    · rintro _ ⟨⟩ _
      exact hints

/-- Where the renderer knows an emoji, its code is replaced in a message. -/
theorem showError_replaces_code :
    let emojis : EmojiTable := ⟨[("smile", [0x1F604])], by decide⟩
    let world : World := { desk with console := .rendering emojis }
    ((showError ":smile:" none).after world).errors =
        Text.ofString "Error: " ++ 0x1F604 :: Text.ofString "\n" ∧
      ((showError ":smile:" none).after world).errors ≠ "Error: :smile:\n" ∧
      ((showError ":smile:" none).after { world with console := .plain }).errors =
        "Error: :smile:\n" := by
  decide +kernel

end Program

end ScriptFormat
