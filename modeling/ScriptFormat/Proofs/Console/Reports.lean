import ScriptFormat.Console
import ScriptFormat.Proofs.Markup.Verbatim

/-!
# Reports always show

Every message for the user can be printed, with markup and without: whatever an
error or its hint says, and whatever an unexpected fault says, if the name of its
class has no bracket in it.
-/

namespace ScriptFormat

open Markup

theorem eq_ok_of_toOption {ε α : Type} {result : Except ε α} {value : α}
    (found : result.toOption = some value) : result = .ok value := by
  cases result with
  | ok => exact congrArg Except.ok (Option.some.inj found)
  | error => cases found

theorem isStyle_boldRed : IsStyle "bold red" where
  whole := by decide +kernel
  closes := by decide +kernel
  opens := ⟨98, _, rfl, by decide⟩
  trimmed := by decide +kernel
  normal := eq_ok_of_toOption (by decide +kernel)
  noHandler := by decide +kernel
  readable := by decide +kernel

theorem isStyle_yellow : IsStyle "yellow" where
  whole := by decide +kernel
  closes := by decide +kernel
  opens := ⟨121, _, rfl, by decide⟩
  trimmed := by decide +kernel
  normal := eq_ok_of_toOption (by decide +kernel)
  noHandler := by decide +kernel
  readable := by decide +kernel

namespace Console

/-- Markup under a heading, with literal pieces behind it, is shown stretch by stretch. -/
theorem print_headed (emojis : EmojiTable) {style title markup : Text} {pieces : List Piece}
    (styled : IsStyle style) (titled : title ≠ [])
    (scanned : scan markup = headed style title pieces)
    (literal : ∀ piece ∈ pieces, piece.IsLiteral) (instead : Text) :
    (rendering emojis).print [markup] (some instead) =
      .ok (Text.expandTabs (showPlain emojis title ++
        (stretchesFrom [] pieces).flatMap (showPlain emojis)) ++ "\n") := by
  rw [print, Console.rendered, render_headed styled titled scanned literal]
  rfl

def spaced (text : Text) : List Piece := .point 32 :: scan (Markup.escape text)

theorem spaced_isLiteral (text : Text) : ∀ piece ∈ spaced text, piece.IsLiteral :=
  List.forall_mem_cons.mpr ⟨True.intro, scan_escape_isLiteral text⟩

theorem scan_error (message : Text) :
    scan ("[bold red]Error:[/bold red] " ++ Markup.escape message) =
      headed "bold red" "Error:" (spaced message) := rfl

theorem scan_hint (hint : Text) :
    scan ("[yellow]Hint:[/yellow] " ++ Markup.escape hint) =
      headed "yellow" "Hint:" (spaced hint) := rfl

/-- The line that a console shows of a text behind a label: without markup the text as it is, and
with markup what the renderer shows of it. -/
inductive Line (label text : Text) : Console → Text → Prop where
  | plain : Line label text .plain (label ++ text ++ "\n")
  | rendering (emojis : EmojiTable) :
      Line label text (.rendering emojis) (Text.expandTabs (label ++ shownIn emojis text) ++ "\n")

/-- A title is shown up to the space behind it, and the space with the text. -/
theorem flatMap_spaced (emojis : EmojiTable) (text : Text) :
    (stretchesFrom [] (spaced text)).flatMap (showPlain emojis) = 32 :: shownIn emojis text :=
  flatMap_stretchesFrom_blank emojis [] (scan (Markup.escape text))

theorem printError_line (console : Console) (message : Text) :
    ∃ line, console.printError message = .ok line ∧ console.Line "Error: " message line := by
  cases console with
  | plain => exact ⟨_, rfl, .plain⟩
  | rendering emojis =>
      have printed : (rendering emojis).printError message = _ :=
        print_headed emojis isStyle_boldRed (by decide) (scan_error message)
          (spaced_isLiteral message) _
      rw [flatMap_spaced] at printed
      exact ⟨_, printed, .rendering emojis⟩

theorem printHint_line (console : Console) (hint : Text) :
    ∃ line, console.printHint hint = .ok line ∧ console.Line "Hint: " hint line := by
  cases console with
  | plain => exact ⟨_, rfl, .plain⟩
  | rendering emojis =>
      have printed : (rendering emojis).printHint hint = _ :=
        print_headed emojis isStyle_yellow (by decide) (scan_hint hint) (spaced_isLiteral hint) _
      rw [flatMap_spaced] at printed
      exact ⟨_, printed, .rendering emojis⟩

theorem printError_shows (console : Console) (message : Text) :
    ∃ shown, console.printError message = .ok shown :=
  (console.printError_line message).imp fun _ both => both.1

theorem printHint_shows (console : Console) (hint : Text) :
    ∃ shown, console.printHint hint = .ok shown :=
  (console.printHint_line hint).imp fun _ both => both.1

theorem points_isLiteral (text : Text) : ∀ piece ∈ text.map Piece.point, piece.IsLiteral := by
  intro piece member
  obtain ⟨point, _, same⟩ := List.mem_map.mp member
  rw [← same]
  exact True.intro

def reportFront (name : Text) : List Piece :=
  (Text.ofString " Please report this issue.\n  " ++ name ++ Text.ofString ":").map .point

theorem scan_unexpected {name : Text} (named : opening ∉ name) (message : Text) :
    scan ("[bold red]Unexpected error.[/bold red] Please report this issue.\n  " ++ name ++ ": " ++
        Markup.escape message) =
      headed "bold red" "Unexpected error." (reportFront name ++ spaced message) := by
  have clear : opening ∉ Text.ofString " Please report this issue.\n  " ++ name := by
    rw [List.mem_append]
    exact fun inside => inside.elim (by decide) named
  have behind : scan ((Text.ofString " Please report this issue.\n  " ++ name) ++
      58 :: 32 :: Markup.escape message) = reportFront name ++ spaced message :=
    scanFrom_clear clear 58 (by decide) (by decide) 0 (32 :: Markup.escape message)
  rw [← behind, List.append_assoc, List.append_assoc]
  rfl

theorem report_isLiteral (name message : Text) :
    ∀ piece ∈ reportFront name ++ spaced message, piece.IsLiteral := by
  intro piece member
  rcases List.mem_append.mp member with front | rest
  · exact points_isLiteral _ piece front
  · exact spaced_isLiteral message piece rest

theorem printUnexpected_shows (console : Console) {fault : Fault} (named : opening ∉ fault.name) :
    ∃ shown, console.printUnexpected fault = .ok shown := by
  cases console with
  | plain => exact ⟨_, rfl⟩
  | rendering emojis =>
      exact ⟨_, print_headed emojis isStyle_boldRed (by decide)
        (scan_unexpected named fault.message) (report_isLiteral fault.name fault.message) _⟩

/-- Markup without a colon is printed as it is where no emoji is known. -/
theorem print_of_clear (emojis : EmojiTable) {markup shown : Text} {instead : Option Text}
    (clear : ∀ segment ∈ segments markup, colon ∉ segment.text)
    (printed : ((rendering .empty).print [markup] instead).toOption = some shown) :
    (rendering emojis).print [markup] instead = .ok shown := by
  refine Eq.trans ?_ (eq_ok_of_toOption printed)
  simp only [print, rendered, render_of_clear emojis .empty clear]

theorem printAborted_shows (console : Console) :
    ∃ shown, console.printAborted = .ok shown := by
  cases console with
  | plain => exact ⟨_, rfl⟩
  | rendering emojis =>
      have clear : ∀ segment ∈ segments "\n[yellow]Aborted by user.[/yellow]",
          colon ∉ segment.text := by
        decide +kernel
      have printed : (printAborted (.rendering .empty)).toOption = some "\nAborted by user.\n" := by
        decide +kernel
      exact ⟨_, print_of_clear emojis clear printed⟩

theorem printDifference_shows (console : Console) :
    ∃ shown, console.printDifference "The file is not formatted" = .ok shown := by
  cases console with
  | plain => exact ⟨_, rfl⟩
  | rendering emojis =>
      have clear : ∀ segment ∈ segments
          ("[bold yellow]" ++ Text.ofString "The file is not formatted" ++ "[/bold yellow]"),
          colon ∉ segment.text := by
        decide +kernel
      have printed : (printDifference (.rendering .empty) "The file is not formatted").toOption =
          some "The file is not formatted\n" := by
        decide +kernel
      exact ⟨_, print_of_clear emojis clear printed⟩

end Console

end ScriptFormat
