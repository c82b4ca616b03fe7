import ScriptFormat.Proofs.Program.Diagnostics

/-!
# Reports do not fail

Texts from outside are put behind a heading, and the tags of the heading are the only ones
that are found in the markup. So no text acts as markup, whatever it says, and no report of a
fault that the boundary deals with is stopped by another fault.
-/

namespace ScriptFormat

open Markup Run

namespace Markup

def Segment.tag? : Segment → Option (Nat × Text)
  | .plain _ => none
  | .tag position body => some (position, body)

def tags (markup : Text) : List (Nat × Text) := (segments markup).filterMap Segment.tag?

def headingTags (style : Text) (stop : Nat) : List (Nat × Text) :=
  [(0, style), (stop, slash :: style)]

theorem filterMap_tag?_plain {segments : List Segment}
    (plain : ∀ segment ∈ segments, segment.IsPlain) : segments.filterMap Segment.tag? = [] := by
  rw [List.filterMap_eq_nil_iff]
  intro segment member
  cases segment with
  | plain => rfl
  | tag => cases plain _ member

/-- Behind a heading literal pieces are no tags. -/
theorem tags_headed {style title markup : Text} {pieces : List Piece} (titled : title ≠ [])
    (scanned : scan markup = headed style title pieces)
    (literal : ∀ piece ∈ pieces, piece.IsLiteral) :
    tags markup = headingTags style (style.length + 2 + title.length) := by
  rw [tags, segments_headed titled scanned]
  have none := filterMap_tag?_plain
    (segmentsFrom_isPlain literal (style.length + 2 + title.length + style.length + 3) [])
  simp only [List.filterMap_cons, Segment.tag?, none]
  rfl

end Markup

/-- A fault that the boundary deals with: any but a signal, of a class with a name that has no
bracket in it. -/
structure Fault.Handled (fault : Fault) : Prop where
  noSignal : ∀ name message, fault ≠ .foreign .signal name message
  named : fault.Named

namespace Program

theorem conclusion_handled {raised : Raised} (handled : raised.fault.Handled) (console : Console) :
    conclusion console raised = .ok raised.fault.status := by
  obtain ⟨fault, cause⟩ := raised
  cases fault with
  | exit => rfl
  | typed => rfl
  | interrupt => rfl
  | foreign family name message =>
      have ordinary : (Fault.foreign family name message).isOrdinary = true := by
        cases family with
        | signal => exact absurd rfl (handled.noSignal name message)
        | _ => rfl
      change (if _ then _ else _) = _
      rw [if_pos ordinary, unexpected_named (handled.named ordinary)]
      rfl
  | _ => exact unexpected_named (handled.named rfl) console

/-- The boundary ends with the status for a fault, whatever its message says. -/
theorem report_handled {raised : Raised} (handled : raised.fault.Handled) (world : World) :
    (report raised).result world = .ok raised.fault.status := by
  rw [(report_yields raised world).result_eq, conclusion_handled handled]

theorem cli_handled {engine : Engine} {arguments : List Text} {world : World} {raised : Raised}
    (handled : raised.fault.Handled)
    (stopped : (main engine arguments).result world = .error raised) :
    (cli engine arguments).result world = .ok raised.fault.status := by
  rw [Run.result, cli_of_error stopped]
  exact report_handled handled _

/-- Whatever a text says, no tag is found in the markup around it but those of the heading, so it is
always shown. Whatever fault of those that the boundary deals with stops a run, the whole run ends
with the status for it. -/
theorem text_is_no_markup (text : Text) {name : Text} (named : opening ∉ name) :
    (∀ piece ∈ scan (escape text), piece.IsLiteral) ∧
      tags ("[bold red]Error:[/bold red] " ++ escape text) = headingTags "bold red" 16 ∧
      tags ("[yellow]Hint:[/yellow] " ++ escape text) = headingTags "yellow" 13 ∧
      tags ("[bold red]Unexpected error.[/bold red] Please report this issue.\n  " ++ name ++
        ": " ++ escape text) = headingTags "bold red" 27 ∧
      (∀ console : Console, (∃ shown, console.printError text = .ok shown) ∧
        (∃ shown, console.printHint text = .ok shown) ∧
        ∀ fault : Fault, fault.name = name → fault.message = text →
          ∃ shown, console.printUnexpected fault = .ok shown) ∧
      ∀ engine arguments world raised, raised.fault.Handled →
        (main engine arguments).result world = .error raised →
        (cli engine arguments).result world = .ok raised.fault.status := by
  have literal := Console.spaced_isLiteral text
  refine ⟨scan_escape_isLiteral text, ?_, ?_, ?_, fun console => ⟨?_, ?_, ?_⟩, ?_⟩
  · exact tags_headed (by decide) (Console.scan_error text) literal
  · exact tags_headed (by decide) (Console.scan_hint text) literal
  · exact tags_headed (by decide) (Console.scan_unexpected named text)
      (Console.report_isLiteral name text)
  · exact console.printError_shows text
  · exact console.printHint_shows text
  · rintro fault rfl _
    exact console.printUnexpected_shows named
  · intro engine arguments world raised handled stopped
    exact cli_handled handled stopped

/-- A closing tag and backslashes in a message close nothing. -/
theorem text_is_no_markup_of_tag :
    let text : Text := "[/bold red]\\[x]\\"
    opening ∉ Text.ofString "RuntimeError" ∧
      tags ("[bold red]Error:[/bold red] " ++ escape text) = headingTags "bold red" 16 ∧
      ∃ shown, (Console.rendering .empty).printError text = .ok shown := by
  intro text
  have named : opening ∉ Text.ofString "RuntimeError" := by decide
  obtain ⟨_, found, _, _, shown, _⟩ := text_is_no_markup text named
  exact ⟨named, found, (shown (.rendering .empty)).1⟩

end Program

end ScriptFormat
