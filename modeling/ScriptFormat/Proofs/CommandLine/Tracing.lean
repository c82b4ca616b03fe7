import ScriptFormat.Proofs.CommandLine.Drafts
import ScriptFormat.Proofs.CommandLine.Flags

/-!
# The switch for diagnostics

Put in front of a command line, the switch for diagnostics shifts nothing: the rest is
read and taken as without it, with the same invocation but for the switch, or the same
ending.
-/

namespace ScriptFormat

def Invocation.traced (debug : Bool) (invocation : Invocation) : Invocation :=
  { invocation with debug := debug || invocation.debug }

namespace CommandLine

def traced (debug : Bool) (arguments : List Text) : List Text :=
  if debug then "--debug" :: arguments else arguments

def Draft.traced (draft : Draft) : Draft :=
  { draft with invocation := draft.invocation.traced true }

/-- Each step leaves the switch as it is and does not look at it. -/
theorem traced_respected : Respected fun draft other => other = draft.traced where
  operandTaken := by
    rintro draft _ rfl
    rfl
  leave text := by
    rintro rfl
    rfl
  takeOperand text := by
    rintro rfl
    rfl
  turnOn switch := by
    rintro rfl
    cases switch with
    | help => exact .refused _
    | version => exact .refused _
    | _ => exact .taken rfl
  setIndent value := by
    rintro rfl
    unfold Draft.setIndent
    cases indentOf value with
    | ok size => exact .taken rfl
    | error ending => exact .refused ending

theorem take_traced (list : List Item) (draft : Draft) :
    take list draft.traced = (take list draft).map Draft.traced :=
  (traced_respected.take list rfl).eq_map

theorem finish_traced (draft : Draft) :
    finish draft.traced = (finish draft).map (Invocation.traced true) := by
  unfold finish
  change (if draft.leftOver.isEmpty then _ else _) = _
  split <;> rfl

/-- The switch in front changes nothing but itself. -/
theorem parse_traced (debug : Bool) (arguments : List Text) :
    parse (traced debug arguments) = (parse arguments).map (Invocation.traced debug) := by
  cases debug with
  | false =>
      change parse arguments = _
      cases parse arguments <;> rfl
  -- The switch is taken first, and the rest from the draft that it leaves.
  | true =>
      change parse ("--debug" :: arguments) = _
      have reads : read "--debug" = .ok (.known .debug "--debug" none) := rfl
      rw [parse, parse, items_of_read reads]
      cases items arguments with
      | error ending => rfl
      | ok list =>
          have noValue : Switch.debug ≠ .indentSize := by decide
          have taken : take (.known .debug "--debug" none :: list) {} =
              (take list {}).map Draft.traced := by
            rw [take_switch noValue rfl]
            exact take_traced list {}
          simp only [Except.map, Reading.item, taken]
          cases take list {} with
          | error ending => rfl
          | ok draft => exact finish_traced draft

end CommandLine

end ScriptFormat
