import ScriptFormat.Text.Basic

/-!
# Faults of text codecs

Why a byte string has no text in UTF-8, and why a text has no bytes in some
encoding, with the wording of both.
-/

namespace ScriptFormat

inductive DecodeReason where
  | invalidStart
  | invalidContinuation
  | endOfData
  deriving DecidableEq

/-- The bytes at `position` begin with `first` and are no character over the next `width` bytes. -/
structure DecodeFault where
  first : UInt8
  position : Nat
  width : Nat
  reason : DecodeReason
  deriving DecidableEq

/-- A run of `width` code points, `first` in front, that the encoding has no bytes for. -/
structure EncodeFault where
  encoding : Text
  first : CodePoint
  position : Nat
  width : Nat
  reason : Text
  deriving DecidableEq

def DecodeReason.message : DecodeReason → Text
  | .invalidStart => "invalid start byte"
  | .invalidContinuation => "invalid continuation byte"
  | .endOfData => "unexpected end of data"

/-- One position, or the first and the last of several. -/
def positionRange (position width : Nat) : Text :=
  if width ≤ 1 then Text.ofNat position
  else Text.ofNat position ++ "-" ++ Text.ofNat (position + width - 1)

def DecodeFault.message (fault : DecodeFault) : Text :=
  "'utf-8' codec can't decode " ++
    (if fault.width ≤ 1 then "byte 0x" ++ Text.hex 2 fault.first.toNat else "bytes") ++
    " in position " ++ positionRange fault.position fault.width ++ ": " ++ fault.reason.message

def EncodeFault.message (fault : EncodeFault) : Text :=
  "'" ++ fault.encoding ++ "' codec can't encode " ++
    (if fault.width ≤ 1 then "character '" ++ Text.escapeOf fault.first ++ "'" else "characters") ++
    " in position " ++ positionRange fault.position fault.width ++ ": " ++ fault.reason

/-- The first run of code points that an encoding refuses. -/
def EncodeFault.find? (encoding reason : Text) (refuses : CodePoint → Bool) (text : Text) :
    Option EncodeFault :=
  match text.dropWhile fun point => !refuses point with
  | [] => none
  | first :: rest =>
      some {
        encoding
        first
        position := (text.takeWhile fun point => !refuses point).length
        width := (rest.takeWhile refuses).length + 1
        reason }

theorem EncodeFault.find?_eq_none_iff (encoding reason : Text) (refuses : CodePoint → Bool)
    (text : Text) :
    find? encoding reason refuses text = none ↔ ∀ point ∈ text, refuses point = false := by
  induction text with
  | nil => simp [find?]
  | cons point rest ih =>
      cases refused : refuses point with
      | true => simp [find?, refused]
      | false =>
          rw [List.forall_mem_cons, ← ih]
          simp only [refused, true_and]
          simp only [find?, List.dropWhile_cons, refused, Bool.not_false, if_true]
          cases rest.dropWhile fun point => !refuses point <;> simp

end ScriptFormat
