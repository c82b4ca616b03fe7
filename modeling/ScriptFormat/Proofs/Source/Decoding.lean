import ScriptFormat.Proofs.FileTree.Rewriting
import ScriptFormat.Proofs.Program.Course
import ScriptFormat.Proofs.Text.Strings

/-!
# What the readers accept

A file and an open stream of the same bytes are read alike. Either reader gives a text
exactly if the bytes are its encoding, and where no text has this encoding both fail for
the same reason.
-/

namespace ScriptFormat

open Run

namespace Source

variable {world : World} {bytes : Bytes}

/-- A file is read as its bytes are decoded, with a mark at the front and line ends as they are. -/
theorem readPath_held {path : Path} (held : world.tree.read path.route = .ok bytes) :
    (readPath path).result world = (Utf8.decode bytes).mapError
      (Program.unread ("Failed to read file " ++ path.text)) := by
  rw [(readPath_yields path world).result_eq, FileTree.readText, held]
  cases decoded : Utf8.decode bytes with
  | ok text => simp only [decoded]; rfl
  | error fault => simp only [decoded]; rfl

/-- So is a stream: its text layer has no part in it. -/
theorem readStream_given (given : world.input.content = .bytes bytes)
    (opened : world.input.closed = false) :
    readStream.result world = (Utf8.decode bytes).mapError
      (Program.unread "Failed to read from stdin") := by
  rw [(readStream_yields world).result_eq, InputStream.readAll, given, opened]
  cases decoded : Utf8.decode bytes with
  | ok text => simp only [decoded]; rfl
  | error fault => simp only [decoded]; rfl

/-- Read from a file or from an open stream, bytes give a text exactly if they are its encoding. If
they are not valid, both readers raise a read error from the same fault of decoding. -/
theorem readers_accept_encodings {filed fed : World} {path : Path} {place : Place}
    (admitted : path.route.refusal? = none)
    (held : filed.tree.resolve false path.route = .ok (.file place bytes))
    (given : fed.input.content = .bytes bytes) (opened : fed.input.closed = false) :
    (∀ text, (readPath path).result filed = .ok text ↔ Utf8.IsEncoding text bytes) ∧
      (∀ text, readStream.result fed = .ok text ↔ Utf8.IsEncoding text bytes) ∧
      ((¬ ∃ text, Utf8.IsEncoding text bytes) →
        ∃ fault, (readPath path).result filed =
            .error (Program.unread ("Failed to read file " ++ path.text) fault) ∧
          readStream.result fed = .error (Program.unread "Failed to read from stdin" fault)) ∧
      ((∃ text, Utf8.IsEncoding text bytes) ↔ bytes.toByteArray.IsValidUTF8) := by
  have read := readPath_held (FileTree.read_eq_ok_iff.mpr ⟨admitted, place, held⟩)
  have drained := readStream_given given opened
  refine ⟨?_, ?_, ?_, Utf8.exists_isEncoding_iff bytes⟩
  · intro text
    rw [read, mapError_eq_ok_iff, Utf8.decode_eq_ok_iff_isEncoding]
  · intro text
    rw [drained, mapError_eq_ok_iff, Utf8.decode_eq_ok_iff_isEncoding]
  · intro none
    cases decoded : Utf8.decode bytes with
    | ok text =>
        exact absurd ⟨text, (Utf8.decode_eq_ok_iff_isEncoding bytes text).mp decoded⟩ none
    | error fault =>
        rw [decoded] at read drained
        exact ⟨fault, read, drained⟩

/-- A byte order mark, a line end of two characters and a null byte. -/
theorem readers_accept_encodings_marked :
    let bytes : Bytes := [0xEF, 0xBB, 0xBF, 0x0D, 0x0A, 0x00]
    let filed : World := { Program.desk with tree := Program.desk.tree.set ["a.gd"] (.file bytes) }
    let fed : World := { Program.desk with input := { content := .bytes bytes } }
    (readPath (.ofText "b.gd")).result filed = .ok [0xFEFF, 13, 10, 0] ∧
      readStream.result fed = .ok [0xFEFF, 13, 10, 0] := by
  intro bytes filed fed
  have admitted : (Path.ofText "b.gd").route.refusal? = none := rfl
  have held : filed.tree.resolve false (Path.ofText "b.gd").route =
      .ok (.file ["a.gd"] bytes) := rfl
  have given : fed.input.content = .bytes bytes := rfl
  have encodes : Utf8.IsEncoding [0xFEFF, 13, 10, 0] bytes := ⟨by decide, rfl⟩
  obtain ⟨read, drained, _⟩ := readers_accept_encodings admitted held given rfl
  exact ⟨(read _).mpr encodes, (drained _).mpr encodes⟩

end Source

end ScriptFormat
