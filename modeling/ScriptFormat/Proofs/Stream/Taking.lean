import ScriptFormat.Stream.Output

/-!
# Streams that take a text

A text is delivered exactly if the stream takes it whole: behind all that its text
layer held back, as UTF-8 where there is a buffer. The faults of a delivery are
those of the stream itself and of the encoding.
-/

namespace ScriptFormat

/-- One step of a sequence that goes on from where the step ended. -/
theorem bind_of_ok {ε σ α β : Type} {first : EStateM ε σ α} {next : α → EStateM ε σ β}
    {value : α} {before after : σ} (done : first before = .ok value after) :
    (first >>= next) before = next value after := by
  simp only [bind, EStateM.bind, done]

theorem bind_of_error {ε σ α β : Type} {first : EStateM ε σ α} {next : α → EStateM ε σ β}
    {fault : ε} {before after : σ} (stopped : first before = .error fault after) :
    (first >>= next) before = .error fault after := by
  simp only [bind, EStateM.bind, stopped]

theorem tryCatch_of_ok {ε σ α : Type} {run : EStateM ε σ α} {handle : ε → EStateM ε σ α}
    {value : α} {before after : σ} (done : run before = .ok value after) :
    tryCatch run handle before = .ok value after := by
  change EStateM.tryCatch run handle before = _
  delta EStateM.tryCatch
  simp only [done]

theorem tryCatch_of_error {ε σ α : Type} {run : EStateM ε σ α} {handle : ε → EStateM ε σ α}
    {fault : ε} {before after : σ} (stopped : run before = .error fault after) :
    tryCatch run handle before = handle fault after := by
  change EStateM.tryCatch run handle before = _
  delta EStateM.tryCatch
  simp only [stopped]
  rfl

def ScriptedStream.recorded (stream : ScriptedStream) (calls : List StreamCall) : ScriptedStream :=
  { stream with calls := stream.calls ++ calls }

theorem ScriptedStream.recorded_nil (stream : ScriptedStream) : stream.recorded [] = stream := by
  simp [recorded]

theorem ScriptedStream.recorded_recorded (stream : ScriptedStream)
    (first second : List StreamCall) :
    (stream.recorded first).recorded second = stream.recorded (first ++ second) := by
  simp [recorded]

namespace ByteStream

/-- All that a stream was given, in order: what it holds back comes last. -/
def given (stream : ByteStream) : Bytes := stream.written ++ stream.pending

@[simp] theorem given_flush (stream : ByteStream) : stream.flush.given = stream.given := by
  simp [given, flush]

@[simp] theorem given_append_flush (stream : ByteStream) (data : Bytes) :
    (stream.flush.append data).given = stream.given ++ data := by
  simp [given, flush, append]

/-- Holding back may let bytes out, and puts the new ones behind all others. -/
theorem hold_shape (stream : ByteStream) (data : Bytes) :
    ∃ written pending, stream.hold data = { stream with written, pending } ∧
      written ++ pending = stream.given ++ data := by
  unfold hold
  dsimp only
  split <;> split <;> exact ⟨_, _, rfl, by simp [given, flush]⟩

end ByteStream

namespace OutputStream

/-- How a stream that takes a text whole changes. -/
inductive Takes (text : Text) : OutputStream → OutputStream → Prop where
  | bytes {stream : ByteStream} {data : Bytes} (opened : stream.closed = false)
      (encoded : Utf8.encode text = .ok data) :
      Takes text (.bytes stream) (.bytes (stream.flush.append data))
  | text {stream : TextStream} (opened : stream.closed = false) :
      Takes text (.text stream) (.text { stream with written := stream.written ++ text })
  | buffered {stream : ScriptedStream} {data : Bytes} (buffer : stream.buffered = true)
      (encoded : Utf8.encode text = .ok data)
      (willing : ∀ method ≠ .write, stream.fails method = none) :
      Takes text (.scripted stream)
        (.scripted (stream.recorded [.flush, .bufferWrite data, .bufferFlush]))
  | unbuffered {stream : ScriptedStream} (noBuffer : stream.buffered = false)
      (writing : stream.fails .write = none) (flushing : stream.fails .flush = none) :
      Takes text (.scripted stream) (.scripted (stream.recorded [.write text, .flush]))

/-- How a stream changes whose text layer takes a text. A byte stream may hold the bytes back. -/
inductive Receives (text : Text) : OutputStream → OutputStream → Prop where
  | bytes {stream : ByteStream} {written pending data : Bytes} (opened : stream.closed = false)
      (encoded : stream.encoding.encode (!stream.started) text = .ok data)
      (behind : written ++ pending = stream.given ++ data) :
      Receives text (.bytes stream) (.bytes { stream with written, pending, started := true })
  | text {stream : TextStream} (opened : stream.closed = false) :
      Receives text (.text stream) (.text { stream with written := stream.written ++ text })
  | scripted {stream : ScriptedStream} (willing : stream.fails .write = none) :
      Receives text (.scripted stream) (.scripted (stream.recorded [.write text]))

theorem deliver_bytes {stream : ByteStream} (opened : stream.closed = false) (text : Text) :
    deliver text (.bytes stream) =
      match Utf8.encode text with
      | .ok data => .ok () (.bytes (stream.flush.append data))
      | .error fault => .error (.unencodable fault) (.bytes stream.flush) := by
  have flushed : flush (.bytes stream) = .ok () (.bytes stream.flush) := by
    rw [flush, opened]
    rfl
  have stillOpen : stream.flush.closed = false := opened
  change deliverBytes text (.bytes stream) = _
  rw [deliverBytes, bind_of_ok flushed]
  cases encoding : Utf8.encode text with
  | error fault =>
      exact bind_of_error (by rw [encoded, encoding])
  | ok data =>
      have prepared : encoded text (.bytes stream.flush) = .ok data (.bytes stream.flush) := by
        rw [encoded, encoding]
      have written : bufferWrite data (.bytes stream.flush) =
          .ok () (.bytes (stream.flush.append data)) := by
        rw [bufferWrite, stillOpen]
        rfl
      have done : bufferFlush (.bytes (stream.flush.append data)) =
          .ok () (.bytes (stream.flush.append data)) := by
        rw [bufferFlush]
        exact if_neg (by simp [ByteStream.append, stillOpen])
      rw [bind_of_ok prepared, bind_of_ok written, done]

theorem deliver_text {stream : TextStream} (opened : stream.closed = false) (text : Text) :
    deliver text (.text stream) =
      .ok () (.text { stream with written := stream.written ++ text }) := by
  have written : write text (.text stream) =
      .ok () (.text { stream with written := stream.written ++ text }) := by
    rw [write, opened]
    rfl
  change deliverText text (.text stream) = _
  rw [deliverText, bind_of_ok written, flush]
  exact if_neg (by simp [opened])

theorem deliver_closedBytes {stream : ByteStream} (closed : stream.closed = true) (text : Text) :
    deliver text (.bytes stream) = .error ByteStream.closedFault (.bytes stream) := by
  have stopped : flush (.bytes stream) = .error ByteStream.closedFault (.bytes stream) := by
    rw [flush, closed]
    rfl
  exact bind_of_error stopped

theorem deliver_closedText {stream : TextStream} (closed : stream.closed = true) (text : Text) :
    deliver text (.text stream) = .error TextStream.closedFault (.text stream) := by
  have stopped : write text (.text stream) = .error TextStream.closedFault (.text stream) := by
    rw [write, closed]
    rfl
  exact bind_of_error stopped

theorem perform_willing {stream : ScriptedStream} {call : StreamCall}
    (willing : stream.fails call.method = none) :
    stream.perform call = .ok () (.scripted (stream.recorded [call])) := by
  rw [ScriptedStream.perform, willing]
  rfl

theorem perform_failing {stream : ScriptedStream} {call : StreamCall} {fault : Fault}
    (failing : stream.fails call.method = some fault) :
    stream.perform call = .error fault (.scripted stream) := by
  rw [ScriptedStream.perform, failing]

/-- With a buffer the calls come in their order, and none after one that fails. -/
theorem deliver_buffered {stream : ScriptedStream} (buffer : stream.buffered = true)
    (text : Text) :
    deliver text (.scripted stream) =
      match stream.fails .flush with
      | some fault => .error fault (.scripted stream)
      | none =>
          match Utf8.encode text with
          | .error fault => .error (.unencodable fault) (.scripted (stream.recorded [.flush]))
          | .ok data =>
              match stream.fails .bufferWrite with
              | some fault => .error fault (.scripted (stream.recorded [.flush]))
              | none =>
                  match stream.fails .bufferFlush with
                  | some fault =>
                      .error fault (.scripted (stream.recorded [.flush, .bufferWrite data]))
                  | none =>
                      .ok () (.scripted
                        (stream.recorded [.flush, .bufferWrite data, .bufferFlush])) := by
  have shape : deliver text (.scripted stream) = deliverBytes text (.scripted stream) := by
    rw [deliver, hasBuffer, buffer]
    rfl
  rw [shape, deliverBytes]
  cases flushing : stream.fails .flush with
  | some fault => exact bind_of_error (perform_failing flushing)
  | none =>
      have flushed : flush (.scripted stream) = _ := perform_willing flushing
      rw [bind_of_ok flushed]
      cases encoding : Utf8.encode text with
      | error fault => exact bind_of_error (by rw [encoded, encoding])
      | ok data =>
          have prepared (stream : OutputStream) : encoded text stream = .ok data stream := by
            rw [encoded, encoding]
          rw [bind_of_ok (prepared _)]
          cases writing : stream.fails .bufferWrite with
          | some fault => exact bind_of_error (perform_failing writing)
          | none =>
              have written : bufferWrite data (.scripted (stream.recorded [.flush])) = _ :=
                perform_willing writing
              rw [bind_of_ok written, stream.recorded_recorded]
              cases ending : stream.fails .bufferFlush with
              | some fault => exact perform_failing ending
              | none =>
                  have ended : bufferFlush (.scripted
                      (stream.recorded ([.flush] ++ [.bufferWrite data]))) = _ :=
                    perform_willing ending
                  rw [ended, stream.recorded_recorded]
                  rfl

theorem deliver_unbuffered {stream : ScriptedStream} (noBuffer : stream.buffered = false)
    (text : Text) :
    deliver text (.scripted stream) =
      match stream.fails .write with
      | some fault => .error fault (.scripted stream)
      | none =>
          match stream.fails .flush with
          | some fault => .error fault (.scripted (stream.recorded [.write text]))
          | none => .ok () (.scripted (stream.recorded [.write text, .flush])) := by
  have shape : deliver text (.scripted stream) = deliverText text (.scripted stream) := by
    rw [deliver, hasBuffer, noBuffer]
    rfl
  rw [shape, deliverText]
  cases writing : stream.fails .write with
  | some fault => exact bind_of_error (perform_failing writing)
  | none =>
      have written : write text (.scripted stream) = _ := perform_willing writing
      rw [bind_of_ok written]
      cases flushing : stream.fails .flush with
      | some fault => exact perform_failing flushing
      | none =>
          have flushed : flush (.scripted (stream.recorded [.write text])) = _ :=
            perform_willing flushing
          rw [flushed, stream.recorded_recorded]
          rfl

/-! ## All streams -/

/-- A text is delivered exactly if the stream takes it whole. -/
theorem deliver_eq_ok_iff (text : Text) (before after : OutputStream) :
    deliver text before = .ok () after ↔ Takes text before after := by
  constructor
  · intro delivered
    cases before with
    | bytes stream =>
        cases closed : stream.closed with
        | true => rw [deliver_closedBytes closed] at delivered; cases delivered
        | false =>
            rw [deliver_bytes closed] at delivered
            cases encoding : Utf8.encode text with
            | error => rw [encoding] at delivered; cases delivered
            | ok data => rw [encoding] at delivered; cases delivered; exact .bytes closed encoding
    | text stream =>
        cases closed : stream.closed with
        | true => rw [deliver_closedText closed] at delivered; cases delivered
        | false => rw [deliver_text closed] at delivered; cases delivered; exact .text closed
    | scripted stream =>
        cases buffer : stream.buffered with
        | true =>
            rw [deliver_buffered buffer] at delivered
            repeat' split at delivered
            all_goals cases delivered
            next flushing _ _ encoding _ writing _ ending =>
              refine .buffered buffer encoding fun method other => ?_
              cases method with
              | write => exact absurd rfl other
              | flush => exact flushing
              | bufferWrite => exact writing
              | bufferFlush => exact ending
        | false =>
            rw [deliver_unbuffered buffer] at delivered
            repeat' split at delivered
            all_goals cases delivered
            next writing _ flushing => exact .unbuffered buffer writing flushing
  · intro takes
    cases takes with
    | bytes opened encoded => rw [deliver_bytes opened, encoded]
    | text opened => exact deliver_text opened text
    | buffered buffer encoded willing =>
        rw [deliver_buffered buffer, willing .flush (by simp), encoded]
        simp only [willing .bufferWrite (by simp), willing .bufferFlush (by simp)]
    | unbuffered noBuffer writing flushing =>
        rw [deliver_unbuffered noBuffer, writing]
        simp only [flushing]

def Raises (stream : OutputStream) (fault : Fault) : Prop :=
  (∃ message, fault = .ofValue message) ∨ (∃ refused, fault = .unencodable refused) ∨
    ∃ scripted method, stream = .scripted scripted ∧ scripted.fails method = some fault

theorem raises_of_deliver {text : Text} {stream after : OutputStream} {fault : Fault}
    (failed : deliver text stream = .error fault after) : stream.Raises fault := by
  cases stream with
  | bytes stream =>
      cases closed : stream.closed with
      | true => rw [deliver_closedBytes closed] at failed; cases failed; exact .inl ⟨_, rfl⟩
      | false =>
          rw [deliver_bytes closed] at failed
          split at failed
          · cases failed
          · cases failed; exact .inr (.inl ⟨_, rfl⟩)
  | text stream =>
      cases closed : stream.closed with
      | true => rw [deliver_closedText closed] at failed; cases failed; exact .inl ⟨_, rfl⟩
      | false => rw [deliver_text closed] at failed; cases failed
  | scripted stream =>
      cases buffer : stream.buffered with
      | true =>
          rw [deliver_buffered buffer] at failed
          repeat' split at failed
          all_goals cases failed
          · exact .inr (.inr ⟨stream, .flush, rfl, ‹_›⟩)
          · exact .inr (.inl ⟨_, rfl⟩)
          · exact .inr (.inr ⟨stream, .bufferWrite, rfl, ‹_›⟩)
          · exact .inr (.inr ⟨stream, .bufferFlush, rfl, ‹_›⟩)
      | false =>
          rw [deliver_unbuffered buffer] at failed
          repeat' split at failed
          all_goals cases failed
          · exact .inr (.inr ⟨stream, .write, rfl, ‹_›⟩)
          · exact .inr (.inr ⟨stream, .flush, rfl, ‹_›⟩)

theorem raises_of_write {text : Text} {stream after : OutputStream} {fault : Fault}
    (failed : write text stream = .error fault after) : stream.Raises fault := by
  cases stream with
  | bytes stream =>
      rw [write] at failed
      split at failed
      · cases failed; exact .inl ⟨_, rfl⟩
      · dsimp only at failed
        split at failed
        · cases failed
        · cases failed; exact .inr (.inl ⟨_, rfl⟩)
  | text stream =>
      rw [write] at failed
      split at failed
      · cases failed; exact .inl ⟨_, rfl⟩
      · cases failed
  | scripted stream =>
      cases writing : stream.fails .write with
      | none =>
          have written : write text (.scripted stream) = _ := perform_willing writing
          rw [written] at failed
          cases failed
      | some raised =>
          have stopped : write text (.scripted stream) = _ := perform_failing writing
          rw [stopped] at failed
          cases failed
          exact .inr (.inr ⟨stream, .write, rfl, writing⟩)

theorem receives_of_write {text : Text} {stream after : OutputStream}
    (wrote : write text stream = .ok () after) : Receives text stream after := by
  cases stream with
  | bytes stream =>
      rw [write] at wrote
      split at wrote
      · cases wrote
      · next opened =>
          dsimp only at wrote
          split at wrote
          · next data encoded =>
              obtain ⟨written, pending, held, behind⟩ :=
                { stream with started := true : ByteStream }.hold_shape data
              rw [held] at wrote
              cases wrote
              exact .bytes (Bool.eq_false_iff.mpr opened) encoded behind
          · cases wrote
  | text stream =>
      rw [write] at wrote
      split at wrote
      · cases wrote
      · next opened =>
          cases wrote
          exact .text (Bool.eq_false_iff.mpr opened)
  | scripted stream =>
      change stream.perform (.write text) = _ at wrote
      cases writing : stream.fails .write with
      | none =>
          rw [perform_willing writing] at wrote
          cases wrote
          exact .scripted writing
      | some raised =>
          rw [perform_failing writing] at wrote
          cases wrote

theorem Receives.write {text : Text} {stream after : OutputStream}
    (receives : Receives text stream after) : ∃ later, write text stream = .ok () later := by
  cases receives with
  | bytes opened encoded => exact ⟨_, by rw [OutputStream.write, opened, encoded]; rfl⟩
  | text opened => exact ⟨_, by rw [OutputStream.write, opened]; rfl⟩
  | scripted willing => exact ⟨_, perform_willing willing⟩

end OutputStream

end ScriptFormat
