import ScriptFormat.Proofs.Program.Course
import ScriptFormat.Proofs.Text.Utf8

/-!
# The two doors of a byte stream

Texts come to a byte stream through its text layer, which holds them back for a while, or
past it. A delivery past the text layer lets out first what is held back. So the bytes
stand in the order of the calls, and what a call that fails was to write is not among them.
-/

namespace ScriptFormat

open Run

/-- The encodings that write the first text as they write any other. -/
def Encoding.unmarked : List Encoding := [.utf8 false, .ascii, .latin1]

theorem Encoding.encode_first {encoding : Encoding} (plain : encoding ∈ unmarked) (first : Bool)
    (text : Text) : encoding.encode first text = encoding.encode false text := by
  simp only [unmarked, List.mem_cons, List.not_mem_nil, or_false] at plain
  rcases plain with rfl | rfl | rfl <;> simp [encode]

namespace OutputStream

theorem write_closedBytes {stream : ByteStream} (closed : stream.closed = true) (text : Text) :
    write text (.bytes stream) = .error ByteStream.closedFault (.bytes stream) :=
  if_pos closed

/-- The text layer holds the bytes of a text back, or refuses a text that has none. -/
theorem write_bytes {stream : ByteStream} (opened : stream.closed = false)
    (plain : stream.encoding ∈ Encoding.unmarked) (text : Text) :
    write text (.bytes stream) =
      match stream.encoding.encode false text with
      | .ok data => .ok () (.bytes ({ stream with started := true }.hold data))
      | .error fault => .error (.unencodable fault) (.bytes { stream with started := true }) := by
  rw [← Encoding.encode_first plain (!stream.started)]
  exact if_neg (by simp [opened])

end OutputStream

namespace Source

def closedRaised : Raised :=
  .from .outputWrite "Failed to write to stdout: I/O operation on closed file."
    ByteStream.closedFault

/-- A call on the output: through the text layer, past it, or to close it. -/
inductive OutputCall where
  | print (text : Text)
  | write (text : Text)
  | emit (formatted : Text)
  | reportCheck (source formatted : Text)
  | close

namespace OutputCall

def run : OutputCall → Run Unit
  | .print text => fun world =>
      match world.output.write text with
      | .ok () output => .ok () { world with output }
      | .error fault output => .error { fault } { world with output }
  | .write text => writeStream text
  | .emit formatted => do
      let _ ← Delivery.emit formatted
  | .reportCheck source formatted => do
      let _ ← Delivery.reportCheck source formatted
  | .close => modify fun world => { world with output := world.output.close }

def delivered? : OutputCall → Option Text
  | .write text => some text
  | .emit formatted => some formatted
  | .reportCheck source formatted =>
      if source = formatted then some (Delivery.formattedMessage ++ "\n") else none
  | .print _ => none
  | .close => none

/-- The bytes of what a call writes: in the encoding of the text layer, or in UTF-8 past it. -/
def encoded (encoding : Encoding) : OutputCall → Except EncodeFault Bytes
  | .print text => encoding.encode false text
  | call =>
      match call.delivered? with
      | some text => Utf8.encode text
      | none => .ok []

def added (encoding : Encoding) (call : OutputCall) (world : World) : Bytes :=
  match call.run.result world, call.encoded encoding with
  | .ok (), .ok data => data
  | _, _ => []

end OutputCall

def afterCalls (calls : List OutputCall) (world : World) : World :=
  calls.foldl (fun world call => call.run.after world) world

def pieces (encoding : Encoding) : List OutputCall → World → Bytes
  | [], _ => []
  | call :: rest, world => call.added encoding world ++ pieces encoding rest (call.run.after world)

theorem afterCalls_append (calls later : List OutputCall) (world : World) :
    afterCalls (calls ++ later) world = afterCalls later (afterCalls calls world) :=
  List.foldl_append

/-! ## One call -/

section One

variable {call : OutputCall} {text : Text} {world : World} {stream : ByteStream}

/-- How a call delivers a text to a stream: whole, if the stream is open and the text has no
surrogate. What the stream holds back goes out in front, unless it is closed. -/
structure Handles (call : Run Unit) (text : Text) (stream : ByteStream) (world : World) : Prop where
  whole : stream.closed = false → (∀ point ∈ text, point.isSurrogate = false) →
    call.result world = .ok () ∧
      (call.after world).output = .bytes (stream.flush.append (Utf8.encodeAll text))
  refused : stream.closed = false → (∃ point ∈ text, point.isSurrogate = true) →
    (∃ fault, call.result world =
      .error (Program.unwritten "Failed to write to stdout" fault)) ∧
      (call.after world).output = .bytes stream.flush
  shut : stream.closed = true →
    call.result world = .error closedRaised ∧ (call.after world).output = .bytes stream

/-- A delivery that returns has found the stream open and the text without surrogates. -/
theorem Handles.of_returned {call : Run Unit} (handled : Handles call text stream world)
    (returned : call.result world = .ok ()) :
    (call.after world).output = .bytes (stream.flush.append (Utf8.encodeAll text)) := by
  cases closed : stream.closed with
  | true =>
      have raised := (handled.shut closed).1
      rw [returned] at raised
      cases raised
  | false =>
      by_cases surrogate : ∃ point ∈ text, point.isSurrogate = true
      · obtain ⟨⟨fault, raised⟩, _⟩ := handled.refused closed surrogate
        rw [returned] at raised
        cases raised
      · exact (handled.whole closed (by simpa using surrogate)).2

theorem writeStream_handles (shown : world.output = .bytes stream) (text : Text) :
    Handles (writeStream text) text stream world := by
  constructor
  · intro opened plain
    have taken := OutputStream.deliver_bytes opened text
    rw [(Utf8.encode_eq_ok_iff text _).mpr ⟨plain, rfl⟩] at taken
    have done := Delivery.writeStream_yields_ok world (by rw [shown, taken])
    obtain ⟨log, errors, left⟩ := done.after_eq
    exact ⟨done.result_eq, by rw [left]⟩
  · intro opened surrogate
    obtain ⟨fault, refused⟩ := (Utf8.encode_eq_error_iff text).mpr surrogate
    have failed := OutputStream.deliver_bytes opened text
    rw [refused] at failed
    have stopped := Delivery.writeStream_yields_error world (by rw [shown, failed])
    obtain ⟨log, errors, left⟩ := stopped.after_eq
    exact ⟨⟨fault, stopped.result_eq⟩, by rw [left]⟩
  · intro closed
    have failed := OutputStream.deliver_closedBytes closed text
    have stopped := Delivery.writeStream_yields_error world (by rw [shown, failed])
    obtain ⟨log, errors, left⟩ := stopped.after_eq
    exact ⟨stopped.result_eq, by rw [left]⟩

/-- Whatever a call is for, its text is written in the same way. -/
theorem run_of_delivered (delivers : call.delivered? = some text) :
    call.run = writeStream text := by
  have emitted (text : Text) : (OutputCall.emit text).run = writeStream text := by
    simp [OutputCall.run, Delivery.emit]
  cases call with
  | print => cases delivers
  | write => cases delivers; rfl
  | emit => cases delivers; exact emitted _
  | reportCheck source formatted =>
      simp only [OutputCall.delivered?] at delivers
      split at delivers
      next same =>
        cases delivers
        subst same
        rw [OutputCall.run, Delivery.reportCheck_same]
        exact emitted _
      next => cases delivers
  | close => cases delivers

theorem handles (shown : world.output = .bytes stream) (delivers : call.delivered? = some text) :
    Handles call.run text stream world := by
  rw [run_of_delivered delivers]
  exact writeStream_handles shown text

/-- What is left of a stream after some calls: it was given `data` more, and it is closed if it was
or if one of the calls has closed it. A closed stream is left as it is. -/
structure Leaves (calls : List OutputCall) (data : Bytes) (stream next : ByteStream) : Prop where
  given : next.given = stream.given ++ data
  encoding : next.encoding = stream.encoding
  closed : next.closed = true ↔ stream.closed = true ∨ .close ∈ calls
  still : stream.closed = true → next = stream

theorem Leaves.same {calls : List OutputCall} (stays : .close ∉ calls) :
    Leaves calls [] stream stream :=
  ⟨by simp, rfl, by simp [stays], fun _ => rfl⟩

theorem Leaves.trans {calls later : List OutputCall} {data more : Bytes}
    {stream next last : ByteStream} (first : Leaves calls data stream next)
    (second : Leaves later more next last) :
    Leaves (calls ++ later) (data ++ more) stream last where
  given := by rw [second.given, first.given, List.append_assoc]
  encoding := second.encoding.trans first.encoding
  closed := by rw [second.closed, first.closed, List.mem_append, or_assoc]
  still closed := by
    have same := first.still closed
    rw [same] at second
    exact second.still closed

/-- The ways a call ends: it returns and has added its bytes, or it raises and has added none, as
the stream is closed or there are no bytes for what the call writes. -/
inductive Ends (call : OutputCall) (world : World) (stream : ByteStream) : Prop where
  | returned {data : Bytes} {next : ByteStream}
      (encodes : call.encoded stream.encoding = .ok data) (result : call.run.result world = .ok ())
      (shows : (call.run.after world).output = .bytes next)
      (leaves : Leaves [call] data stream next) : Ends call world stream
  | raised {error : Raised} {next : ByteStream}
      (reason : stream.closed = true ∨ ∃ fault, call.encoded stream.encoding = .error fault)
      (result : call.run.result world = .error error)
      (shows : (call.run.after world).output = .bytes next)
      (leaves : Leaves [call] [] stream next) : Ends call world stream

theorem encoded_of_delivered (delivers : call.delivered? = some text) (encoding : Encoding) :
    call.encoded encoding = Utf8.encode text := by
  cases call with
  | print => cases delivers
  | _ => simp only [OutputCall.encoded, delivers]

theorem close_not_mem_of_delivered (delivers : call.delivered? = some text) : .close ∉ [call] := by
  intro member
  rw [← List.mem_singleton.mp member] at delivers
  cases delivers

theorem ends_of_delivered (shown : world.output = .bytes stream)
    (delivers : call.delivered? = some text) : Ends call world stream := by
  have handled := handles shown delivers
  have stays := close_not_mem_of_delivered delivers
  cases closed : stream.closed with
  | true =>
      obtain ⟨raised, shows⟩ := handled.shut closed
      exact .raised (.inl closed) raised shows (.same stays)
  | false =>
      by_cases surrogate : ∃ point ∈ text, point.isSurrogate = true
      · obtain ⟨⟨_, raised⟩, shows⟩ := handled.refused closed surrogate
        have refuses : ∃ fault, call.encoded stream.encoding = .error fault := by
          rw [encoded_of_delivered delivers]
          exact (Utf8.encode_eq_error_iff text).mpr surrogate
        refine .raised (.inr refuses) raised shows ⟨by simp, rfl, ?_, by simp [closed]⟩
        simp [stays, ByteStream.flush]
      · have plain : ∀ point ∈ text, point.isSurrogate = false := by simpa using surrogate
        obtain ⟨returned, shows⟩ := handled.whole closed plain
        have encodes : call.encoded stream.encoding = .ok (Utf8.encodeAll text) := by
          rw [encoded_of_delivered delivers]
          exact (Utf8.encode_eq_ok_iff text _).mpr ⟨plain, rfl⟩
        refine .returned encodes returned shows
          ⟨stream.given_append_flush _, rfl, ?_, by simp [closed]⟩
        simp [stays, ByteStream.flush, ByteStream.append]

theorem print_ends (shown : world.output = .bytes stream)
    (plain : stream.encoding ∈ Encoding.unmarked) (text : Text) :
    Ends (.print text) world stream := by
  have goes : (OutputCall.print text).run world =
      match OutputStream.write text (.bytes stream) with
      | .ok () output => .ok () { world with output }
      | .error fault output => .error { fault } { world with output } := by
    rw [← shown]
    rfl
  cases closed : stream.closed with
  | true =>
      rw [OutputStream.write_closedBytes closed] at goes
      exact .raised (.inl closed) (by rw [result, goes]) (by rw [Run.after, goes])
        (.same (by simp))
  | false =>
      rw [OutputStream.write_bytes closed plain] at goes
      cases encodes : stream.encoding.encode false text with
      | error fault =>
          simp only [encodes] at goes
          have leaves : Leaves [.print text] [] stream { stream with started := true } :=
            ⟨by simp [ByteStream.given], rfl, by simp, by simp [closed]⟩
          exact .raised (.inr ⟨fault, encodes⟩) (by rw [result, goes]) (by rw [Run.after, goes])
            leaves
      | ok data =>
          simp only [encodes] at goes
          obtain ⟨written, pending, holds, given⟩ :=
            ByteStream.hold_shape { stream with started := true } data
          refine .returned encodes (by rw [result, goes]) (by rw [Run.after, goes]) ?_
          rw [holds]
          exact ⟨given, rfl, by simp, by simp [closed]⟩

theorem close_ends (shown : world.output = .bytes stream) : Ends .close world stream := by
  have shows : (OutputCall.close.run.after world).output = OutputStream.close (.bytes stream) := by
    rw [← shown]
    rfl
  cases closed : stream.closed with
  | true =>
      rw [OutputStream.close, if_pos closed] at shows
      exact .returned rfl rfl shows ⟨by simp, rfl, by simp [closed], fun _ => rfl⟩
  | false =>
      rw [OutputStream.close, if_neg (by simp [closed])] at shows
      refine .returned rfl rfl shows ⟨?_, rfl, by simp, by simp [closed]⟩
      simp [ByteStream.given, ByteStream.flush]

/-- A report on a difference goes to the error stream. -/
theorem difference_ends (shown : world.output = .bytes stream) {source formatted : Text}
    (apart : source ≠ formatted) : Ends (.reportCheck source formatted) world stream := by
  have silent : (OutputCall.reportCheck source formatted).delivered? = none := if_neg apart
  have unequal : isFormatted source formatted = false := beq_eq_false_iff_ne.mpr apart
  have encodes : (OutputCall.reportCheck source formatted).encoded stream.encoding = .ok [] := by
    simp only [OutputCall.encoded, silent]
  have reports : Yields (Delivery.reportCheck source formatted) world (.ok ExitStatus.checkFailed)
      world := by
    simp only [Delivery.reportCheck, unequal, Bool.false_eq_true, if_false]
    exact (Delivery.complain_yields world).bind fun _ _ => pure_yields _ _
  have yields : Yields (OutputCall.reportCheck source formatted).run world (.ok ()) world :=
    reports.bind fun _ _ => pure_yields _ _
  obtain ⟨log, errors, left⟩ := yields.after_eq
  exact .returned encodes yields.result_eq (by rw [left, shown]) (.same (by simp))

/-- What one call can do. -/
theorem ends (shown : world.output = .bytes stream)
    (plain : stream.encoding ∈ Encoding.unmarked) (call : OutputCall) :
    Ends call world stream := by
  cases call with
  | print text => exact print_ends shown plain text
  | write text => exact ends_of_delivered shown rfl
  | emit formatted => exact ends_of_delivered shown rfl
  | reportCheck source formatted =>
      by_cases same : source = formatted
      · exact ends_of_delivered shown (if_pos same)
      · exact difference_ends shown same
  | close => exact close_ends shown

end One

/-! ## A series of calls -/

section Series

variable {world : World} {stream : ByteStream}

theorem added_leaves (shown : world.output = .bytes stream)
    (plain : stream.encoding ∈ Encoding.unmarked) (call : OutputCall) :
    ∃ next, (call.run.after world).output = .bytes next ∧
      Leaves [call] (call.added stream.encoding world) stream next := by
  cases ends shown plain call with
  | returned encodes result shows leaves =>
      refine ⟨_, shows, ?_⟩
      rw [OutputCall.added, result, encodes]
      exact leaves
  | raised _ result shows leaves =>
      refine ⟨_, shows, ?_⟩
      rw [OutputCall.added, result]
      exact leaves

/-- After any calls the stream was given their pieces, behind all that it was given before. -/
theorem pieces_leave (shown : world.output = .bytes stream)
    (plain : stream.encoding ∈ Encoding.unmarked) (calls : List OutputCall) :
    ∃ last, (afterCalls calls world).output = .bytes last ∧
      Leaves calls (pieces stream.encoding calls world) stream last := by
  induction calls generalizing world stream with
  | nil => exact ⟨stream, shown, .same (by simp)⟩
  | cons call rest ih =>
      obtain ⟨next, shows, first⟩ := added_leaves shown plain call
      obtain ⟨last, showsLast, behind⟩ := ih shows (first.encoding ▸ plain)
      rw [first.encoding] at behind
      exact ⟨last, showsLast, first.trans behind⟩

/-- A call that returns has bytes for what it writes. -/
theorem encoded_of_returned (shown : world.output = .bytes stream)
    (plain : stream.encoding ∈ Encoding.unmarked) {call : OutputCall}
    (returned : call.run.result world = .ok ()) :
    ∃ data, call.encoded stream.encoding = .ok data := by
  cases ends shown plain call with
  | returned encodes => exact ⟨_, encodes⟩
  | raised _ result => rw [returned] at result; cases result

/-- On an open stream such a call returns. -/
theorem returned_of_encoded (shown : world.output = .bytes stream)
    (plain : stream.encoding ∈ Encoding.unmarked) (opened : stream.closed = false)
    {call : OutputCall} {data : Bytes} (encodes : call.encoded stream.encoding = .ok data) :
    call.run.result world = .ok () := by
  cases ends shown plain call with
  | returned _ result => exact result
  | raised reason =>
      rcases reason with closed | ⟨fault, refuses⟩
      · rw [opened] at closed
        cases closed
      · rw [encodes] at refuses
        cases refuses

structure InOrder (calls : List OutputCall) (world : World) (stream last : ByteStream) : Prop where
  shows : (afterCalls calls world).output = .bytes last
  closed : last.closed = true ↔ .close ∈ calls
  given : last.given = stream.given ++ pieces stream.encoding calls world
  /-- Only calls with bytes for what they write return. -/
  encoded : ∀ call : OutputCall, call.run.result (afterCalls calls world) = .ok () →
    ∃ data, call.encoded stream.encoding = .ok data
  /-- While the stream is open, all of them do. -/
  returned : last.closed = false → ∀ (call : OutputCall) (data : Bytes),
    call.encoded stream.encoding = .ok data → call.run.result (afterCalls calls world) = .ok ()
  handled : ∀ (call : OutputCall) (text : Text), call.delivered? = some text →
    Handles call.run text last (afterCalls calls world)
  /-- A delivery that returns has all the pieces written, its own among them. -/
  written : ∀ (call : OutputCall) (text : Text), call.delivered? = some text →
    call.run.result (afterCalls calls world) = .ok () →
      ∃ next, (afterCalls (calls ++ [call]) world).output = .bytes next ∧ next.pending = [] ∧
        next.written = stream.written ++ stream.pending ++
          pieces stream.encoding (calls ++ [call]) world
  still : .close ∈ calls → ∀ later, (afterCalls (calls ++ later) world).output = .bytes last

/-- Whatever calls come on an open byte stream, it is given the pieces of those that return, in
their order and behind what it was given before. A delivery that returns has written all of this,
one of a text with a surrogate lets out what is held back and adds nothing, and a closed stream stays. -/
theorem calls_keep_order (shown : world.output = .bytes stream) (opened : stream.closed = false)
    (plain : stream.encoding ∈ Encoding.unmarked) (calls : List OutputCall) :
    ∃ last, InOrder calls world stream last := by
  obtain ⟨last, shows, leaves⟩ := pieces_leave shown plain calls
  have plainLast : last.encoding ∈ Encoding.unmarked := leaves.encoding ▸ plain
  have closed : last.closed = true ↔ .close ∈ calls := by simp [leaves.closed, opened]
  refine ⟨last, shows, closed, leaves.given, ?_, ?_, fun _ _ => handles shows, ?_, ?_⟩
  · intro call returned
    rw [← leaves.encoding]
    exact encoded_of_returned shows plainLast returned
  · intro stillOpen call data encodes
    rw [← leaves.encoding] at encodes
    exact returned_of_encoded shows plainLast stillOpen encodes
  · intro call text delivers returned
    have one : (afterCalls (calls ++ [call]) world).output =
        .bytes (last.flush.append (Utf8.encodeAll text)) := by
      rw [afterCalls_append]
      exact (handles shows delivers).of_returned returned
    -- The last call leaves nothing held back, so what the stream was given is what it has written.
    obtain ⟨next, showsNext, behind⟩ := pieces_leave shown plain (calls ++ [call])
    rw [one] at showsNext
    cases showsNext
    exact ⟨_, one, rfl, (List.append_nil _).symm.trans behind.given⟩
  · intro closes later
    obtain ⟨same, showsSame, behind⟩ := pieces_leave shows plainLast later
    rw [afterCalls_append, showsSame, behind.still (closed.mpr closes)]

end Series

def narrow : World :=
  { Program.desk with output := .bytes { written := [62], pending := [32], encoding := .ascii } }

def narrowCalls : List OutputCall :=
  [.print "a", .print [0xE9], .write [0xE9, 13, 10], .emit [0xD800]]

theorem calls_keep_order_narrow :
    ∃ next, (OutputCall.write "b").run.result (afterCalls narrowCalls narrow) = .ok () ∧
      (afterCalls (narrowCalls ++ [.write "b"]) narrow).output = .bytes next ∧
      next.written = [62, 32, 97, 0xC3, 0xA9, 13, 10, 98] := by
  have shown :
      narrow.output = .bytes { written := [62], pending := [32], encoding := .ascii } := rfl
  obtain ⟨last, order⟩ := calls_keep_order shown rfl (by simp [Encoding.unmarked]) narrowCalls
  have opened : last.closed = false := by
    rw [← Bool.not_eq_true, order.closed]
    simp [narrowCalls]
  have returned := ((order.handled (.write "b") "b" rfl).whole opened (by decide)).1
  obtain ⟨next, shows, _, written⟩ := order.written (.write "b") "b" rfl returned
  exact ⟨next, returned, shows, written⟩

end Source

end ScriptFormat
