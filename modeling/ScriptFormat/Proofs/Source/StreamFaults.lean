import ScriptFormat.Proofs.Program.Course

/-!
# Streams that fail

A text is written by a row of calls on the stream. They are made in their order, and none
behind one that raises. A fault of the system or of a value that a call raises becomes an
error with that fault as its cause, and any other fault passes as it is. With reading it is
the same.
-/

namespace ScriptFormat

open Run

def StreamCall.on : StreamCall → StreamAction
  | .write text => OutputStream.write text
  | .flush => OutputStream.flush
  | .bufferWrite data => OutputStream.bufferWrite data
  | .bufferFlush => OutputStream.bufferFlush

theorem StreamCall.on_scripted (call : StreamCall) (stream : ScriptedStream) :
    call.on (.scripted stream) = stream.perform call := by
  cases call <;> rfl

namespace OutputStream

def bytesCall (text : Text) : Except Fault StreamCall :=
  match Utf8.encode text with
  | .ok data => .ok (.bufferWrite data)
  | .error fault => .error (.unencodable fault)

/-- The calls that write a text, each of them or the fault that is raised in its place. -/
def row (stream : OutputStream) (text : Text) : List (Except Fault StreamCall) :=
  if stream.hasBuffer then [.ok .flush, bytesCall text, .ok .bufferFlush]
  else [.ok (.write text), .ok .flush]

/-- Making a row of calls: `made` are those that return, and what is raised stops the row. -/
inductive Makes : List (Except Fault StreamCall) → OutputStream →
    (made : List StreamCall) → (stop : Option Fault) → OutputStream → Prop where
  | done (stream : OutputStream) : Makes [] stream [] none stream
  | missing {fault : Fault} (rest : List (Except Fault StreamCall)) (stream : OutputStream) :
      Makes (.error fault :: rest) stream [] (some fault) stream
  | raised {call : StreamCall} {rest : List (Except Fault StreamCall)} {fault : Fault}
      {stream after : OutputStream} (failed : call.on stream = .error fault after) :
      Makes (.ok call :: rest) stream [] (some fault) after
  | returned {call : StreamCall} {rest : List (Except Fault StreamCall)} {made : List StreamCall}
      {stop : Option Fault} {stream middle after : OutputStream}
      (did : call.on stream = .ok () middle) (behind : Makes rest middle made stop after) :
      Makes (.ok call :: rest) stream (call :: made) stop after

def makeAll : List (Except Fault StreamCall) → StreamAction
  | [] => pure ()
  | .error fault :: _ => throw fault
  | .ok call :: rest => do
      call.on
      makeAll rest

def stopped (stop : Option Fault) (stream : OutputStream) :
    EStateM.Result Fault OutputStream Unit :=
  match stop with
  | none => .ok () stream
  | some fault => .error fault stream

theorem exists_makes (calls : List (Except Fault StreamCall)) (stream : OutputStream) :
    ∃ made stop after,
      Makes calls stream made stop after ∧ makeAll calls stream = stopped stop after := by
  induction calls generalizing stream with
  | nil => exact ⟨[], none, stream, .done stream, rfl⟩
  | cons first rest ih =>
      cases first with
      | error fault => exact ⟨[], some fault, stream, .missing rest stream, rfl⟩
      | ok call =>
          cases called : call.on stream with
          | error fault after =>
              exact ⟨[], some fault, after, .raised called, bind_of_error called⟩
          | ok _ middle =>
              obtain ⟨made, stop, after, makes, ends⟩ := ih middle
              refine ⟨call :: made, stop, after, .returned called makes, ?_⟩
              rw [makeAll, bind_of_ok called]
              exact ends

/-- Writing a text is making its row of calls. -/
theorem deliver_eq_makeAll (text : Text) (stream : OutputStream) :
    deliver text stream = makeAll (stream.row text) stream := by
  cases buffer : stream.hasBuffer with
  | false =>
      have plain : makeAll [.ok (.write text), .ok .flush] = deliverText text := by
        simp [makeAll, deliverText, StreamCall.on]
      rw [row, buffer, deliver, buffer]
      exact (congrFun plain stream).symm
  | true =>
      have bytes : makeAll [.ok .flush, bytesCall text, .ok .bufferFlush] = deliverBytes text := by
        unfold bytesCall deliverBytes
        cases encoding : Utf8.encode text with
        | ok data =>
            have ready : encoded text = pure data := by
              funext stream
              rw [encoded, encoding]
              rfl
            simp [makeAll, ready, StreamCall.on]
        | error fault =>
            have refused : encoded text = throw (.unencodable fault) := by
              funext stream
              rw [encoded, encoding]
              rfl
            rw [refused]
            rfl
      rw [row, buffer, deliver, buffer]
      exact (congrFun bytes stream).symm

/-- A scripted stream has a record of the calls that returned, and of no others. -/
theorem Makes.recorded {calls : List (Except Fault StreamCall)} {stream : ScriptedStream}
    {made : List StreamCall} {stop : Option Fault} {after : OutputStream}
    (makes : Makes calls (.scripted stream) made stop after) :
    after = .scripted (stream.recorded made) := by
  generalize start : OutputStream.scripted stream = before at makes
  induction makes generalizing stream with
  | done => rw [← start, stream.recorded_nil]
  | missing => rw [← start, stream.recorded_nil]
  | @raised call _ _ _ _ failed =>
      rw [← start, call.on_scripted] at failed
      cases fails : stream.fails call.method with
      | none => rw [perform_willing fails] at failed; cases failed
      | some fault =>
          rw [perform_failing fails] at failed
          cases failed
          rw [stream.recorded_nil]
  | @returned call _ _ _ _ _ _ did _ ih =>
      rw [← start, call.on_scripted] at did
      cases fails : stream.fails call.method with
      | some fault => rw [perform_failing fails] at did; cases did
      | none =>
          rw [perform_willing fails] at did
          cases did
          rw [ih rfl, stream.recorded_recorded]
          rfl

/-- The calls are made in the order of the row, and all of them if nothing is raised. -/
theorem Makes.ordered {calls : List (Except Fault StreamCall)} {stream after : OutputStream}
    {made : List StreamCall} {stop : Option Fault} (makes : Makes calls stream made stop after) :
    made.map .ok <+: calls ∧ (stop = none → made.map .ok = calls) := by
  induction makes with
  | done => exact ⟨List.prefix_rfl, fun _ => rfl⟩
  | missing =>
      constructor
      · exact List.nil_prefix
      · intro nothing
        cases nothing
  | raised =>
      constructor
      · exact List.nil_prefix
      · intro nothing
        cases nothing
  | returned _ _ ih =>
      obtain ⟨before, whole⟩ := ih
      constructor
      · exact (List.prefix_cons_inj _).mpr before
      · intro nothing
        rw [List.map_cons, whole nothing]

end OutputStream

/-! ## What becomes of a fault -/

def Fault.reason? : Fault → Option Text
  | .system _ reason _ => some reason
  | _ => none

namespace Source

/-- How a fault of a stream shows: as an error with the fault as its cause, which is told by its
reason if there is anything in it and by its message otherwise, or unchanged. -/
inductive Surfaces (kind : ErrorKind) (heading : Text) (fault : Fault) : Raised → Prop where
  | reasoned {reason : Text} (caught : fault.isSystem = true ∨ fault.isValue = true)
      (given : fault.reason? = some reason) (something : reason ≠ []) :
      Surfaces kind heading fault
        { fault := .typed { kind, message := heading ++ reason }, cause := some fault }
  | worded (caught : fault.isSystem = true ∨ fault.isValue = true)
      (reasonless : ∀ reason, fault.reason? = some reason → reason = []) :
      Surfaces kind heading fault
        { fault := .typed { kind, message := heading ++ fault.message }, cause := some fault }
  | unchanged (noSystem : fault.isSystem = false) (noValue : fault.isValue = false) :
      Surfaces kind heading fault { fault }

/-- A fault that is caught is told by its reason or by its message. -/
theorem surfaces_of_caught (kind : ErrorKind) (heading : Text) {fault : Fault}
    (caught : fault.isSystem = true ∨ fault.isValue = true) :
    Surfaces kind heading fault
      { fault := .typed { kind, message := heading ++ fault.describe }, cause := some fault } := by
  cases fault with
  | system code reason files =>
      cases reason with
      | nil =>
          apply Surfaces.worded caught
          intro reason given
          cases given
          rfl
      | cons first rest => exact .reasoned caught rfl (List.cons_ne_nil first rest)
  | _ =>
      apply Surfaces.worded caught
      intro reason given
      cases given

theorem mapped_surfaces (kind : ErrorKind) (heading : Text) (fault : Fault) :
    Surfaces kind (heading ++ ": ") fault (mapped isStreamFault kind heading fault) := by
  unfold mapped
  split
  · next guarded =>
      have caught : fault.isSystem = true ∨ fault.isValue = true := by
        simpa [isStreamFault] using guarded
      exact surfaces_of_caught kind (heading ++ ": ") caught
  · next passes =>
      obtain ⟨noSystem, noValue⟩ : fault.isSystem = false ∧ fault.isValue = false := by
        simpa [isStreamFault] using passes
      exact .unchanged noSystem noValue

/-- The faults of files are caught as those of streams are. -/
theorem caught_of_isFileFault {fault : Fault} (guarded : isFileFault fault = true) :
    fault.isSystem = true ∨ fault.isValue = true := by
  cases fault with
  | undecodable => exact .inr rfl
  | unencodable => exact .inr rfl
  | _ => exact .inl (by simpa [isFileFault] using guarded)

/-- What writing a text comes to: its row of calls is made on the output, which changes nothing
else, and what stops the row surfaces. -/
inductive WritesRow (text : Text) (world : World) : Except Raised Unit → World → Prop where
  | whole {made : List StreamCall} {output : OutputStream}
      (makes : OutputStream.Makes (world.output.row text) world.output made none output)
      (every : made.map .ok = world.output.row text)
      (recorded : ∀ stream, world.output = .scripted stream →
        output = .scripted (stream.recorded made)) :
      WritesRow text world (.ok ()) { world with output }
  | stopped {made : List StreamCall} {fault : Fault} {output : OutputStream} {raised : Raised}
      (makes : OutputStream.Makes (world.output.row text) world.output made (some fault) output)
      (first : made.map .ok <+: world.output.row text)
      (recorded : ∀ stream, world.output = .scripted stream →
        output = .scripted (stream.recorded made))
      (surfaces : Surfaces .outputWrite "Failed to write to stdout: " fault raised) :
      WritesRow text world (.error raised) { world with output }

theorem writeStream_writesRow (text : Text) (world : World) :
    WritesRow text world ((writeStream text).result world) ((writeStream text).after world) := by
  obtain ⟨made, stop, output, makes, ends⟩ :=
    OutputStream.exists_makes (world.output.row text) world.output
  rw [← OutputStream.deliver_eq_makeAll] at ends
  have recorded (stream : ScriptedStream) (scripted : world.output = .scripted stream) :
      output = .scripted (stream.recorded made) := by
    rw [scripted] at makes
    exact makes.recorded
  obtain ⟨first, every⟩ := makes.ordered
  cases stop with
  | none =>
      have returned : writeStream text world = .ok () { world with output } := by
        rw [writeStream, ends]
        rfl
      rw [result_of_ok returned, after_of_ok returned]
      exact .whole makes (every rfl) recorded
  | some fault =>
      have raised : writeStream text world = ended
          (.error (mapped isStreamFault .outputWrite "Failed to write to stdout" fault))
          { world with output } := by
        rw [writeStream, ends]
        rfl
      rw [result_of_ended raised, after_of_ended raised]
      have surfaces := mapped_surfaces .outputWrite "Failed to write to stdout" fault
      exact .stopped makes first recorded surfaces

theorem readStream_fails {world : World} {fault : Fault}
    (failed : world.input.readAll.1 = .error fault) :
    readStream world = ended
      (.error (mapped isStreamFault .sourceRead "Failed to read from stdin" fault))
      { world with input := world.input.readAll.2 } := by
  unfold readStream
  rw [get_bind]
  generalize world.input.readAll = read at failed ⊢
  obtain ⟨read, input⟩ := read
  cases failed
  rfl

/-- What a stream raises stops the calls on it and surfaces: in writing a text, and in reading. -/
theorem stream_faults_surface (text : Text) (world : World) :
    WritesRow text world ((writeStream text).result world) ((writeStream text).after world) ∧
      ∀ fault, world.input.readAll.1 = .error fault →
        readStream.after world = { world with input := world.input.readAll.2 } ∧
          ∃ raised, readStream.result world = .error raised ∧
            Surfaces .sourceRead "Failed to read from stdin: " fault raised := by
  constructor
  · exact writeStream_writesRow text world
  · intro fault failed
    have ends := readStream_fails failed
    constructor
    · exact after_of_ended ends
    · exact ⟨_, result_of_ended ends, mapped_surfaces .sourceRead "Failed to read from stdin" fault⟩

/-- A broken pipe behind the first call, and a device that fails. -/
theorem stream_faults_surface_at_broken_pipe :
    let device := Fault.system 5 "Input/output error" []
    let pipe := Fault.system 32 "Broken pipe" []
    let output : ScriptedStream :=
      { buffered := true
        fails := fun method => if method = .bufferWrite then some pipe else none }
    let world :=
      { Program.desk with
        input := { content := .failing device }
        output := .scripted output }
    world.input.readAll.1 = .error device ∧
      WritesRow "x" world ((writeStream "x").result world) ((writeStream "x").after world) ∧
      ((writeStream "x").after world).output = .scripted (output.recorded [.flush]) ∧
      ∃ raised, readStream.result world = .error raised ∧
        Surfaces .sourceRead "Failed to read from stdin: " device raised := by
  intro device pipe output world
  have failed : world.input.readAll.1 = .error device := rfl
  obtain ⟨writes, reads⟩ := stream_faults_surface "x" world
  obtain ⟨_, raised, result, surfaces⟩ := reads device failed
  exact ⟨failed, writes, rfl, raised, result, surfaces⟩

end Source

end ScriptFormat
