import ScriptFormat.Fault
import ScriptFormat.Text.Encoding

/-!
# Output streams

A stream to write results to. A byte stream has two doors: its text layer holds
encoded text back for a while, its byte side writes at once. A text stream has
the first door only. A scripted stream records its calls and fails at some.
-/

namespace ScriptFormat

/-- The text layer has `started` at its first text, even one that it could not encode. -/
structure ByteStream where
  written : Bytes := []
  pending : Bytes := []
  encoding : Encoding := .utf8 false
  started : Bool := false
  closed : Bool := false

structure TextStream where
  written : Text := []
  closed : Bool := false

inductive StreamMethod where
  | write
  | flush
  | bufferWrite
  | bufferFlush
  deriving DecidableEq

inductive StreamCall where
  | write (text : Text)
  | flush
  | bufferWrite (bytes : Bytes)
  | bufferFlush

structure ScriptedStream where
  buffered : Bool
  fails : StreamMethod → Option Fault
  calls : List StreamCall := []

inductive OutputStream where
  | bytes (stream : ByteStream)
  | text (stream : TextStream)
  | scripted (stream : ScriptedStream)

def StreamCall.method : StreamCall → StreamMethod
  | .write _ => .write
  | .flush => .flush
  | .bufferWrite _ => .bufferWrite
  | .bufferFlush => .bufferFlush

/-- A stream operation: it changes the stream and is done or fails. -/
abbrev StreamAction := EStateM Fault OutputStream Unit

namespace ByteStream

/-- The text layer hands its bytes on when it holds this many. -/
def holdLimit : Nat := 8192

def closedFault : Fault := .ofValue "I/O operation on closed file."

def flush (stream : ByteStream) : ByteStream :=
  { stream with written := stream.written ++ stream.pending, pending := [] }

/-- Bytes that come to the text layer push those it holds out of the way when both are too many. -/
def hold (stream : ByteStream) (bytes : Bytes) : ByteStream :=
  let stream :=
    if holdLimit < stream.pending.length + bytes.length then stream.flush else stream
  let stream := { stream with pending := stream.pending ++ bytes }
  if holdLimit ≤ stream.pending.length then stream.flush else stream

def append (stream : ByteStream) (bytes : Bytes) : ByteStream :=
  { stream with written := stream.written ++ bytes }

end ByteStream

namespace TextStream

def closedFault : Fault := .ofValue "I/O operation on closed file"

end TextStream

/-- Records a call, or fails without a trace where the script says so. -/
def ScriptedStream.perform (stream : ScriptedStream) (call : StreamCall) :
    EStateM.Result Fault OutputStream Unit :=
  match stream.fails call.method with
  | some fault => .error fault (.scripted stream)
  | none => .ok () (.scripted { stream with calls := stream.calls ++ [call] })

namespace OutputStream

/-- Whether bytes can be written past the text layer. -/
def hasBuffer : OutputStream → Bool
  | .bytes _ => true
  | .text _ => false
  | .scripted stream => stream.buffered

def write (text : Text) : StreamAction
  | .bytes stream =>
      if stream.closed then .error ByteStream.closedFault (.bytes stream)
      else
        let begun := { stream with started := true }
        match stream.encoding.encode (!stream.started) text with
        | .ok data => .ok () (.bytes (begun.hold data))
        | .error fault => .error (.unencodable fault) (.bytes begun)
  | .text stream =>
      if stream.closed then .error TextStream.closedFault (.text stream)
      else .ok () (.text { stream with written := stream.written ++ text })
  | .scripted stream => stream.perform (.write text)

def flush : StreamAction
  | .bytes stream =>
      if stream.closed then .error ByteStream.closedFault (.bytes stream)
      else .ok () (.bytes stream.flush)
  | .text stream =>
      if stream.closed then .error TextStream.closedFault (.text stream)
      else .ok () (.text stream)
  | .scripted stream => stream.perform .flush

/-- Only streams with a buffer are asked for this. -/
def bufferWrite (data : Bytes) : StreamAction
  | .bytes stream =>
      if stream.closed then .error ByteStream.closedFault (.bytes stream)
      else .ok () (.bytes (stream.append data))
  | .text stream => .ok () (.text stream)
  | .scripted stream => stream.perform (.bufferWrite data)

/-- Only streams with a buffer are asked for this. -/
def bufferFlush : StreamAction
  | .bytes stream =>
      if stream.closed then .error ByteStream.closedFault (.bytes stream)
      else .ok () (.bytes stream)
  | .text stream => .ok () (.text stream)
  | .scripted stream => stream.perform .bufferFlush

/-- Closing hands on what the text layer holds; a closed stream stays closed. -/
def close : OutputStream → OutputStream
  | .bytes stream =>
      if stream.closed then .bytes stream else .bytes { stream.flush with closed := true }
  | .text stream => .text { stream with closed := true }
  | .scripted stream => .scripted stream

/-- What is left of an open stream when the process ends: nothing is held back any more. -/
def settled : OutputStream → OutputStream
  | .bytes stream => .bytes (if stream.closed then stream else stream.flush)
  | stream => stream

/-- The bytes to write for a text, made only when the stream is asked to take them. -/
def encoded (text : Text) : EStateM Fault OutputStream Bytes := fun stream =>
  match Utf8.encode text with
  | .ok data => .ok data stream
  | .error fault => .error (.unencodable fault) stream

def deliverBytes (text : Text) : StreamAction := do
  flush
  let data ← encoded text
  bufferWrite data
  bufferFlush

def deliverText (text : Text) : StreamAction := do
  write text
  flush

/-- Writes a text without any change and flushes: as UTF-8 past the text layer where there is a
buffer. -/
def deliver (text : Text) : StreamAction := fun stream =>
  if stream.hasBuffer then deliverBytes text stream else deliverText text stream

end OutputStream

end ScriptFormat
