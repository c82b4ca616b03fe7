import ScriptFormat.Fault
import ScriptFormat.Text.Utf8

/-!
# Input streams

A stream to read source from: bytes, a text, one whose reading fails, or none at
all. Apart from that, it may answer whether it is attached to a terminal.
-/

namespace ScriptFormat

inductive InputContent where
  | bytes (data : Bytes)
  | text (data : Text)
  | failing (fault : Fault)
  | absent

/-- What a stream does when asked whether it is a terminal; a silent one cannot be asked. -/
inductive Terminal where
  | silent
  | answers (attached : Bool)
  | fails (fault : Fault)

structure InputStream where
  content : InputContent
  closed : Bool := false
  terminal : Terminal := .answers false

namespace InputStream

def closedFault : InputContent → Fault
  | .bytes _ => .ofValue "I/O operation on closed file."
  | _ => .ofValue "I/O operation on closed file"

/-- A stream of the given content, which answers for itself that it is no terminal. -/
def ofContent (content : InputContent) (closed : Bool) : InputStream :=
  { content, closed, terminal := if closed then .fails (closedFault content) else .answers false }

def absent : InputStream := { content := .absent, terminal := .silent }

/-- Reads to the end of the stream. Bytes are used up even where they are no UTF-8. -/
def readAll (stream : InputStream) : Except Fault Text × InputStream :=
  match stream.content with
  | .absent => (.error (.ofAttribute "'NoneType' object has no attribute 'read'"), stream)
  | .failing fault => (.error fault, stream)
  | .bytes data =>
      if stream.closed then (.error (closedFault stream.content), stream)
      else
        let left := { stream with content := .bytes [] }
        match Utf8.decode data with
        | .ok text => (.ok text, left)
        | .error fault => (.error (.undecodable fault), left)
  | .text data =>
      if stream.closed then (.error (closedFault stream.content), stream)
      else (.ok data, { stream with content := .text [] })

/-- Whether someone sits at the stream; a stream that is closed answers with a fault of a value. -/
def isInteractive (stream : InputStream) : Except Fault Bool :=
  match stream.terminal with
  | .silent => .ok false
  | .answers attached => .ok attached
  | .fails fault => if fault.isValue then .ok false else .error fault

end InputStream

end ScriptFormat
