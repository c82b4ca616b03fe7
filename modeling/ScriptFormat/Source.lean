import ScriptFormat.World

/-!
# Reading and writing source

Source comes from a file or a stream and goes to one, always as UTF-8 and
without any change of line ends. Faults of the system and of codecs become typed
errors.
-/

namespace ScriptFormat

namespace FileTree

/-- The text of the file that a path leads to. -/
def readText (tree : FileTree) (path : Path) : Except Fault Text :=
  match tree.read path.route with
  | .error fault => .error fault
  | .ok bytes =>
      match Utf8.decode bytes with
      | .ok text => .ok text
      | .error fault => .error (.undecodable fault)

/-- Replaces the content of a file. The file is emptied before the text is encoded. -/
def writeText (tree : FileTree) (path : Path) (text : Text) : Except Fault Unit × FileTree :=
  match tree.writable path.route with
  | .error fault => (.error fault, tree)
  | .ok place =>
      match Utf8.encode text with
      | .ok bytes => (.ok (), tree.set place (.file bytes))
      | .error fault => (.error (.unencodable fault), tree.set place (.file []))

end FileTree

namespace Source

def logger : Text := "gdfmt.infra.source_io"

/-- Files are read and written under this guard. -/
def isFileFault (fault : Fault) : Bool :=
  fault.isSystem || match fault with
    | .undecodable _ => true
    | .unencodable _ => true
    | _ => false

/-- Streams are read and written under this one, as a closed stream fails by a value. -/
def isStreamFault (fault : Fault) : Bool := fault.isSystem || fault.isValue

/-- Makes a guarded fault a typed error, and leaves any other alone. -/
def mapped (guarded : Fault → Bool) (kind : ErrorKind) (message : Text) (fault : Fault) : Raised :=
  if guarded fault then .from kind (message ++ ": " ++ fault.describe) fault else { fault }

def countOf (text : Text) : Text := Text.ofNat text.length ++ " characters"

def readPath (path : Path) : Run Text := do
  match (← get).tree.readText path with
  | .ok text =>
      Run.debug logger ("Read " ++ countOf text ++ " from " ++ path.text)
      return text
  | .error fault =>
      throw (mapped isFileFault .sourceRead ("Failed to read file " ++ path.text) fault)

def readStream : Run Text := do
  let (result, input) := (← get).input.readAll
  modify fun world => { world with input }
  match result with
  | .ok text =>
      Run.debug logger ("Read " ++ countOf text ++ " from stdin")
      return text
  | .error fault => throw (mapped isStreamFault .sourceRead "Failed to read from stdin" fault)

def writeStream (text : Text) : Run Unit := fun world =>
  match world.output.deliver text with
  | .ok () output => .ok () { world with output }
  | .error fault output =>
      .error (mapped isStreamFault .outputWrite "Failed to write to stdout" fault)
        { world with output }

def writePath (path : Path) (text : Text) : Run Unit := do
  let (result, tree) := (← get).tree.writeText path text
  modify fun world => { world with tree }
  match result with
  | .ok () => Run.debug logger ("Wrote " ++ countOf text ++ " to " ++ path.text)
  | .error fault =>
      throw (mapped isFileFault .outputWrite ("Failed to write to file " ++ path.text) fault)

end Source

end ScriptFormat
