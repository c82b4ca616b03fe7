import ScriptFormat.Program
import Std.Time

/-!
# The command

The command reads its operand and its input, runs the program on them, and puts
what has changed into effect. A file that cannot be read for a reason of its own,
such as missing permission, counts as missing.
-/

namespace ScriptFormat.Command

def stringOf (text : Text) : String := String.ofList (text.map fun point => Char.ofNat point.val)

/-- The places that the parts of a path lead through, the last one in front. -/
def placesOf (path : Path) : List Place :=
  path.parts.foldl (fun places part =>
    let place := places.headD []
    (if part = Path.up then place.tail else part :: place) :: places) []

/-- A tree that holds no more than the way to a path. -/
def treeOf (path : Path) (node : Option Node) : FileTree :=
  let places := placesOf path
  let directories := places.tail.map fun place => (place, Node.directory)
  { start := []
    entries := match node with
      | some node => (places.headD [], node) :: directories
      | none => directories }

/-- Where a part of the way is a file, the tree has a file there. -/
def blocked (path : Path) : FileTree :=
  match placesOf path with
  | _ :: parent :: _ => (treeOf path none).set parent (.file [])
  | _ => treeOf path none

def directoryCode : UInt32 := 21

def snapshot (path : Path) : IO FileTree := do
  match ← (IO.FS.readBinFile (stringOf path.text)).toBaseIO with
  | .ok content => return treeOf path (some (.file content.toList))
  | .error (.inappropriateType _ code _) =>
      return if code = directoryCode then treeOf path (some .directory) else blocked path
  | .error (.invalidArgument ..) => return treeOf path (some (.link (path.parts.getLastD [])))
  | .error _ => return treeOf path none

partial def drain (stream : IO.FS.Stream) (read : ByteArray) : IO ByteArray := do
  let chunk ← stream.read 65536
  if chunk.isEmpty then return read else drain stream (read ++ chunk)

/-- Input is read only where the run will ask for it. -/
def inputFor (arguments : List Text) : IO InputStream := do
  let stdin ← IO.getStdin
  let attached ← stdin.isTty
  let terminal := Terminal.answers attached
  let wanted := match CommandLine.parse arguments with
    | .ok invocation => !invocation.hasFile && !(arguments.isEmpty && attached)
    | .error _ => false
  let data ← if wanted then drain stdin .empty else pure .empty
  return { content := .bytes data.toList, terminal }

def treeFor (arguments : List Text) : IO FileTree := do
  match CommandLine.parse arguments with
  | .ok { input := some path, .. } => snapshot path
  | _ => return { start := [], entries := [] }

def columns : IO Nat := do
  let claimed := ((← IO.getEnv "COLUMNS").bind String.toInt?).getD 0
  return CommandLine.Layout.columnsOf claimed

def clock : IO Text := do
  let now ← Std.Time.PlainDateTime.now
  return Text.ofString (now.format "uuuu-MM-dd HH:mm:ss,SSS")

def worldFor (arguments : List Text) : IO World := do
  return {
    tree := ← treeFor arguments
    input := ← inputFor arguments
    output := .bytes {}
    clock := ← clock
    columns := ← columns
    console := .plain }

/-- Writes the operand's file if the run has changed it. -/
def keepFile (arguments : List Text) (before after : FileTree) : IO Unit := do
  match CommandLine.parse arguments with
  | .ok { input := some path, .. } =>
      match after.read path.route with
      | .ok content =>
          let unchanged := match before.read path.route with
            | .ok old => old == content
            | .error _ => false
          unless unchanged do
            IO.FS.writeBinFile (stringOf path.text) (ByteArray.mk content.toArray)
      | .error _ => return
  | _ => return

def showOutput (output : OutputStream) : IO Unit := do
  match output.settled with
  | .bytes stream =>
      let stdout ← IO.getStdout
      stdout.write (ByteArray.mk stream.written.toArray)
      stdout.flush
  | _ => return

end ScriptFormat.Command

open ScriptFormat Command in
def main (arguments : List String) : IO UInt32 := do
  let arguments := arguments.map Text.ofString
  let before ← worldFor arguments
  let (status, after) := match Program.cli (.toolkit Toolkit.absent) arguments before with
    | .ok status after => (status.number?.getD ExitStatus.generalError, after)
    | .error _ after => (ExitStatus.unexpectedError, after)
  keepFile arguments before.tree after.tree
  showOutput after.output
  IO.eprint (stringOf after.errors)
  return status.toNat.toUInt32
