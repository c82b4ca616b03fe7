import ScriptFormat.Main
import ScriptFormat.Proofs.FileTree.Resolution
import ScriptFormat.Proofs.FileTree.Rewriting
import ScriptFormat.Proofs.Text.Utf8
import ScriptFormat.Proofs.Markup.Escaping
import ScriptFormat.Proofs.Markup.Rendering
import ScriptFormat.Proofs.Console.Reports
import ScriptFormat.Proofs.Run.Yields
import ScriptFormat.Proofs.Program.Course
import ScriptFormat.Proofs.CommandLine.Flags
import ScriptFormat.Proofs.FileTree.TextFiles
import ScriptFormat.Proofs.FileTree.Places
import ScriptFormat.Proofs.FileTree.Opening
import ScriptFormat.Proofs.Program.FileEffect
import ScriptFormat.Proofs.Program.Routes
import ScriptFormat.Proofs.Program.Agreement
import ScriptFormat.Proofs.Program.CheckMode
import ScriptFormat.Proofs.Program.ExitStatus
import ScriptFormat.Proofs.Program.Boundary
import ScriptFormat.Proofs.CommandLine.Spellings
import ScriptFormat.Proofs.CommandLine.Acceptance
import ScriptFormat.Proofs.CommandLine.Requests
import ScriptFormat.Proofs.Program.Acquisition
import ScriptFormat.Proofs.Program.Reading
import ScriptFormat.Proofs.Program.Printing
import ScriptFormat.Proofs.Program.Repetition
import ScriptFormat.Proofs.Text.Strings
import ScriptFormat.Proofs.Source.Decoding
import ScriptFormat.Proofs.Source.Doors
import ScriptFormat.Proofs.Source.Overwriting
import ScriptFormat.Proofs.Source.Rereading
import ScriptFormat.Proofs.Program.Draining
import ScriptFormat.Proofs.CommandLine.Tracing
import ScriptFormat.Proofs.Program.Diagnostics
import ScriptFormat.Proofs.CommandLine.Arrangement
import ScriptFormat.Proofs.Log.Lineage
import ScriptFormat.Proofs.Log.Configured
import ScriptFormat.Proofs.Log.Routing
import ScriptFormat.Proofs.Run.Forgetting
import ScriptFormat.Proofs.Program.History
import ScriptFormat.Proofs.CommandLine.Drafts
import ScriptFormat.Proofs.CommandLine.Sizes
import ScriptFormat.Proofs.Run.Together
import ScriptFormat.Proofs.Program.IdleSize
import ScriptFormat.Proofs.Text.Pieces
import ScriptFormat.Proofs.Text.Tabs
import ScriptFormat.Proofs.Markup.Codes
import ScriptFormat.Proofs.Markup.Showing
import ScriptFormat.Proofs.Markup.Verbatim
import ScriptFormat.Proofs.Program.ErrorText
import ScriptFormat.Proofs.Program.Reporting
import ScriptFormat.Proofs.Source.StreamFaults
import ScriptFormat.Proofs.Formatting.Wrapping
import ScriptFormat.Proofs.CommandLine.Operands
import ScriptFormat.Proofs.Program.SecondOperand
import ScriptFormat.Proofs.Formatting.Suggesting
import ScriptFormat.Proofs.Text.Numerals
import ScriptFormat.Proofs.Text.Occurrences
import ScriptFormat.Proofs.Program.WrittenSize
