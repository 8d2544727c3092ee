import ApiSurface.Action
import ApiSurface.Archive.Basic
import ApiSurface.Archive.Deflate
import ApiSurface.Archive.Layout
import ApiSurface.Digest.Crc32
import ApiSurface.Digest.Sha256
import ApiSurface.Disassembly.Chunk
import ApiSurface.Disassembly.Declaration
import ApiSurface.Disassembly.Disassembler
import ApiSurface.Disassembly.Entry
import ApiSurface.Disassembly.Javap
import ApiSurface.Disassembly.Recorded
import ApiSurface.Environment
import ApiSurface.Failure
import ApiSurface.Files.FileSystem
import ApiSurface.Files.Folder
import ApiSurface.Files.Path
import ApiSurface.Host.Format
import ApiSurface.Host.Invocation
import ApiSurface.Host.Machine
import ApiSurface.Host.Refusal
import ApiSurface.Host.Signal
import ApiSurface.Log.Event
import ApiSurface.Log.Filter
import ApiSurface.Log.Line
import ApiSurface.Main
import ApiSurface.Proofs.Action
import ApiSurface.Proofs.Disassembly.Concatenation
import ApiSurface.Proofs.Files.Kind
import ApiSurface.Proofs.Files.Lookup
import ApiSurface.Proofs.Files.Operation
import ApiSurface.Proofs.Files.Overlay
import ApiSurface.Proofs.Files.Trail
import ApiSurface.Proofs.Run.Batches
import ApiSurface.Proofs.Snapshot.CompareRun
import ApiSurface.Proofs.Snapshot.Comparison
import ApiSurface.Proofs.Snapshot.Drift
import ApiSurface.Proofs.Snapshot.Generation
import ApiSurface.Proofs.Snapshot.Grouping
import ApiSurface.Proofs.Snapshot.Layout
import ApiSurface.Proofs.Snapshot.Openness
import ApiSurface.Proofs.Snapshot.Regular
import ApiSurface.Proofs.Snapshot.RoundTrip
import ApiSurface.Proofs.Snapshot.StaleNames
import ApiSurface.Proofs.Snapshot.Uniqueness
import ApiSurface.Proofs.Snapshot.Vacancy
import ApiSurface.Proofs.Snapshot.Verdict
import ApiSurface.Proofs.Text.Blank
import ApiSurface.Proofs.Text.Lines
import ApiSurface.Proofs.Text.Utf8
import ApiSurface.Run.CommandLine
import ApiSurface.Run.Config
import ApiSurface.Run.Extraction
import ApiSurface.Run.Library
import ApiSurface.Run.Program
import ApiSurface.Script.Arithmetic
import ApiSurface.Script.Builtin.Basic
import ApiSurface.Script.Builtin.Control
import ApiSurface.Script.Builtin.Jobs
import ApiSurface.Script.Builtin.Variables
import ApiSurface.Script.ByteText
import ApiSurface.Script.Condition
import ApiSurface.Script.Escape
import ApiSurface.Script.Evaluation
import ApiSurface.Script.Expansion
import ApiSurface.Script.Field
import ApiSurface.Script.FileNames
import ApiSurface.Script.Formatting
import ApiSurface.Script.Grammar
import ApiSurface.Script.Interpreter
import ApiSurface.Script.Launching
import ApiSurface.Script.NumberFormat
import ApiSurface.Script.Pattern
import ApiSurface.Script.Reader
import ApiSurface.Script.Redirecting
import ApiSurface.Script.Scanning
import ApiSurface.Script.Search
import ApiSurface.Script.Session
import ApiSurface.Script.Startup
import ApiSurface.Script.Subshell
import ApiSurface.Script.Syntax
import ApiSurface.Script.Tokens
import ApiSurface.Snapshot.Mismatch
import ApiSurface.Snapshot.PackageMap
import ApiSurface.Snapshot.Reconcile
import ApiSurface.Text.Basic
import ApiSurface.Text.Blank
import ApiSurface.Text.CodePage437
import ApiSurface.Text.Hex
import ApiSurface.Text.Hidden
import ApiSurface.Text.Letter
import ApiSurface.Text.Line
import ApiSurface.Text.Quoted
import ApiSurface.Text.Utf8
import ApiSurface.Tool.Basic
import ApiSurface.Tool.Environment
import ApiSurface.Tool.Expr
import ApiSurface.Tool.Files
import ApiSurface.Tool.Grep
import ApiSurface.Tool.Lines
import ApiSurface.Tool.Plain
import ApiSurface.Tool.Regex
import ApiSurface.Tool.Sed
import ApiSurface.Tool.Table
import ApiSurface.Proofs.Effect
import ApiSurface.Proofs.Files.Alteration
import ApiSurface.Proofs.Snapshot.Alteration
import ApiSurface.Proofs.Snapshot.Progress
import ApiSurface.Proofs.Archive.QualifiedName
import ApiSurface.Proofs.Disassembly.ClassText
import ApiSurface.Proofs.Run.ClassFiles
import ApiSurface.Proofs.Snapshot.Confinement
import ApiSurface.Proofs.Snapshot.Repetition
import ApiSurface.Proofs.Snapshot.Conflict
import ApiSurface.Proofs.Files.Removal
import ApiSurface.Proofs.Files.Beside
import ApiSurface.Proofs.Correspondence
import ApiSurface.Proofs.Snapshot.Lockstep
import ApiSurface.Proofs.Run.Calls
import ApiSurface.Proofs.Run.Interruption
import ApiSurface.Proofs.Run.InnerJar
import ApiSurface.Proofs.Disassembly.Partition
import ApiSurface.Proofs.Disassembly.Rendering
import ApiSurface.Proofs.Run.Reading
import ApiSurface.Proofs.Snapshot.Collision
import ApiSurface.Proofs.Disassembly.Grammar
import ApiSurface.Proofs.Disassembly.Reprinting
import ApiSurface.Proofs.Text.Words
import ApiSurface.Proofs.Text.LineEnds
import ApiSurface.Proofs.Run.LineEnds
import ApiSurface.Proofs.Snapshot.StableOrder
import ApiSurface.Proofs.Files.Restoring
import ApiSurface.Proofs.Snapshot.Idempotence
import ApiSurface.Proofs.Snapshot.GeneratedTree
import ApiSurface.Proofs.Snapshot.ContentMismatch
import ApiSurface.Proofs.Snapshot.Rearrangement
import ApiSurface.Proofs.Snapshot.Report
import ApiSurface.Proofs.Archive.Listing
import ApiSurface.Proofs.Disassembly.Beginnings
import ApiSurface.Proofs.Run.BatchSize
import ApiSurface.Proofs.Run.Exchanges
import ApiSurface.Proofs.Text.Trim
