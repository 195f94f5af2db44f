import LineShell.Arguments
import LineShell.Bindings
import LineShell.Builtin.Alias
import LineShell.Builtin.Basic
import LineShell.Builtin.Directory
import LineShell.Builtin.Exit
import LineShell.Builtin.Recall
import LineShell.Builtin.Table
import LineShell.Builtin.Variables
import LineShell.Entries
import LineShell.Expansion
import LineShell.External
import LineShell.Failure
import LineShell.History
import LineShell.Host.Access
import LineShell.Host.Activity
import LineShell.Host.Bare
import LineShell.Host.Basic
import LineShell.Host.Calendar
import LineShell.Host.Call
import LineShell.Host.Errno
import LineShell.Host.FileSystem
import LineShell.Host.Lookup
import LineShell.Host.Mode
import LineShell.Host.Number.Directive
import LineShell.Host.Number.Quantity
import LineShell.Host.Path
import LineShell.Host.Process
import LineShell.Host.ProcessFiles
import LineShell.Host.Regex.Basic
import LineShell.Host.Regex.Parser
import LineShell.Host.Schedule
import LineShell.Host.Script.Arithmetic
import LineShell.Host.Script.Builtin.Basic
import LineShell.Host.Script.Builtin.Control
import LineShell.Host.Script.Builtin.Input
import LineShell.Host.Script.Builtin.Jobs
import LineShell.Host.Script.Builtin.Limits
import LineShell.Host.Script.Builtin.Place
import LineShell.Host.Script.Builtin.Variables
import LineShell.Host.Script.Condition
import LineShell.Host.Script.Expansion
import LineShell.Host.Script.Fields
import LineShell.Host.Script.Format
import LineShell.Host.Script.Invocation
import LineShell.Host.Script.Machine
import LineShell.Host.Script.Parser
import LineShell.Host.Script.Pattern
import LineShell.Host.Script.Redirect
import LineShell.Host.Script.Runner.Basic
import LineShell.Host.Script.Runner.Compound
import LineShell.Host.Script.Runner.Kind
import LineShell.Host.Script.Runner.Own
import LineShell.Host.Script.Runner.Process
import LineShell.Host.Script.Runner.Program
import LineShell.Host.Script.Runner.Simple
import LineShell.Host.Script.Scan
import LineShell.Host.Script.Source
import LineShell.Host.Script.Syntax
import LineShell.Host.Script.Tokens
import LineShell.Host.Signal
import LineShell.Host.Spawn
import LineShell.Host.Start
import LineShell.Host.Stream
import LineShell.Host.System
import LineShell.Host.Typing
import LineShell.Host.Utility.Attributes
import LineShell.Host.Utility.Backup
import LineShell.Host.Utility.Basic
import LineShell.Host.Utility.Calculation
import LineShell.Host.Utility.Characters
import LineShell.Host.Utility.Columns
import LineShell.Host.Utility.Concatenate
import LineShell.Host.Utility.Copies
import LineShell.Host.Utility.Counting
import LineShell.Host.Utility.DateText
import LineShell.Host.Utility.Dates
import LineShell.Host.Utility.Directories
import LineShell.Host.Utility.Fields
import LineShell.Host.Utility.Joining
import LineShell.Host.Utility.List
import LineShell.Host.Utility.Parts
import LineShell.Host.Utility.Printing
import LineShell.Host.Utility.Questions
import LineShell.Host.Utility.Quoting
import LineShell.Host.Utility.Removal
import LineShell.Host.Utility.Running
import LineShell.Host.Utility.Searching
import LineShell.Host.Utility.Sequence
import LineShell.Host.Utility.Sorting
import LineShell.Host.Utility.Spacing
import LineShell.Host.Utility.Table
import LineShell.Host.Utility.Version
import LineShell.Host.Utility.Words
import LineShell.Intake
import LineShell.Interpreter
import LineShell.Launch
import LineShell.LogSpec
import LineShell.Main
import LineShell.Probe
import LineShell.Proofs.Aliases
import LineShell.Proofs.AndOrList
import LineShell.Proofs.Arguments
import LineShell.Proofs.Bindings
import LineShell.Proofs.Canonical
import LineShell.Proofs.Changes
import LineShell.Proofs.Coherence
import LineShell.Proofs.Comments
import LineShell.Proofs.Cutting
import LineShell.Proofs.Decoding
import LineShell.Proofs.Diagnostics
import LineShell.Proofs.Dollars
import LineShell.Proofs.Edits
import LineShell.Proofs.ExitStatus
import LineShell.Proofs.Expansion
import LineShell.Proofs.Grouping
import LineShell.Proofs.HistoryFile
import LineShell.Proofs.Independence
import LineShell.Proofs.Keys
import LineShell.Proofs.Lines
import LineShell.Proofs.LostDiagnostics
import LineShell.Proofs.Moves
import LineShell.Proofs.Offsets
import LineShell.Proofs.Operands
import LineShell.Proofs.Paths
import LineShell.Proofs.Quoting
import LineShell.Proofs.Record
import LineShell.Proofs.Rejections
import LineShell.Proofs.Requests
import LineShell.Proofs.Restart
import LineShell.Proofs.Retention
import LineShell.Proofs.Runs
import LineShell.Proofs.Scope
import LineShell.Proofs.SearchPath
import LineShell.Proofs.Segments
import LineShell.Proofs.SingleLine
import LineShell.Proofs.Stopping
import LineShell.Proofs.Storage
import LineShell.Proofs.Streams
import LineShell.Proofs.TextLines
import LineShell.Proofs.Trimming
import LineShell.Proofs.Variables
import LineShell.Proofs.Words
import LineShell.Reader
import LineShell.Segment
import LineShell.Session
import LineShell.Shell
import LineShell.Status
import LineShell.Streams
import LineShell.Synopsis
import LineShell.Terminal
import LineShell.Text.Basic
import LineShell.Text.Grapheme
import LineShell.Text.Grapheme.Ranges
import LineShell.Text.Octets
import LineShell.Text.Space
import LineShell.Text.Utf8
import LineShell.Text.Utf8.Ascii
import LineShell.Text.Utf8.RoundTrip
import LineShell.Word
