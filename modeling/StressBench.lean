import StressBench.CommandLine.Item
import StressBench.CommandLine.Parse
import StressBench.CommandLine.Resolve
import StressBench.Corpus
import StressBench.Disk.Basic
import StressBench.Disk.Files
import StressBench.Disk.Path
import StressBench.Disk.Resolve
import StressBench.Failure
import StressBench.Grammar.Instruction
import StressBench.Grammar.Parse
import StressBench.Harness
import StressBench.Invocation
import StressBench.IoError
import StressBench.Launch
import StressBench.Main
import StressBench.Number.Binary64
import StressBench.Number.Decimal
import StressBench.Number.Duration
import StressBench.Number.Operation
import StressBench.Number.Scientific
import StressBench.Number.Timeout
import StressBench.Program
import StressBench.Proofs.CommandLine.Anchoring
import StressBench.Proofs.CommandLine.Levels
import StressBench.Proofs.CommandLine.Naming
import StressBench.Proofs.CommandLine.NumLines
import StressBench.Proofs.CommandLine.Occurrences
import StressBench.Proofs.CommandLine.Scanning
import StressBench.Proofs.CommandLine.Settings
import StressBench.Proofs.CommandLine.Spelling
import StressBench.Proofs.Corpus.Decoding
import StressBench.Proofs.Corpus.Shape
import StressBench.Proofs.Disk.Joining
import StressBench.Proofs.Disk.Lexical
import StressBench.Proofs.Disk.Links
import StressBench.Proofs.Disk.Naming
import StressBench.Proofs.Disk.Opening
import StressBench.Proofs.Grammar.Faults
import StressBench.Proofs.Grammar.Language
import StressBench.Proofs.Grammar.NormalForm
import StressBench.Proofs.Harness.Agreement
import StressBench.Proofs.Harness.Course
import StressBench.Proofs.Launch.Places
import StressBench.Proofs.Number.Numeral
import StressBench.Proofs.Number.Reading
import StressBench.Proofs.Number.Rounding
import StressBench.Proofs.Number.TimeLimits
import StressBench.Proofs.Number.Written
import StressBench.Proofs.Program.Ending
import StressBench.Proofs.Program.Messages
import StressBench.Proofs.Program.Relaying
import StressBench.Proofs.Random.Blocks
import StressBench.Proofs.Random.Shares
import StressBench.Proofs.Random.Stream
import StressBench.Proofs.Random.Tape
import StressBench.Proofs.Scratch.AllOrNothing
import StressBench.Proofs.Scratch.CleanUp
import StressBench.Proofs.Scratch.Creation
import StressBench.Proofs.Scratch.Deletion
import StressBench.Proofs.Scratch.Sessions
import StressBench.Proofs.Sink.Buffering
import StressBench.Proofs.Sink.Writing
import StressBench.Proofs.Synthesis.Accounting
import StressBench.Proofs.Synthesis.Draws
import StressBench.Proofs.Synthesis.FiniteWords
import StressBench.Proofs.Synthesis.Requests
import StressBench.Proofs.Synthesis.Seeded
import StressBench.Proofs.Synthesis.Sequence
import StressBench.Proofs.Synthesis.Uniformity
import StressBench.Proofs.Text.Breaks
import StressBench.Proofs.Text.Decoding
import StressBench.Proofs.Text.Encoding
import StressBench.Proofs.Text.Splitting
import StressBench.Random.Keystream
import StressBench.Random.Source
import StressBench.Scratch
import StressBench.Scratch.Session
import StressBench.Shell.Action
import StressBench.Shell.Arithmetic
import StressBench.Shell.Builtin.Basic
import StressBench.Shell.Builtin.Directory
import StressBench.Shell.Builtin.Jobs
import StressBench.Shell.Builtin.Meaning
import StressBench.Shell.Builtin.Table
import StressBench.Shell.Builtin.Variables
import StressBench.Shell.Child
import StressBench.Shell.Command
import StressBench.Shell.Cursor
import StressBench.Shell.Edit.Basic
import StressBench.Shell.Edit.Reader
import StressBench.Shell.Edit.Run
import StressBench.Shell.Evaluate
import StressBench.Shell.Expansion
import StressBench.Shell.Field
import StressBench.Shell.Mode
import StressBench.Shell.Pattern
import StressBench.Shell.Process
import StressBench.Shell.Program
import StressBench.Shell.Reader
import StressBench.Shell.Redirection
import StressBench.Shell.Regex.Basic
import StressBench.Shell.Regex.Reader
import StressBench.Shell.Rule.Basic
import StressBench.Shell.Rule.Reader
import StressBench.Shell.Rule.Run
import StressBench.Shell.Rule.State
import StressBench.Shell.Rule.Token
import StressBench.Shell.Rule.Value
import StressBench.Shell.Schedule
import StressBench.Shell.Signal
import StressBench.Shell.Stream
import StressBench.Shell.Tool.Basic
import StressBench.Shell.Tool.Calculation
import StressBench.Shell.Tool.Columns
import StressBench.Shell.Tool.Condition
import StressBench.Shell.Tool.Difference
import StressBench.Shell.Tool.Digest
import StressBench.Shell.Tool.Division
import StressBench.Shell.Tool.Dump
import StressBench.Shell.Tool.Editing
import StressBench.Shell.Tool.Entries
import StressBench.Shell.Tool.Finding
import StressBench.Shell.Tool.Listing
import StressBench.Shell.Tool.Names
import StressBench.Shell.Tool.Numeral
import StressBench.Shell.Tool.Options
import StressBench.Shell.Tool.Printing
import StressBench.Shell.Tool.Reading
import StressBench.Shell.Tool.Reporting
import StressBench.Shell.Tool.Search
import StressBench.Shell.Tool.Sequence
import StressBench.Shell.Tool.Sorting
import StressBench.Shell.Tool.Standard
import StressBench.Shell.Tool.Starting
import StressBench.Shell.Tool.Translation
import StressBench.Shell.Variable
import StressBench.Sink
import StressBench.Synthesis
import StressBench.Synthesis.Requests
import StressBench.Text.Basic
import StressBench.Text.Terminal
import StressBench.Text.Utf8
