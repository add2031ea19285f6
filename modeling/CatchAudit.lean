import CatchAudit.Analysis.Closure
import CatchAudit.Analysis.Kinds
import CatchAudit.Analysis.SelfAssignment
import CatchAudit.Analysis.Unhandled
import CatchAudit.Analysis.Usage
import CatchAudit.Check
import CatchAudit.CommandLine.Arguments
import CatchAudit.CommandLine.Command
import CatchAudit.CommandLine.Session
import CatchAudit.Document.Access
import CatchAudit.Document.Basic
import CatchAudit.Document.Display
import CatchAudit.Document.Moment
import CatchAudit.Dump.Build
import CatchAudit.Dump.Load
import CatchAudit.Dump.Resolve
import CatchAudit.Exclusion.Discovery
import CatchAudit.Exclusion.Excluder
import CatchAudit.Exclusion.Line
import CatchAudit.Exclusion.Rule
import CatchAudit.Failure
import CatchAudit.Fault
import CatchAudit.Files.FileSystem
import CatchAudit.Files.FileTree
import CatchAudit.Files.Glob
import CatchAudit.Files.Path
import CatchAudit.Json.Reader
import CatchAudit.Json.Writer
import CatchAudit.Libraries
import CatchAudit.Log
import CatchAudit.Main
import CatchAudit.Message
import CatchAudit.Number.Binary64
import CatchAudit.Number.Shortest
import CatchAudit.Output.Compact
import CatchAudit.Output.Console
import CatchAudit.Output.EmojiCode
import CatchAudit.Output.Markup
import CatchAudit.Output.Outline
import CatchAudit.Output.ResultsTree
import CatchAudit.Output.Style
import CatchAudit.Output.Table
import CatchAudit.Output.Wrap
import CatchAudit.Pattern.Basic
import CatchAudit.Pattern.CharTest
import CatchAudit.Pattern.Error
import CatchAudit.Pattern.Reader
import CatchAudit.Pattern.Search
import CatchAudit.Pattern.Step
import CatchAudit.Proofs.Analysis.Completion
import CatchAudit.Proofs.Analysis.Discarded
import CatchAudit.Proofs.Analysis.Enclosure
import CatchAudit.Proofs.Analysis.Escape
import CatchAudit.Proofs.Analysis.FunctionBoundary
import CatchAudit.Proofs.Analysis.Likeness
import CatchAudit.Proofs.Analysis.LoopTarget
import CatchAudit.Proofs.Analysis.Outwards
import CatchAudit.Proofs.Analysis.Segments
import CatchAudit.Proofs.Check.Isolation
import CatchAudit.Proofs.Check.Reports
import CatchAudit.Proofs.CommandLine.ExitCode
import CatchAudit.Proofs.CommandLine.Setup
import CatchAudit.Proofs.CommandLine.Stages
import CatchAudit.Proofs.Document.Key
import CatchAudit.Proofs.Document.Members
import CatchAudit.Proofs.Document.Move
import CatchAudit.Proofs.Document.Offsets
import CatchAudit.Proofs.Document.Reorder
import CatchAudit.Proofs.Document.Role
import CatchAudit.Proofs.Dump.Account
import CatchAudit.Proofs.Dump.Entries
import CatchAudit.Proofs.Dump.Links
import CatchAudit.Proofs.Dump.Lookup
import CatchAudit.Proofs.Dump.Move
import CatchAudit.Proofs.Dump.Plain
import CatchAudit.Proofs.Dump.Rejection
import CatchAudit.Proofs.Dump.Reorder
import CatchAudit.Proofs.Dump.Shorthand
import CatchAudit.Proofs.Dump.Simulation
import CatchAudit.Proofs.Dump.Worklist
import CatchAudit.Proofs.Exclusion.Directories
import CatchAudit.Proofs.Exclusion.Found
import CatchAudit.Proofs.Exclusion.Names
import CatchAudit.Proofs.Exclusion.ProjectFile
import CatchAudit.Proofs.Exclusion.Spelling
import CatchAudit.Proofs.Exclusion.Verdict
import CatchAudit.Proofs.Files.Below
import CatchAudit.Proofs.Files.Reasons
import CatchAudit.Proofs.Files.WellFormed
import CatchAudit.Proofs.Json.Names
import CatchAudit.Proofs.Outcome
import CatchAudit.Proofs.Output.Agreement
import CatchAudit.Proofs.Output.Grouping
import CatchAudit.Proofs.Output.Listings
import CatchAudit.Proofs.Pattern.Reading
import CatchAudit.Proofs.Pattern.Rows
import CatchAudit.Proofs.Pattern.Running
import CatchAudit.Proofs.Report.Order
import CatchAudit.Proofs.Rule.Completion
import CatchAudit.Proofs.Rule.Diagnostics
import CatchAudit.Proofs.Rule.Findings
import CatchAudit.Proofs.Rule.Likeness
import CatchAudit.Proofs.Rule.Message
import CatchAudit.Proofs.Rule.Registration
import CatchAudit.Proofs.Scope.Construction
import CatchAudit.Proofs.Scope.Preorder
import CatchAudit.Proofs.Settings.Rejection
import CatchAudit.Proofs.Sorting.Permutation
import CatchAudit.Proofs.StackWalk
import CatchAudit.Proofs.Syntax.Ancestry
import CatchAudit.Proofs.Syntax.Build
import CatchAudit.Proofs.Syntax.Distinct
import CatchAudit.Proofs.Syntax.Linking
import CatchAudit.Proofs.Syntax.Move
import CatchAudit.Proofs.Syntax.Preorder
import CatchAudit.Proofs.Syntax.Reach
import CatchAudit.Proofs.Syntax.Reorder
import CatchAudit.Report.Diagnostic
import CatchAudit.Report.Results
import CatchAudit.Rule.Basic
import CatchAudit.Rule.Registry
import CatchAudit.Rule.UnhandledCatch
import CatchAudit.Scope.Forest
import CatchAudit.Scope.Kind
import CatchAudit.Settings.Error
import CatchAudit.Settings.Load
import CatchAudit.Settings.Options
import CatchAudit.Severity
import CatchAudit.Sorting.Basic
import CatchAudit.Sorting.Merge
import CatchAudit.Sorting.Place
import CatchAudit.Sorting.Run
import CatchAudit.Syntax.Build
import CatchAudit.Syntax.Display
import CatchAudit.Syntax.Node
import CatchAudit.Syntax.Place
import CatchAudit.Text.Blank
import CatchAudit.Text.Casing
import CatchAudit.Text.CellWidth
import CatchAudit.Text.CharRange
import CatchAudit.Text.CharacterName
import CatchAudit.Text.CharacterName.Aliases
import CatchAudit.Text.CharacterName.Alphabets
import CatchAudit.Text.CharacterName.Ancient
import CatchAudit.Text.CharacterName.Pictures
import CatchAudit.Text.CharacterName.Signs
import CatchAudit.Text.CharacterName.Syllables
import CatchAudit.Text.EmojiName
import CatchAudit.Text.EmojiName.Flags
import CatchAudit.Text.EmojiName.People
import CatchAudit.Text.EmojiName.Pictures
import CatchAudit.Text.EmojiName.Symbols
import CatchAudit.Text.Identifier
import CatchAudit.Text.Integer
import CatchAudit.Text.Ordered
import CatchAudit.Text.Printable
import CatchAudit.Text.Quoted
import CatchAudit.Text.Utf8
import CatchAudit.Text.Word
import CatchAudit.Toml.Reader
import CatchAudit.Toml.Table
